import EventRelay.Proofs.Json.Passing

/-!
The tree of a text: its lists and objects with all members as they stand, repeated ones and those that no
reader wants included. Whatever can be passed over has a tree, and what a text means goes by its tree.
-/
namespace EventRelay.Json

/-- What a text writes, before anything is made of it. A number or a string is missing if it cannot be
    read, though its form is right. -/
inductive Parse
  | null
  | bool (value : Bool)
  | number (value : Option Number)
  | string (value : Option String)
  | array (items : List Parse)
  | object (members : List (Option String × Parse))

namespace Parse

def ofScalar (b : UInt8) (rest : Octets) : Parse :=
  if b = 0x6e then .null
  else if b = 0x74 then .bool true
  else if b = 0x66 then .bool false
  else if b = Octet.quote then .string ((readString rest).toOption.map (·.1))
  else .number ((readNumber (b :: rest)).toOption.map (·.1))

def start? (first : Bool) (b : UInt8) (rest : Octets) : Option Octets :=
  if first then some (b :: rest) else if b = Octet.comma then some rest else none

def keyAt (bytes : Octets) : Except Fault (Option String × Octets) := do
  let rest ← skipKey bytes
  return ((readString (skipBlanks bytes).tail).toOption.map (·.1), rest)

mutual

def valueAt : Nat → Octets → Except Fault (Parse × Octets)
  | 0, _ => .error .valueCutShort
  | fuel + 1, bytes =>
    match skipBlanks bytes with
    | [] => .error .valueCutShort
    | b :: rest =>
      if b = Octet.openBracket then do
        let (items, rest) ← itemsAt fuel true rest
        return (.array items, rest)
      else if b = Octet.openBrace then do
        let (members, rest) ← membersAt fuel true rest
        return (.object members, rest)
      else do return (ofScalar b rest, ← skipScalar b rest)

def itemsAt : Nat → Bool → Octets → Except Fault (List Parse × Octets)
  | 0, _, _ => .error .listCutShort
  | fuel + 1, first, bytes =>
    match skipBlanks bytes with
    | [] => .error .listCutShort
    | b :: rest =>
      if b = Octet.closeBracket then .ok ([], rest)
      else
        match start? first b rest with
        | none => .error .expectedCommaOrBracket
        | some start => do
          let (item, rest) ← valueAt fuel start
          let (items, rest) ← itemsAt fuel false rest
          return (item :: items, rest)

def membersAt : Nat → Bool → Octets → Except Fault (List (Option String × Parse) × Octets)
  | 0, _, _ => .error .objectCutShort
  | fuel + 1, first, bytes =>
    match skipBlanks bytes with
    | [] => .error .objectCutShort
    | b :: rest =>
      if b = Octet.closeBrace then .ok ([], rest)
      else
        match start? first b rest with
        | none => .error .expectedCommaOrBrace
        | some start => do
          let (key, rest) ← keyAt start
          let (value, rest) ← valueAt fuel rest
          let (members, rest) ← membersAt fuel false rest
          return ((key, value) :: members, rest)

end

def decode (bytes : Octets) : Except Fault Parse := do
  let (tree, rest) ← valueAt (2 * bytes.length + 1) bytes
  endOfText rest
  return tree

section Steps

variable {α : Type} {items items' : Octets → List Parse → Octets → Prop}
  {members members' : Octets → List (Option String × Parse) → Octets → Prop}
  {entry entry' : Octets → α → Octets → Prop} {others others' : Octets → List α → Octets → Prop}
  {close : UInt8} {first : Bool} {fuel : Nat} {bytes rest : Octets} {tree : Parse} {list : List α}

inductive ValueStep (items : Octets → List Parse → Octets → Prop)
    (members : Octets → List (Option String × Parse) → Octets → Prop) (bytes : Octets) :
    Parse → Octets → Prop
  | array {behind rest : Octets} {list : List Parse}
      (front : skipBlanks bytes = Octet.openBracket :: behind) (inside : items behind list rest) :
      ValueStep items members bytes (.array list) rest
  | object {behind rest : Octets} {list : List (Option String × Parse)}
      (front : skipBlanks bytes = Octet.openBrace :: behind) (inside : members behind list rest) :
      ValueStep items members bytes (.object list) rest
  | scalar {b : UInt8} {behind rest : Octets} (front : skipBlanks bytes = b :: behind)
      (list : b ≠ Octet.openBracket) (object : b ≠ Octet.openBrace)
      (passed : skipScalar b behind = .ok rest) :
      ValueStep items members bytes (ofScalar b behind) rest

def Starts (close : UInt8) (first : Bool) (bytes start : Octets) : Prop :=
  ∃ b behind, skipBlanks bytes = b :: behind ∧ b ≠ close ∧ start? first b behind = some start

/-- A sequence ends with its closing octet, or goes on with an entry and the others. -/
inductive SequenceStep (close : UInt8) (entry : Octets → α → Octets → Prop)
    (others : Octets → List α → Octets → Prop) (first : Bool) (bytes : Octets) :
    List α → Octets → Prop
  | done {rest : Octets} (front : skipBlanks bytes = close :: rest) :
      SequenceStep close entry others first bytes [] rest
  | next {start left rest : Octets} {x : α} {list : List α} (starts : Starts close first bytes start)
      (here : entry start x left) (there : others left list rest) :
      SequenceStep close entry others first bytes (x :: list) rest

def Member (value : Octets → Parse → Octets → Prop) (bytes : Octets) (member : Option String × Parse)
    (rest : Octets) : Prop :=
  ∃ behind, keyAt bytes = .ok (member.1, behind) ∧ value behind member.2 rest

theorem valueAt_succ : valueAt (fuel + 1) bytes = .ok (tree, rest) ↔
    ValueStep (fun bytes list rest => itemsAt fuel true bytes = .ok (list, rest))
      (fun bytes list rest => membersAt fuel true bytes = .ok (list, rest)) bytes tree rest := by
  constructor
  · intro read
    rw [valueAt] at read
    split at read
    · cases read
    rename_i b behind front
    split at read
    · rename_i list
      obtain ⟨⟨items, left⟩, inside, same⟩ := bind_eq_ok_iff.mp read
      cases same
      exact .array (list ▸ front) inside
    rename_i list
    split at read
    · rename_i object
      obtain ⟨⟨members, left⟩, inside, same⟩ := bind_eq_ok_iff.mp read
      cases same
      exact .object (object ▸ front) inside
    · rename_i object
      obtain ⟨left, passed, same⟩ := bind_eq_ok_iff.mp read
      cases same
      exact .scalar front list object passed
  · intro step
    rw [valueAt]
    cases step with
    | array front inside =>
      simp only [front, if_true, inside, ok_bind]
      rfl
    | object front inside =>
      have object : Octet.openBrace ≠ Octet.openBracket := by decide
      simp only [front, if_neg object, if_true, inside, ok_bind]
      rfl
    | scalar front list object passed =>
      simp only [front, if_neg list, if_neg object, passed, ok_bind]
      rfl

theorem itemsAt_succ {list : List Parse} : itemsAt (fuel + 1) first bytes = .ok (list, rest) ↔
    SequenceStep Octet.closeBracket (fun bytes x rest => valueAt fuel bytes = .ok (x, rest))
      (fun bytes list rest => itemsAt fuel false bytes = .ok (list, rest)) first bytes list rest := by
  constructor
  · intro read
    rw [itemsAt] at read
    split at read
    · cases read
    rename_i b behind front
    split at read
    · rename_i closed
      cases read
      exact .done (closed ▸ front)
    rename_i more
    split at read
    · cases read
    · rename_i start starts
      obtain ⟨⟨x, left⟩, here, read⟩ := bind_eq_ok_iff.mp read
      obtain ⟨⟨others, last⟩, there, same⟩ := bind_eq_ok_iff.mp read
      cases same
      exact .next ⟨b, behind, front, more, starts⟩ here there
  · intro step
    rw [itemsAt]
    cases step with
    | done front => simp only [front, if_true]
    | next starts here there =>
      obtain ⟨b, behind, front, more, starts⟩ := starts
      simp only [front, if_neg more, starts, here, ok_bind, there]
      rfl

theorem membersAt_succ {list : List (Option String × Parse)} :
    membersAt (fuel + 1) first bytes = .ok (list, rest) ↔
    SequenceStep Octet.closeBrace (Member fun bytes x rest => valueAt fuel bytes = .ok (x, rest))
      (fun bytes list rest => membersAt fuel false bytes = .ok (list, rest)) first bytes list rest := by
  constructor
  · intro read
    rw [membersAt] at read
    split at read
    · cases read
    rename_i b behind front
    split at read
    · rename_i closed
      cases read
      exact .done (closed ▸ front)
    rename_i more
    split at read
    · cases read
    · rename_i start starts
      obtain ⟨⟨key, colon⟩, name, read⟩ := bind_eq_ok_iff.mp read
      obtain ⟨⟨x, left⟩, here, read⟩ := bind_eq_ok_iff.mp read
      obtain ⟨⟨others, last⟩, there, same⟩ := bind_eq_ok_iff.mp read
      cases same
      exact .next ⟨b, behind, front, more, starts⟩ ⟨colon, name, here⟩ there
  · intro step
    rw [membersAt]
    cases step with
    | done front => simp only [front, if_true]
    | next starts member there =>
      obtain ⟨b, behind, front, more, starts⟩ := starts
      obtain ⟨colon, name, here⟩ := member
      simp only [front, if_neg more, starts, name, ok_bind, here, there]
      rfl

theorem Starts.length_le {start : Octets} (starts : Starts close first bytes start) :
    start.length ≤ bytes.length := by
  obtain ⟨b, behind, front, _, starts⟩ := starts
  have blanks := (skipBlanks_suffix bytes).length_le
  rw [front, List.length_cons] at blanks
  unfold start? at starts
  split at starts
  · cases starts
    exact blanks
  · split at starts
    · cases starts
      omega
    · cases starts

theorem length_keyAt {key : Option String} (read : keyAt bytes = .ok (key, rest)) :
    rest.length < bytes.length := by
  obtain ⟨left, passed, same⟩ := bind_eq_ok_iff.mp read
  cases same
  exact length_skipKey passed

theorem ValueStep.length_lt
    (shorterItems : ∀ bytes list rest, items bytes list rest → rest.length < bytes.length)
    (shorterMembers : ∀ bytes list rest, members bytes list rest → rest.length < bytes.length)
    (step : ValueStep items members bytes tree rest) : rest.length < bytes.length := by
  have blanks := (skipBlanks_suffix bytes).length_le
  cases step with
  | array front inside =>
    have shorter := shorterItems _ _ _ inside
    rw [front, List.length_cons] at blanks
    omega
  | object front inside =>
    have shorter := shorterMembers _ _ _ inside
    rw [front, List.length_cons] at blanks
    omega
  | scalar front list object passed =>
    have shorter := (skipScalar_suffix passed).length_le
    rw [front, List.length_cons] at blanks
    omega

theorem SequenceStep.length_lt
    (shorterEntry : ∀ bytes x rest, entry bytes x rest → rest.length < bytes.length)
    (shorterOthers : ∀ bytes list rest, others bytes list rest → rest.length < bytes.length)
    (step : SequenceStep close entry others first bytes list rest) : rest.length < bytes.length := by
  cases step with
  | done front =>
    have blanks := (skipBlanks_suffix bytes).length_le
    rw [front, List.length_cons] at blanks
    exact blanks
  | next starts here there =>
    have begins := starts.length_le
    have shorter := shorterEntry _ _ _ here
    have shorterStill := shorterOthers _ _ _ there
    omega

theorem Member.length_lt {value : Octets → Parse → Octets → Prop} {member : Option String × Parse}
    (shorter : ∀ bytes x rest, value bytes x rest → rest.length < bytes.length)
    (there : Member value bytes member rest) : rest.length < bytes.length := by
  obtain ⟨behind, name, here⟩ := there
  exact Nat.lt_trans (shorter _ _ _ here) (length_keyAt name)

theorem length_lt (fuel : Nat) :
    (∀ bytes tree rest, valueAt fuel bytes = .ok (tree, rest) → rest.length < bytes.length) ∧
    (∀ first bytes list rest, itemsAt fuel first bytes = .ok (list, rest) →
      rest.length < bytes.length) ∧
    ∀ first bytes list rest, membersAt fuel first bytes = .ok (list, rest) →
      rest.length < bytes.length := by
  induction fuel with
  | zero => exact ⟨nofun, nofun, nofun⟩
  | succ fuel ih =>
    obtain ⟨value, items, members⟩ := ih
    refine ⟨fun bytes tree rest read => ?_, fun first bytes list rest read => ?_,
      fun first bytes list rest read => ?_⟩
    · exact (valueAt_succ.mp read).length_lt (items true) (members true)
    · exact (itemsAt_succ.mp read).length_lt value (items false)
    · exact (membersAt_succ.mp read).length_lt (fun _ _ _ => Member.length_lt value) (members false)

theorem ValueStep.mono (step : ValueStep items members bytes tree rest)
    (inItems : ∀ behind list rest, behind.length < bytes.length → items behind list rest →
      items' behind list rest)
    (inMembers : ∀ behind list rest, behind.length < bytes.length → members behind list rest →
      members' behind list rest) :
    ValueStep items' members' bytes tree rest := by
  have blanks := (skipBlanks_suffix bytes).length_le
  cases step with
  | array front inside =>
    rw [front, List.length_cons] at blanks
    exact .array front (inItems _ _ _ blanks inside)
  | object front inside =>
    rw [front, List.length_cons] at blanks
    exact .object front (inMembers _ _ _ blanks inside)
  | scalar front list object passed => exact .scalar front list object passed

theorem SequenceStep.mono (step : SequenceStep close entry others first bytes list rest)
    (shorter : ∀ bytes x rest, entry bytes x rest → rest.length < bytes.length)
    (inEntry : ∀ start x rest, start.length ≤ bytes.length → entry start x rest → entry' start x rest)
    (inOthers : ∀ left list rest, left.length < bytes.length → others left list rest →
      others' left list rest) :
    SequenceStep close entry' others' first bytes list rest := by
  cases step with
  | done front => exact .done front
  | next starts here there =>
    have begins := starts.length_le
    have left := Nat.lt_of_lt_of_le (shorter _ _ _ here) begins
    exact .next starts (inEntry _ _ _ begins here) (inOthers _ _ _ left there)

/-- A tree that is found at all is found within the length of the text. -/
theorem enough (fuel : Nat) :
    (∀ bytes tree rest, valueAt fuel bytes = .ok (tree, rest) → ∀ n, 2 * bytes.length < n →
      valueAt n bytes = .ok (tree, rest)) ∧
    (∀ first bytes list rest, itemsAt fuel first bytes = .ok (list, rest) →
      ∀ n, 2 * bytes.length + 1 < n → itemsAt n first bytes = .ok (list, rest)) ∧
    ∀ first bytes list rest, membersAt fuel first bytes = .ok (list, rest) →
      ∀ n, 2 * bytes.length + 1 < n → membersAt n first bytes = .ok (list, rest) := by
  induction fuel with
  | zero => exact ⟨nofun, nofun, nofun⟩
  | succ fuel ih =>
    obtain ⟨value, items, members⟩ := ih
    have shorter := (length_lt fuel).1
    refine ⟨fun bytes tree rest read n long => ?_, fun first bytes list rest read n long => ?_,
      fun first bytes list rest read n long => ?_⟩
    all_goals obtain ⟨n, rfl⟩ := Nat.exists_eq_add_one_of_ne_zero (Nat.ne_zero_of_lt long)
    · exact valueAt_succ.mpr ((valueAt_succ.mp read).mono
        (fun behind list rest less inside => items true behind list rest inside n (by omega))
        fun behind list rest less inside => members true behind list rest inside n (by omega))
    · exact itemsAt_succ.mpr ((itemsAt_succ.mp read).mono shorter
        (fun start x rest less here => value start x rest here n (by omega))
        fun left list rest less there => items false left list rest there n (by omega))
    · refine membersAt_succ.mpr ((membersAt_succ.mp read).mono (fun _ _ _ => Member.length_lt shorter)
        (fun start x rest less here => ?_)
        fun left list rest less there => members false left list rest there n (by omega))
      obtain ⟨behind, name, here⟩ := here
      have behindLess := length_keyAt name
      exact ⟨behind, name, value behind x.2 rest here n (by omega)⟩

end Steps

/-- The text has the tree at its front, and goes on with the rest. -/
def At (bytes : Octets) (tree : Parse) (rest : Octets) : Prop :=
  valueAt (2 * bytes.length + 1) bytes = .ok (tree, rest)

def ItemsAt (first : Bool) (bytes : Octets) (items : List Parse) (rest : Octets) : Prop :=
  itemsAt (2 * bytes.length + 2) first bytes = .ok (items, rest)

def MembersAt (first : Bool) (bytes : Octets) (members : List (Option String × Parse)) (rest : Octets) :
    Prop :=
  membersAt (2 * bytes.length + 2) first bytes = .ok (members, rest)

section Fronts

variable {first : Bool} {bytes rest : Octets} {tree : Parse}

theorem At.length_lt (there : At bytes tree rest) : rest.length < bytes.length :=
  (Parse.length_lt _).1 _ _ _ there

theorem At.unique {other : Parse} {last : Octets} (there : At bytes tree rest)
    (too : At bytes other last) : tree = other ∧ rest = last :=
  Prod.mk.inj (Except.ok.inj (there.symm.trans too))

theorem at_iff : At bytes tree rest ↔ ValueStep (ItemsAt true) (MembersAt true) bytes tree rest := by
  rw [At, valueAt_succ]
  -- From one length of what is read to another, either way.
  constructor
  all_goals
    intro step
    exact step.mono (fun behind list rest less inside => (enough _).2.1 _ _ _ _ inside _ (by omega))
      fun behind list rest less inside => (enough _).2.2 _ _ _ _ inside _ (by omega)

theorem items_iff {list : List Parse} : ItemsAt first bytes list rest ↔
    SequenceStep Octet.closeBracket At (ItemsAt false) first bytes list rest := by
  have shorter := (Parse.length_lt (2 * bytes.length + 1)).1
  rw [ItemsAt, itemsAt_succ]
  constructor
  · intro step
    exact step.mono shorter
      (fun start x rest less here => (enough _).1 _ _ _ here _ (by omega))
      fun left list rest less there => (enough _).2.1 _ _ _ _ there _ (by omega)
  · intro step
    exact step.mono (fun _ _ _ => At.length_lt)
      (fun start x rest less here => (enough _).1 _ _ _ here _ (by omega))
      fun left list rest less there => (enough _).2.1 _ _ _ _ there _ (by omega)

theorem members_iff {list : List (Option String × Parse)} : MembersAt first bytes list rest ↔
    SequenceStep Octet.closeBrace (Member At) (MembersAt false) first bytes list rest := by
  have shorter := (Parse.length_lt (2 * bytes.length + 1)).1
  rw [MembersAt, membersAt_succ]
  constructor
  · intro step
    refine step.mono (fun _ _ _ => Member.length_lt shorter) (fun start x rest less here => ?_)
      fun left list rest less there => (enough _).2.2 _ _ _ _ there _ (by omega)
    obtain ⟨behind, name, here⟩ := here
    exact ⟨behind, name, (enough _).1 _ _ _ here _ (by omega)⟩
  · intro step
    refine step.mono (fun _ _ _ => Member.length_lt fun _ _ _ => At.length_lt)
      (fun start x rest less here => ?_)
      fun left list rest less there => (enough _).2.2 _ _ _ _ there _ (by omega)
    obtain ⟨behind, name, here⟩ := here
    have behindLess := length_keyAt name
    exact ⟨behind, name, (enough _).1 _ _ _ here _ (by omega)⟩

end Fronts

section Passing

variable {bytes rest : Octets} {tree : Parse}

theorem keyAt_eq (bytes : Octets) :
    keyAt bytes = (skipKey bytes).map
      fun rest => ((readString (skipBlanks bytes).tail).toOption.map (·.1), rest) := by
  unfold keyAt
  cases skipKey bytes <;> rfl

theorem passed_item {fuel : Nat}
    (value : ∀ bytes, skipValue fuel bytes = (valueAt fuel bytes).map (·.2))
    (items : ∀ first bytes, skipItems fuel first bytes = (itemsAt fuel first bytes).map (·.2))
    (start : Octets) :
    (skipValue fuel start >>= skipItems fuel false) =
      Except.map (·.2) (do
        let (item, rest) ← valueAt fuel start
        let (items, rest) ← itemsAt fuel false rest
        return (item :: items, rest)) := by
  rw [value]
  cases valueAt fuel start with
  | error fault => rfl
  | ok read =>
    have others := items false read.2
    simp only [Except.map, ok_bind] at others ⊢
    rw [others]
    cases itemsAt fuel false read.2 <;> rfl

theorem passed_member {fuel : Nat}
    (value : ∀ bytes, skipValue fuel bytes = (valueAt fuel bytes).map (·.2))
    (members : ∀ first bytes, skipMembers fuel first bytes = (membersAt fuel first bytes).map (·.2))
    (start : Octets) :
    (skipKey start >>= fun rest => skipValue fuel rest >>= skipMembers fuel false) =
      Except.map (·.2) (do
        let (key, rest) ← keyAt start
        let (value, rest) ← valueAt fuel rest
        let (members, rest) ← membersAt fuel false rest
        return ((key, value) :: members, rest)) := by
  rw [keyAt_eq]
  cases skipKey start with
  | error fault => rfl
  | ok rest =>
    simp only [Except.map, ok_bind, value]
    cases valueAt fuel rest with
    | error fault => rfl
    | ok read =>
      have others := members false read.2
      simp only [Except.map, ok_bind] at others ⊢
      rw [others]
      cases membersAt fuel false read.2 <;> rfl

/-- Passing over a value is finding its tree and leaving it aside. -/
theorem skip_eq_map (fuel : Nat) :
    (∀ bytes, skipValue fuel bytes = (valueAt fuel bytes).map (·.2)) ∧
    (∀ first bytes, skipItems fuel first bytes = (itemsAt fuel first bytes).map (·.2)) ∧
    ∀ first bytes, skipMembers fuel first bytes = (membersAt fuel first bytes).map (·.2) := by
  induction fuel with
  | zero => exact ⟨fun _ => rfl, fun _ _ => rfl, fun _ _ => rfl⟩
  | succ fuel ih =>
    obtain ⟨value, items, members⟩ := ih
    refine ⟨fun bytes => ?_, fun first bytes => ?_, fun first bytes => ?_⟩
    · rw [skipValue, valueAt]
      cases skipBlanks bytes with
      | nil => rfl
      | cons b behind =>
        dsimp only
        split
        · rw [items]
          cases itemsAt fuel true behind <;> rfl
        · split
          · rw [members]
            cases membersAt fuel true behind <;> rfl
          · cases skipScalar b behind <;> rfl
    · rw [skipItems, itemsAt]
      cases skipBlanks bytes with
      | nil => rfl
      | cons b behind =>
        dsimp only
        split
        · rfl
        · cases first with
          | true => exact passed_item value items (b :: behind)
          | false =>
            by_cases comma : b = Octet.comma
            · simp only [start?, if_pos comma, Bool.false_eq_true, if_false]
              exact passed_item value items behind
            · simp only [start?, if_neg comma, Bool.false_eq_true, if_false]
              rfl
    · rw [skipMembers, membersAt]
      cases skipBlanks bytes with
      | nil => rfl
      | cons b behind =>
        dsimp only
        split
        · rfl
        · cases first with
          | true => exact passed_member value members (b :: behind)
          | false =>
            by_cases comma : b = Octet.comma
            · simp only [start?, if_pos comma, Bool.false_eq_true, if_false]
              exact passed_member value members behind
            · simp only [start?, if_neg comma, Bool.false_eq_true, if_false]
              rfl

theorem skip_iff : skip bytes = .ok rest ↔ ∃ tree, At bytes tree rest := by
  rw [skip, (skip_eq_map _).1]
  constructor
  · intro passed
    cases read : valueAt (2 * bytes.length + 1) bytes with
    | error fault =>
      rw [read] at passed
      cases passed
    | ok found =>
      rw [read] at passed
      cases passed
      exact ⟨found.1, read⟩
  · rintro ⟨tree, there⟩
    rw [there]
    rfl

theorem decode_iff : decode bytes = .ok tree ↔
    ∃ rest, At bytes tree rest ∧ endOfText rest = .ok () := by
  rw [decode, bind_eq_ok_iff]
  constructor
  · rintro ⟨⟨found, rest⟩, there, read⟩
    obtain ⟨⟨⟩, ends, same⟩ := bind_eq_ok_iff.mp read
    cases same
    exact ⟨rest, there, ends⟩
  · rintro ⟨rest, there, ends⟩
    refine ⟨(tree, rest), there, ?_⟩
    dsimp only
    rw [ends]
    rfl

end Passing

end Parse

end EventRelay.Json
