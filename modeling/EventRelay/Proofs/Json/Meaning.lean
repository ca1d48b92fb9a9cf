import Mathlib.Data.List.DropRight
import Mathlib.Data.List.Nodup
import EventRelay.Proofs.Basic
import EventRelay.Proofs.Json.Trees

namespace EventRelay.Json

namespace Parse

def value : Nat → Parse → Option Json
  | _, .null => some .null
  | _, .bool b => some (.bool b)
  | _, .number n => n.map .number
  | _, .string s => s.map .string
  | 0, .array _ => none
  | 0, .object _ => none
  | levels + 1, .array items => (items.mapM (value levels)).map .array
  | levels + 1, .object members =>
    let read (member : Option String × Parse) := do return (← member.1, ← value levels member.2)
    (members.mapM read).map ofMembers

def Matches (fits : String → Parse → Json → Prop) (member : Option String × Parse)
    (known : String × Json) : Prop :=
  member.1 = some known.1 ∧ fits known.1 member.2 known.2

/-- The tree means the value. -/
def Means (levels : Nat) (tree : Parse) (x : Json) : Prop := tree.value levels = some x

section Values

variable {levels : Nat} {x : Json}

theorem means_null : null.Means levels x ↔ x = .null := by
  simp [Means, value, eq_comm]

theorem means_bool {b : Bool} : (bool b).Means levels x ↔ x = .bool b := by
  simp [Means, value, eq_comm]

theorem means_number {n : Option Number} :
    (number n).Means levels x ↔ ∃ m, n = some m ∧ x = .number m := by
  simp [Means, value, eq_comm]

theorem means_string {s : Option String} :
    (string s).Means levels x ↔ ∃ name, s = some name ∧ x = .string name := by
  simp [Means, value, eq_comm]

theorem means_array {items : List Parse} : (array items).Means levels x ↔
    ∃ inner values, levels = inner + 1 ∧ List.Forall₂ (Means inner) items values ∧
      x = .array values := by
  cases levels with
  | zero => simp [Means, value]
  | succ inner =>
    simp only [Means, value, Option.map_eq_some_iff, mapM_eq_some_iff]
    constructor
    · rintro ⟨values, means, rfl⟩
      exact ⟨inner, values, rfl, means, rfl⟩
    · rintro ⟨_, values, same, means, rfl⟩
      cases same
      exact ⟨values, means, rfl⟩

theorem matches_means {member : Option String × Parse} {known : String × Json} :
    (do return (← member.1, ← value levels member.2)) = some known ↔
      Matches (fun _ => Means levels) member known := by
  obtain ⟨key, tree⟩ := member
  obtain ⟨name, x⟩ := known
  cases key <;> cases read : value levels tree <;> simp [Matches, Means, read]

theorem means_object {members : List (Option String × Parse)} : (object members).Means levels x ↔
    ∃ inner known, levels = inner + 1 ∧
      List.Forall₂ (Matches fun _ => Means inner) members known ∧ x = ofMembers known := by
  cases levels with
  | zero => simp [Means, value]
  | succ inner =>
    simp only [Means, value, Option.map_eq_some_iff, mapM_eq_some_iff, matches_means]
    constructor
    · rintro ⟨known, means, rfl⟩
      exact ⟨inner, known, rfl, means, rfl⟩
    · rintro ⟨_, known, same, means, rfl⟩
      cases same
      exact ⟨known, means, rfl⟩

section Names

variable {fits : String → Parse → Json → Prop} {members : List (Option String × Parse)}
  {known : List (String × Json)} {name : String}

theorem names_of_matches (fit : List.Forall₂ (Matches fits) members known) :
    members.map (·.1) = known.map fun member => some member.1 := by
  induction fit with
  | nil => rfl
  | cons first others ih => rw [List.map_cons, List.map_cons, ih, first.1]

theorem mem_names_of_matches (fit : List.Forall₂ (Matches fits) members known) :
    name ∈ known.map (·.1) ↔ some name ∈ members.map (·.1) := by
  rw [names_of_matches fit]
  simp

theorem nodup_of_matches (fit : List.Forall₂ (Matches fits) members known)
    (once : (members.map (·.1)).Nodup) : (known.map (·.1)).Nodup := by
  rw [names_of_matches fit] at once
  exact List.Nodup.of_map some (by rwa [List.map_map])

end Names

theorem Means.unique {tree : Parse} {y : Json} (means : tree.Means levels x)
    (too : tree.Means levels y) : x = y :=
  Option.some.inj (means.symm.trans too)

theorem values_unique {items : List Parse} {values others : List Json}
    (means : List.Forall₂ (Means levels) items values)
    (too : List.Forall₂ (Means levels) items others) : values = others :=
  Option.some.inj ((mapM_eq_some_iff.mpr means).symm.trans (mapM_eq_some_iff.mpr too))

end Values

section Fronts

variable {first : Bool} {bytes rest : Octets} {tree : Parse}

theorem At.of_skipBlanks {other : Octets} (there : At bytes tree rest)
    (same : skipBlanks other = skipBlanks bytes) : At other tree rest := by
  refine at_iff.mpr ?_
  cases at_iff.mp there with
  | array front inside => exact .array (same.trans front) inside
  | object front inside => exact .object (same.trans front) inside
  | scalar front list object passed => exact .scalar (same.trans front) list object passed

theorem skipBlanks_idem (bytes : Octets) : skipBlanks (skipBlanks bytes) = skipBlanks bytes :=
  List.dropWhile_idempotent isBlank bytes

theorem skipBlanks_of_front {b : UInt8} {behind : Octets} (front : skipBlanks bytes = b :: behind) :
    skipBlanks (b :: behind) = b :: behind := by
  rw [← front, skipBlanks_idem]

theorem Starts.first_iff {close : UInt8} {start : Octets} : Starts close true bytes start ↔
    ∃ b behind, skipBlanks bytes = b :: behind ∧ b ≠ close ∧ start = b :: behind := by
  simp only [Starts, start?, if_true, Option.some.injEq, eq_comm]

theorem Starts.further_iff {close : UInt8} {start : Octets} (other : Octet.comma ≠ close) :
    Starts close false bytes start ↔ skipBlanks bytes = Octet.comma :: start := by
  simp only [Starts, start?, Bool.false_eq_true, if_false]
  constructor
  · rintro ⟨b, behind, front, _, starts⟩
    split at starts
    · rename_i comma
      cases starts
      exact comma ▸ front
    · cases starts
  · intro front
    exact ⟨_, _, front, other, if_pos rfl⟩

theorem not_at_nil (front : skipBlanks bytes = []) : ¬ At bytes tree rest := by
  intro there
  cases at_iff.mp there with
  | array same inside => cases front.symm.trans same
  | object same inside => cases front.symm.trans same
  | scalar same list object passed => cases front.symm.trans same

theorem at_list_iff {behind : Octets} (front : skipBlanks bytes = Octet.openBracket :: behind) :
    At bytes tree rest ↔ ∃ items, tree = .array items ∧ ItemsAt true behind items rest := by
  rw [at_iff]
  constructor
  · intro step
    cases step with
    | array same inside =>
      cases front.symm.trans same
      exact ⟨_, rfl, inside⟩
    | object same inside => cases front.symm.trans same
    | scalar same list object passed =>
      cases front.symm.trans same
      exact absurd rfl list
  · rintro ⟨items, rfl, inside⟩
    exact .array front inside

theorem at_object_iff {behind : Octets} (front : skipBlanks bytes = Octet.openBrace :: behind) :
    At bytes tree rest ↔ ∃ members, tree = .object members ∧ MembersAt true behind members rest := by
  rw [at_iff]
  constructor
  · intro step
    cases step with
    | array same inside => cases front.symm.trans same
    | object same inside =>
      cases front.symm.trans same
      exact ⟨_, rfl, inside⟩
    | scalar same list object passed =>
      cases front.symm.trans same
      exact absurd rfl object
  · rintro ⟨members, rfl, inside⟩
    exact .object front inside

theorem at_scalar_iff {b : UInt8} {behind : Octets} (front : skipBlanks bytes = b :: behind)
    (list : b ≠ Octet.openBracket) (object : b ≠ Octet.openBrace) :
    At bytes tree rest ↔ tree = ofScalar b behind ∧ skipScalar b behind = .ok rest := by
  rw [at_iff]
  constructor
  · intro step
    cases step with
    | array same inside =>
      cases front.symm.trans same
      exact absurd rfl list
    | object same inside =>
      cases front.symm.trans same
      exact absurd rfl object
    | scalar same list object passed =>
      cases front.symm.trans same
      exact ⟨rfl, passed⟩
  · rintro ⟨rfl, passed⟩
    exact .scalar front list object passed

theorem At.front (there : At bytes tree rest) :
    ∃ b behind, skipBlanks bytes = b :: behind ∧ b ≠ Octet.closeBracket := by
  cases at_iff.mp there with
  | array front inside => exact ⟨_, _, front, by decide⟩
  | object front inside => exact ⟨_, _, front, by decide⟩
  | @scalar b behind _ front list object passed =>
    refine ⟨_, _, front, ?_⟩
    rintro rfl
    cases passed

end Fronts

end Parse

open Parse

section Fronts

variable {first : Bool} {bytes rest left : Octets}

theorem closeList_iff : closeList bytes = .ok rest ↔ skipBlanks bytes = Octet.closeBracket :: rest := by
  unfold closeList
  cases skipBlanks bytes with
  | nil => simp
  | cons b behind =>
    dsimp only
    split
    · rename_i close
      simp [close]
    · rename_i other
      split <;> simp [other]

theorem closeObject_iff : closeObject bytes = .ok rest ↔ skipBlanks bytes = Octet.closeBrace :: rest := by
  unfold closeObject
  cases skipBlanks bytes with
  | nil => simp
  | cons b behind =>
    dsimp only
    split
    · rename_i close
      simp [close]
    · rename_i other
      split <;> simp [other]

theorem nextItem_none_iff :
    nextItem first bytes = .ok none ↔ ∃ rest, skipBlanks bytes = Octet.closeBracket :: rest := by
  unfold nextItem
  cases skipBlanks bytes with
  | nil => simp
  | cons b behind =>
    dsimp only
    split
    · rename_i close
      simp [close]
    · rename_i other
      have goesOn : ¬ ∃ rest, b :: behind = Octet.closeBracket :: rest :=
        fun ⟨_, same⟩ => other (List.cons.inj same).1
      simp only [goesOn, iff_false]
      repeat' split
      all_goals exact nofun

theorem starts_of_nextItem (next : nextItem first bytes = .ok (some left)) :
    ∃ start, Starts Octet.closeBracket first bytes start ∧ skipBlanks start = skipBlanks left := by
  unfold nextItem at next
  split at next
  · cases next
  rename_i b behind front
  split at next
  · cases next
  rename_i more
  cases first with
  | true =>
    cases next
    exact ⟨b :: behind, Starts.first_iff.mpr ⟨b, behind, front, more, rfl⟩, rfl⟩
  | false =>
    rw [if_neg Bool.false_ne_true] at next
    split at next
    · rename_i comma
      subst comma
      split at next
      · cases next
      · rename_i c item start
        split at next
        · cases next
        · cases next
          exact ⟨behind, (Starts.further_iff (by decide)).mpr front,
            start.trans (skipBlanks_of_front start).symm⟩
    · cases next

theorem nextItem_of_starts {start : Octets} {tree : Parse}
    (starts : Starts Octet.closeBracket first bytes start) (there : At start tree rest) :
    ∃ left, nextItem first bytes = .ok (some left) ∧ skipBlanks left = skipBlanks start := by
  obtain ⟨c, item, itemFront, more⟩ := there.front
  cases first with
  | true =>
    obtain ⟨b, behind, front, other, rfl⟩ := Starts.first_iff.mp starts
    refine ⟨b :: behind, ?_, rfl⟩
    simp only [nextItem, front, if_neg other, if_true]
  | false =>
    have front := (Starts.further_iff (by decide)).mp starts
    have comma : Octet.comma ≠ Octet.closeBracket := by decide
    refine ⟨c :: item, ?_, (skipBlanks_of_front itemFront).trans itemFront.symm⟩
    simp only [nextItem, front, if_neg comma, Bool.false_eq_true, if_false, if_true, itemFront,
      if_neg more]

theorem nextKey_none_iff :
    nextKey first bytes = .ok none ↔ ∃ rest, skipBlanks bytes = Octet.closeBrace :: rest := by
  unfold nextKey
  cases skipBlanks bytes with
  | nil => simp
  | cons b behind =>
    dsimp only
    split
    · rename_i close
      simp [close]
    · rename_i other
      have goesOn : ¬ ∃ rest, b :: behind = Octet.closeBrace :: rest :=
        fun ⟨_, same⟩ => other (List.cons.inj same).1
      simp only [goesOn, iff_false]
      repeat' split
      all_goals simp [map_eq_ok_iff]

def NameAt (bytes : Octets) (name : String) (left : Octets) : Prop :=
  ∃ behind, skipBlanks bytes = Octet.quote :: behind ∧ readString behind = .ok (name, left)

theorem nextKey_some_iff {name : String} : nextKey first bytes = .ok (some (name, left)) ↔
    ∃ start, Starts Octet.closeBrace first bytes start ∧ NameAt start name left := by
  constructor
  · intro next
    unfold nextKey at next
    split at next
    · cases next
    rename_i b behind front
    split at next
    · cases next
    rename_i more
    cases first with
    | true =>
      rw [if_pos rfl] at next
      split at next
      · rename_i quote
        subst quote
        obtain ⟨_, read, same⟩ := map_eq_ok_iff.mp next
        cases same
        exact ⟨_, Starts.first_iff.mpr ⟨_, _, front, more, rfl⟩, behind, skipBlanks_of_front front, read⟩
      · cases next
    | false =>
      rw [if_neg Bool.false_ne_true] at next
      split at next
      · rename_i comma
        subst comma
        split at next
        · cases next
        · rename_i c start nameFront
          split at next
          · rename_i quote
            subst quote
            obtain ⟨_, read, same⟩ := map_eq_ok_iff.mp next
            cases same
            exact ⟨behind, (Starts.further_iff (by decide)).mpr front, start, nameFront, read⟩
          · split at next <;> cases next
      · cases next
  · rintro ⟨start, starts, behind, nameFront, read⟩
    cases first with
    | true =>
      obtain ⟨b, tail, front, other, rfl⟩ := Starts.first_iff.mp starts
      obtain ⟨rfl, rfl⟩ := List.cons.inj ((skipBlanks_of_front front).symm.trans nameFront)
      simp only [nextKey, front, if_neg other, if_true, read]
      rfl
    | false =>
      have front := (Starts.further_iff (by decide)).mp starts
      have comma : Octet.comma ≠ Octet.closeBrace := by decide
      simp only [nextKey, front, if_neg comma, Bool.false_eq_true, if_false, if_true, nameFront, read]
      rfl

theorem keyAt_some_iff {name : String} : keyAt bytes = .ok (some name, rest) ↔
    ∃ left, NameAt bytes name left ∧ passColon left = .ok rest := by
  rw [keyAt_eq]
  unfold skipKey NameAt
  cases front : skipBlanks bytes with
  | nil => simp [Except.map]
  | cons b behind =>
    dsimp only
    split
    · rename_i quote
      subst quote
      cases read : readString behind with
      | error fault =>
        cases (skipString (behind.length + 1) behind >>= passColon) <;>
          simp [Except.map, Except.toOption, read]
      | ok found =>
        obtain ⟨s, last⟩ := found
        rw [skipString_of_readString read, ok_bind]
        cases colon : passColon last with
        | error fault => simp [Except.map, read, colon]
        | ok after => simp [Except.map, Except.toOption, read, colon, and_assoc]
    · rename_i other
      simp [Except.map, other]

end Fronts

/-- What the reader makes of a text goes by the tree of the text. -/
def GoesBy {α : Type} (reader : Octets → Except Fault (α × Octets)) (fits : Parse → α → Prop) : Prop :=
  ∀ bytes x rest, reader bytes = .ok (x, rest) ↔ ∃ tree, At bytes tree rest ∧ fits tree x

/-- How a reader of objects deals with a member goes by the tree behind the colon: if that fits a value,
    the value is put under the name. -/
def TakesBy {σ : Type} (member : String → σ → Octets → Except Fault (σ × Octets))
    (fits : String → Parse → Json → Prop) (put : σ → String × Json → Except Fault σ) : Prop :=
  ∀ name known bytes next rest, member name known bytes = .ok (next, rest) ↔
    ∃ start tree x, passColon bytes = .ok start ∧ At start tree rest ∧ fits name tree x ∧
      put known (name, x) = .ok next

section Containers

variable {fuel : Nat} {first : Bool} {bytes rest : Octets}

theorem readItems_iff {α : Type} {item : Octets → Except Fault (α × Octets)} {fits : Parse → α → Prop}
    (goesBy : GoesBy item fits) (enough : bytes.length < fuel) {xs : List α} :
    (∃ left, readItems item fuel first bytes = .ok (xs, left) ∧ closeList left = .ok rest) ↔
      ∃ items, ItemsAt first bytes items rest ∧ List.Forall₂ fits items xs := by
  induction fuel generalizing first bytes xs with
  | zero => exact absurd enough (Nat.not_lt_zero _)
  | succ fuel ih =>
    constructor
    · rintro ⟨left, read, closes⟩
      obtain ⟨next, found, read⟩ := bind_eq_ok_iff.mp read
      cases next with
      | none =>
        cases read
        exact ⟨[], items_iff.mpr (.done (closeList_iff.mp closes)), .nil⟩
      | some behind =>
        obtain ⟨⟨x, last⟩, here, read⟩ := bind_eq_ok_iff.mp read
        obtain ⟨⟨others, end'⟩, further, same⟩ := bind_eq_ok_iff.mp read
        cases same
        obtain ⟨start, starts, same⟩ := starts_of_nextItem found
        obtain ⟨tree, there, fit⟩ := (goesBy _ _ _).mp here
        have there := there.of_skipBlanks same
        have shorter := Nat.lt_of_lt_of_le there.length_lt starts.length_le
        obtain ⟨items, rest, fitAll⟩ := (ih (by omega)).mp ⟨_, further, closes⟩
        exact ⟨tree :: items, items_iff.mpr (.next starts there rest), .cons fit fitAll⟩
    · rintro ⟨items, there, fit⟩
      cases items_iff.mp there with
      | done front =>
        cases fit
        have none := (@nextItem_none_iff first bytes).mpr ⟨rest, front⟩
        exact ⟨bytes, by rw [readItems, none]; rfl, closeList_iff.mpr front⟩
      | next starts here further =>
        obtain ⟨behind, found, same⟩ := nextItem_of_starts starts here
        have shorter := Nat.lt_of_lt_of_le here.length_lt starts.length_le
        cases fit with
        | cons first others =>
          obtain ⟨left, read, closes⟩ := (ih (by omega)).mpr ⟨_, further, others⟩
          have here := (goesBy _ _ _).mpr ⟨_, here.of_skipBlanks same, first⟩
          refine ⟨left, ?_, closes⟩
          rw [readItems, found, ok_bind]
          dsimp only
          rw [here, ok_bind]
          dsimp only
          rw [read]
          rfl

/-- The members of an object are read exactly if they all have names and trees that fit values, and these
    can be put in one after the other. -/
theorem readMembers_iff {σ : Type} {member : String → σ → Octets → Except Fault (σ × Octets)}
    {fits : String → Parse → Json → Prop} {put : σ → String × Json → Except Fault σ}
    (takesBy : TakesBy member fits put) (enough : bytes.length < fuel) {known final : σ} :
    (∃ left, readMembers member fuel first known bytes = .ok (final, left) ∧
        closeObject left = .ok rest) ↔
      ∃ members values, MembersAt first bytes members rest ∧
        List.Forall₂ (Matches fits) members values ∧ values.foldlM put known = .ok final := by
  induction fuel generalizing first bytes known with
  | zero => exact absurd enough (Nat.not_lt_zero _)
  | succ fuel ih =>
    constructor
    · rintro ⟨left, read, closes⟩
      obtain ⟨next, found, read⟩ := bind_eq_ok_iff.mp read
      cases next with
      | none =>
        cases read
        exact ⟨[], [], members_iff.mpr (.done (closeObject_iff.mp closes)), .nil, rfl⟩
      | some next =>
        obtain ⟨name, behind⟩ := next
        obtain ⟨⟨after, last⟩, here, further⟩ := bind_eq_ok_iff.mp read
        obtain ⟨start, starts, nameAt⟩ := nextKey_some_iff.mp found
        obtain ⟨colon, tree, x, passed, there, fit, taken⟩ := (takesBy _ _ _ _ _).mp here
        have key := keyAt_some_iff.mpr ⟨behind, nameAt, passed⟩
        have begins := starts.length_le
        have named := length_keyAt key
        have shorter := there.length_lt
        obtain ⟨members, values, rest, fitAll, takenAll⟩ := (ih (by omega)).mp ⟨left, further, closes⟩
        refine ⟨(some name, tree) :: members, (name, x) :: values,
          members_iff.mpr (.next starts ⟨colon, key, there⟩ rest), .cons ⟨rfl, fit⟩ fitAll, ?_⟩
        rw [List.foldlM_cons, taken]
        exact takenAll
    · rintro ⟨members, values, there, fit, taken⟩
      cases members_iff.mp there with
      | done front =>
        cases fit
        cases taken
        have none := (@nextKey_none_iff first bytes).mpr ⟨rest, front⟩
        exact ⟨bytes, by rw [readMembers, none]; rfl, closeObject_iff.mpr front⟩
      | next starts here further =>
        cases fit with
        | @cons _ value _ _ first others =>
          obtain ⟨name, x⟩ := value
          obtain ⟨colon, key, here⟩ := here
          obtain ⟨named, fit⟩ := first
          rw [named] at key
          obtain ⟨behind, nameAt, passed⟩ := keyAt_some_iff.mp key
          have found := nextKey_some_iff.mpr ⟨_, starts, nameAt⟩
          obtain ⟨after, taken, takenAll⟩ := bind_eq_ok_iff.mp (List.foldlM_cons.symm.trans taken)
          have begins := starts.length_le
          have passedName := length_keyAt key
          have shorter := here.length_lt
          obtain ⟨left, read, closes⟩ := (ih (by omega)).mpr ⟨_, _, further, others, takenAll⟩
          have here := (takesBy _ _ _ _ _).mpr ⟨colon, _, x, passed, here, fit, taken⟩
          refine ⟨left, ?_, closes⟩
          rw [readMembers, found, ok_bind]
          dsimp only
          rw [here, ok_bind]
          exact read

end Containers

section Scalars

variable {b : UInt8} {bytes rest : Octets} {x : Json} {levels : Nat}

theorem word_iff {letters : Octets} {y : Json} :
    (do return (y, ← word letters bytes) : Except Fault (Json × Octets)) = .ok (x, rest) ↔
      word letters bytes = .ok rest ∧ x = y := by
  cases word letters bytes with
  | error fault => simp
  | ok left => simp [ok_bind, pure, Except.pure, eq_comm, and_comm]

theorem skipScalar_other (null : b ≠ 0x6e) (yes : b ≠ 0x74) (no : b ≠ 0x66) (quote : b ≠ Octet.quote)
    (other : ¬ startsNumber b = true) (bytes : Octets) : skipScalar b bytes = .error .expectedValue := by
  rw [startsNumber, Bool.or_eq_true, decide_eq_true_eq, not_or] at other
  rw [skipScalar, if_neg null, if_neg yes, if_neg no, if_neg quote, if_neg other.1, if_neg other.2]

theorem readScalar_iff : readScalar b bytes = .ok (x, rest) ↔
    skipScalar b bytes = .ok rest ∧ (ofScalar b bytes).Means levels x := by
  by_cases null : b = 0x6e
  · simp only [readScalar, skipScalar, ofScalar, if_pos null, means_null]
    exact word_iff
  by_cases yes : b = 0x74
  · simp only [readScalar, skipScalar, ofScalar, if_neg null, if_pos yes, means_bool]
    exact word_iff
  by_cases no : b = 0x66
  · simp only [readScalar, skipScalar, ofScalar, if_neg null, if_neg yes, if_pos no, means_bool]
    exact word_iff
  by_cases quote : b = Octet.quote
  · simp only [readScalar, skipScalar, ofScalar, if_neg null, if_neg yes, if_neg no, if_pos quote,
      means_string]
    cases read : readString bytes with
    | error fault => simp [Except.toOption]
    | ok found =>
      have passed := skipString_of_readString read
      simp [ok_bind, passed, pure, Except.pure, Except.toOption, eq_comm, and_comm]
  have tree : ofScalar b bytes = .number ((readNumber (b :: bytes)).toOption.map (·.1)) := by
    simp only [ofScalar, if_neg null, if_neg yes, if_neg no, if_neg quote]
  rw [tree, means_number]
  by_cases starts : startsNumber b = true
  · have here : readScalar b bytes =
        (readNumber (b :: bytes) >>= fun read => .ok (.number read.1, read.2)) := by
      simp only [readScalar, if_neg null, if_neg yes, if_neg no, if_neg quote, if_pos starts]
      rfl
    cases read : readNumber (b :: bytes) with
    | error fault =>
      rw [read] at here
      simp [here, bind, Except.bind, Except.toOption]
    | ok found =>
      rw [read, ok_bind] at here
      have passed := skipScalar_of_readScalar here
      simp [here, passed, Except.toOption, eq_comm, and_comm]
  · have nothing := skipScalar_other null yes no quote starts bytes
    simp [readScalar, nothing, null, yes, no, quote, starts]

end Scalars

section Values

variable {bytes rest : Octets} {x : Json} {levels : Nat}

theorem insertAll_eq_foldlM (known members : List (String × Json)) :
    members.foldlM (fun known member => .ok (insert member.1 member.2 known)) known =
      (.ok (insertAll known members) : Except Fault _) := List.foldlM_pure

theorem readInto_takesBy (goesBy : GoesBy (readValue levels) (Means levels)) :
    TakesBy (readInto levels) (fun _ => Means levels)
      fun known member => .ok (insert member.1 member.2 known) := by
  intro name known bytes next rest
  constructor
  · intro read
    obtain ⟨start, passed, read⟩ := bind_eq_ok_iff.mp read
    obtain ⟨⟨x, last⟩, here, same⟩ := bind_eq_ok_iff.mp read
    cases same
    obtain ⟨tree, there, means⟩ := (goesBy _ _ _).mp here
    exact ⟨start, tree, x, passed, there, means, rfl⟩
  · rintro ⟨start, tree, x, passed, there, means, taken⟩
    cases taken
    rw [readInto, passed, ok_bind, (goesBy _ _ _).mpr ⟨tree, there, means⟩]
    rfl

theorem readValue_list_iff {behind : Octets} (goesBy : GoesBy (readValue levels) (Means levels))
    (front : skipBlanks bytes = Octet.openBracket :: behind) :
    readValue (levels + 1) bytes = .ok (x, rest) ↔
      ∃ tree, At bytes tree rest ∧ tree.Means (levels + 1) x := by
  have read := @readItems_iff _ true behind rest _ _ _ goesBy (Nat.lt_succ_self behind.length)
  rw [readValue]
  simp only [front, if_true, at_list_iff front]
  constructor
  · intro found
    obtain ⟨⟨values, left⟩, inside, found⟩ := bind_eq_ok_iff.mp found
    obtain ⟨last, closes, same⟩ := bind_eq_ok_iff.mp found
    cases same
    obtain ⟨items, there, means⟩ := read.mp ⟨left, inside, closes⟩
    exact ⟨_, ⟨items, rfl, there⟩, means_array.mpr ⟨levels, values, rfl, means, rfl⟩⟩
  · rintro ⟨_, ⟨items, rfl, there⟩, means⟩
    obtain ⟨_, values, same, means, rfl⟩ := means_array.mp means
    cases same
    obtain ⟨left, inside, closes⟩ := read.mpr ⟨items, there, means⟩
    rw [inside, ok_bind]
    dsimp only
    rw [closes]
    rfl

theorem readValue_object_iff {behind : Octets} (goesBy : GoesBy (readValue levels) (Means levels))
    (front : skipBlanks bytes = Octet.openBrace :: behind) :
    readValue (levels + 1) bytes = .ok (x, rest) ↔
      ∃ tree, At bytes tree rest ∧ tree.Means (levels + 1) x := by
  have read := @readMembers_iff (behind.length + 1) true behind rest _ _ _ _ (readInto_takesBy goesBy)
    (Nat.lt_succ_self behind.length) []
  have other : Octet.openBrace ≠ Octet.openBracket := by decide
  rw [readValue]
  simp only [front, if_neg other, if_true, at_object_iff front]
  change (readMembers (readInto levels) _ true [] behind >>= _) = _ ↔ _
  simp only [insertAll_eq_foldlM, Except.ok.injEq] at read
  constructor
  · intro found
    obtain ⟨⟨final, left⟩, inside, found⟩ := bind_eq_ok_iff.mp found
    obtain ⟨last, closes, same⟩ := bind_eq_ok_iff.mp found
    cases same
    obtain ⟨members, known, there, means, rfl⟩ := read.mp ⟨left, inside, closes⟩
    exact ⟨_, ⟨members, rfl, there⟩, means_object.mpr ⟨levels, known, rfl, means, rfl⟩⟩
  · rintro ⟨_, ⟨members, rfl, there⟩, means⟩
    obtain ⟨_, known, same, means, rfl⟩ := means_object.mp means
    cases same
    obtain ⟨left, inside, closes⟩ := read.mpr ⟨members, known, there, means, rfl⟩
    rw [inside, ok_bind]
    dsimp only
    rw [closes]
    rfl

theorem readValue_scalar_iff {b : UInt8} {behind : Octets} (front : skipBlanks bytes = b :: behind)
    (list : b ≠ Octet.openBracket) (object : b ≠ Octet.openBrace) :
    readValue levels bytes = .ok (x, rest) ↔ ∃ tree, At bytes tree rest ∧ tree.Means levels x := by
  have here : readValue levels bytes = readScalar b behind := by
    rw [readValue]
    simp only [front, if_neg list, if_neg object]
  rw [here, @readScalar_iff b behind rest x levels]
  simp only [at_scalar_iff front list object]
  constructor
  · rintro ⟨passed, means⟩
    exact ⟨_, ⟨rfl, passed⟩, means⟩
  · rintro ⟨_, ⟨rfl, passed⟩, means⟩
    exact ⟨passed, means⟩

theorem readValue_goesBy_of_containers
    (list : ∀ {bytes behind rest : Octets} {x : Json},
      skipBlanks bytes = Octet.openBracket :: behind →
        (readValue levels bytes = .ok (x, rest) ↔ ∃ tree, At bytes tree rest ∧ tree.Means levels x))
    (object : ∀ {bytes behind rest : Octets} {x : Json},
      skipBlanks bytes = Octet.openBrace :: behind →
        (readValue levels bytes = .ok (x, rest) ↔ ∃ tree, At bytes tree rest ∧ tree.Means levels x)) :
    GoesBy (readValue levels) (Means levels) := by
  intro bytes x rest
  cases front : skipBlanks bytes with
  | nil =>
    rw [readValue]
    simp [front, not_at_nil front]
  | cons b behind =>
    by_cases bracket : b = Octet.openBracket
    · exact list (bracket ▸ front)
    by_cases brace : b = Octet.openBrace
    · exact object (brace ▸ front)
    exact readValue_scalar_iff front bracket brace

/-- A value is read exactly if the text has a tree that means it. -/
theorem readValue_goesBy (levels : Nat) : GoesBy (readValue levels) (Means levels) := by
  induction levels with
  | zero =>
    refine readValue_goesBy_of_containers (fun front => ?_) (fun front => ?_)
    · rw [readValue]
      simp [front, at_list_iff front, means_array]
    · have other : Octet.openBrace ≠ Octet.openBracket := by decide
      rw [readValue]
      simp [front, at_object_iff front, means_object, other]
  | succ levels ih =>
    exact readValue_goesBy_of_containers (readValue_list_iff ih) (readValue_object_iff ih)

theorem Decoder.decode_iff {α : Type} {decoder : Decoder α} {fits : Parse → α → Prop} {x : α}
    (goesBy : GoesBy (decoder.read maxDepth) fits) :
    decoder.decode bytes = .ok x ↔ ∃ tree, Parse.decode bytes = .ok tree ∧ fits tree x := by
  simp only [Parse.decode_iff]
  rw [decode, bind_eq_ok_iff]
  constructor
  · rintro ⟨⟨found, rest⟩, read, last⟩
    obtain ⟨⟨⟩, ends, same⟩ := bind_eq_ok_iff.mp last
    cases same
    obtain ⟨tree, there, fit⟩ := (goesBy _ _ _).mp read
    exact ⟨tree, ⟨rest, there, ends⟩, fit⟩
  · rintro ⟨tree, ⟨rest, there, ends⟩, fit⟩
    refine ⟨(x, rest), (goesBy _ _ _).mpr ⟨tree, there, fit⟩, ?_⟩
    dsimp only
    rw [ends]
    rfl

/-- A text writes a value exactly if it has a tree and the tree means the value. -/
theorem decode_iff : decode bytes = .ok x ↔
    ∃ tree, Parse.decode bytes = .ok tree ∧ tree.Means maxDepth x :=
  @Decoder.decode_iff bytes Json .json _ x (readValue_goesBy maxDepth)

end Values

end EventRelay.Json
