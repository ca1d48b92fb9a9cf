import EventRelay.Proofs.Json.Meaning

namespace EventRelay.Json

open Parse

namespace Parse

/-- The object, if it is one, repeats no name. -/
def NamesOnce : Parse → Prop
  | .object members => (members.map (·.1)).Nodup
  | _ => True

mutual

/-- No object in the tree repeats a name. -/
def Distinct : Parse → Prop
  | .array items => itemsDistinct items
  | .object members => (members.map (·.1)).Nodup ∧ membersDistinct members
  | _ => True

def itemsDistinct : List Parse → Prop
  | [] => True
  | item :: rest => item.Distinct ∧ itemsDistinct rest

def membersDistinct : List (Option String × Parse) → Prop
  | [] => True
  | (_, tree) :: rest => tree.Distinct ∧ membersDistinct rest

end

theorem itemsDistinct_iff {items : List Parse} :
    itemsDistinct items ↔ ∀ item ∈ items, item.Distinct := by
  induction items with
  | nil => simp [itemsDistinct]
  | cons item items ih => simp [itemsDistinct, ih]

theorem membersDistinct_iff {members : List (Option String × Parse)} :
    membersDistinct members ↔ ∀ member ∈ members, member.2.Distinct := by
  induction members with
  | nil => simp [membersDistinct]
  | cons member members ih => rw [membersDistinct, ih, List.forall_mem_cons]

theorem Distinct.namesOnce {tree : Parse} (distinct : tree.Distinct) : tree.NamesOnce := by
  cases tree with
  | object members => exact distinct.1
  | _ => trivial

section Scalars

variable {tree : Parse} {levels : Nat}

theorem means_null_iff : tree.Means levels .null ↔ tree = .null := by
  cases tree <;>
    simp [means_null, means_bool, means_number, means_string, means_array, means_object, ofMembers]

theorem means_string_iff {s : String} : tree.Means levels (.string s) ↔ tree = .string (some s) := by
  cases tree <;>
    simp [means_null, means_bool, means_number, means_string, means_array, means_object, ofMembers]

theorem means_number_iff {n : Number} : tree.Means levels (.number n) ↔ tree = .number (some n) := by
  cases tree <;>
    simp [means_null, means_bool, means_number, means_string, means_array, means_object, ofMembers]

end Scalars

end Parse

section Scalars

variable {b : UInt8} {bytes behind rest : Octets} {x : Json}

theorem readScalar_null_iff :
    readScalar b bytes = .ok (.null, rest) ↔ b = 0x6e ∧ word (octets "ull") bytes = .ok rest := by
  unfold readScalar
  repeat' split
  all_goals simp_all [bind_eq_ok_iff, pure, Except.pure]

theorem readScalar_string_iff {s : String} : readScalar b bytes = .ok (.string s, rest) ↔
    b = Octet.quote ∧ readString bytes = .ok (s, rest) := by
  have others : 0x6e ≠ Octet.quote ∧ 0x74 ≠ Octet.quote ∧ 0x66 ≠ Octet.quote := by decide
  obtain ⟨null, yes, no⟩ := others
  unfold readScalar
  repeat' split
  all_goals simp_all [bind_eq_ok_iff, pure, Except.pure]

theorem readScalar_number_iff {n : Number} : readScalar b bytes = .ok (.number n, rest) ↔
    startsNumber b = true ∧ readNumber (b :: bytes) = .ok (n, rest) := by
  have others : startsNumber 0x6e = false ∧ startsNumber 0x74 = false ∧ startsNumber 0x66 = false ∧
    startsNumber Octet.quote = false := by decide
  obtain ⟨null, yes, no, quote⟩ := others
  unfold readScalar
  repeat' split
  all_goals simp_all [bind_eq_ok_iff, pure, Except.pure]

theorem readValue_zero_iff : readValue 0 bytes = .ok (x, rest) ↔
    ∃ b behind, skipBlanks bytes = b :: behind ∧ readScalar b behind = .ok (x, rest) := by
  have list : ∀ behind, readScalar Octet.openBracket behind = .error .expectedValue := fun _ => rfl
  have object : ∀ behind, readScalar Octet.openBrace behind = .error .expectedValue := fun _ => rfl
  rw [readValue]
  cases skipBlanks bytes with
  | nil => simp
  | cons b behind =>
    dsimp only
    split
    · rename_i same
      simp [same, list]
    · split
      · rename_i same
        simp [same, object]
      · simp

theorem at_iff_readScalar {tree : Parse} (alone : ∀ other, other.Means 0 x ↔ other = tree) :
    At bytes tree rest ↔
      ∃ b behind, skipBlanks bytes = b :: behind ∧ readScalar b behind = .ok (x, rest) := by
  rw [← readValue_zero_iff, readValue_goesBy]
  simp only [alone, exists_eq_right]

theorem at_null_iff : At bytes .null rest ↔
    ∃ behind, skipBlanks bytes = 0x6e :: behind ∧ word (octets "ull") behind = .ok rest := by
  rw [at_iff_readScalar fun _ => means_null_iff]
  simp only [readScalar_null_iff]
  constructor
  · rintro ⟨_, behind, front, rfl, passed⟩
    exact ⟨behind, front, passed⟩
  · rintro ⟨behind, front, passed⟩
    exact ⟨_, behind, front, rfl, passed⟩

theorem at_string_iff {s : String} : At bytes (.string (some s)) rest ↔ NameAt bytes s rest := by
  rw [at_iff_readScalar fun _ => means_string_iff]
  simp only [readScalar_string_iff]
  constructor
  · rintro ⟨_, behind, front, rfl, read⟩
    exact ⟨behind, front, read⟩
  · rintro ⟨behind, front, read⟩
    exact ⟨_, behind, front, rfl, read⟩

theorem at_number_iff {n : Number} : At bytes (.number (some n)) rest ↔
    ∃ b behind, skipBlanks bytes = b :: behind ∧ startsNumber b = true ∧
      readNumber (b :: behind) = .ok (n, rest) := by
  rw [at_iff_readScalar fun _ => means_number_iff]
  simp only [readScalar_number_iff]

end Scalars

theorem readStringAs_iff {expected s : String} {bytes rest : Octets} :
    readStringAs expected bytes = .ok (s, rest) ↔ NameAt bytes s rest := by
  unfold readStringAs NameAt
  cases skipBlanks bytes with
  | nil => simp
  | cons b behind =>
    dsimp only
    split
    · rename_i quote
      simp [quote]
    · rename_i other
      simp [other]

theorem passNull_iff {bytes rest : Octets} : passNull bytes = .ok rest ↔ At bytes .null rest := by
  rw [at_null_iff]
  unfold passNull
  cases skipBlanks bytes with
  | nil => simp
  | cons b behind =>
    dsimp only
    split
    · rename_i null
      simp [null]
    · rename_i other
      simp [other]

theorem read_and_eq_ok_iff {α β : Type} {read : Except Fault (α × Octets)} {f : α → β} {y : β}
    {rest : Octets} :
    (do let (x, rest) ← read; return (f x, rest) : Except Fault (β × Octets)) = .ok (y, rest) ↔
      ∃ x, read = .ok (x, rest) ∧ y = f x := by
  rw [bind_eq_ok_iff]
  constructor
  · rintro ⟨⟨x, last⟩, found, same⟩
    cases same
    exact ⟨x, found, rfl⟩
  · rintro ⟨x, found, rfl⟩
    exact ⟨(x, rest), found, rfl⟩

namespace Decoder

variable {α : Type} {decoder : Decoder α} {wary : Prop}

/-- What the decoder makes of a text is what it makes of the value that the text writes. A wary one does not
    read objects that repeat a name, though they have a value. -/
def Follows (decoder : Decoder α) (wary : Prop) : Prop :=
  ∀ levels, GoesBy (decoder.read levels) fun tree x =>
    (wary → tree.NamesOnce) ∧ ∃ value, tree.Means levels value ∧ decoder.ofJson value = .ok x

theorem Follows.of_iff {other : Prop} (follows : decoder.Follows wary) (same : wary ↔ other) :
    decoder.Follows other := by
  rwa [← propext same]

theorem follows_json : json.Follows False := by
  intro levels bytes x rest
  have read := readValue_goesBy levels bytes x rest
  simpa [json] using read

theorem follows_string : string.Follows False := by
  intro levels bytes s rest
  have read : string.read levels bytes = .ok (s, rest) ↔ NameAt bytes s rest := readStringAs_iff
  rw [read, ← at_string_iff]
  simp [ofJson_string_iff, means_string_iff]

theorem ofJson_unsigned_iff {expected : String} {limit k : Nat} {value : Json} :
    (unsigned expected limit).ofJson value = .ok k ↔
      ∃ n, value = .number n ∧ unsignedOfNumber expected limit n = .ok k := by
  cases value <;> simp [unsigned]

theorem follows_unsigned (expected : String) (limit : Nat) :
    (unsigned expected limit).Follows False := by
  intro levels bytes k rest
  have read : (unsigned expected limit).read levels bytes = .ok (k, rest) ↔
      ∃ n, At bytes (.number (some n)) rest ∧ unsignedOfNumber expected limit n = .ok k := by
    simp only [at_number_iff, unsigned]
    cases skipBlanks bytes with
    | nil => simp
    | cons b behind =>
      dsimp only
      split
      · rename_i starts
        simp [bind_eq_ok_iff, map_eq_ok_iff, starts]
      · rename_i other
        simp [other]
  rw [read]
  simp only [ofJson_unsigned_iff]
  constructor
  · rintro ⟨n, there, number⟩
    exact ⟨_, there, ⟨False.elim, _, means_number_iff.mpr rfl, n, rfl, number⟩⟩
  · rintro ⟨tree, there, _, _, means, n, rfl, number⟩
    cases means_number_iff.mp means
    exact ⟨n, there, number⟩

theorem follows_optional (follows : decoder.Follows wary) : decoder.optional.Follows wary := by
  intro levels bytes x rest
  simp only [ofJson_optional_iff]
  by_cases null : ∃ behind, skipBlanks bytes = 0x6e :: behind
  · obtain ⟨behind, front⟩ := null
    have here : decoder.optional.read levels bytes = .ok (x, rest) ↔
        At bytes .null rest ∧ x = none := by
      simp only [at_null_iff, optional, front, if_true, List.cons.injEq, true_and, exists_eq_left']
      constructor
      · intro read
        obtain ⟨last, passed, same⟩ := bind_eq_ok_iff.mp read
        cases same
        exact ⟨passed, rfl⟩
      · rintro ⟨passed, rfl⟩
        rw [passed]
        rfl
    rw [here]
    constructor
    · rintro ⟨there, rfl⟩
      exact ⟨.null, there, fun _ => trivial, .null, means_null.mpr rfl, .inl ⟨rfl, rfl⟩⟩
    · rintro ⟨tree, there, _, value, means, given⟩
      obtain ⟨rfl, _⟩ := (at_scalar_iff front (by decide) (by decide)).mp there
      cases means_null.mp means
      exact ⟨there, by simpa using given⟩
  · have present : ∀ {tree value}, At bytes tree rest → tree.Means levels value → value ≠ .null := by
      rintro tree _ there means rfl
      cases means_null_iff.mp means
      obtain ⟨behind, front, _⟩ := at_null_iff.mp there
      exact null ⟨behind, front⟩
    have here : decoder.optional.read levels bytes = .ok (x, rest) ↔
        ∃ y, decoder.read levels (skipBlanks bytes) = .ok (y, rest) ∧ x = some y := by
      cases front : skipBlanks bytes with
      | nil =>
        have blank : skipBlanks ([] : Octets) = [] := rfl
        simp [optional, front, follows levels _ _ _, not_at_nil blank]
      | cons b behind =>
        have other : b ≠ 0x6e := fun same => null ⟨behind, same ▸ front⟩
        simp only [optional, front, if_neg other]
        exact read_and_eq_ok_iff
    rw [here]
    simp only [follows levels _ _ _]
    constructor
    · rintro ⟨y, ⟨tree, there, once, value, means, read⟩, rfl⟩
      have there := there.of_skipBlanks (skipBlanks_idem bytes).symm
      exact ⟨tree, there, once, value, means, .inr ⟨present there means, y, read, rfl⟩⟩
    · rintro ⟨tree, there, once, value, means, ⟨absent, _⟩ | ⟨_, y, read, rfl⟩⟩
      · exact absurd absent (present there means)
      · exact ⟨y, ⟨tree, there.of_skipBlanks (skipBlanks_idem bytes), once, value, means, read⟩, rfl⟩

end Decoder

theorem Parse.At.object_front {bytes rest : Octets} {members : List (Option String × Parse)}
    (there : At bytes (.object members) rest) :
    ∃ behind, skipBlanks bytes = Octet.openBrace :: behind := by
  obtain ⟨b, behind, front, _⟩ := there.front
  by_cases object : b = Octet.openBrace
  · exact ⟨behind, object ▸ front⟩
  by_cases list : b = Octet.openBracket
  · subst list
    obtain ⟨_, same, _⟩ := (at_list_iff front).mp there
    cases same
  · obtain ⟨same, _⟩ := (at_scalar_iff front list object).mp there
    unfold ofScalar at same
    repeat' split at same
    all_goals cases same

theorem at_choice_iff {bytes behind rest : Octets} {name : String}
    (front : skipBlanks bytes = Octet.openBrace :: behind) :
    At bytes (.object [(some name, .null)]) rest ↔ ∃ left start last, NameAt behind name left ∧
      passColon left = .ok start ∧ At start .null last ∧ skipBlanks last = Octet.closeBrace :: rest := by
  have members : At bytes (.object [(some name, .null)]) rest ↔
      MembersAt true behind [(some name, .null)] rest := by
    simp [at_object_iff front]
  rw [members, members_iff]
  constructor
  · intro step
    cases step with
    | next starts here further =>
      obtain ⟨start, key, null⟩ := here
      obtain ⟨b, tail, front, other, rfl⟩ := Starts.first_iff.mp starts
      obtain ⟨left, ⟨letters, quote, read⟩, colon⟩ := keyAt_some_iff.mp key
      cases members_iff.mp further with
      | done closes =>
        have same := (skipBlanks_of_front front).symm.trans quote
        exact ⟨left, start, _, ⟨letters, front.trans same, read⟩, colon, null, closes⟩
  · rintro ⟨left, start, last, ⟨letters, quote, read⟩, colon, null, closes⟩
    have starts : Starts Octet.closeBrace true behind (Octet.quote :: letters) :=
      Starts.first_iff.mpr ⟨_, _, quote, by decide, rfl⟩
    have name : NameAt (Octet.quote :: letters) name left := ⟨letters, skipBlanks_of_front quote, read⟩
    exact .next starts ⟨start, keyAt_some_iff.mpr ⟨left, name, colon⟩, null⟩
      (members_iff.mpr (.done closes))

theorem means_choice_iff {tree : Parse} {levels : Nat} {name : String} :
    tree.NamesOnce ∧ tree.Means levels (.object [(name, .null)]) ↔
      levels ≠ 0 ∧ tree = .object [(some name, .null)] := by
  constructor
  · rintro ⟨once, means⟩
    cases tree with
    | object members =>
      obtain ⟨inner, known, rfl, fit, same⟩ := means_object.mp means
      have kept : (insertAll [] known).Perm known := perm_insertAll (nodup_of_matches fit once)
      have same : insertAll [] known = [(name, .null)] := (Json.object.inj same).symm
      rw [same, List.singleton_perm] at kept
      subst kept
      cases fit with
      | @cons member _ _ _ first others =>
        cases others
        obtain ⟨key, tree⟩ := member
        obtain ⟨rfl, null⟩ := first
        cases means_null_iff.mp null
        exact ⟨Nat.succ_ne_zero inner, rfl⟩
    | _ => simp [means_null, means_bool, means_number, means_string, means_array] at means
  · rintro ⟨some, rfl⟩
    obtain ⟨inner, rfl⟩ := Nat.exists_eq_add_one_of_ne_zero some
    refine ⟨List.nodup_singleton _, means_object.mpr ⟨inner, [(name, .null)], rfl, ?_, rfl⟩⟩
    exact .cons ⟨rfl, means_null.mpr rfl⟩ .nil

namespace Decoder

variable {α : Type} {choices : List (String × α)} {bytes rest : Octets} {x : α} {levels : Nat}

theorem read_choice_name {behind : Octets} (front : skipBlanks bytes = Octet.quote :: behind) :
    (choice choices).read levels bytes = .ok (x, rest) ↔
      ∃ name, choices.lookup name = some x ∧ NameAt bytes name rest := by
  simp only [choice, front, if_true, NameAt, ← named_iff]
  constructor
  · intro read
    obtain ⟨⟨name, left⟩, name?, read⟩ := bind_eq_ok_iff.mp read
    obtain ⟨y, found, same⟩ := bind_eq_ok_iff.mp read
    cases same
    exact ⟨name, found, behind, rfl, name?⟩
  · rintro ⟨name, found, _, same, read⟩
    cases same
    rw [read, ok_bind]
    dsimp only
    rw [found]
    rfl

theorem read_choice_object {behind : Octets} (front : skipBlanks bytes = Octet.openBrace :: behind) :
    (choice choices).read levels bytes = .ok (x, rest) ↔
      ∃ name, choices.lookup name = some x ∧ levels ≠ 0 ∧
        At bytes (.object [(some name, .null)]) rest := by
  have other : Octet.openBrace ≠ Octet.quote := by decide
  simp only [choice, front, if_neg other, if_true, at_choice_iff front, ← named_iff]
  split
  · rename_i flat
    simp [flat]
  · rename_i deep
    constructor
    · intro read
      obtain ⟨⟨name, left⟩, name?, read⟩ := bind_eq_ok_iff.mp read
      obtain ⟨y, found, read⟩ := bind_eq_ok_iff.mp read
      obtain ⟨start, colon, read⟩ := bind_eq_ok_iff.mp read
      obtain ⟨last, null, read⟩ := bind_eq_ok_iff.mp read
      split at read
      · cases read
      · rename_i b tail closes
        split at read
        · rename_i brace
          cases read
          exact ⟨name, found, deep, left, start, last, readStringAs_iff.mp name?, colon,
            passNull_iff.mp null, brace ▸ closes⟩
        · cases read
    · rintro ⟨name, found, _, left, start, last, name?, colon, null, closes⟩
      rw [readStringAs_iff.mpr name?, ok_bind]
      dsimp only
      rw [found, ok_bind, colon, ok_bind, passNull_iff.mpr null, ok_bind, closes]
      rfl

theorem read_choice_iff : (choice choices).read levels bytes = .ok (x, rest) ↔
    ∃ name, choices.lookup name = some x ∧ (At bytes (.string (some name)) rest ∨
      levels ≠ 0 ∧ At bytes (.object [(some name, .null)]) rest) := by
  simp only [at_string_iff]
  by_cases quote : ∃ behind, skipBlanks bytes = Octet.quote :: behind
  · obtain ⟨behind, front⟩ := quote
    have noObject : ∀ name, ¬ At bytes (.object [(some name, .null)]) rest := by
      intro name there
      obtain ⟨_, brace⟩ := there.object_front
      cases front.symm.trans brace
    simp only [read_choice_name front, noObject, and_false, or_false]
  have noName : ∀ name, ¬ NameAt bytes name rest := fun name ⟨behind, front, _⟩ => quote ⟨behind, front⟩
  by_cases brace : ∃ behind, skipBlanks bytes = Octet.openBrace :: behind
  · obtain ⟨behind, front⟩ := brace
    simp only [read_choice_object front, noName, false_or]
  have noObject : ∀ name, ¬ At bytes (.object [(some name, .null)]) rest :=
    fun name there => brace there.object_front
  simp only [noName, noObject, and_false, or_false, exists_false, iff_false]
  unfold choice
  dsimp only
  split
  · nofun
  · rename_i b behind front
    have noQuote : b ≠ Octet.quote := fun same => quote ⟨behind, same ▸ front⟩
    have noBrace : b ≠ Octet.openBrace := fun same => brace ⟨behind, same ▸ front⟩
    rw [if_neg noQuote, if_neg noBrace]
    nofun

theorem follows_choice (choices : List (String × α)) : (choice choices).Follows True := by
  intro levels bytes x rest
  simp only [read_choice_iff, ofJson_choice_iff]
  constructor
  · rintro ⟨name, found, there | ⟨deep, there⟩⟩
    · exact ⟨_, there, fun _ => trivial, _, means_string_iff.mpr rfl, name, found, .inl rfl⟩
    · obtain ⟨once, means⟩ := means_choice_iff.mpr ⟨deep, rfl⟩
      exact ⟨_, there, fun _ => once, _, means, name, found, .inr rfl⟩
  · rintro ⟨tree, there, once, value, means, name, found, rfl | rfl⟩
    · cases means_string_iff.mp means
      exact ⟨name, found, .inl there⟩
    · obtain ⟨deep, rfl⟩ := means_choice_iff.mp ⟨once trivial, means⟩
      exact ⟨name, found, .inr ⟨deep, there⟩⟩

end Decoder

end EventRelay.Json
