import Mathlib.Data.List.Forall2
import EventRelay.Json.Record
import EventRelay.Proofs.Json.Strings

namespace EventRelay.Json

def under (name : String) (members : List (String × Json)) : List Json :=
  (members.filter (·.1 = name)).map (·.2)

structure Entry where
  name : String
  written : Json → Prop
  missing : Prop
  short : Prop

namespace Entry

def required (name : String) (written : Json → Prop) : Entry := ⟨name, written, False, False⟩

def defaulted (name : String) (written : Json → Prop) (standard : Prop) : Entry :=
  ⟨name, written, standard, standard⟩

/-- Whether an object has the field once, or lacks it and may do so. -/
def InObject (entry : Entry) (members : List (String × Json)) : Prop :=
  (∃ value, under entry.name members = [value] ∧ entry.written value) ∨
    under entry.name members = [] ∧ entry.missing

/-- Whether a list has the fields at its front, as many as it has items, and lacks the others. -/
def inList : List Entry → List Json → Prop
  | [], items => items = []
  | entry :: entries, [] => entry.short ∧ inList entries []
  | entry :: entries, item :: items => entry.written item ∧ inList entries items

end Entry

/-- Whether the value is one of the forms of a record with these fields. -/
def IsRecord (entries : List Entry) : Json → Prop
  | .object members => ∀ entry ∈ entries, entry.InObject members
  | .array items => Entry.inList entries items
  | _ => False

def Field.entry (field : Field) (x : field.Value) : Entry where
  name := field.name
  written value := field.decoder.ofJson value = .ok x
  missing := field.whenMissing = some x
  short := field.whenShort = some x

def entries : (fields : List Field) → Values fields → List Entry
  | [], () => []
  | field :: fields, (x, xs) => field.entry x :: entries fields xs

section Under

variable {key name : String}

theorem under_cons_same (name : String) (value : Json) (members : List (String × Json)) :
    under name ((name, value) :: members) = value :: under name members := by
  simp [under]

theorem under_cons_other (other : key ≠ name) (value : Json) (members : List (String × Json)) :
    under name ((key, value) :: members) = under name members := by
  simp [under, other]

theorem perm_under {members others : List (String × Json)} (perm : members.Perm others) :
    (under name members).Perm (under name others) :=
  (perm.filter _).map _

section Members

variable {members : List (String × Json)} {x : Json}

theorem mem_of_under (found : under name members = [x]) : (name, x) ∈ members := by
  have among : x ∈ under name members := found ▸ List.mem_singleton_self x
  obtain ⟨member, there, rfl⟩ := List.mem_map.mp among
  obtain ⟨inside, named⟩ := List.mem_filter.mp there
  obtain rfl : member.1 = name := of_decide_eq_true named
  exact inside

theorem under_eq_nil_iff : under name members = [] ↔ name ∉ members.map (·.1) := by
  simp only [under, List.map_eq_nil_iff, List.filter_eq_nil_iff, decide_eq_true_eq, List.mem_map,
    not_exists, not_and]

theorem under_of_mem (once : (members.map (·.1)).Nodup) (among : (name, x) ∈ members) :
    under name members = [x] := by
  induction members with
  | nil => cases among
  | cons member members ih =>
    obtain ⟨new, once⟩ := List.nodup_cons.mp once
    rcases List.mem_cons.mp among with rfl | among
    · rw [under_cons_same, under_eq_nil_iff.mpr new]
    · have other : member.1 ≠ name := by
        intro same
        exact new (List.mem_map.mpr ⟨_, among, same.symm⟩)
      rw [under_cons_other other, ih once among]

end Members

end Under

theorem name_of_entries {fields : List Field} {xs : Values fields} {entry : Entry}
    (among : entry ∈ entries fields xs) : entry.name ∈ fields.map Field.name := by
  induction fields with
  | nil => cases among
  | cons field fields ih =>
    obtain ⟨x, xs⟩ := xs
    rcases List.mem_cons.mp among with rfl | among
    · exact List.mem_cons_self
    · exact List.mem_cons_of_mem _ (ih among)

namespace Entry

variable {entry : Entry} {members others : List (String × Json)}

theorem inObject_congr (same : under entry.name members = under entry.name others) :
    entry.InObject members ↔ entry.InObject others := by
  rw [InObject, InObject, same]

theorem InObject.of_perm (perm : members.Perm others) (inside : entry.InObject members) :
    entry.InObject others := by
  have same := @perm_under entry.name _ _ perm
  rcases inside with ⟨value, found, written⟩ | ⟨nothing, missing⟩
  · rw [found, List.singleton_perm] at same
    exact .inl ⟨value, same.symm, written⟩
  · rw [nothing, List.nil_perm] at same
    exact .inr ⟨same, missing⟩

theorem inObject_perm (perm : members.Perm others) :
    entry.InObject members ↔ entry.InObject others :=
  ⟨.of_perm perm, .of_perm perm.symm⟩

end Entry

theorem pair_eq_ok_iff {α β : Type} (x a : α) (second : Except Fault β) (b : β) :
    (second >>= fun y => pure (x, y)) = .ok (a, b) ↔ x = a ∧ second = .ok b := by
  cases second with
  | error fault => exact ⟨nofun, nofun⟩
  | ok y => simp [ok_bind, pure, Except.pure]

namespace Slots

variable {field : Field} {fields : List Field}

theorem putMember_unknown {key : String} (unknown : key ∉ fields.map Field.name) (value : Json)
    (slots : Slots fields) : putMember key value fields slots = .ok slots := by
  induction fields with
  | nil => rfl
  | cons field fields ih =>
    obtain ⟨slot, slots⟩ := slots
    rw [List.map_cons, List.mem_cons, not_or] at unknown
    have other : field.name ≠ key := fun same => unknown.1 same.symm
    simp only [putMember, if_neg other, ih unknown.2, ok_bind]
    rfl

def Fills (field : Field) (members : List (String × Json)) (slot filled : Option field.Value) : Prop :=
  (under field.name members = [] ∧ filled = slot) ∨
    slot = none ∧ ∃ value x, under field.name members = [value] ∧
      field.decoder.ofJson value = .ok x ∧ filled = some x

section Fills

variable {members : List (String × Json)} {slot filled : Option field.Value}

theorem fills_some {x : field.Value} :
    Fills field members (some x) filled ↔ under field.name members = [] ∧ filled = some x := by
  simp [Fills]

theorem fills_again {value : Json} {x : field.Value} :
    ¬ Fills field ((field.name, value) :: members) (some x) filled := by
  simp [fills_some, under_cons_same]

theorem fills_first {value : Json} : Fills field ((field.name, value) :: members) none filled ↔
    ∃ x, field.decoder.ofJson value = .ok x ∧ Fills field members (some x) filled := by
  rw [Fills, under_cons_same]
  simp only [fills_some, List.cons_ne_nil, false_and, false_or, true_and, List.cons.injEq]
  constructor
  · rintro ⟨_, x, ⟨rfl, none⟩, read, same⟩
    exact ⟨x, read, none, same⟩
  · rintro ⟨x, read, none, same⟩
    exact ⟨value, x, ⟨rfl, none⟩, read, same⟩

theorem fills_other {key : String} (other : key ≠ field.name) (value : Json) :
    Fills field ((key, value) :: members) slot filled ↔ Fills field members slot filled := by
  rw [Fills, under_cons_other other, Fills]

end Fills

theorem putMembers_cons_iff (distinct : field.name ∉ fields.map Field.name)
    (members : List (String × Json)) (slot filled : Option field.Value) (slots final : Slots fields) :
    putMembers (field :: fields) members (slot, slots) = .ok (filled, final) ↔
      Fills field members slot filled ∧ putMembers fields members slots = .ok final := by
  induction members generalizing slot slots with
  | nil => simp [putMembers, Fills, under, eq_comm]
  | cons member members ih =>
    obtain ⟨key, value⟩ := member
    by_cases same : field.name = key
    · subst same
      have passed := putMember_unknown distinct value slots
      simp only [putMembers, putMember, if_true, passed, ok_bind]
      cases slot with
      | some x => simp [fills_again, error_bind]
      | none =>
        rw [fills_first]
        cases read : field.decoder.ofJson value with
        | error fault => simp [error_bind]
        | ok x =>
          simp only [ok_bind, pure_bind, ih, Except.ok.injEq, exists_eq_left']
    · rw [fills_other fun back => same back.symm]
      simp only [putMembers, putMember, if_neg same, bind_assoc, pure_bind]
      cases put : putMember key value fields slots with
      | error fault => simp [error_bind]
      | ok next => exact ih slot next

theorem values_cons_iff (slot : Option field.Value) (slots : Slots fields) (x : field.Value)
    (xs : Values fields) : values (field :: fields) (slot, slots) = .ok (x, xs) ↔
      (slot <|> field.whenMissing) = some x ∧ values fields slots = .ok xs := by
  rw [values]
  cases (slot <|> field.whenMissing) with
  | none => simp
  | some y =>
    rw [Option.some.injEq]
    exact pair_eq_ok_iff y x (values fields slots) xs

/-- What is known of a field in the end, if it is known at all or may be missing. -/
theorem filled_iff (members : List (String × Json)) (x : field.Value) :
    (∃ filled, Fills field members none filled ∧ (filled <|> field.whenMissing) = some x) ↔
      (field.entry x).InObject members := by
  constructor
  · rintro ⟨filled, nothing | ⟨_, value, y, found, read, rfl⟩, known⟩
    · obtain ⟨nothing, rfl⟩ := nothing
      exact .inr ⟨nothing, known⟩
    · obtain rfl : y = x := Option.some.inj known
      exact .inl ⟨value, found, read⟩
  · rintro (⟨value, found, read⟩ | ⟨nothing, missing⟩)
    · exact ⟨some x, .inr ⟨rfl, value, x, found, read, rfl⟩, rfl⟩
    · exact ⟨none, .inl ⟨nothing, rfl⟩, missing⟩

theorem values_putMembers_iff (distinct : (fields.map Field.name).Nodup)
    (members : List (String × Json)) (xs : Values fields) :
    (putMembers fields members (empty fields) >>= values fields) = .ok xs ↔
      ∀ entry ∈ entries fields xs, entry.InObject members := by
  rw [bind_eq_ok_iff]
  induction fields with
  | nil =>
    have nothing : putMembers [] members (empty []) = .ok () := by
      induction members with
      | nil => rfl
      | cons member members ih => exact ih
    simp [nothing, values, entries]
  | cons field fields ih =>
    obtain ⟨x, xs⟩ := xs
    obtain ⟨new, distinct⟩ := List.nodup_cons.mp distinct
    rw [entries, List.forall_mem_cons, ← filled_iff]
    constructor
    · rintro ⟨⟨filled, slots⟩, put, known⟩
      obtain ⟨fills, put⟩ := (putMembers_cons_iff new members _ _ _ _).mp put
      obtain ⟨first, rest⟩ := (values_cons_iff filled slots x xs).mp known
      exact ⟨⟨filled, fills, first⟩, (ih distinct xs).mp ⟨slots, put, rest⟩⟩
    · rintro ⟨⟨filled, fills, first⟩, others⟩
      obtain ⟨slots, put, rest⟩ := (ih distinct xs).mpr others
      exact ⟨(filled, slots), (putMembers_cons_iff new members _ _ _ _).mpr ⟨fills, put⟩,
        (values_cons_iff filled slots x xs).mpr ⟨first, rest⟩⟩

end Slots

theorem Shape.takeItems_iff (shape : Shape) (length index : Nat) {fields : List Field}
    (items : List Json) (xs : Values fields) :
    shape.takeItems length index fields items = .ok xs ↔ Entry.inList (entries fields xs) items := by
  induction fields generalizing index items with
  | nil => cases items <;> simp [Shape.takeItems, entries, Entry.inList]
  | cons field fields ih =>
    obtain ⟨x, xs⟩ := xs
    cases items with
    | nil =>
      rw [takeItems, entries, Entry.inList, ← ih (index + 1)]
      cases short : field.whenShort with
      | none => simp [Field.entry, short]
      | some y =>
        have both := pair_eq_ok_iff y x (shape.takeItems length (index + 1) fields []) xs
        simpa only [Field.entry, short, Option.some.injEq] using both
    | cons item items =>
      rw [takeItems, entries, Entry.inList, ← ih (index + 1)]
      cases read : field.decoder.ofJson item with
      | error fault => simp [Field.entry, read, error_bind]
      | ok y =>
        have both := pair_eq_ok_iff y x (shape.takeItems length (index + 1) fields items) xs
        simpa only [Field.entry, read, ok_bind, Except.ok.injEq] using both

/-- A record is taken from a value exactly if that is one of its forms. -/
theorem Shape.ofJson_iff (shape : Shape) (distinct : (shape.fields.map Field.name).Nodup) (value : Json)
    (xs : Values shape.fields) :
    shape.ofJson value = .ok xs ↔ IsRecord (entries shape.fields xs) value := by
  cases value with
  | array items => exact shape.takeItems_iff items.length 0 items xs
  | object members => exact Slots.values_putMembers_iff distinct members xs
  | _ => simp [ofJson, IsRecord]

namespace Entry

/-- Whatever is a form of a field for the one is a form of it for the other. -/
structure Implies (entry other : Entry) : Prop where
  name : entry.name = other.name
  written : ∀ value, entry.written value → other.written value
  missing : entry.missing → other.missing
  short : entry.short → other.short

theorem Implies.inObject {entry other : Entry} (implies : entry.Implies other)
    {members : List (String × Json)} (inside : entry.InObject members) : other.InObject members := by
  rcases inside with ⟨value, found, written⟩ | ⟨nothing, missing⟩
  · exact .inl ⟨value, implies.name ▸ found, implies.written value written⟩
  · exact .inr ⟨implies.name ▸ nothing, implies.missing missing⟩

section Field

variable {α : Type} {name : String} {decoder : Decoder α} {x standard : α} {written : Json → Prop}
  {isStandard : Prop}

theorem implies_required (reads : ∀ value, decoder.ofJson value = .ok x → written value) :
    ((Field.required name decoder).entry x).Implies (required name written) :=
  ⟨rfl, reads, nofun, nofun⟩

theorem required_implies (read : ∀ value, written value → decoder.ofJson value = .ok x) :
    (required name written).Implies ((Field.required name decoder).entry x) :=
  ⟨rfl, read, False.elim, False.elim⟩

theorem implies_defaulted (reads : ∀ value, decoder.ofJson value = .ok x → written value)
    (same : x = standard → isStandard) :
    ((Field.defaulted name decoder standard).entry x).Implies (defaulted name written isStandard) :=
  ⟨rfl, reads, fun missing => same (Option.some.inj missing).symm,
    fun short => same (Option.some.inj short).symm⟩

theorem defaulted_implies (read : ∀ value, written value → decoder.ofJson value = .ok x)
    (same : isStandard → x = standard) :
    (defaulted name written isStandard).Implies ((Field.defaulted name decoder standard).entry x) :=
  ⟨rfl, read, fun missing => congrArg some (same missing).symm,
    fun short => congrArg some (same short).symm⟩

end Field

theorem inList_mono {entries others : List Entry} (implied : List.Forall₂ Implies entries others)
    {items : List Json} (listed : inList entries items) : inList others items := by
  induction implied generalizing items with
  | nil => exact listed
  | cons first rest ih =>
    cases items with
    | nil => exact ⟨first.short listed.1, ih listed.2⟩
    | cons item items => exact ⟨first.written item listed.1, ih listed.2⟩

theorem inObject_mono {entries others : List Entry} (implied : List.Forall₂ Implies entries others)
    {members : List (String × Json)} (inside : ∀ entry ∈ entries, entry.InObject members) :
    ∀ entry ∈ others, entry.InObject members := by
  induction implied with
  | nil => exact inside
  | cons first rest ih =>
    obtain ⟨here, others⟩ := List.forall_mem_cons.mp inside
    exact List.forall_mem_cons.mpr ⟨first.inObject here, ih others⟩

end Entry

theorem IsRecord.mono {entries others : List Entry} {value : Json} (form : IsRecord entries value)
    (implied : List.Forall₂ Entry.Implies entries others) : IsRecord others value := by
  cases value with
  | array items => exact Entry.inList_mono implied form
  | object members => exact Entry.inObject_mono implied form
  | _ => exact form

namespace Decoder

variable {α : Type} {value : Json}

theorem ofJson_string_iff {s : String} : string.ofJson value = .ok s ↔ value = .string s := by
  cases value <;> simp [string]

theorem ofJson_optional_iff {decoder : Decoder α} {x : Option α} :
    decoder.optional.ofJson value = .ok x ↔
      value = .null ∧ x = none ∨ value ≠ .null ∧ ∃ y, decoder.ofJson value = .ok y ∧ x = some y := by
  by_cases absent : value = .null
  · subst absent
    simp [optional, eq_comm]
  · have present : decoder.optional.ofJson value = some <$> decoder.ofJson value := by
      cases value with
      | null => exact absurd rfl absent
      | _ => rfl
    rw [present, map_eq_ok_iff]
    simp only [absent, false_and, false_or, ne_eq, not_false_eq_true, true_and]
    exact exists_congr fun y => and_congr_right fun _ => eq_comm

theorem natural_of_unsigned {expected : String} {limit n : Nat}
    (read : (unsigned expected limit).ofJson value = .ok n) :
    ∃ m : UInt64, value = .natural m ∧ n = m.toNat := by
  cases value with
  | number number =>
    cases number with
    | natural m =>
      simp only [unsigned, unsignedOfNumber] at read
      split at read
      · cases read
        exact ⟨m, rfl, rfl⟩
      · cases read
    | _ => cases read
  | _ => cases read

theorem named_iff {choices : List (String × α)} {name : String} {x : α} :
    named choices name = .ok x ↔ choices.lookup name = some x := by
  unfold named
  cases choices.lookup name <;> simp

theorem lookup_iff {all : List α} {name : α → String} {x : α} (among : x ∈ all)
    (distinct : ∀ a ∈ all, ∀ b ∈ all, name a = name b → a = b) {key : String} :
    (all.map fun a => (name a, a)).lookup key = some x ↔ key = name x := by
  constructor
  · intro found
    clear among distinct
    induction all with
    | nil => cases found
    | cons a rest ih =>
      rw [List.map_cons, List.lookup_cons] at found
      split at found
      · rename_i same
        cases found
        exact eq_of_beq same
      · exact ih found
  · rintro rfl
    induction all with
    | nil => cases among
    | cons a rest ih =>
      rw [List.map_cons, List.lookup_cons]
      split
      · rename_i same
        have equal := distinct x among a List.mem_cons_self (eq_of_beq same)
        rw [equal]
      · rename_i other
        rcases List.mem_cons.mp among with rfl | among
        · simp at other
        · exact ih among fun b inRest c inRestToo =>
            distinct b (List.mem_cons_of_mem a inRest) c (List.mem_cons_of_mem a inRestToo)

theorem ofJson_choice_iff {choices : List (String × α)} {x : α} :
    (choice choices).ofJson value = .ok x ↔ ∃ name, choices.lookup name = some x ∧
      (value = .string name ∨ value = .object [(name, .null)]) := by
  simp only [← named_iff]
  cases value with
  | string name => simp [choice]
  | object members =>
    match members with
    | [] => simp [choice]
    | (name, value) :: second :: rest => simp [choice]
    | [(name, value)] =>
      simp only [choice]
      cases found : named choices name with
      | error fault => simp [error_bind, found]
      | ok y => cases value <;> simp [ok_bind, found, pure, Except.pure]
  | _ => simp [choice]

end Decoder

end EventRelay.Json
