import EventRelay.Proofs.Json.Records
import EventRelay.Proofs.Json.Values

namespace EventRelay.Json

section Containers

variable {α σ : Type} {fuel : Nat} {first : Bool} {bytes rest : Octets}

theorem readItems_forall {item : Octets → Except Fault (α × Octets)} {good : α → Prop}
    (sound : ∀ bytes x rest, item bytes = .ok (x, rest) → good x) {xs : List α}
    (read : readItems item fuel first bytes = .ok (xs, rest)) : ∀ x ∈ xs, good x := by
  induction fuel generalizing first bytes xs rest with
  | zero => cases read
  | succ fuel ih =>
    rw [readItems] at read
    obtain ⟨next, _, read⟩ := bind_eq_ok_iff.mp read
    cases next with
    | none =>
      cases read
      exact fun _ none => absurd none List.not_mem_nil
    | some bytes =>
      obtain ⟨⟨x, behind⟩, here, read⟩ := bind_eq_ok_iff.mp read
      obtain ⟨⟨others, behind⟩, further, same⟩ := bind_eq_ok_iff.mp read
      cases same
      exact List.forall_mem_cons.mpr ⟨sound _ _ _ here, ih further⟩

theorem readMembers_keeps {member : String → σ → Octets → Except Fault (σ × Octets)}
    {good : σ → Prop}
    (kept : ∀ key known bytes next rest,
      good known → member key known bytes = .ok (next, rest) → good next) {known final : σ}
    (start : good known) (read : readMembers member fuel first known bytes = .ok (final, rest)) :
    good final := by
  induction fuel generalizing first bytes known with
  | zero => cases read
  | succ fuel ih =>
    rw [readMembers] at read
    obtain ⟨next, _, read⟩ := bind_eq_ok_iff.mp read
    cases next with
    | none =>
      cases read
      exact start
    | some next =>
      obtain ⟨key, bytes⟩ := next
      obtain ⟨⟨next, behind⟩, here, read⟩ := bind_eq_ok_iff.mp read
      exact ih (kept _ _ _ _ _ start here) read

end Containers

/-- Whether the value is one that a reader can give that goes so many levels deep. -/
structure Within (levels : Nat) (x : Json) : Prop where
  ordered : x.Ordered
  shallow : x.depth ≤ levels

namespace Within

variable {levels : Nat} {bytes rest : Octets} {x : Json}

theorem array {items : List Json} (within : ∀ x ∈ items, Within levels x) :
    Within (levels + 1) (.array items) := by
  have shallow : itemsDepth items ≤ levels := by
    induction items with
    | nil => exact Nat.zero_le levels
    | cons x items ih =>
      obtain ⟨here, others⟩ := List.forall_mem_cons.mp within
      exact Nat.max_le.mpr ⟨here.shallow, ih others⟩
  exact ⟨itemsOrdered_iff.mpr fun x among => (within x among).ordered, Nat.succ_le_succ shallow⟩

theorem object {members : List (String × Json)} (ordered : (members.map (·.1)).Pairwise (· < ·))
    (within : ∀ member ∈ members, Within levels member.2) :
    Within (levels + 1) (.object members) := by
  have shallow := membersDepth_le fun member among => (within member among).shallow
  have inside := membersOrdered_iff.mpr fun member among => (within member among).ordered
  exact ⟨⟨ordered, inside⟩, Nat.succ_le_succ shallow⟩

theorem of_readScalar {b : UInt8} (read : readScalar b bytes = .ok (x, rest)) : Within levels x := by
  have flat : ∀ {x : Json}, x.Ordered → x.depth = 0 → Within levels x :=
    fun ordered flat => ⟨ordered, flat ▸ Nat.zero_le levels⟩
  unfold readScalar at read
  repeat' split at read
  pick_goal 6
  · cases read
  all_goals
    obtain ⟨_, _, same⟩ := bind_eq_ok_iff.mp read
    cases same
    exact flat trivial rfl

theorem of_readInto {key : String} {known final : List (String × Json)}
    (sound : ∀ bytes x rest, readValue levels bytes = .ok (x, rest) → Within levels x)
    (start : (known.map (·.1)).Pairwise (· < ·) ∧ ∀ member ∈ known, Within levels member.2)
    (read : readInto levels key known bytes = .ok (final, rest)) :
    (final.map (·.1)).Pairwise (· < ·) ∧ ∀ member ∈ final, Within levels member.2 := by
  obtain ⟨bytes, _, read⟩ := bind_eq_ok_iff.mp read
  obtain ⟨⟨x, behind⟩, here, same⟩ := bind_eq_ok_iff.mp read
  cases same
  refine ⟨ordered_insert start.1, fun member among => ?_⟩
  rcases mem_insert among with rfl | among
  · exact sound _ _ _ here
  · exact start.2 member among

theorem of_readValue (read : readValue levels bytes = .ok (x, rest)) : Within levels x := by
  induction levels generalizing bytes x rest with
  | zero =>
    rw [readValue] at read
    cases front : skipBlanks bytes with
    | nil => simp only [front, reduceCtorEq] at read
    | cons b behind =>
      simp only [front] at read
      split at read
      · cases read
      · split at read
        · cases read
        · exact of_readScalar read
  | succ levels ih =>
    have sound : ∀ bytes x rest, readValue levels bytes = .ok (x, rest) → Within levels x :=
      fun _ _ _ inner => ih inner
    rw [readValue] at read
    cases front : skipBlanks bytes with
    | nil => simp only [front, reduceCtorEq] at read
    | cons b behind =>
      simp only [front] at read
      split at read
      · obtain ⟨⟨items, behind⟩, inner, read⟩ := bind_eq_ok_iff.mp read
        obtain ⟨_, _, same⟩ := bind_eq_ok_iff.mp read
        cases same
        exact array (readItems_forall sound inner)
      · split at read
        · obtain ⟨⟨members, behind⟩, inner, read⟩ := bind_eq_ok_iff.mp read
          obtain ⟨_, _, same⟩ := bind_eq_ok_iff.mp read
          cases same
          obtain ⟨ordered, within⟩ :=
            readMembers_keeps (fun _ _ _ _ _ start step => of_readInto sound start step)
              ⟨List.Pairwise.nil, fun _ none => absurd none List.not_mem_nil⟩ inner
          exact object ordered within
        · exact of_readScalar read

end Within

namespace Field

/-- Whether the value was read as this field's, where so many levels of nesting were left. -/
def WasRead (field : Field) (levels : Nat) (x : field.Value) : Prop :=
  ∃ bytes rest, field.decoder.read levels bytes = .ok (x, rest)

def Gives (field : Field) (levels : Nat) (x : field.Value) : Prop :=
  field.WasRead levels x ∨ field.whenMissing = some x ∨ field.whenShort = some x

end Field

def Given (levels : Nat) : (fields : List Field) → Values fields → Prop
  | [], () => True
  | field :: fields, (x, xs) => field.Gives levels x ∧ Given levels fields xs

namespace Slots

variable {levels : Nat} {bytes rest : Octets}

def WereRead (levels : Nat) : (fields : List Field) → Slots fields → Prop
  | [], () => True
  | field :: fields, (slot, slots) =>
    (∀ x ∈ slot, field.WasRead levels x) ∧ WereRead levels fields slots

theorem wereRead_empty (fields : List Field) : WereRead levels fields (empty fields) := by
  induction fields with
  | nil => trivial
  | cons field fields ih => exact ⟨nofun, ih⟩

theorem wereRead_of_readMember {key : String} {fields : List Field} {slots next : Slots fields}
    (known : WereRead levels fields slots)
    (read : readMember levels key fields slots bytes = .ok (next, rest)) :
    WereRead levels fields next := by
  induction fields generalizing bytes with
  | nil => trivial
  | cons field fields ih =>
    obtain ⟨slot, slots⟩ := slots
    obtain ⟨here, others⟩ := known
    simp only [readMember] at read
    split at read
    · cases slot with
      | some x => cases read
      | none =>
        obtain ⟨behind, _, read⟩ := bind_eq_ok_iff.mp read
        obtain ⟨⟨x, behind⟩, value, same⟩ := bind_eq_ok_iff.mp read
        cases same
        refine ⟨fun y known => ?_, others⟩
        cases known
        exact ⟨_, _, value⟩
    · obtain ⟨⟨later, behind⟩, member, same⟩ := bind_eq_ok_iff.mp read
      cases same
      exact ⟨here, ih others member⟩

theorem given_of_values {fields : List Field} {slots : Slots fields} {xs : Values fields}
    (known : WereRead levels fields slots) (read : slots.values = .ok xs) :
    Given levels fields xs := by
  induction fields with
  | nil => trivial
  | cons field fields ih =>
    obtain ⟨slot, slots⟩ := slots
    obtain ⟨x, xs⟩ := xs
    obtain ⟨value, others⟩ := (values_cons_iff slot slots x xs).mp read
    refine ⟨?_, ih known.2 others⟩
    cases slot with
    | some y => exact .inl (known.1 x value)
    | none => exact .inr (.inl value)

end Slots

namespace Shape

variable (shape : Shape) {levels : Nat} {bytes rest : Octets}

theorem readItems_cons_iff {index : Nat} {field : Field} {fields : List Field} {x : field.Value}
    {xs : Values fields} :
    shape.readItems levels index (field :: fields) bytes = .ok ((x, xs), rest) ↔
      (∃ start after, nextItem (index == 0) bytes = .ok (some start) ∧
        field.decoder.read levels start = .ok (x, after) ∧
        shape.readItems levels (index + 1) fields after = .ok (xs, rest)) ∨
      nextItem (index == 0) bytes = .ok none ∧ field.whenShort = some x ∧
        shape.readItems levels (index + 1) fields bytes = .ok (xs, rest) := by
  rw [readItems]
  constructor
  · intro read
    obtain ⟨next, found, read⟩ := bind_eq_ok_iff.mp read
    cases next with
    | some start =>
      obtain ⟨⟨y, after⟩, item, read⟩ := bind_eq_ok_iff.mp read
      obtain ⟨⟨ys, last⟩, further, same⟩ := bind_eq_ok_iff.mp read
      cases same
      exact .inl ⟨start, after, found, item, further⟩
    | none =>
      dsimp only at read
      split at read
      · rename_i y short
        obtain ⟨⟨ys, last⟩, further, same⟩ := bind_eq_ok_iff.mp read
        cases same
        exact .inr ⟨found, short, further⟩
      · cases read
  · rintro (⟨start, after, found, item, further⟩ | ⟨found, short, further⟩)
    · rw [found, ok_bind]
      dsimp only
      rw [item, ok_bind]
      dsimp only
      rw [further]
      rfl
    · rw [found, ok_bind]
      dsimp only
      rw [short]
      dsimp only
      rw [further]
      rfl

theorem given_of_readItems {index : Nat} {fields : List Field} {xs : Values fields}
    (read : shape.readItems levels index fields bytes = .ok (xs, rest)) : Given levels fields xs := by
  induction fields generalizing index bytes rest with
  | nil => trivial
  | cons field fields ih =>
    rcases shape.readItems_cons_iff.mp read with ⟨_, _, _, item, further⟩ | ⟨_, short, further⟩
    · exact ⟨.inl ⟨_, _, item⟩, ih further⟩
    · exact ⟨.inr (.inr short), ih further⟩

theorem given_of_read {xs : Values shape.fields}
    (read : shape.read levels bytes = .ok (xs, rest)) :
    ∃ inner, levels = inner + 1 ∧ Given inner shape.fields xs := by
  unfold Shape.read at read
  repeat' split at read
  · cases read
  · cases read
  · rename_i inner
    obtain ⟨⟨found, behind⟩, items, read⟩ := bind_eq_ok_iff.mp read
    obtain ⟨_, _, same⟩ := bind_eq_ok_iff.mp read
    cases same
    exact ⟨inner, rfl, shape.given_of_readItems items⟩
  · cases read
  · rename_i inner
    obtain ⟨⟨slots, behind⟩, members, read⟩ := bind_eq_ok_iff.mp read
    obtain ⟨found, values, read⟩ := bind_eq_ok_iff.mp read
    obtain ⟨_, _, same⟩ := bind_eq_ok_iff.mp read
    cases same
    have known := readMembers_keeps
      (fun _ _ _ _ _ known member => Slots.wereRead_of_readMember known member)
      (Slots.wereRead_empty shape.fields) members
    exact ⟨inner, rfl, Slots.given_of_values known values⟩
  · cases read

end Shape

end EventRelay.Json
