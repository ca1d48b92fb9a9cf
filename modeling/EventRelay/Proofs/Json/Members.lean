import Mathlib.Data.String.Basic
import EventRelay.Json.Basic

namespace EventRelay.Json

@[elab_as_elim] theorem inductionOn {motive : Json → Prop} (x : Json) (null : motive .null)
    (bool : ∀ b, motive (.bool b)) (number : ∀ n, motive (.number n))
    (string : ∀ s, motive (.string s))
    (array : ∀ items, (∀ x ∈ items, motive x) → motive (.array items))
    (object : ∀ members, (∀ member ∈ members, motive member.2) → motive (.object members)) :
    motive x := by
  refine @Json.rec motive (fun items => ∀ x ∈ items, motive x)
    (fun members => ∀ member ∈ members, motive member.2) (fun member => motive member.2)
    null bool number string array object ?_ ?_ ?_ ?_ ?_ x
  · exact fun _ none => absurd none List.not_mem_nil
  · intro item items holds rest
    exact List.forall_mem_cons.mpr ⟨holds, rest⟩
  · exact fun _ none => absurd none List.not_mem_nil
  · intro member members holds rest
    exact List.forall_mem_cons.mpr ⟨holds, rest⟩
  · exact fun _ _ holds => holds

theorem itemsOrdered_iff {items : List Json} : itemsOrdered items ↔ ∀ x ∈ items, x.Ordered := by
  induction items with
  | nil => simp [itemsOrdered]
  | cons x items ih => simp [itemsOrdered, ih]

theorem membersOrdered_iff {members : List (String × Json)} :
    membersOrdered members ↔ ∀ member ∈ members, member.2.Ordered := by
  induction members with
  | nil => simp [membersOrdered]
  | cons member members ih => rw [membersOrdered, ih, List.forall_mem_cons]

theorem itemsIntegral_iff {items : List Json} :
    itemsIntegral items = true ↔ ∀ x ∈ items, x.integral = true := by
  induction items with
  | nil => simp [itemsIntegral]
  | cons x items ih => simp [itemsIntegral, ih]

theorem membersIntegral_iff {members : List (String × Json)} :
    membersIntegral members = true ↔ ∀ member ∈ members, member.2.integral = true := by
  induction members with
  | nil => simp [membersIntegral]
  | cons member members ih => rw [membersIntegral, Bool.and_eq_true, ih, List.forall_mem_cons]

def insertAll (known members : List (String × Json)) : List (String × Json) :=
  members.foldl (fun object member => insert member.1 member.2 object) known

theorem mem_insert {key : String} {value : Json} {known : List (String × Json)} {member : String × Json}
    (among : member ∈ insert key value known) : member = (key, value) ∨ member ∈ known := by
  induction known with
  | nil => exact .inl (List.mem_singleton.mp among)
  | cons first known ih =>
    rw [insert] at among
    split at among
    · rcases List.mem_cons.mp among with same | among
      · exact .inl same
      · exact .inr among
    · split at among
      · rcases List.mem_cons.mp among with same | among
        · exact .inl same
        · exact .inr (List.mem_cons_of_mem first among)
      · rcases List.mem_cons.mp among with rfl | among
        · exact .inr List.mem_cons_self
        · rcases ih among with same | among
          · exact .inl same
          · exact .inr (List.mem_cons_of_mem first among)

theorem mem_insertAll {known members : List (String × Json)} {member : String × Json}
    (among : member ∈ insertAll known members) : member ∈ known ∨ member ∈ members := by
  induction members generalizing known with
  | nil => exact .inl among
  | cons first members ih =>
    rcases ih among with among | among
    · rcases mem_insert among with rfl | among
      · exact .inr List.mem_cons_self
      · exact .inl among
    · exact .inr (List.mem_cons_of_mem first among)

theorem mem_of_mem_insertAll {members : List (String × Json)} {member : String × Json}
    (among : member ∈ insertAll [] members) : member ∈ members :=
  (mem_insertAll among).resolve_left List.not_mem_nil

theorem ordered_insert {key : String} {value : Json} {known : List (String × Json)}
    (ordered : (known.map (·.1)).Pairwise (· < ·)) :
    ((insert key value known).map (·.1)).Pairwise (· < ·) := by
  induction known with
  | nil => exact List.pairwise_singleton _ _
  | cons first known ih =>
    obtain ⟨least, rest⟩ := List.pairwise_cons.mp ordered
    rw [insert]
    split
    · rename_i before
      refine List.pairwise_cons.mpr ⟨?_, ordered⟩
      intro other among
      rcases List.mem_cons.mp among with rfl | among
      · exact before
      · exact lt_trans before (least other among)
    · split
      · rename_i same
        exact List.pairwise_cons.mpr ⟨same ▸ least, rest⟩
      · rename_i notBefore other
        refine List.pairwise_cons.mpr ⟨?_, ih rest⟩
        intro name among
        obtain ⟨member, inserted, rfl⟩ := List.mem_map.mp among
        rcases mem_insert inserted with rfl | known
        · exact lt_of_le_of_ne (not_lt.mp notBefore) (Ne.symm other)
        · exact least _ (List.mem_map_of_mem known)

theorem ordered_insertAll {known members : List (String × Json)}
    (ordered : (known.map (·.1)).Pairwise (· < ·)) :
    ((insertAll known members).map (·.1)).Pairwise (· < ·) := by
  induction members generalizing known with
  | nil => exact ordered
  | cons first members ih => exact ih (ordered_insert ordered)

/-- An object has its members in order, whatever the order in which they were put in. -/
theorem ordered_ofMembers {members : List (String × Json)}
    (ordered : ∀ member ∈ members, member.2.Ordered) : (ofMembers members).Ordered := by
  refine ⟨ordered_insertAll List.Pairwise.nil, membersOrdered_iff.mpr ?_⟩
  exact fun member among => ordered member (mem_of_mem_insertAll among)

theorem integral_ofMembers {members : List (String × Json)}
    (integral : ∀ member ∈ members, member.2.integral = true) :
    (ofMembers members).integral = true := by
  refine membersIntegral_iff.mpr ?_
  exact fun member among => integral member (mem_of_mem_insertAll among)

theorem membersDepth_le {members : List (String × Json)} {levels : Nat}
    (shallow : ∀ member ∈ members, member.2.depth ≤ levels) : membersDepth members ≤ levels := by
  induction members with
  | nil => exact Nat.zero_le levels
  | cons member members ih =>
    obtain ⟨first, rest⟩ := List.forall_mem_cons.mp shallow
    exact Nat.max_le.mpr ⟨first, ih rest⟩

theorem depth_ofMembers_le {members : List (String × Json)} {levels : Nat}
    (shallow : ∀ member ∈ members, member.2.depth ≤ levels) :
    (ofMembers members).depth ≤ levels + 1 := by
  refine Nat.succ_le_succ (membersDepth_le ?_)
  exact fun member among => shallow member (mem_of_mem_insertAll among)

theorem insert_last {key : String} {known : List (String × Json)}
    (last : ∀ member ∈ known, member.1 < key) (value : Json) :
    insert key value known = known ++ [(key, value)] := by
  induction known with
  | nil => rfl
  | cons member known ih =>
    obtain ⟨first, rest⟩ := List.forall_mem_cons.mp last
    rw [insert, if_neg (lt_asymm first), if_neg (ne_of_gt first), ih rest]
    rfl

theorem insertAll_of_ordered {known members : List (String × Json)}
    (ordered : ((known ++ members).map (·.1)).Pairwise (· < ·)) :
    insertAll known members = known ++ members := by
  induction members generalizing known with
  | nil => exact (List.append_nil known).symm
  | cons member members ih =>
    have last : ∀ other ∈ known, other.1 < member.1 := by
      intro other among
      rw [List.map_append, List.pairwise_append] at ordered
      exact ordered.2.2 _ (List.mem_map_of_mem among) _ List.mem_cons_self
    have same : known ++ member :: members = known ++ [(member.1, member.2)] ++ members := by simp
    rw [same] at ordered ⊢
    rw [← ih ordered, ← insert_last last]
    rfl

theorem perm_insert {key : String} {known : List (String × Json)} (new : key ∉ known.map (·.1))
    (value : Json) : (insert key value known).Perm ((key, value) :: known) := by
  induction known with
  | nil => exact .refl _
  | cons member known ih =>
    rw [List.map_cons, List.mem_cons, not_or] at new
    rw [insert]
    split
    · exact .refl _
    · rw [if_neg new.1]
      exact ((ih new.2).cons member).trans (.swap (key, value) member known)

/-- Members with names of their own are all kept, in some order. -/
theorem perm_insertAll {known members : List (String × Json)}
    (distinct : ((known ++ members).map (·.1)).Nodup) :
    (insertAll known members).Perm (known ++ members) := by
  induction members generalizing known with
  | nil => rw [List.append_nil]; exact .refl _
  | cons member members ih =>
    have moved : ((member :: known) ++ members).Perm (known ++ member :: members) :=
      List.perm_middle.symm
    have distinctToo := (moved.map (·.1)).nodup_iff.mpr distinct
    have new : member.1 ∉ known.map (·.1) := by
      rw [List.cons_append, List.map_cons, List.nodup_cons, List.map_append, List.mem_append,
        not_or] at distinctToo
      exact distinctToo.1.1
    have inserted := (perm_insert new member.2).append_right members
    exact (ih ((inserted.map (·.1)).nodup_iff.mpr distinctToo)).trans (inserted.trans moved)

end EventRelay.Json
