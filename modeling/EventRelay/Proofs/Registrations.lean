import Mathlib.Data.List.Basic
import Mathlib.Data.List.Nodup
import Mathlib.Logic.Function.Basic

namespace EventRelay

variable {Listener : Type} {listening : Nat → Option Listener} {entries : List (Nat × Listener)}
  {listeners : List Listener} {receiver : Nat} {listener : Listener}

/-- The listeners are all those who listen, in some order, each of them once for every receiver that it
    listens on. -/
def IsAudience (listening : Nat → Option Listener) (listeners : List Listener) : Prop :=
  ∃ order : List Nat, order.Nodup ∧
    (∀ receiver, receiver ∈ order ↔ (listening receiver).isSome = true) ∧
    listeners = order.filterMap listening

/-- The list has an entry for each receiver that somebody listens on. -/
structure Registers (entries : List (Nat × Listener)) (listening : Nat → Option Listener) : Prop where
  once : (entries.map (·.1)).Nodup
  mem_iff : ∀ receiver listener, (receiver, listener) ∈ entries ↔ listening receiver = some listener

namespace Registers

theorem nil : Registers ([] : List (Nat × Listener)) fun _ => none where
  once := List.nodup_nil
  mem_iff := by simp

theorem filter (registers : Registers entries listening) (kept : Nat → Bool) :
    Registers (entries.filter fun entry => kept entry.1)
      fun receiver => if kept receiver then listening receiver else none where
  once := (List.filter_sublist.map _).nodup registers.once
  mem_iff := by
    intro receiver listener
    rw [List.mem_filter, registers.mem_iff]
    by_cases keeps : kept receiver = true
    · simp [keeps]
    · simp [keeps]

theorem remove (registers : Registers entries listening) (receiver : Nat) :
    Registers (entries.filter (·.1 ≠ receiver)) (Function.update listening receiver none) := by
  have kept := registers.filter fun other => other ≠ receiver
  rw [show Function.update listening receiver none =
      fun other => if decide (other ≠ receiver) then listening other else none from ?_]
  · exact kept
  · funext other
    by_cases same : other = receiver
    · simp [same]
    · simp [same]

theorem put (registers : Registers entries listening) (receiver : Nat) (listener : Listener) :
    Registers (entries.filter (·.1 ≠ receiver) ++ [(receiver, listener)])
      (Function.update listening receiver (some listener)) where
  once := by
    rw [List.map_append, List.map_singleton]
    refine List.Nodup.append (registers.remove receiver).once (List.nodup_singleton _) ?_
    simp
  mem_iff := by
    intro other found
    rw [List.mem_append, (registers.remove receiver).mem_iff, List.mem_singleton]
    by_cases same : other = receiver
    · subst same
      simp [eq_comm]
    · simp [same]

theorem filter_eq (registers : Registers entries listening) (receiver : Nat) :
    entries.filter (·.1 = receiver) =
      (listening receiver).toList.map fun listener => (receiver, listener) := by
  have among : ∀ entry, entry ∈ entries.filter (·.1 = receiver) ↔
      entry.1 = receiver ∧ listening receiver = some entry.2 := by
    intro entry
    rw [List.mem_filter, registers.mem_iff entry.1 entry.2, decide_eq_true_iff, and_comm]
    exact and_congr_right fun same => by rw [same]
  have once : (entries.filter (·.1 = receiver)).Nodup :=
    (List.Nodup.of_map _ registers.once).filter _
  cases listens : listening receiver with
  | none =>
    refine List.eq_nil_iff_forall_not_mem.mpr fun entry member => ?_
    have found := ((among entry).mp member).2
    rw [listens] at found
    cases found
  | some listener =>
    refine List.perm_singleton.mp ?_
    rw [List.perm_ext_iff_of_nodup once (List.nodup_singleton _)]
    intro entry
    rw [among, listens, Option.some.injEq, List.mem_singleton, Prod.ext_iff]
    exact and_congr_right fun _ => eq_comm

theorem isAudience (registers : Registers entries listening) :
    IsAudience listening (entries.map (·.2)) := by
  refine ⟨entries.map (·.1), registers.once, ?_, ?_⟩
  · intro receiver
    simp only [List.mem_map, Prod.exists, exists_and_right, exists_eq_right, registers.mem_iff,
      Option.isSome_iff_exists]
  · rw [List.filterMap_map]
    apply Eq.symm
    rw [List.filterMap_eq_map_iff_forall_eq_some]
    exact fun entry member => (registers.mem_iff _ _).mp member

end Registers

theorem IsAudience.count [DecidableEq Listener] (audience : IsAudience listening listeners)
    {receivers : Nat} (few : ∀ receiver, (listening receiver).isSome = true → receiver < receivers)
    (listener : Listener) :
    listeners.count listener =
      (List.range receivers).countP fun receiver => listening receiver == some listener := by
  obtain ⟨order, once, mem_iff, rfl⟩ := audience
  let hears (receiver : Nat) : Bool := listening receiver == some listener
  have same : (order.filter hears).Perm ((List.range receivers).filter hears) := by
    rw [List.perm_ext_iff_of_nodup (once.filter _) (List.nodup_range.filter _)]
    intro receiver
    rw [List.mem_filter, List.mem_filter, mem_iff, List.mem_range, and_congr_left_iff]
    intro found
    have present : (listening receiver).isSome = true := by simp [eq_of_beq found]
    exact ⟨few receiver, fun _ => present⟩
  rw [List.count_filterMap, List.countP_eq_length_filter, List.countP_eq_length_filter,
    ← same.length_eq]

theorem IsAudience.eq_singleton (audience : IsAudience listening listeners)
    (listens : listening receiver = some listener)
    (alone : ∀ other, other ≠ receiver → listening other = none) : listeners = [listener] := by
  obtain ⟨order, once, mem_iff, rfl⟩ := audience
  have same : order.Perm [receiver] := by
    rw [List.perm_ext_iff_of_nodup once (List.nodup_singleton receiver)]
    intro other
    rw [mem_iff, List.mem_singleton]
    by_cases same : other = receiver
    · simp [same, listens]
    · simp [same, alone other same]
  rw [List.perm_singleton.mp same]
  simp [listens]

end EventRelay
