import EventRelay.Proofs.Basic
import EventRelay.Proofs.Listener.Steps

namespace EventRelay.Lifecycle

variable {Receiver Connection : Type} {config : ListenerConfig}

/-- What one law counts. -/
structure Law (Receiver Connection : Type) where
  enters : Deed Receiver Connection → Bool
  leaves : Deed Receiver Connection → Bool
  holds : Call Receiver Connection → Bool := fun _ => false
  lies : Common Receiver Connection → Nat := fun _ => 0
  start : holds (.start .claim) = false := by rfl
  stop : holds (.stop .read) = false := by rfl
  initial : ∀ registry, lies { handle := ⟨registry, false⟩ } = 0 := by intro; rfl
  elsewhere : ∀ lifecycle registry other released,
    lies ⟨lifecycle, ⟨registry, released⟩⟩ = lies ⟨lifecycle, ⟨other, released⟩⟩ := by
      intros; rfl

def System.count (system : System Receiver Connection) (kind : Deed Receiver Connection → Bool) : Nat :=
  system.history.countP fun entry => kind entry.2

def System.callsAt (system : System Receiver Connection) (point : Call Receiver Connection → Bool) :
    Nat :=
  system.calls.countP point

namespace System

variable {system : System Receiver Connection}

theorem count_mono {some other : Deed Receiver Connection → Bool}
    (included : ∀ entry ∈ system.history, some entry.2 → other entry.2) :
    system.count some ≤ system.count other :=
  List.countP_mono_left included

theorem count_pos_of_mem {kind : Deed Receiver Connection → Bool} {entry : Nat × Deed Receiver Connection}
    (member : entry ∈ system.history) (fits : kind entry.2) : 0 < system.count kind :=
  List.countP_pos_iff.mpr ⟨entry, member, fits⟩

theorem callsAt_pos_of_getElem? {point : Call Receiver Connection → Bool} {i : Nat}
    {call : Call Receiver Connection} (present : system.calls[i]? = some call) (there : point call) :
    0 < system.callsAt point :=
  List.countP_pos_iff.mpr ⟨call, List.mem_of_getElem? present, there⟩

theorem count_add_le {one other both : Deed Receiver Connection → Bool}
    (apart : ∀ deed, one deed → other deed = false) (oneOf : ∀ deed, one deed → both deed)
    (otherOf : ∀ deed, other deed → both deed) :
    system.count one + system.count other ≤ system.count both := by
  simp only [count]
  induction system.history with
  | nil => simp
  | cons entry history ih =>
    simp only [List.countP_cons]
    by_cases first : one entry.2 = true
    · simp only [first, oneOf _ first, apart _ first, if_true, Bool.false_eq_true, if_false]
      omega
    · by_cases second : other entry.2 = true
      · simp only [first, second, otherOf _ second, if_true, Bool.false_eq_true, if_false]
        omega
      · simp only [first, second, Bool.false_eq_true, if_false]
        omega

theorem count_le_add {kind one other : Deed Receiver Connection → Bool}
    (either : ∀ entry ∈ system.history, kind entry.2 → one entry.2 ∨ other entry.2) :
    system.count kind ≤ system.count one + system.count other := by
  simp only [count]
  generalize system.history = history at either
  induction history with
  | nil => simp
  | cons entry history ih =>
    have before := ih fun entry member => either entry (List.mem_cons_of_mem _ member)
    have here := either entry List.mem_cons_self
    simp only [List.countP_cons]
    by_cases first : kind entry.2 = true
    · rcases here first with second | second <;> simp only [first, second, if_true] <;> omega
    · simp only [first, Bool.false_eq_true, if_false]
      omega

theorem mem_of_count_pos {kind : Deed Receiver Connection → Bool} (positive : 0 < system.count kind) :
    ∃ entry ∈ system.history, kind entry.2 :=
  List.countP_pos_iff.mp positive

theorem not_mem_of_count_eq_zero {kind : Deed Receiver Connection → Bool}
    (none : system.count kind = 0) {entry : Nat × Deed Receiver Connection} (fits : kind entry.2) :
    entry ∉ system.history := by
  intro member
  have positive := count_pos_of_mem member fits
  omega

theorem eq_of_count_le_one {kind : Deed Receiver Connection → Bool} (once : system.count kind ≤ 1)
    {entry other : Nat × Deed Receiver Connection} (member : entry ∈ system.history)
    (otherMember : other ∈ system.history) (fits : kind entry.2) (otherFits : kind other.2) :
    entry = other := by
  have first : entry ∈ system.history.filter fun entry => kind entry.2 :=
    List.mem_filter.mpr ⟨member, fits⟩
  have second : other ∈ system.history.filter fun entry => kind entry.2 :=
    List.mem_filter.mpr ⟨otherMember, otherFits⟩
  rw [count, List.countP_eq_length_filter] at once
  cases found : system.history.filter fun entry => kind entry.2 with
  | nil => simp [found] at first
  | cons head tail =>
    rw [found] at first second once
    have nothing : tail = [] := List.eq_nil_of_length_eq_zero (by simpa using once)
    rw [nothing, List.mem_singleton] at first second
    rw [first, second]

end System

namespace Law

variable (law : Law Receiver Connection)

def Holds (system : System Receiver Connection) : Prop :=
  system.count law.enters = system.callsAt law.holds + law.lies system.common + system.count law.leaves

def Balances (common : Common Receiver Connection) (call : Call Receiver Connection)
    (after : Common Receiver Connection) (next : Call Receiver Connection)
    (deeds : List (Deed Receiver Connection)) : Prop :=
  deeds.countP law.enters + (if law.holds call then 1 else 0) + law.lies common =
    (if law.holds next then 1 else 0) + law.lies after + deeds.countP law.leaves

end Law

theorem System.count_going (system : System Receiver Connection) (i : Nat)
    (common : Common Receiver Connection) (next : Call Receiver Connection)
    (deeds : List (Deed Receiver Connection)) (kind : Deed Receiver Connection → Bool) :
    (system.going i common next deeds).count kind = system.count kind + deeds.countP kind := by
  simp [System.count, System.going, Function.comp_def]

theorem System.callsAt_going {system : System Receiver Connection} {i : Nat}
    {call : Call Receiver Connection} (present : system.calls[i]? = some call)
    (common : Common Receiver Connection) (next : Call Receiver Connection)
    (deeds : List (Deed Receiver Connection)) (point : Call Receiver Connection → Bool) :
    (system.going i common next deeds).callsAt point + (if point call then 1 else 0) =
      system.callsAt point + if point next then 1 else 0 :=
  countP_set_add present next point

theorem Law.Holds.going {law : Law Receiver Connection} {system : System Receiver Connection}
    (before : law.Holds system) {i : Nat} {call : Call Receiver Connection}
    (present : system.calls[i]? = some call) {common : Common Receiver Connection}
    {next : Call Receiver Connection} {deeds : List (Deed Receiver Connection)}
    (balances : law.Balances system.common call common next deeds) :
    law.Holds (system.going i common next deeds) := by
  have moved := System.callsAt_going present common next deeds law.holds
  simp only [Law.Holds, Law.Balances, System.count_going] at before balances ⊢
  have shared : (system.going i common next deeds).common = common := rfl
  rw [shared]
  omega

theorem Law.Holds.calling {law : Law Receiver Connection} {system : System Receiver Connection}
    (before : law.Holds system) {call : Call Receiver Connection} (isNew : call.IsNew) :
    law.Holds (system.calling call) := by
  have absent : law.holds call = false := by
    rcases isNew with rfl | rfl
    · exact law.start
    · exact law.stop
  simpa [Law.Holds, System.calling, System.count, System.callsAt, absent] using before

theorem Law.Holds.inRegistry {law : Law Receiver Connection} {system : System Receiver Connection}
    (before : law.Holds system) (registry : Registry Connection) :
    law.Holds (system.inRegistry registry) := by
  have same : law.lies (system.inRegistry registry).common = law.lies system.common :=
    law.elsewhere _ _ _ _
  simp only [Law.Holds, same] at before ⊢
  exact before

theorem Law.holds_initial (law : Law Receiver Connection) (registry : Registry Connection) :
    law.Holds (System.initial registry) := by
  simp [Law.Holds, System.initial, System.count, System.callsAt, law.initial]

/-- A law that every step keeps, at least where calls can lead, holds wherever they can lead. -/
theorem Law.holds_of_balances {law : Law Receiver Connection}
    (balances : ∀ (system : System Receiver Connection) (i : Nat) (call : Call Receiver Connection)
      (common : Common Receiver Connection) (next : Call Receiver Connection)
      (deeds : List (Deed Receiver Connection)), system.Reachable config → law.Holds system →
      system.calls[i]? = some call → Call.Goes system.common call common next deeds →
      law.Balances system.common call common next deeds)
    {system : System Receiver Connection} (reachable : system.Reachable config) :
    law.Holds system := by
  induction reachable using System.Reachable.induction with
  | new registry _ => exact law.holds_initial registry
  | called system call _ _ before isNew => exact before.calling isNew
  | elsewhere system registry _ _ before => exact before.inRegistry registry
  | went system i call common next deeds reachable _ before present goes =>
    exact before.going present (balances _ _ _ _ _ _ reachable before present goes)

end EventRelay.Lifecycle
