import Mathlib.Data.List.Nodup
import EventRelay.Proofs.Basic
import EventRelay.Proofs.Mqtt.Steps

namespace EventRelay.Mqtt

namespace Lock

variable {lock : Lock} {t : Nat}

/-- The tickets that were not given back, the holder's first. -/
def line (lock : Lock) : List Nat := lock.holder.toList ++ lock.waiting

/-- Tickets are in the line in the order in which they were given out, and are handed the lock as
    soon as it is free. -/
structure Orderly (lock : Lock) : Prop where
  handed : lock.holder = none → lock.waiting = []
  ascending : lock.line.Pairwise (· < ·)
  issued : ∀ t ∈ lock.line, t < lock.tickets

theorem isHeldBy_iff : lock.isHeldBy t = true ↔ lock.holder = some t := by simp [isHeldBy]

theorem line_of_held (turn : lock.isHeldBy t = true) : lock.line = t :: lock.waiting := by
  simp [line, isHeldBy_iff.mp turn]

theorem request_ticket (lock : Lock) : lock.request.2 = lock.tickets := by
  unfold request
  split <;> rfl

theorem request_tickets (lock : Lock) : lock.request.1.tickets = lock.tickets + 1 := by
  unfold request
  split <;> rfl

theorem line_release (lock : Lock) : lock.release.line = lock.waiting := by
  unfold release
  split
  · rename_i next rest waits
    simp [line, waits]
  · rename_i nobody
    simp [line, nobody]

theorem tickets_release (lock : Lock) : lock.release.tickets = lock.tickets := by
  unfold release
  split <;> rfl

theorem tickets_forsake (lock : Lock) (t : Nat) : (lock.forsake t).tickets = lock.tickets := by
  unfold forsake
  split
  · exact lock.tickets_release
  · rfl

theorem forsake_of_held (turn : lock.isHeldBy t = true) : lock.forsake t = lock.release := if_pos turn

theorem holder_forsake (other : lock.holder ≠ some t) : (lock.forsake t).holder = lock.holder := by
  rw [forsake, if_neg (mt isHeldBy_iff.mp other)]

namespace Orderly

variable (orderly : lock.Orderly)

include orderly

theorem line_request : lock.request.1.line = lock.line ++ [lock.tickets] := by
  unfold Lock.request
  split
  · rename_i free
    simp [line, free, orderly.handed free]
  · rename_i holder held
    simp [line, held]

theorem request : lock.request.1.Orderly where
  handed := by
    unfold Lock.request
    split <;> simp_all
  ascending := by
    rw [orderly.line_request, List.pairwise_append]
    refine ⟨orderly.ascending, List.pairwise_singleton _ _, ?_⟩
    intro t member last new
    rw [List.mem_singleton.mp new]
    exact orderly.issued t member
  issued := by
    intro t member
    rw [orderly.line_request, List.mem_append, List.mem_singleton] at member
    rw [request_tickets]
    rcases member with member | rfl
    · exact Nat.lt_succ_of_lt (orderly.issued t member)
    · exact Nat.lt_succ_self _

theorem release : lock.release.Orderly where
  handed := by
    unfold Lock.release
    split <;> simp_all
  ascending := by
    rw [line_release]
    exact (List.pairwise_append.mp orderly.ascending).2.1
  issued := by
    intro t member
    rw [line_release] at member
    rw [tickets_release]
    exact orderly.issued t (List.mem_append_right _ member)

theorem line_forsake (t : Nat) : (lock.forsake t).line = lock.line.filter (· ≠ t) := by
  by_cases turn : lock.isHeldBy t = true
  · have behind : t ∉ lock.waiting := by
      have ascending := orderly.ascending
      rw [line_of_held turn] at ascending
      exact fun member => Nat.lt_irrefl t ((List.pairwise_cons.mp ascending).1 t member)
    rw [forsake_of_held turn, line_release, line_of_held turn, List.filter_cons_of_neg (by simp)]
    apply Eq.symm
    rw [List.filter_eq_self]
    exact fun other member => decide_eq_true fun same => behind (same ▸ member)
  · have stays : lock.holder.toList.filter (· ≠ t) = lock.holder.toList := by
      rw [List.filter_eq_self]
      intro holder member
      have held := Option.mem_toList.mp member
      exact decide_eq_true fun same => turn (isHeldBy_iff.mpr (same ▸ held))
    rw [forsake, if_neg turn, line, line, List.filter_append, stays]

theorem forsake (t : Nat) : (lock.forsake t).Orderly where
  handed := by
    unfold Lock.forsake
    split
    · exact orderly.release.handed
    · intro free
      rw [orderly.handed free]
      rfl
  ascending := by
    rw [orderly.line_forsake]
    exact orderly.ascending.filter _
  issued := by
    intro u member
    rw [orderly.line_forsake] at member
    rw [tickets_forsake]
    exact orderly.issued u (List.mem_filter.mp member).1

theorem held_of_line {rest : List Nat} (line : lock.line = t :: rest) : lock.isHeldBy t = true := by
  cases held : lock.holder with
  | none =>
    rw [Lock.line, held, orderly.handed held] at line
    cases line
  | some holder =>
    rw [Lock.line, held] at line
    rw [isHeldBy_iff, held]
    exact congrArg some (List.cons.inj line).1

theorem count_le_one (t : Nat) : lock.line.count t ≤ 1 := by
  have apart : lock.line.Nodup := orderly.ascending.imp Nat.ne_of_lt
  exact List.nodup_iff_count_le_one.mp apart t

end Orderly

end Lock

namespace Connection

variable {Listener : Type}

def Call.has (t : Nat) (call : Call) : Bool := call.ticket? = some t

namespace System

structure InLine (system : System Listener) : Prop where
  orderly : system.connection.lock.Orderly
  counted : ∀ t, system.calls.countP (Call.has t) = system.connection.lock.line.count t
  holds : ∀ i t : Nat, system.calls[i]? = some (.create (.connecting t)) →
    system.connection.lock.holder = some t

namespace InLine

variable {system next : System Listener} {i j t : Nat} {call called : Call} {deeds : List Deed}
  {left : Connection Listener}

section

variable (inLine : system.InLine)

include inLine

theorem same_of_ticket (first : system.calls[i]? = some call) (second : system.calls[j]? = some called)
    (ticket : call.ticket? = some t) (sameTicket : called.ticket? = some t) : i = j := by
  have few : system.calls.countP (Call.has t) ≤ 1 := by
    rw [inLine.counted]
    exact inLine.orderly.count_le_one t
  exact same_of_countP_le_one few first second (decide_eq_true ticket) (decide_eq_true sameTicket)

theorem same_of_connecting {u : Nat} (first : system.calls[i]? = some (.create (.connecting t)))
    (second : system.calls[j]? = some (.create (.connecting u))) : i = j ∧ t = u := by
  have holds := inLine.holds i t first
  rw [inLine.holds j u second, Option.some.injEq] at holds
  subst holds
  exact ⟨inLine.same_of_ticket first second rfl rfl, rfl⟩

theorem not_connecting_of_turn (there : system.calls[i]? = some call) (ticket : call.ticket? = some t)
    (turn : system.connection.lock.isHeldBy t = true) {u : Nat} (other : j ≠ i) :
    system.calls[j]? ≠ some (.create (.connecting u)) := by
  intro connecting
  have holds := inLine.holds j u connecting
  rw [Lock.isHeldBy_iff.mp turn, Option.some.injEq] at holds
  subst holds
  exact other (inLine.same_of_ticket connecting there rfl ticket)

theorem turn_of_connecting (there : system.calls[i]? = some (.create (.connecting t))) :
    system.connection.lock.isHeldBy t = true :=
  Lock.isHeldBy_iff.mpr (inLine.holds i t there)

theorem begins (new : call.ticket? = none) : (system.calling call).InLine where
  orderly := inLine.orderly
  counted := by
    intro t
    have hasNot : Call.has t call = false := by simp [Call.has, new]
    show (system.calls ++ [call]).countP (Call.has t) = system.connection.lock.line.count t
    rw [List.countP_append, List.countP_singleton, hasNot, inLine.counted t]
    rfl
  holds := by
    intro i t there
    rcases last_or_same there with ⟨_, rfl⟩ | before
    · cases new
    · exact inLine.holds i t before

theorem keeps (there : system.calls[i]? = some call) (same : called.ticket? = call.ticket?)
    (lock : left.lock = system.connection.lock)
    (holds : ∀ t, called = .create (.connecting t) → system.connection.lock.holder = some t) :
    (system.going i called deeds left).InLine where
  orderly := lock ▸ inLine.orderly
  counted := by
    intro t
    have kept : Call.has t called = Call.has t call := by simp only [Call.has, same]
    show (system.calls.set i called).countP (Call.has t) = left.lock.line.count t
    rw [countP_set_same there kept, inLine.counted t, lock]
  holds := by
    intro j t connecting
    show left.lock.holder = some t
    rw [lock]
    rcases replaced_or_same connecting with ⟨_, rfl⟩ | ⟨_, before⟩
    · exact holds t rfl
    · exact inLine.holds j t before

theorem asks (there : system.calls[i]? = some call) (new : call.ticket? = none)
    (asked : called.ticket? = some system.connection.lock.tickets) (waits : called.isConnecting = false)
    (lock : left.lock = system.connection.lock.request.1) :
    (system.going i called deeds left).InLine where
  orderly := lock ▸ inLine.orderly.request
  counted := by
    intro t
    have counts := countP_set_add there called (Call.has t)
    have before := inLine.counted t
    have has : Call.has t called = decide (system.connection.lock.tickets = t) := by
      simp [Call.has, asked]
    have hadNot : Call.has t call = false := by simp [Call.has, new]
    show (system.calls.set i called).countP (Call.has t) = left.lock.line.count t
    rw [lock, inLine.orderly.line_request, List.count_append, List.count_singleton]
    simp only [has, hadNot, decide_eq_true_eq, Bool.false_eq_true, if_false, beq_iff_eq] at counts ⊢
    omega
  holds := by
    intro j t connecting
    rcases replaced_or_same connecting with ⟨_, rfl⟩ | ⟨_, before⟩
    · cases waits
    · have held := inLine.holds j t before
      show left.lock.holder = some t
      simp only [lock, Lock.request, held]

theorem forsakes (there : system.calls[i]? = some call) (ticket : call.ticket? = some t)
    (freed : called.ticket? = none) (lock : left.lock = system.connection.lock.forsake t) :
    (system.going i called deeds left).InLine where
  orderly := lock ▸ inLine.orderly.forsake t
  counted := by
    intro u
    have counts := countP_set_add there called (Call.has u)
    have before := inLine.counted u
    have few := inLine.orderly.count_le_one u
    have had : Call.has u call = decide (t = u) := by simp [Call.has, ticket]
    have hasNot : Call.has u called = false := by simp [Call.has, freed]
    show (system.calls.set i called).countP (Call.has u) = left.lock.line.count u
    simp only [had, hasNot, decide_eq_true_eq, Bool.false_eq_true, if_false] at counts
    rw [lock, inLine.orderly.line_forsake]
    by_cases same : t = u
    · subst same
      have gone : t ∉ system.connection.lock.line.filter (· ≠ t) := by simp
      rw [List.count_eq_zero.mpr gone]
      rw [if_pos rfl] at counts
      omega
    · have kept : (system.connection.lock.line.filter (· ≠ t)).count u =
          system.connection.lock.line.count u := List.count_filter (decide_eq_true (Ne.symm same))
      rw [if_neg same] at counts
      omega
  holds := by
    intro j u connecting
    rcases replaced_or_same connecting with ⟨_, rfl⟩ | ⟨other, before⟩
    · cases freed
    · have held := inLine.holds j u before
      have unlike : system.connection.lock.holder ≠ some t := by
        rw [held, ne_eq, Option.some.injEq]
        rintro rfl
        exact other (inLine.same_of_ticket before there rfl ticket)
      show left.lock.holder = some u
      rw [lock, Lock.holder_forsake unlike, held]

theorem releases (there : system.calls[i]? = some call) (ticket : call.ticket? = some t)
    (turn : system.connection.lock.isHeldBy t = true) (freed : called.ticket? = none)
    (lock : left.lock = system.connection.lock.release) :
    (system.going i called deeds left).InLine := by
  rw [← Lock.forsake_of_held turn] at lock
  exact inLine.forsakes there ticket freed lock

theorem went (went : system.Goes next) : next.InLine := by
  cases went with
  | stays => exact inLine
  | begins call new => exact inLine.begins (by rcases new with rfl | rfl <;> rfl)
  | asks there points =>
    rw [Lock.request_ticket] at points
    rcases points with ⟨rfl, rfl⟩ | ⟨rfl, rfl⟩
    · exact inLine.asks there rfl rfl rfl rfl
    · exact inLine.asks there rfl rfl rfl rfl
  | findsRunning there turn => exact inLine.releases there rfl turn rfl rfl
  | findsClosed there turn => exact inLine.releases there rfl turn rfl rfl
  | findsIdle there turn =>
    refine inLine.keeps there rfl rfl ?_
    rintro t ⟨⟩
    exact Lock.isHeldBy_iff.mp turn
  | fails there => exact inLine.releases there rfl (inLine.turn_of_connecting there) rfl rfl
  | connects there => exact inLine.releases there rfl (inLine.turn_of_connecting there) rfl rfl
  | opens there => exact inLine.keeps there rfl rfl (by simp)
  | closesRunning there turn => exact inLine.releases there rfl turn rfl rfl
  | closesIdle there turn => exact inLine.releases there rfl turn rfl rfl
  | closesClosed there turn => exact inLine.releases there rfl turn rfl rfl
  | disconnects there => exact inLine.keeps there rfl rfl (by simp)
  | refused there kept =>
    obtain ⟨polling, feed, rfl⟩ := kept.kin
    exact inLine.keeps there rfl rfl (by simp)
  | closed there kept =>
    obtain ⟨polling, feed, rfl⟩ := kept.kin
    exact inLine.keeps there rfl rfl (by simp)
  | elsewhere other =>
    obtain ⟨polling, feed, rfl⟩ := other.kin
    exact ⟨inLine.orderly, inLine.counted, inLine.holds⟩

end

end InLine

theorem inLine_initial {start : Connection Listener} (free : start.lock = {}) :
    (initial start).InLine where
  orderly := by
    rw [initial, free]
    exact ⟨fun _ => rfl, List.Pairwise.nil, by simp [Lock.line]⟩
  counted := by simp [initial, free, Lock.line]
  holds := by simp [initial]

end System

end Connection

end EventRelay.Mqtt
