import EventRelay.Proofs.Listener.Custody

namespace EventRelay.Lifecycle

variable {Receiver Connection : Type} {config : ListenerConfig}

theorem Call.Goes.isStart_eq {common after : Common Receiver Connection}
    {call next : Call Receiver Connection} {deeds : List (Deed Receiver Connection)}
    (goes : Goes common call after next deeds) : next.isStart = call.isStart := by
  cases goes <;> rfl

namespace Call.Trail

variable {call : Call Receiver Connection} {deeds : List (Deed Receiver Connection)}

end Call.Trail

namespace System

variable {system : System Receiver Connection}

theorem step_history {next : System Receiver Connection} {move : Move Receiver Connection}
    (stepped : system.step config move = some next) : system.history.Sublist next.history := by
  cases move with
  | start | stop | elsewhere registry =>
    cases stepped
    exact .refl _
  | prompt i prompt =>
    simp only [step] at stepped
    split at stepped
    · cases stepped
    · split at stepped
      · cases stepped
      · cases stepped
        exact List.sublist_append_left _ _

theorem run_history {moves : List (Move Receiver Connection)} {later : System Receiver Connection}
    (ran : system.run config moves = some later) : system.history.Sublist later.history := by
  induction moves generalizing system with
  | nil =>
    cases ran
    exact .refl _
  | cons move moves ih =>
    simp only [run] at ran
    split at ran
    · cases ran
    · rename_i next stepped
      exact (step_history stepped).trans (ih ran)

namespace Reachable

variable (reachable : system.Reachable config)
include reachable

end Reachable

end System

end EventRelay.Lifecycle
