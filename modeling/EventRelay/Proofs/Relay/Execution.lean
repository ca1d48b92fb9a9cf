import EventRelay.Relay.Tasks

namespace EventRelay

def Task.IsFinished (task : Task) : Prop := ∃ reply, task = .finished reply

namespace Relay

variable {relay next final : Relay}

def onTask (relay : Relay) (t : Nat) (task : Task) : Relay :=
  { relay with tasks := relay.tasks.set t task }

theorem onTask_onTask (t : Nat) (task other : Task) :
    (relay.onTask t task).onTask t other = relay.onTask t other := by
  simp [onTask]

theorem getElem?_onTask {t : Nat} (inside : t < relay.tasks.length) (task : Task) :
    (relay.onTask t task).tasks[t]? = some task := by
  simp [onTask, inside]

/-- In `k` steps, task `t` brings the relay to `final`. -/
def Reaches (t k : Nat) (relay final : Relay) : Prop := ∀ fuel, relay.run t (fuel + k) = final.run t fuel

namespace Reaches

theorem trans {t k m : Nat} {middle : Relay} (first : Reaches t k relay middle)
    (second : Reaches t m middle final) : Reaches t (k + m) relay final := by
  intro fuel
  have there := first (fuel + m)
  rw [second fuel] at there
  rw [← there]
  congr 1
  omega

theorem single {t : Nat} {task after : Task} (inside : t < relay.tasks.length)
    (advanced : (relay.onTask t task).advance? task = some (next.onTask t task, after)) :
    Reaches t 1 (relay.onTask t task) (next.onTask t after) := by
  intro fuel
  rw [run, getElem?_onTask inside, Option.bind_some, advanced]
  exact congrArg (fun relay => run relay t fuel) (onTask_onTask ..)

theorem step {t : Nat} {frame : Frame} {waiting : List Frame} {outcome : Next} {after : Task}
    (inside : t < relay.tasks.length)
    (stepped : (relay.onTask t (.active none (frame :: waiting))).step frame =
      (next.onTask t (.active none (frame :: waiting)), outcome))
    (leaves : outcome.task? waiting = some after) :
    Reaches t 1 (relay.onTask t (.active none (frame :: waiting))) (next.onTask t after) := by
  apply single inside
  simp only [advance?, stepped, leaves, Option.map_some]

theorem resume {t : Nat} {frame : Frame} {reply : Reply} {waiting : List Frame} {outcome : Next}
    {after : Task} (inside : t < relay.tasks.length)
    (resumed : (relay.onTask t (.active (some reply) (frame :: waiting))).resume frame reply =
      (next.onTask t (.active (some reply) (frame :: waiting)), outcome))
    (leaves : outcome.task? waiting = some after) :
    Reaches t 1 (relay.onTask t (.active (some reply) (frame :: waiting))) (next.onTask t after) := by
  apply single inside
  simp only [advance?, resumed, leaves, Option.map_some]

theorem finish {t : Nat} {reply : Reply} (inside : t < relay.tasks.length) :
    Reaches t 1 (relay.onTask t (.active (some reply) [])) (relay.onTask t (.finished reply)) :=
  single inside rfl

end Reaches

/-- Nothing that was not dropped is without a holder. -/
structure AllHeld (relay : Relay) : Prop where
  listeners : ∀ l listener, relay.listeners[l]? = some listener → listener.dropped = false →
    .listener l ∈ relay.held
  handles : ∀ handle ∈ relay.handles, handle.owned = true

theorem foldl_unchanged {f : Relay → Nat → Relay} {indices : List Nat}
    (same : ∀ i ∈ indices, f relay i = relay) : indices.foldl f relay = relay := by
  induction indices with
  | nil => rfl
  | cons i rest ih =>
    rw [List.foldl_cons, same i List.mem_cons_self]
    exact ih fun j member => same j (List.mem_cons_of_mem _ member)

def visitListener (background : Bool) (relay : Relay) (l : Nat) : Relay :=
  match relay.listeners[l]? with
  | none => relay
  | some listener =>
    if listener.dropped || relay.isHeld (.listener l) then relay
    else (relay.setListener l { listener with dropped := true }).dropHandle background listener.handle

def visitHandles (background : Bool) (relay : Relay) : Relay :=
  (List.range relay.handles.length).foldl (fun relay h =>
    match relay.handles[h]? with
    | none => relay
    | some handle =>
      if handle.owned || handle.dropped || relay.isHeld (.handle h) then relay
      else
        { relay with handles := relay.handles.set h { handle with dropped := true } }.dropHandle
          background h) relay

theorem collect_eq_visits (relay : Relay) (background : Bool) :
    relay.collect background = visitHandles background
      ((List.range relay.listeners.length).foldl (visitListener background) relay) := rfl

namespace AllHeld

variable (held : relay.AllHeld)
include held

theorem visitListener_eq (background : Bool) (l : Nat) : visitListener background relay l = relay := by
  unfold visitListener
  cases present : relay.listeners[l]? with
  | none => rfl
  | some listener =>
    cases dropped : listener.dropped with
    | true => simp [dropped]
    | false => simp [isHeld, held.listeners l listener present dropped]

theorem visitHandles_eq (background : Bool) : visitHandles background relay = relay := by
  apply foldl_unchanged
  intro h _
  cases present : relay.handles[h]? with
  | none => rfl
  | some handle => simp [held.handles handle (List.mem_of_getElem? present)]

theorem collect_eq (background : Bool) : relay.collect background = relay := by
  rw [collect_eq_visits, foldl_unchanged fun l _ => held.visitListener_eq background l]
  exact held.visitHandles_eq background

end AllHeld

theorem run_of_finished {t : Nat} {reply : Reply} (there : relay.tasks[t]? = some (.finished reply))
    (fuel : Nat) : relay.run t fuel = relay := by
  cases fuel with
  | zero => rfl
  | succ fuel => simp [run, there, advance?]

theorem settle_of_idle (idle : ∀ task ∈ relay.tasks, task.IsFinished) (noMqtt : relay.mqtt = [])
    (fuel : Nat) : relay.settle fuel = relay := by
  cases fuel with
  | zero => rfl
  | succ fuel =>
    have nobody : (List.range relay.tasks.length).find? relay.isReady = none := by
      rw [List.find?_eq_none]
      intro t inside
      have bound := List.mem_range.mp inside
      obtain ⟨reply, same⟩ := idle _ (List.getElem_mem bound)
      simp [isReady, List.getElem?_eq_getElem bound, same, advance?]
    have flushed : relay.flushAll = relay := by simp [flushAll, noMqtt]
    simp only [settle, flushed, nobody]

theorem find?_isReady_addTask (idle : ∀ task ∈ relay.tasks, task.IsFinished) (frame : Frame)
    (ready : (relay.addTask frame).1.isReady relay.tasks.length = true) :
    (List.range (relay.addTask frame).1.tasks.length).find? (relay.addTask frame).1.isReady =
      some relay.tasks.length := by
  have longer : (relay.addTask frame).1.tasks.length = relay.tasks.length + 1 := by simp [addTask]
  rw [longer, List.range_succ, List.find?_append]
  have nobody : (List.range relay.tasks.length).find? (relay.addTask frame).1.isReady = none := by
    rw [List.find?_eq_none]
    intro t inside
    have bound := List.mem_range.mp inside
    obtain ⟨reply, same⟩ := idle _ (List.getElem_mem bound)
    simp [isReady, addTask, List.getElem?_append_left bound, List.getElem?_eq_getElem bound, same,
      advance?]
  simp [nobody, ready]

theorem idle_onTask {frame : Frame} {reply : Reply} (idle : ∀ task ∈ relay.tasks, task.IsFinished)
    (tasks : final.tasks = (relay.addTask frame).1.tasks) :
    ∀ task ∈ (final.onTask relay.tasks.length (.finished reply)).tasks, task.IsFinished := by
  intro task member
  simp only [onTask, tasks, addTask, List.set_append_right _ _ (Nat.le_refl _), Nat.sub_self,
    List.set_cons_zero, List.mem_append, List.mem_singleton] at member
  rcases member with member | rfl
  · exact idle task member
  · exact ⟨reply, rfl⟩

theorem rest_of_reaches {frame : Frame} {reply : Reply} {k : Nat}
    (idle : ∀ task ∈ relay.tasks, task.IsFinished)
    (reaches : Reaches relay.tasks.length k (relay.addTask frame).1
      (final.onTask relay.tasks.length (.finished reply)))
    (few : k ≤ taskSteps) (tasks : final.tasks = (relay.addTask frame).1.tasks)
    (noMqtt : final.mqtt = []) (held : (final.onTask relay.tasks.length (.finished reply)).AllHeld) :
    (relay.addTask frame).1.rest = final.onTask relay.tasks.length (.finished reply) := by
  have inside : relay.tasks.length < final.tasks.length := by simp [tasks, addTask]
  have there : (final.onTask relay.tasks.length (.finished reply)).tasks[relay.tasks.length]? =
      some (.finished reply) := getElem?_onTask inside _
  have ran : (relay.addTask frame).1.run relay.tasks.length taskSteps =
      final.onTask relay.tasks.length (.finished reply) := by
    have split : taskSteps = (taskSteps - k) + k := by omega
    rw [split, reaches, run_of_finished there]
  have ready : (relay.addTask frame).1.isReady relay.tasks.length = true := by
    cases stuck : (relay.addTask frame).1.isReady relay.tasks.length with
    | true => rfl
    | false =>
      -- A task that cannot go on would still be where it began.
      have waits : ((relay.addTask frame).1.tasks[relay.tasks.length]?).bind
          (relay.addTask frame).1.advance? = none := by
        simpa [isReady] using stuck
      have stays : (relay.addTask frame).1.run relay.tasks.length taskSteps =
          (relay.addTask frame).1 := by
        simp only [taskSteps, run, waits]
      rw [ran] at stays
      rw [stays] at there
      simp [addTask] at there
  have fuel : ∃ n, taskSteps * ((relay.addTask frame).1.tasks.length +
      (relay.addTask frame).1.listeners.length + (relay.addTask frame).1.handles.length + 1) =
      n + 1 := ⟨_, (Nat.succ_pred (by simp [taskSteps])).symm⟩
  obtain ⟨n, same⟩ := fuel
  rw [rest, same, settle]
  simp only [find?_isReady_addTask idle frame ready, ran, held.collect_eq]
  exact settle_of_idle (idle_onTask idle tasks) noMqtt n

theorem call_of_reaches {frame : Frame} {reply : Reply} {k : Nat}
    (idle : ∀ task ∈ relay.tasks, task.IsFinished)
    (reaches : Reaches relay.tasks.length k (relay.addTask frame).1
      (final.onTask relay.tasks.length (.finished reply)))
    (few : k ≤ taskSteps) (tasks : final.tasks = (relay.addTask frame).1.tasks)
    (noMqtt : final.mqtt = []) (held : (final.onTask relay.tasks.length (.finished reply)).AllHeld) :
    relay.call frame = (final.onTask relay.tasks.length (.finished reply), some reply) := by
  have inside : relay.tasks.length < final.tasks.length := by simp [tasks, addTask]
  have there : (final.onTask relay.tasks.length (.finished reply)).tasks[relay.tasks.length]? =
      some (.finished reply) := getElem?_onTask inside _
  have rested := rest_of_reaches idle reaches few tasks noMqtt held
  have number : (relay.addTask frame).2 = relay.tasks.length := rfl
  simp only [call, spawn, number, rested, reply?, there]

end Relay

end EventRelay
