import EventRelay.Proofs.Basic
import EventRelay.Proofs.Relay.Segments

namespace EventRelay

/-- Calls that others may wait for. Nobody waits for a call on a listener. -/
def Frame.isInner : Frame → Bool
  | .start .. | .stop .. => false
  | _ => true

def Relay.Next.IsInner : Relay.Next → Prop
  | .go frame => frame.isInner
  | .call frame callee => frame.isInner ∧ callee.isInner
  | .reply _ | .wait => True

def Listener.standing (listener : Listener) : ListenerConfig × Lifecycle Nat :=
  (listener.config, listener.lifecycle)

namespace Relay

/-- No task is new but the close of a connection. -/
def AddsCloses (relay next : Relay) : Prop :=
  ∃ added, next.tasks = relay.tasks ++ added ∧
    ∀ task ∈ added, ∃ name connection, task = .active none [.closeShared name connection]

theorem AddsCloses.length {relay next : Relay} (closes : AddsCloses relay next) :
    relay.tasks.length ≤ next.tasks.length := by
  obtain ⟨added, tasks, _⟩ := closes
  rw [tasks, List.length_append]
  exact Nat.le_add_right _ _

theorem AddsCloses.mem {relay next : Relay} {task : Task} (closes : AddsCloses relay next)
    (member : task ∈ next.tasks) :
    task ∈ relay.tasks ∨ ∃ name connection, task = .active none [.closeShared name connection] := by
  obtain ⟨added, tasks, closes⟩ := closes
  rw [tasks] at member
  exact (List.mem_append.mp member).imp_right (closes task)

/-- The listeners stand where they stood. -/
structure Spares (relay next : Relay) : Prop where
  standing : next.listeners.map Listener.standing = relay.listeners.map Listener.standing
  tasks : AddsCloses relay next

variable {relay next final : Relay} {l h : Nat}

namespace Spares

theorem of_eq (listeners : next.listeners = relay.listeners) (tasks : next.tasks = relay.tasks) :
    Spares relay next where
  standing := by rw [listeners]
  tasks := ⟨[], by rw [tasks, List.append_nil], by simp⟩

theorem refl (relay : Relay) : Spares relay relay := of_eq rfl rfl

theorem trans (first : Spares relay next) (second : Spares next final) : Spares relay final where
  standing := second.standing.trans first.standing
  tasks := by
    obtain ⟨added, tasks, closes⟩ := first.tasks
    obtain ⟨others, same, closesToo⟩ := second.tasks
    refine ⟨added ++ others, by rw [same, tasks, List.append_assoc], ?_⟩
    intro task member
    rcases List.mem_append.mp member with member | member
    · exact closes task member
    · exact closesToo task member

theorem log (spares : Spares relay next) (records : List LogRecord) :
    Spares relay (next.log records) :=
  spares.trans (of_eq (log_listeners records) (log_tasks records))

theorem note (spares : Spares relay next) (occurrence : Occurrence) :
    Spares relay (next.note occurrence) := spares.trans (of_eq rfl rfl)

theorem foldl {α : Type} {f : Relay → α → Relay} (each : ∀ relay a, Spares relay (f relay a))
    (list : List α) (relay : Relay) : Spares relay (list.foldl f relay) := by
  induction list generalizing relay with
  | nil => exact refl relay
  | cons a rest ih => exact (each relay a).trans (ih (f relay a))

theorem setListener {listener other : Listener} (present : relay.listeners[l]? = some listener)
    (same : other.standing = listener.standing) : Spares relay (relay.setListener l other) where
  standing := map_set_same present same
  tasks := ⟨[], (List.append_nil _).symm, by simp⟩

theorem setBoth (spares : Spares relay next) (l : Nat) (listener : Listener) :
    Spares (relay.setListener l listener) (next.setListener l listener) where
  standing := by simp only [Relay.setListener, List.map_set, spares.standing]
  tasks := spares.tasks

theorem length (spares : Spares relay next) : next.listeners.length = relay.listeners.length := by
  simpa using congrArg List.length spares.standing

theorem listener {old : Listener} (spares : Spares relay next)
    (present : relay.listeners[l]? = some old) :
    ∃ new, next.listeners[l]? = some new ∧ new.standing = old.standing := by
  have there := congrArg (fun list => list[l]?) spares.standing
  simpa [List.getElem?_map, present] using there

end Spares

theorem spares_addTask (name : String) (connection : Nat) :
    Spares relay (relay.addTask (.closeShared name connection)).1 where
  standing := rfl
  tasks := ⟨_, rfl, by simp⟩

theorem spares_releaseHandle (point : Registry.Release Nat) :
    Spares relay (relay.releaseHandle h point).1 := by
  unfold releaseHandle
  split
  · exact .refl relay
  · split
    · exact .refl relay
    · split
      refine Spares.log ?_ _
      exact .of_eq rfl rfl

theorem spares_dropHandle (background : Bool) : Spares relay (relay.dropHandle background h) := by
  have goes : ∀ (fuel : Nat) (relay : Relay) (point : Registry.Release Nat),
      Spares relay (dropHandle.go background h relay point fuel) := by
    intro fuel
    induction fuel with
    | zero => exact fun relay _ => .refl relay
    | succ fuel ih =>
      intro relay point
      cases point with
      | done => exact .refl relay
      | close connection =>
        simp only [dropHandle.go]
        split
        · exact .refl relay
        · split
          · exact spares_addTask ..
          · exact Spares.log (.refl relay) _
      | mark | decrement | remove =>
        simp only [dropHandle.go]
        exact (spares_releaseHandle _).trans (ih _ _)
  exact goes 4 relay .mark

/-- Whoever is dropped keeps its state and its slot. -/
theorem spares_collect (background : Bool) : Spares relay (relay.collect background) := by
  have visits : ∀ relay l, Spares relay (visitListener background relay l) := by
    intro relay l
    unfold visitListener
    split
    · exact .refl relay
    · rename_i listener present
      split
      · exact .refl relay
      · refine Spares.trans ?_ (spares_dropHandle background)
        exact .setListener present rfl
  rw [collect_eq_visits]
  refine (Spares.foldl visits _ relay).trans (Spares.foldl (fun relay h => ?_) _ _)
  split
  · exact .refl relay
  · split
    · exact .refl relay
    · refine Spares.trans ?_ (spares_dropHandle background)
      exact .of_eq rfl rfl

theorem spares_register (receiver : Nat) (callback : Callback) :
    Spares relay (relay.register receiver callback).1 := by
  have placed : Spares relay (relay.place receiver callback).1 := by
    unfold place
    split
    · split <;> exact .of_eq rfl rfl
    · split <;> exact .of_eq rfl rfl
    · split <;> exact .of_eq rfl rfl
    · exact .refl relay
  exact placed.trans (spares_collect true)

/-- A step of a call that spares the listeners, and leads to none. -/
def Inner (relay : Relay) (outcome : Relay × Next) : Prop :=
  Spares relay outcome.1 ∧ outcome.2.IsInner

theorem inner_finishScripted (spares : Spares relay next) (i : Nat) (call : Script.Call)
    (outcome : Script.Outcome) : Inner relay (next.finishScripted i call outcome) := by
  unfold finishScripted
  split <;> exact ⟨spares.trans (.of_eq rfl rfl), trivial⟩

theorem inner_callScripted (i : Nat) (call : Script.Call) :
    Inner relay (relay.callScripted i call) := by
  unfold callScripted
  split
  · exact ⟨.refl relay, trivial⟩
  · split
    split
    · exact ⟨.of_eq rfl rfl, rfl⟩
    · apply inner_finishScripted
      exact .of_eq rfl rfl

theorem inner_step {frame : Frame} (inner : frame.isInner) : Inner relay (relay.step frame) := by
  have ended : ∀ reply, Inner relay (relay, .reply reply) := fun _ => ⟨.refl relay, trivial⟩
  cases frame with
  | start | stop => cases inner
  | release h point =>
    cases point with
    | close connection => exact ⟨.refl relay, rfl, rfl⟩
    | done => exact ended _
    | mark | decrement | remove =>
      simp only [step]
      exact ⟨spares_releaseHandle _, rfl⟩
  | closeShared name connection => exact ⟨.refl relay, rfl, rfl⟩
  | createReceiver connection =>
    simp only [step]
    split
    · split
      · exact ended _
      · split <;> exact ⟨.of_eq rfl rfl, trivial⟩
    · exact inner_callScripted ..
    · exact ⟨.refl relay, rfl⟩
    · exact ended _
  | receiverOn h =>
    simp only [step]
    split
    · exact ⟨.refl relay, rfl, rfl⟩
    · exact ended _
  | closeReceiver receiver =>
    simp only [step]
    split
    · split
      · exact ended _
      · refine ⟨Spares.log (.trans ?_ (spares_collect true)) _, trivial⟩
        exact .of_eq rfl rfl
    · exact inner_callScripted ..
    · split
      · exact ended _
      · refine ⟨Spares.log (.trans ?_ (spares_collect true)) _, trivial⟩
        exact .of_eq rfl rfl
    · exact ended _
  | closeConnection connection =>
    simp only [step]
    split
    · split
      · exact ended _
      · exact ⟨.of_eq rfl rfl, trivial⟩
    · exact inner_callScripted ..
    · exact ⟨.refl relay, rfl⟩
    · exact ended _
  | gated i ticket call outcome =>
    simp only [step]
    split
    · exact ended _
    · split
      · apply inner_finishScripted
        exact .of_eq rfl rfl
      · exact ⟨.refl relay, trivial⟩
  | createMqtt i point =>
    simp only [step]
    split
    · exact ended _
    · split
      · exact ⟨.of_eq rfl rfl, trivial⟩
      · exact ended _
      · refine ⟨Spares.log ?_ _, rfl⟩
        exact .of_eq rfl rfl
      · split
        · exact ⟨.of_eq rfl rfl, rfl⟩
        · exact ⟨.refl relay, trivial⟩
      · exact ⟨.of_eq rfl rfl, rfl⟩
  | closeMqtt i point =>
    simp only [step]
    split
    · exact ended _
    · split
      · exact ended _
      · exact ⟨.refl relay, trivial⟩
      · exact ⟨.refl relay, trivial⟩
      · exact ⟨.refl relay, trivial⟩
      · refine ⟨Spares.log ?_ _, rfl⟩
        exact .of_eq rfl rfl

theorem spares_resume (frame : Frame) (reply : Reply) : Spares relay (relay.resume frame reply).1 := by
  unfold resume
  split
  · exact .refl relay
  · split
    · exact .refl relay
    · exact Spares.log (.refl relay) _
  · split
    · exact .refl relay
    · exact Spares.log (.refl relay) _
  · exact .refl relay
  · split
    · exact .refl relay
    · exact Spares.log (.refl relay) _
  · exact Spares.log (.refl relay) _
  · exact .refl relay

theorem inner_resume {frame : Frame} (inner : frame.isInner) (reply : Reply) :
    Inner relay (relay.resume frame reply) := by
  refine ⟨spares_resume frame reply, ?_⟩
  cases frame with
  | start | stop => cases inner
  | release h point =>
    cases point <;> cases reply <;> try trivial
    simp only [resume]
    split
    · trivial
    · rfl
  | closeShared name connection => cases reply <;> trivial
  | createReceiver | receiverOn | closeReceiver | closeConnection | gated | createMqtt | closeMqtt =>
    trivial

theorem spares_abandon (frame : Frame) : Spares relay (relay.abandon frame) := by
  unfold abandon
  split
  · split <;> exact .of_eq rfl rfl
  · split <;> exact .of_eq rfl rfl
  · split <;> exact .of_eq rfl rfl
  · exact .refl relay

theorem spares_accept (sink : Sink) (event : Event) : Spares relay (relay.accept sink event) := by
  unfold accept
  split
  · exact .of_eq rfl rfl
  · exact .foldl (fun relay record => (Spares.refl relay).note _) _ _
  · exact .of_eq rfl rfl
  · exact Spares.log (.refl relay) _

theorem spares_dispatch (l : Nat) (message : Message) : Spares relay (relay.dispatch l message) := by
  unfold dispatch
  split
  · exact .refl relay
  · split
    · exact spares_accept ..
    · split
      · exact .of_eq rfl rfl
      · exact Spares.log (.refl relay) _

theorem spares_hand (callback : Callback) (message : Message) :
    Spares relay (relay.hand callback message) := by
  unfold hand
  split
  · exact .of_eq rfl rfl
  · exact spares_dispatch ..
  · exact spares_dispatch ..

theorem spares_publish (broker : Nat) (destination : String) (message : Message) :
    Spares relay (relay.publish broker destination message).1 := by
  unfold publish
  split
  · exact .refl relay
  · exact .foldl (fun _ callback => spares_hand callback message) _ _

theorem spares_deliver (provider : Nat) (message : Message) :
    Spares relay (relay.deliver provider message).1 := by
  unfold deliver
  split
  · exact spares_hand ..
  · exact .refl relay

theorem spares_poll (i : Nat) (polled : Mqtt.Polled) : Spares relay (relay.poll i polled) := by
  unfold poll
  split
  · exact .refl relay
  · split
    have hands : ∀ relay (handed : Callback × Message), Spares relay (relay.hand handed.1 handed.2) :=
      fun _ handed => spares_hand handed.1 handed.2
    refine Spares.trans (.log ?_ _) (.foldl hands _ _)
    exact .of_eq rfl rfl

theorem spares_flush (i : Nat) : Spares relay (relay.flush i) := by
  have sends : ∀ (sent : List Mqtt.Request) (relay : Relay),
      Spares relay (sent.foldl (fun relay request => relay.note (.sent i request)) relay) :=
    .foldl fun relay request => (Spares.refl relay).note _
  unfold flush
  split
  · exact .refl relay
  · split
    · split
      split
      · refine Spares.trans (.trans ?_ (sends _ _)) (spares_poll ..)
        exact .of_eq rfl rfl
      · refine Spares.trans ?_ (sends _ _)
        exact .of_eq rfl rfl
    · exact .refl relay

theorem spares_flushAll : Spares relay relay.flushAll := .foldl (fun _ i => spares_flush i) _ relay

theorem spares_connect (factory : Factory) (params : ConnectionParams) :
    Spares relay (relay.connect factory params).1 := by
  cases factory with
  | memory i required =>
    simp only [connect]
    split <;> exact .of_eq rfl rfl
  | script i =>
    simp only [connect]
    repeat' split
    all_goals exact .of_eq rfl rfl
  | mqtt factory =>
    simp only [connect]
    split <;> exact .of_eq rfl rfl

theorem spares_resolve (r : Nat) (name : String) (params : ConnectionParams) (factory : Factory)
    (owned : Bool) : Spares relay (relay.resolve r name params factory owned).1 := by
  unfold resolve
  split
  · exact .refl relay
  · split
    · exact .of_eq (log_listeners _) (log_tasks _)
    · have connects := @spares_connect relay factory params
      split
      · rename_i connected
        exact connected ▸ connects
      · rename_i after connection connected
        rw [connected] at connects
        exact connects.trans (.of_eq (log_listeners _) (log_tasks _))

end Relay

end EventRelay
