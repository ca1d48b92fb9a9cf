import EventRelay.Proofs.Basic
import EventRelay.Proofs.Relay.Segments

namespace EventRelay

def Occurrence.accepted? (label : String) : Occurrence → Option Event
  | .accepted other event => if other = label then some event else none
  | _ => none

namespace Relay

variable {relay final : Relay} {l i c r : Nat} {listener : Listener} {handle : Handle}
  {broker after : Memory.Broker Callback}

def accepted (relay : Relay) (label : String) : List Event :=
  relay.history.reverse.filterMap (Occurrence.accepted? label)

theorem accepted_logged (label : String) (records : List LogRecord) :
    accepted { relay with history := (records.map .logged).reverse ++ relay.history } label =
      relay.accepted label := by
  have nothing : (records.map Occurrence.logged).filterMap (Occurrence.accepted? label) = [] := by
    rw [List.filterMap_eq_nil_iff]
    intro occurrence member
    obtain ⟨record, _, rfl⟩ := List.mem_map.mp member
    rfl
  simp only [accepted, List.reverse_append, List.reverse_reverse, List.filterMap_append, nothing,
    List.append_nil]

@[simp]
theorem accepted_log (label : String) (records : List LogRecord) :
    (relay.log records).accepted label = relay.accepted label := by
  rw [log_eq]
  exact accepted_logged label _

/-- The same tasks and connections, held by the same holders, and nothing accepted meanwhile. -/
structure Quiet (relay final : Relay) : Prop where
  tasks : final.tasks = relay.tasks
  mqtt : final.mqtt = relay.mqtt
  scripts : final.scripts = relay.scripts
  connections : final.connections = relay.connections
  held : final.held = relay.held
  accepted : ∀ label, final.accepted label = relay.accepted label

namespace Quiet

theorem refl (relay : Relay) : Quiet relay relay := ⟨rfl, rfl, rfl, rfl, rfl, fun _ => rfl⟩

theorem trans {middle : Relay} (first : Quiet relay middle) (second : Quiet middle final) :
    Quiet relay final where
  tasks := second.tasks.trans first.tasks
  mqtt := second.mqtt.trans first.mqtt
  scripts := second.scripts.trans first.scripts
  connections := second.connections.trans first.connections
  held := second.held.trans first.held
  accepted label := (second.accepted label).trans (first.accepted label)

theorem log (quiet : Quiet relay final) (records : List LogRecord) :
    Quiet relay (final.log records) := by
  obtain ⟨tasks, mqtt, scripts, connections, held, accepted⟩ := quiet
  constructor <;> simpa

theorem setListener (quiet : Quiet relay final) (l : Nat) (x : Listener) :
    Quiet relay (final.setListener l x) :=
  ⟨quiet.tasks, quiet.mqtt, quiet.scripts, quiet.connections, quiet.held, quiet.accepted⟩

theorem setBroker (quiet : Quiet relay final) (i : Nat) (x : Memory.Broker Callback) :
    Quiet relay (final.setBroker i x) :=
  ⟨quiet.tasks, quiet.mqtt, quiet.scripts, quiet.connections, quiet.held, quiet.accepted⟩

theorem addReceiver (quiet : Quiet relay final) (receiver : ReceiverRef) :
    Quiet relay (final.addReceiver receiver).1 :=
  ⟨quiet.tasks, quiet.mqtt, quiet.scripts, quiet.connections, quiet.held, quiet.accepted⟩

theorem putHolding (quiet : Quiet relay final) (h : Nat) (handle : Handle)
    (holding : Registry.Holding Nat) : Quiet relay (final.putHolding h handle holding) :=
  ⟨quiet.tasks, quiet.mqtt, quiet.scripts, quiet.connections, quiet.held, quiet.accepted⟩

end Quiet

/-- Nothing is under way, and nothing is without a holder. -/
structure Calm (relay : Relay) : Prop where
  idle : ∀ task ∈ relay.tasks, task.IsFinished
  noMqtt : relay.mqtt = []
  noScripts : relay.scripts = []
  allHeld : relay.AllHeld

theorem Calm.noted (calm : relay.Calm) (history : List Occurrence) : Calm { relay with history } :=
  ⟨calm.idle, calm.noMqtt, calm.noScripts, calm.allHeld.listeners, calm.allHeld.handles⟩

theorem Calm.setBroker (calm : relay.Calm) (i : Nat) (x : Memory.Broker Callback) :
    (relay.setBroker i x).Calm :=
  ⟨calm.idle, calm.noMqtt, calm.noScripts, calm.allHeld.setBroker i x⟩

theorem AllHeld.carry (allHeld : relay.AllHeld) (held : final.held = relay.held)
    (dropped : final.listeners.map Listener.dropped = relay.listeners.map Listener.dropped)
    (owned : ∀ handle ∈ final.handles, handle.owned = true) : final.AllHeld where
  listeners := by
    intro l listener present kept
    have same := congrArg (fun flags => flags[l]?) dropped
    simp only [List.getElem?_map, present, Option.map_some, kept] at same
    obtain ⟨old, there, was⟩ := Option.map_eq_some_iff.mp same.symm
    rw [held]
    exact allHeld.listeners l old there was
  handles := owned

/-- A call is made and answered, and leaves the relay calm, with nothing accepted meanwhile. -/
structure Completes (relay : Relay) (frame : Frame) (reply : Reply) (final : Relay) : Prop where
  call : relay.call frame = (final, some reply)
  calm : final.Calm
  connections : final.connections = relay.connections
  held : final.held = relay.held
  accepted : ∀ label, final.accepted label = relay.accepted label

theorem dropped_set (present : relay.listeners[l]? = some listener) (lifecycle : Lifecycle Nat) :
    (relay.listeners.set l { listener with lifecycle }).map Listener.dropped =
      relay.listeners.map Listener.dropped := map_set_same present rfl

theorem addTask_eq (relay : Relay) (frame : Frame) :
    (relay.addTask frame).1.onTask relay.tasks.length (.active none [frame]) =
      (relay.addTask frame).1 := by
  simp [onTask, addTask]

theorem length_addTask (relay : Relay) (frame : Frame) :
    relay.tasks.length < (relay.addTask frame).1.tasks.length := by
  simp [addTask]

theorem Calm.completes {frame : Frame} {reply : Reply} {k : Nat} (calm : relay.Calm)
    (chain : Reaches relay.tasks.length k
      ((relay.addTask frame).1.onTask relay.tasks.length (.active none [frame]))
      (final.onTask relay.tasks.length (.finished reply)))
    (few : k ≤ taskSteps) (quiet : Quiet (relay.addTask frame).1 final)
    (dropped : final.listeners.map Listener.dropped = relay.listeners.map Listener.dropped)
    (owned : ∀ handle ∈ final.handles, handle.owned = true) :
    Completes relay frame reply (final.onTask relay.tasks.length (.finished reply)) := by
  have kept : (final.onTask relay.tasks.length (.finished reply)).AllHeld :=
    (calm.allHeld.carry quiet.held dropped owned).onTask ..
  have noMqtt : final.mqtt = [] := quiet.mqtt.trans calm.noMqtt
  rw [addTask_eq] at chain
  exact ⟨call_of_reaches calm.idle chain few quiet.tasks noMqtt kept,
    ⟨idle_onTask calm.idle quiet.tasks, noMqtt, quiet.scripts.trans calm.noScripts, kept⟩,
    quiet.connections, quiet.held, quiet.accepted⟩

theorem call_start_ignored (calm : relay.Calm) (present : relay.listeners[l]? = some listener)
    (found : listener.lifecycle.state ≠ .initialized) :
    ∃ final, Completes relay (.start l .claim) (.started (.ok ())) final ∧
      final.brokers = relay.brokers ∧ final.receivers = relay.receivers ∧
      final.registries = relay.registries ∧ final.handles = relay.handles ∧
      final.listeners = relay.listeners := by
  have inside := length_addTask relay (.start l .claim)
  have known : l < relay.listeners.length := (List.getElem?_eq_some_iff.mp present).1
  have start : listener.lifecycle.start listener.config .claim =
      (listener.lifecycle, [Lifecycle.record listener.config .debug
        ("Start ignored in state " ++ listener.lifecycle.state.name)], .done (.ok ())) := by
    simp [Lifecycle.start, ListenerState.compareAndSet, found]
  have there : (relay.addTask (.start l .claim)).1.listeners[l]? = some listener := present
  have chain := (reaches_start [] inside there (.inl rfl) start).trans
    (reaches_started (by simpa using inside) (by simpa [addTask] using known))
  rw [setListener_self there] at chain
  refine ⟨_, calm.completes chain (by decide) ((Quiet.refl _).log _) ?_ ?_, ?_, ?_, ?_, ?_, ?_⟩
  case refine_2 =>
    rw [log_handles]
    exact calm.allHeld.handles
  all_goals
    simp
    rfl

theorem call_start_denied {e : ProviderError} (calm : relay.Calm)
    (present : relay.listeners[l]? = some listener)
    (found : listener.lifecycle.state = .initialized)
    (has : relay.handles[listener.handle]? = some handle)
    (connected : relay.connections[handle.connection]? = some (.memory i c))
    (there : relay.brokers[i]? = some broker) (made : broker.createReceiver c = (after, .error e)) :
    ∃ final, Completes relay (.start l .claim) (.started (.error (.noReceiver e))) final ∧
      final.brokers = relay.brokers.set i after ∧ final.receivers = relay.receivers ∧
      final.registries = relay.registries ∧ final.handles = relay.handles ∧
      final.listeners = relay.listeners.set l { listener with lifecycle.state := .starting } := by
  have inside := length_addTask relay (.start l .claim)
  have known : l < relay.listeners.length := (List.getElem?_eq_some_iff.mp present).1
  obtain ⟨records, start⟩ : ∃ records, listener.lifecycle.start listener.config .claim =
      ({ listener.lifecycle with state := .starting }, records, .create) := by
    simp [Lifecycle.start, ListenerState.compareAndSet, found]
  have base : (relay.addTask (.start l .claim)).1.listeners[l]? = some listener := present
  have chain := ((reaches_start [] inside base (.inl rfl) start).trans
    (reaches_denied [] (by simpa using inside) (by simpa using getElem?_setListener base _)
      (by simpa [setListener, addTask] using has) (by simpa [setListener, addTask] using connected)
      (by simpa [setListener, addTask] using there) made)).trans
    (reaches_started (by simpa using inside) (by simpa [addTask] using known))
  refine ⟨_, calm.completes chain (by decide)
    ((((Quiet.refl _).setListener _ _).log _).setBroker _ _) ?_ ?_, ?_, ?_, ?_, ?_, ?_⟩
  case refine_1 =>
    simpa [setListener, addTask] using dropped_set present { listener.lifecycle with state := .starting }
  case refine_2 => simpa [setListener, addTask] using calm.allHeld.handles
  all_goals simp [setListener, setBroker, addTask]

theorem call_start_started (calm : relay.Calm) (present : relay.listeners[l]? = some listener)
    (found : listener.lifecycle.state = .initialized)
    (has : relay.handles[listener.handle]? = some handle)
    (connected : relay.connections[handle.connection]? = some (.memory i c))
    (there : relay.brokers[i]? = some broker) (made : broker.createReceiver c = (after, .ok r)) :
    ∃ final, Completes relay (.start l .claim) (.started (.ok ())) final ∧
      final.brokers = relay.brokers.set i (after.setListener r (.dispatcher l)) ∧
      final.receivers = relay.receivers ++ [.memory i r] ∧
      final.registries = relay.registries ∧ final.handles = relay.handles ∧
      final.listeners = relay.listeners.set l
        { listener with lifecycle := ⟨.started, some relay.receivers.length⟩ } := by
  have inside := length_addTask relay (.start l .claim)
  have known : l < relay.listeners.length := (List.getElem?_eq_some_iff.mp present).1
  have among : i < relay.brokers.length := (List.getElem?_eq_some_iff.mp there).1
  obtain ⟨records, start⟩ : ∃ records, listener.lifecycle.start listener.config .claim =
      ({ listener.lifecycle with state := .starting }, records, .create) := by
    simp [Lifecycle.start, ListenerState.compareAndSet, found]
  have base : (relay.addTask (.start l .claim)).1.listeners[l]? = some listener := present
  have created := (reaches_start [] inside base (.inl rfl) start).trans
    (reaches_created [] (by simpa using inside) (by simpa using getElem?_setListener base _)
      (by simpa [setListener, addTask] using has) (by simpa [setListener, addTask] using connected)
      (by simpa [setListener, addTask] using there) made)
  -- From here on the start is looked at from the relay in which its receiver was created.
  obtain ⟨middle, same⟩ : ∃ middle, (((((relay.addTask (.start l .claim)).1.setListener l
      { listener with lifecycle.state := .starting }).log records).setBroker i after).addReceiver
        (.memory i r)).1 = middle := ⟨_, rfl⟩
  rw [same, log_receivers] at created
  have quiet : Quiet (relay.addTask (.start l .claim)).1 middle := by
    rw [← same]
    exact ((((Quiet.refl _).setListener _ _).log _).setBroker _ _).addReceiver _
  have stored : middle.listeners = relay.listeners.set l
      { listener with lifecycle.state := .starting } := by
    simp [← same, addReceiver, setListener, addTask]
  have brokers : middle.brokers = relay.brokers.set i after := by
    simp [← same, addReceiver, setListener, setBroker, addTask]
  have receivers : middle.receivers = relay.receivers ++ [.memory i r] := by
    simp [← same, addReceiver, setListener, addTask]
  have registries : middle.registries = relay.registries := by
    simp [← same, addReceiver, setListener, setBroker, addTask]
  have handles : middle.handles = relay.handles := by
    simp [← same, addReceiver, setListener, addTask]
  have heldOn : middle.AllHeld := by
    refine calm.allHeld.carry quiet.held ?_ ?_
    · rw [stored]
      exact dropped_set present { listener.lifecycle with state := .starting }
    · rw [handles]
      exact calm.allHeld.handles
  obtain ⟨more, confirmed⟩ := @reaches_confirmed middle relay.tasks.length l
    { listener with lifecycle.state := .starting } i r relay.receivers.length after
    (by rw [quiet.tasks]; exact inside) (by simp [stored, known]) rfl (by simp [receivers])
    (by simp [brokers, among]) heldOn
  refine ⟨_, calm.completes (created.trans confirmed) (by decide)
    (((quiet.setBroker _ _).setListener _ _).log _) ?_ ?_, ?_, ?_, ?_, ?_, ?_⟩
  case refine_1 =>
    simpa [setListener, setBroker, stored] using
      dropped_set present ⟨.started, some relay.receivers.length⟩
  case refine_2 => simpa [setListener, setBroker, handles] using calm.allHeld.handles
  all_goals simp [setListener, setBroker, stored, brokers, receivers, registries, handles]

def emptied (broker : Memory.Broker Callback) : Option Nat → Memory.Broker Callback
  | some receiver => (broker.closeReceiver receiver).1
  | none => broker

def withdrawn (broker : Memory.Broker Callback) : Option (Nat × LogRecord) → Memory.Broker Callback
  | some (connection, _) => broker.closeConnection connection
  | none => broker

theorem reaches_emptied {t : Nat} (inside : t < relay.tasks.length) (held : relay.AllHeld)
    (present : relay.listeners[l]? = some listener)
    (early : listener.lifecycle.state ≠ .stopping ∧ listener.lifecycle.state ≠ .stopped)
    (there : relay.brokers = [broker])
    (given : ∀ receiver, listener.lifecycle.slot = some receiver →
      relay.receivers[receiver]? = some (.memory 0 receiver)) :
    ∃ k middle, k ≤ 6 ∧
      Reaches t k (relay.onTask t (.active none [.stop l .read]))
        (middle.onTask t (.active none [.stop l .release])) ∧
      Quiet relay middle ∧ middle.brokers = [emptied broker listener.lifecycle.slot] ∧
      middle.receivers = relay.receivers ∧ middle.registries = relay.registries ∧
      middle.handles = relay.handles ∧
      middle.listeners = relay.listeners.set l { listener with lifecycle := ⟨.stopping, none⟩ } := by
  have known : l < relay.listeners.length := (List.getElem?_eq_some_iff.mp present).1
  have taking := reaches_take inside present early
  have stored := getElem?_setListener present { listener with lifecycle.state := .stopping }
  cases slot : listener.lifecycle.slot with
  | none =>
    have take : Lifecycle.stop listener.config { listener.lifecycle with state := .stopping } .take =
        (⟨.stopping, none⟩, [], .release) := by simp [Lifecycle.stop, slot]
    have took := reaches_stop [] (by simpa using inside) stored (.inr (.inr (.inl rfl))) take
    rw [setListener_setListener] at took
    refine ⟨3, _, by decide, taking.trans took, ((Quiet.refl _).setListener _ _).log _, ?_⟩
    exact ⟨by simp [setListener, there, emptied], rfl, rfl, rfl, rfl⟩
  | some receiver =>
    have take : Lifecycle.stop listener.config { listener.lifecycle with state := .stopping } .take =
        (⟨.stopping, none⟩, [], .close receiver) := by simp [Lifecycle.stop, slot]
    have took := reaches_stop [] (by simpa using inside) stored (.inr (.inr (.inl rfl))) take
    rw [setListener_setListener, log_nil] at took
    have empty := getElem?_setListener present { listener with lifecycle := ⟨.stopping, none⟩ }
    have heldOn : (relay.setListener l { listener with lifecycle := ⟨.stopping, none⟩ }).AllHeld :=
      held.carry rfl (dropped_set present ⟨.stopping, none⟩) held.handles
    obtain ⟨records, closed⟩ := reaches_closed [] (by simpa using inside) empty (given receiver slot)
      (show relay.brokers[0]? = some broker by simp [there]) heldOn
      (show broker.closeReceiver receiver = (emptied broker (some receiver), _) from rfl)
    refine ⟨6, _, by decide, (taking.trans took).trans closed,
      (((Quiet.refl _).setListener _ _).setBroker _ _).log _, ?_⟩
    simp [setListener, setBroker, there]

theorem reaches_givenBack {t : Nat} {registry left : Registry Nat}
    {closing : Option (Nat × LogRecord)} (inside : t < relay.tasks.length)
    (present : relay.listeners[l]? = some listener)
    (has : relay.handles[listener.handle]? = some handle) (unreleased : handle.released = false)
    (there : relay.brokers = [broker]) (entries : relay.registries = [registry])
    (ours : handle.registry = 0)
    (removed : (registry.decrement handle.name).removeUnused handle.name = (left, closing))
    (connected : ∀ connection record, closing = some (connection, record) →
      relay.connections[connection]? = some (.memory 0 connection)) :
    ∃ k middle, k ≤ 9 ∧
      Reaches t k (relay.onTask t (.active none [.stop l .release]))
        (middle.onTask t (.active none [.stop l .finish])) ∧
      Quiet relay middle ∧ middle.brokers = [withdrawn broker closing] ∧
      middle.receivers = relay.receivers ∧ middle.registries = [left] ∧
      middle.handles = relay.handles.set listener.handle { handle with released := true } ∧
      middle.listeners = relay.listeners := by
  have called : Reaches t 1 (relay.onTask t (.active none [.stop l .release]))
      (relay.onTask t (.active none [.release listener.handle .mark, .stop l .release])) := by
    refine Reaches.step inside ?_ (show (Next.call (.stop l .release)
      (.release listener.handle .mark)).task? [] = _ from rfl)
    simp [step, present]
  obtain ⟨records, gone⟩ := reaches_removed [.stop l .release] inside has unreleased
    (by simp [ours, entries]) removed
  have known : listener.handle < relay.handles.length := (List.getElem?_eq_some_iff.mp has).1
  cases closing with
  | none =>
    have finish := @reaches_finish ((relay.putHolding listener.handle handle ⟨left, true⟩).log records)
      t l [] listener.handle (by simpa [putHolding] using inside)
    refine ⟨6, _, by decide, (called.trans gone).trans finish,
      ((Quiet.refl _).putHolding _ _ _).log _, ?_⟩
    simp [putHolding, there, entries, ours, withdrawn]
  | some closing =>
    obtain ⟨connection, record⟩ := closing
    have closed := @reaches_connectionClosed
      ((relay.putHolding listener.handle handle ⟨left, true⟩).log records) t 0 connection
      { handle with released := true } broker [.stop l .release] listener.handle connection
      (by simpa [putHolding] using inside) (by simp [putHolding, known])
      (by simpa [putHolding] using connected connection record rfl) (by simp [putHolding, there])
    have finish := @reaches_finish
      (((relay.putHolding listener.handle handle ⟨left, true⟩).log records).setBroker 0
        (broker.closeConnection connection)) t l [] listener.handle
      (by simpa [putHolding] using inside)
    refine ⟨9, _, by decide, ((called.trans gone).trans closed).trans finish,
      (((Quiet.refl _).putHolding _ _ _).log _).setBroker _ _, ?_⟩
    simp [putHolding, setBroker, there, entries, ours, withdrawn]

theorem call_stop_ignored (calm : relay.Calm) (present : relay.listeners[l]? = some listener)
    (found : listener.lifecycle.state = .stopping ∨ listener.lifecycle.state = .stopped) :
    ∃ final, Completes relay (.stop l .read) .finished final ∧
      final.brokers = relay.brokers ∧ final.receivers = relay.receivers ∧
      final.registries = relay.registries ∧ final.handles = relay.handles ∧
      final.listeners = relay.listeners := by
  have inside := length_addTask relay (.stop l .read)
  have known : l < relay.listeners.length := (List.getElem?_eq_some_iff.mp present).1
  obtain ⟨records, read⟩ : ∃ records, listener.lifecycle.stop listener.config .read =
      (listener.lifecycle, records, .done) := by
    rcases found with found | found <;> simp [Lifecycle.stop, found]
  have there : (relay.addTask (.stop l .read)).1.listeners[l]? = some listener := present
  have chain := (reaches_stop [] inside there (.inl rfl) read).trans
    (reaches_stopped (by simpa using inside) (by simpa [addTask] using known))
  rw [setListener_self there] at chain
  refine ⟨_, calm.completes chain (by decide) ((Quiet.refl _).log _) ?_ ?_, ?_, ?_, ?_, ?_, ?_⟩
  case refine_2 =>
    rw [log_handles]
    exact calm.allHeld.handles
  all_goals
    simp
    rfl

theorem call_stop_stopped {registry left : Registry Nat} {closing : Option (Nat × LogRecord)}
    (calm : relay.Calm) (present : relay.listeners[l]? = some listener)
    (early : listener.lifecycle.state ≠ .stopping ∧ listener.lifecycle.state ≠ .stopped)
    (there : relay.brokers = [broker])
    (given : ∀ receiver, listener.lifecycle.slot = some receiver →
      relay.receivers[receiver]? = some (.memory 0 receiver))
    (has : relay.handles[listener.handle]? = some handle) (unreleased : handle.released = false)
    (entries : relay.registries = [registry]) (ours : handle.registry = 0)
    (removed : (registry.decrement handle.name).removeUnused handle.name = (left, closing))
    (connected : ∀ connection record, closing = some (connection, record) →
      relay.connections[connection]? = some (.memory 0 connection)) :
    ∃ final, Completes relay (.stop l .read) .finished final ∧
      final.brokers = [withdrawn (emptied broker listener.lifecycle.slot) closing] ∧
      final.receivers = relay.receivers ∧ final.registries = [left] ∧
      final.handles = relay.handles.set listener.handle { handle with released := true } ∧
      final.listeners = relay.listeners.set l { listener with lifecycle := ⟨.stopped, none⟩ } := by
  have inside := length_addTask relay (.stop l .read)
  have known : l < relay.listeners.length := (List.getElem?_eq_some_iff.mp present).1
  obtain ⟨k, emptying, short, first, quiet, brokers, receivers, registries, handles, listeners⟩ :=
    @reaches_emptied (relay.addTask (.stop l .read)).1 l listener broker _ inside
      ⟨calm.allHeld.listeners, calm.allHeld.handles⟩ present early there given
  obtain ⟨m, freeing, brief, second, still, freed, same, lastly, owned, others⟩ :=
    @reaches_givenBack emptying l { listener with lifecycle := ⟨.stopping, none⟩ } handle
      (emptied broker listener.lifecycle.slot) relay.tasks.length registry left closing
      (by rw [quiet.tasks]; exact inside) (by rw [listeners]; simp [addTask, known])
      (by rw [handles]; exact has) unreleased brokers (by rw [registries]; exact entries) ours removed
      (by rw [quiet.connections]; exact connected)
  have finish : Lifecycle.stop listener.config ⟨.stopping, (none : Option Nat)⟩ .finish =
      (⟨.stopped, none⟩, [Lifecycle.record listener.config .info "Listener stopped"], .done) := rfl
  have stored : freeing.listeners = relay.listeners.set l
      { listener with lifecycle := ⟨.stopping, none⟩ } := by
    rw [others, listeners]
    rfl
  have third := @reaches_stop freeing relay.tasks.length l
    { listener with lifecycle := ⟨.stopping, none⟩ } [] _ _ _ _
    (by rw [still.tasks, quiet.tasks]; exact inside) (by simp [stored, known])
    (.inr (.inr (.inr rfl))) finish
  have ended := third.trans
    (reaches_stopped (by simpa [still.tasks, quiet.tasks] using inside) (by simp [stored, known]))
  refine ⟨_, calm.completes ((first.trans second).trans ended) ?_
    (((quiet.trans still).setListener _ _).log _) ?_ ?_, ?_, ?_, ?_, ?_, ?_⟩
  · have bound : taskSteps = 64 := rfl
    omega
  · simpa [setListener, stored] using dropped_set present ⟨.stopped, none⟩
  · have old : ∀ handle ∈ relay.handles, handle.owned = true := calm.allHeld.handles
    intro given member
    have among : given ∈ relay.handles.set listener.handle { handle with released := true } := by
      simpa [setListener, owned, handles, addTask] using member
    rcases List.mem_or_eq_of_mem_set among with member | rfl
    · exact old given member
    · exact old handle (List.mem_of_getElem? has)
  · simpa [setListener] using freed
  · simp [setListener, same, receivers, addTask]
  · simpa [setListener] using lastly
  · simp [setListener, owned, handles, addTask]
  · simp [setListener, stored]

theorem call_unknown {frame : Frame} (calm : relay.Calm) (missing : relay.listeners[l]? = none)
    (onListener : frame = .start l .claim ∨ frame = .stop l .read) :
    ∃ final, Completes relay frame .finished final ∧
      final.brokers = relay.brokers ∧ final.receivers = relay.receivers ∧
      final.registries = relay.registries ∧ final.handles = relay.handles ∧
      final.listeners = relay.listeners := by
  have unknown : (relay.addTask frame).1.listeners[l]? = none := missing
  have chain := reaches_reply (length_addTask relay frame)
    (show ((relay.addTask frame).1.onTask _ _).step frame = (_, .reply .finished) by
      rcases onListener with rfl | rfl <;> simp [step, unknown])
  exact ⟨_, calm.completes chain (by decide) (Quiet.refl _) rfl calm.allHeld.handles, rfl, rfl, rfl,
    rfl, rfl⟩

end Relay

end EventRelay
