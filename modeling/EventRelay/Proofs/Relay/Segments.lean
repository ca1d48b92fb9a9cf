import EventRelay.Proofs.Relay.Execution

namespace EventRelay.Relay

variable {relay : Relay} {t l : Nat} {listener : Listener}

def logged (relay : Relay) (records : List LogRecord) : List Occurrence :=
  ((records.flatMap relay.logger.write).map .logged).reverse

theorem foldl_note (relay : Relay) (records : List LogRecord) :
    records.foldl (fun relay record => relay.note (.logged record)) relay =
      { relay with history := (records.map .logged).reverse ++ relay.history } := by
  induction records generalizing relay with
  | nil => rfl
  | cons record rest ih =>
    rw [List.foldl_cons, ih]
    simp [note]

theorem log_eq (relay : Relay) (records : List LogRecord) :
    relay.log records = { relay with history := relay.logged records ++ relay.history } :=
  foldl_note relay _

theorem log_log (relay : Relay) (first second : List LogRecord) :
    (relay.log first).log second = relay.log (first ++ second) := by
  simp [log_eq, logged]

@[simp]
theorem log_nil (relay : Relay) : relay.log [] = relay := rfl

@[simp]
theorem onTask_brokers (task : Task) : (relay.onTask t task).brokers = relay.brokers := rfl

@[simp]
theorem onTask_connections (task : Task) : (relay.onTask t task).connections = relay.connections := rfl

@[simp]
theorem onTask_receivers (task : Task) : (relay.onTask t task).receivers = relay.receivers := rfl

@[simp]
theorem onTask_registries (task : Task) : (relay.onTask t task).registries = relay.registries := rfl

@[simp]
theorem onTask_handles (task : Task) : (relay.onTask t task).handles = relay.handles := rfl

@[simp]
theorem onTask_listeners (task : Task) : (relay.onTask t task).listeners = relay.listeners := rfl

@[simp]
theorem log_brokers (records : List LogRecord) : (relay.log records).brokers = relay.brokers := by
  rw [log_eq]

@[simp]
theorem log_mqtt (records : List LogRecord) : (relay.log records).mqtt = relay.mqtt := by
  rw [log_eq]

@[simp]
theorem log_scripts (records : List LogRecord) : (relay.log records).scripts = relay.scripts := by
  rw [log_eq]

@[simp]
theorem log_connections (records : List LogRecord) : (relay.log records).connections = relay.connections := by
  rw [log_eq]

@[simp]
theorem log_receivers (records : List LogRecord) : (relay.log records).receivers = relay.receivers := by
  rw [log_eq]

@[simp]
theorem log_registries (records : List LogRecord) : (relay.log records).registries = relay.registries := by
  rw [log_eq]

@[simp]
theorem log_handles (records : List LogRecord) : (relay.log records).handles = relay.handles := by
  rw [log_eq]

@[simp]
theorem log_listeners (records : List LogRecord) : (relay.log records).listeners = relay.listeners := by
  rw [log_eq]

@[simp]
theorem log_held (records : List LogRecord) : (relay.log records).held = relay.held := by
  rw [log_eq]

@[simp]
theorem log_tasks (records : List LogRecord) : (relay.log records).tasks = relay.tasks := by
  rw [log_eq]

@[simp]
theorem onTask_log (task : Task) (records : List LogRecord) :
    (relay.onTask t task).log records = (relay.log records).onTask t task := by
  simp only [log_eq]
  rfl

@[simp]
theorem onTask_setListener (task : Task) (x : Listener) :
    (relay.onTask t task).setListener l x = (relay.setListener l x).onTask t task := rfl

@[simp]
theorem onTask_setBroker (task : Task) (i : Nat) (broker : Memory.Broker Callback) :
    (relay.onTask t task).setBroker i broker = (relay.setBroker i broker).onTask t task := rfl

@[simp]
theorem onTask_addReceiver (task : Task) (receiver : ReceiverRef) :
    (relay.onTask t task).addReceiver receiver =
      ((relay.addReceiver receiver).1.onTask t task, relay.receivers.length) := rfl

@[simp]
theorem setBroker_receivers (i : Nat) (broker : Memory.Broker Callback) :
    (relay.setBroker i broker).receivers = relay.receivers := rfl

@[simp]
theorem setBroker_listeners (i : Nat) (broker : Memory.Broker Callback) :
    (relay.setBroker i broker).listeners = relay.listeners := rfl

@[simp]
theorem setBroker_handles (i : Nat) (broker : Memory.Broker Callback) :
    (relay.setBroker i broker).handles = relay.handles := rfl

@[simp]
theorem setBroker_tasks (i : Nat) (broker : Memory.Broker Callback) :
    (relay.setBroker i broker).tasks = relay.tasks := rfl

@[simp]
theorem length_setListener (x : Listener) :
    (relay.setListener l x).listeners.length = relay.listeners.length := by
  simp [setListener]

@[simp]
theorem setListener_tasks (x : Listener) : (relay.setListener l x).tasks = relay.tasks := rfl

theorem AllHeld.setBroker (held : relay.AllHeld) (i : Nat) (broker : Memory.Broker Callback) :
    (relay.setBroker i broker).AllHeld := ⟨held.listeners, held.handles⟩

theorem AllHeld.onTask (held : relay.AllHeld) (t : Nat) (task : Task) :
    (relay.onTask t task).AllHeld := ⟨held.listeners, held.handles⟩

theorem setListener_self (present : relay.listeners[l]? = some listener) :
    relay.setListener l listener = relay := by
  obtain ⟨inside, same⟩ := List.getElem?_eq_some_iff.mp present
  simp [setListener, ← same]

theorem setListener_setListener (relay : Relay) (l : Nat) (x y : Listener) :
    (relay.setListener l x).setListener l y = relay.setListener l y := by
  simp [setListener]

theorem getElem?_setListener (present : relay.listeners[l]? = some listener) (x : Listener) :
    (relay.setListener l x).listeners[l]? = some x := by
  obtain ⟨inside, _⟩ := List.getElem?_eq_some_iff.mp present
  simp [setListener, inside]

theorem reaches_reply {frame : Frame} {reply : Reply} (inside : t < relay.tasks.length)
    (replies : (relay.onTask t (.active none [frame])).step frame =
      (relay.onTask t (.active none [frame]), .reply reply)) :
    Reaches t 2 (relay.onTask t (.active none [frame])) (relay.onTask t (.finished reply)) := by
  have answered : Reaches t 1 (relay.onTask t (.active none [frame]))
      (relay.onTask t (.active (some reply) [])) := Reaches.step inside replies rfl
  exact answered.trans (.finish inside)

theorem reaches_start (waiting : List Frame) {point next : Lifecycle.Start Nat} {lifecycle : Lifecycle Nat}
    {records : List LogRecord} (inside : t < relay.tasks.length)
    (present : relay.listeners[l]? = some listener)
    (own : point = .claim ∨ point = .confirm ∨ point = .reclaim)
    (goes : listener.lifecycle.start listener.config point = (lifecycle, records, next)) :
    Reaches t 1 (relay.onTask t (.active none (.start l point :: waiting)))
      (((relay.setListener l { listener with lifecycle }).log records).onTask t
        (.active none (.start l next :: waiting))) := by
  refine Reaches.step inside ?_ (show (Next.go (.start l next)).task? waiting = _ from rfl)
  rcases own with rfl | rfl | rfl <;> simp [step, present, goes]

theorem reaches_stop (waiting : List Frame) {point next : Lifecycle.Stop Nat} {lifecycle : Lifecycle Nat}
    {records : List LogRecord} (inside : t < relay.tasks.length)
    (present : relay.listeners[l]? = some listener)
    (own : point = .read ∨ (∃ current, point = .claim current) ∨ point = .take ∨ point = .finish)
    (goes : listener.lifecycle.stop listener.config point = (lifecycle, records, next)) :
    Reaches t 1 (relay.onTask t (.active none (.stop l point :: waiting)))
      (((relay.setListener l { listener with lifecycle }).log records).onTask t
        (.active none (.stop l next :: waiting))) := by
  refine Reaches.step inside ?_ (show (Next.go (.stop l next)).task? waiting = _ from rfl)
  rcases own with rfl | ⟨current, rfl⟩ | rfl | rfl <;> simp [step, present, goes]

theorem reaches_started {result : Except ListenerError Unit} (inside : t < relay.tasks.length)
    (known : l < relay.listeners.length) :
    Reaches t 2 (relay.onTask t (.active none [.start l (.done result)]))
      (relay.onTask t (.finished (.started result))) := by
  apply reaches_reply inside
  simp [step, List.getElem?_eq_getElem known]

theorem reaches_stopped (inside : t < relay.tasks.length) (known : l < relay.listeners.length) :
    Reaches t 2 (relay.onTask t (.active none [.stop l .done]))
      (relay.onTask t (.finished .finished)) := by
  apply reaches_reply inside
  simp [step, List.getElem?_eq_getElem known]

variable {i c r receiver : Nat} {handle : Handle} {broker after : Memory.Broker Callback}

theorem reaches_asked (waiting : List Frame) (inside : t < relay.tasks.length)
    (present : relay.listeners[l]? = some listener)
    (has : relay.handles[listener.handle]? = some handle) :
    Reaches t 1 (relay.onTask t (.active none (.start l .create :: waiting)))
      (relay.onTask t
        (.active none (.createReceiver handle.connection :: .start l .create :: waiting))) := by
  refine Reaches.step inside ?_ (show (Next.call (.start l .create)
    (.createReceiver handle.connection)).task? waiting = _ from rfl)
  simp [step, present, has]

theorem reaches_created (waiting : List Frame) (inside : t < relay.tasks.length)
    (present : relay.listeners[l]? = some listener)
    (has : relay.handles[listener.handle]? = some handle)
    (connected : relay.connections[handle.connection]? = some (.memory i c))
    (there : relay.brokers[i]? = some broker) (made : broker.createReceiver c = (after, .ok r)) :
    Reaches t 3 (relay.onTask t (.active none (.start l .create :: waiting)))
      (((relay.setBroker i after).addReceiver (.memory i r)).1.onTask t
        (.active none (.start l (.register relay.receivers.length) :: waiting))) := by
  have answered : Reaches t 1
      (relay.onTask t (.active none (.createReceiver handle.connection :: .start l .create :: waiting)))
      (((relay.setBroker i after).addReceiver (.memory i r)).1.onTask t
        (.active (some (.receiver (.ok relay.receivers.length))) (.start l .create :: waiting))) := by
    refine Reaches.step inside ?_ (show (Next.reply
      (.receiver (.ok relay.receivers.length))).task? (.start l .create :: waiting) = _ from rfl)
    simp [step, connected, there, made]
  have resumed : Reaches t 1
      (((relay.setBroker i after).addReceiver (.memory i r)).1.onTask t
        (.active (some (.receiver (.ok relay.receivers.length))) (.start l .create :: waiting)))
      (((relay.setBroker i after).addReceiver (.memory i r)).1.onTask t
        (.active none (.start l (.register relay.receivers.length) :: waiting))) :=
    Reaches.resume inside rfl rfl
  exact ((reaches_asked waiting inside present has).trans answered).trans resumed

theorem reaches_denied (waiting : List Frame) {e : ProviderError} (inside : t < relay.tasks.length)
    (present : relay.listeners[l]? = some listener)
    (has : relay.handles[listener.handle]? = some handle)
    (connected : relay.connections[handle.connection]? = some (.memory i c))
    (there : relay.brokers[i]? = some broker) (made : broker.createReceiver c = (after, .error e)) :
    Reaches t 3 (relay.onTask t (.active none (.start l .create :: waiting)))
      ((relay.setBroker i after).onTask t
        (.active none (.start l (.done (.error (.noReceiver e))) :: waiting))) := by
  have answered : Reaches t 1
      (relay.onTask t (.active none (.createReceiver handle.connection :: .start l .create :: waiting)))
      ((relay.setBroker i after).onTask t
        (.active (some (.receiver (.error e))) (.start l .create :: waiting))) := by
    refine Reaches.step inside ?_ (show (Next.reply (.receiver (.error e))).task?
      (.start l .create :: waiting) = _ from rfl)
    simp [step, connected, there, made]
  have resumed : Reaches t 1
      ((relay.setBroker i after).onTask t
        (.active (some (.receiver (.error e))) (.start l .create :: waiting)))
      ((relay.setBroker i after).onTask t
        (.active none (.start l (.done (.error (.noReceiver e))) :: waiting))) :=
    Reaches.resume inside rfl rfl
  exact ((reaches_asked waiting inside present has).trans answered).trans resumed

theorem reaches_registered (waiting : List Frame) (inside : t < relay.tasks.length)
    (present : relay.listeners[l]? = some listener)
    (given : relay.receivers[receiver]? = some (.memory i r))
    (there : relay.brokers[i]? = some broker) (held : relay.AllHeld) :
    Reaches t 1 (relay.onTask t (.active none (.start l (.register receiver) :: waiting)))
      (((relay.setBroker i (broker.setListener r (.dispatcher l))).setListener l
        { listener with lifecycle.slot := some receiver }).onTask t
          (.active none (.start l .confirm :: waiting))) := by
  have kept : ((relay.setBroker i (broker.setListener r (.dispatcher l))).onTask t
      (.active none (.start l (.register receiver) :: waiting))).AllHeld :=
    (held.setBroker ..).onTask ..
  refine Reaches.step inside ?_ (show (Next.go (.start l .confirm)).task? waiting = _ from rfl)
  simp [step, register, place, present, given, there, Lifecycle.registered, kept.collect_eq]

theorem reaches_confirmed (inside : t < relay.tasks.length)
    (present : relay.listeners[l]? = some listener)
    (starting : listener.lifecycle.state = .starting)
    (given : relay.receivers[receiver]? = some (.memory i r))
    (there : relay.brokers[i]? = some broker) (held : relay.AllHeld) :
    ∃ records, Reaches t 4 (relay.onTask t (.active none [.start l (.register receiver)]))
      ((((relay.setBroker i (broker.setListener r (.dispatcher l))).setListener l
        { listener with lifecycle := ⟨.started, some receiver⟩ }).log records).onTask t
          (.finished (.started (.ok ())))) := by
  have registered : Reaches t 1 (relay.onTask t (.active none [.start l (.register receiver)])) _ :=
    reaches_registered [] inside present given there held
  have confirm : Lifecycle.start listener.config { listener.lifecycle with slot := some receiver }
      .confirm = (⟨.started, some receiver⟩,
        [Lifecycle.record listener.config .info "Listener started"], .done (.ok ())) := by
    simp [Lifecycle.start, ListenerState.compareAndSet, starting]
  have stored : ((relay.setBroker i (broker.setListener r (.dispatcher l))).setListener l
      { listener with lifecycle.slot := some receiver }).listeners[l]? =
        some { listener with lifecycle.slot := some receiver } := getElem?_setListener present _
  have confirmed := reaches_start [] (by simpa using inside) stored (.inr (.inl rfl)) confirm
  rw [setListener_setListener] at confirmed
  have known : l < relay.listeners.length := (List.getElem?_eq_some_iff.mp present).1
  refine ⟨_, (registered.trans confirmed).trans (reaches_started ?_ ?_)⟩
  · simpa using inside
  · simpa using known

theorem reaches_closed (waiting : List Frame) {record : LogRecord} {result : Except ProviderError Unit}
    (inside : t < relay.tasks.length) (present : relay.listeners[l]? = some listener)
    (given : relay.receivers[receiver]? = some (.memory i r))
    (there : relay.brokers[i]? = some broker) (held : relay.AllHeld)
    (closes : broker.closeReceiver r = (after, record, result)) :
    ∃ records, Reaches t 3 (relay.onTask t (.active none (.stop l (.close receiver) :: waiting)))
      (((relay.setBroker i after).log records).onTask t
        (.active none (.stop l .release :: waiting))) := by
  refine ⟨[record] ++ (@Lifecycle.closed Nat listener.config result).1, ?_⟩
  rw [← log_log]
  have called : Reaches t 1 (relay.onTask t (.active none (.stop l (.close receiver) :: waiting)))
      (relay.onTask t
        (.active none (.closeReceiver receiver :: .stop l (.close receiver) :: waiting))) := by
    refine Reaches.step inside ?_ (show (Next.call (.stop l (.close receiver))
      (.closeReceiver receiver)).task? waiting = _ from rfl)
    simp [step, present]
  have answered : Reaches t 1
      (relay.onTask t
        (.active none (.closeReceiver receiver :: .stop l (.close receiver) :: waiting)))
      (((relay.setBroker i after).log [record]).onTask t
        (.active (some (.closed result)) (.stop l (.close receiver) :: waiting))) := by
    have kept := ((held.setBroker i after).onTask t
      (.active none (.closeReceiver receiver :: .stop l (.close receiver) :: waiting)))
    refine Reaches.step inside ?_ (show (Next.reply (.closed result)).task?
      (.stop l (.close receiver) :: waiting) = _ from rfl)
    simp [step, given, there, closes, kept.collect_eq]
  have resumed : Reaches t 1
      (((relay.setBroker i after).log [record]).onTask t
        (.active (some (.closed result)) (.stop l (.close receiver) :: waiting)))
      ((((relay.setBroker i after).log [record]).log
        (@Lifecycle.closed Nat listener.config result).1).onTask t
          (.active none (.stop l .release :: waiting))) := by
    refine Reaches.resume (by simpa using inside) ?_
      (show (Next.go (.stop l .release)).task? waiting = _ from rfl)
    simp [resume, present, Lifecycle.closed]
  exact (called.trans answered).trans resumed

def putHolding (relay : Relay) (h : Nat) (handle : Handle) (holding : Registry.Holding Nat) : Relay :=
  { relay with
    registries := relay.registries.set handle.registry holding.registry
    handles := relay.handles.set h { handle with released := holding.released } }

theorem releaseHandle_eq {h : Nat} {registry : Registry Nat} {point next : Registry.Release Nat}
    {holding : Registry.Holding Nat} {records : List LogRecord}
    (has : relay.handles[h]? = some handle) (there : relay.registries[handle.registry]? = some registry)
    (goes : Registry.release handle.name ⟨registry, handle.released⟩ point = (holding, records, next)) :
    relay.releaseHandle h point = ((relay.putHolding h handle holding).log records, next) := by
  simp only [releaseHandle, has, there, goes]
  rfl

theorem reaches_released (waiting : List Frame) {h : Nat} {registry : Registry Nat}
    {point next : Registry.Release Nat}
    {holding : Registry.Holding Nat} {records : List LogRecord} (inside : t < relay.tasks.length)
    (has : relay.handles[h]? = some handle) (there : relay.registries[handle.registry]? = some registry)
    (own : point = .mark ∨ point = .decrement ∨ point = .remove)
    (goes : Registry.release handle.name ⟨registry, handle.released⟩ point = (holding, records, next)) :
    Reaches t 1 (relay.onTask t (.active none (.release h point :: waiting)))
      (((relay.putHolding h handle holding).log records).onTask t
        (.active none (.release h next :: waiting))) := by
  have released : (relay.onTask t (.active none (.release h point :: waiting))).releaseHandle h point =
      (((relay.putHolding h handle holding).log records).onTask t
        (.active none (.release h point :: waiting)), next) := by
    rw [← onTask_log]
    exact releaseHandle_eq has there goes
  refine Reaches.step inside ?_ (show (Next.go (.release h next)).task? waiting = _ from rfl)
  rcases own with rfl | rfl | rfl <;> simp [step, released]

theorem reaches_closeConnection (waiting : List Frame) {connection : Nat} (inside : t < relay.tasks.length)
    (connected : relay.connections[connection]? = some (.memory i c))
    (there : relay.brokers[i]? = some broker) :
    Reaches t 1 (relay.onTask t (.active none (.closeConnection connection :: waiting)))
      ((relay.setBroker i (broker.closeConnection c)).onTask t
        (.active (some (.closed (.ok ()))) waiting)) := by
  refine Reaches.step inside ?_ (show (Next.reply (.closed (.ok ()))).task? waiting = _ from rfl)
  simp [step, connected, there]

theorem reaches_connectionClosed (waiting : List Frame) {h connection : Nat} (inside : t < relay.tasks.length)
    (has : relay.handles[h]? = some handle)
    (connected : relay.connections[connection]? = some (.memory i c))
    (there : relay.brokers[i]? = some broker) :
    Reaches t 3 (relay.onTask t (.active none (.release h (.close connection) :: waiting)))
      ((relay.setBroker i (broker.closeConnection c)).onTask t
        (.active none (.release h .done :: waiting))) := by
  have called : Reaches t 1
      (relay.onTask t (.active none (.release h (.close connection) :: waiting)))
      (relay.onTask t (.active none
        (.closeConnection connection :: .release h (.close connection) :: waiting))) :=
    Reaches.step inside rfl rfl
  have answered := reaches_closeConnection (.release h (.close connection) :: waiting) inside connected
    there
  have resumed : Reaches t 1
      ((relay.setBroker i (broker.closeConnection c)).onTask t (.active (some (.closed (.ok ())))
        (.release h (.close connection) :: waiting)))
      ((relay.setBroker i (broker.closeConnection c)).onTask t
        (.active none (.release h .done :: waiting))) := by
    refine Reaches.resume inside ?_ (show (Next.go (.release h .done)).task? waiting = _ from rfl)
    simp [resume, has, Registry.closeRecords]
  exact (called.trans answered).trans resumed

theorem reaches_sharedClosed (name : String) {connection : Nat} (inside : t < relay.tasks.length)
    (connected : relay.connections[connection]? = some (.memory i c))
    (there : relay.brokers[i]? = some broker) :
    Reaches t 4 (relay.onTask t (.active none [.closeShared name connection]))
      ((relay.setBroker i (broker.closeConnection c)).onTask t (.finished .finished)) := by
  have called : Reaches t 1 (relay.onTask t (.active none [.closeShared name connection]))
      (relay.onTask t (.active none [.closeConnection connection, .closeShared name connection])) :=
    Reaches.step inside rfl rfl
  have answered := reaches_closeConnection [.closeShared name connection] inside connected there
  have resumed : Reaches t 1
      ((relay.setBroker i (broker.closeConnection c)).onTask t
        (.active (some (.closed (.ok ()))) [.closeShared name connection]))
      ((relay.setBroker i (broker.closeConnection c)).onTask t (.active (some .finished) [])) := by
    refine Reaches.resume inside ?_ (show (Next.reply .finished).task? [] = _ from rfl)
    simp [resume, Registry.closeRecords]
  exact ((called.trans answered).trans resumed).trans (.finish inside)

theorem reaches_finish (waiting : List Frame) {h : Nat} (inside : t < relay.tasks.length) :
    Reaches t 2 (relay.onTask t (.active none (.release h .done :: .stop l .release :: waiting)))
      (relay.onTask t (.active none (.stop l .finish :: waiting))) := by
  have answered : Reaches t 1
      (relay.onTask t (.active none (.release h .done :: .stop l .release :: waiting)))
      (relay.onTask t (.active (some .finished) (.stop l .release :: waiting))) :=
    Reaches.step inside rfl rfl
  exact answered.trans (Reaches.resume inside rfl rfl)

theorem putHolding_putHolding (relay : Relay) (h : Nat) (handle : Handle)
    (first second : Registry.Holding Nat) (released : Bool) :
    (relay.putHolding h handle first).putHolding h { handle with released } second =
      relay.putHolding h handle second := by
  simp [putHolding]

def afterRemoval : Option (Nat × LogRecord) → Registry.Release Nat
  | some (connection, _) => .close connection
  | none => .done

theorem release_remove {name : String} {registry left : Registry Nat} {closing : Option (Nat × LogRecord)}
    (removed : registry.removeUnused name = (left, closing)) (released : Bool) :
    ∃ records, Registry.release name ⟨registry, released⟩ .remove =
      (⟨left, released⟩, records, afterRemoval closing) := by
  cases closing <;> simp [Registry.release, removed, afterRemoval]

theorem reaches_removed (waiting : List Frame) {h : Nat} {registry left : Registry Nat}
    {closing : Option (Nat × LogRecord)} (inside : t < relay.tasks.length)
    (has : relay.handles[h]? = some handle) (unreleased : handle.released = false)
    (there : relay.registries[handle.registry]? = some registry)
    (removed : (registry.decrement handle.name).removeUnused handle.name = (left, closing)) :
    ∃ records, Reaches t 3 (relay.onTask t (.active none (.release h .mark :: waiting)))
      (((relay.putHolding h handle ⟨left, true⟩).log records).onTask t
        (.active none (.release h (afterRemoval closing) :: waiting))) := by
  have known : h < relay.handles.length := (List.getElem?_eq_some_iff.mp has).1
  have among : handle.registry < relay.registries.length := (List.getElem?_eq_some_iff.mp there).1
  have mark : Registry.release handle.name ⟨registry, handle.released⟩ .mark =
      (⟨registry, true⟩, [], .decrement) := by simp [Registry.release, unreleased]
  have marked := reaches_released waiting inside has there (.inl rfl) mark
  have decrement : Registry.release handle.name ⟨registry, true⟩ .decrement =
      (⟨registry.decrement handle.name, true⟩, [], .remove) := rfl
  have decremented := @reaches_released (relay.putHolding h handle ⟨registry, true⟩) t
    { handle with released := true } waiting h registry _ _ _ _ inside
    (by simp [putHolding, known]) (by simp [putHolding, among]) (.inr (.inl rfl)) decrement
  obtain ⟨records, last⟩ := release_remove removed true
  have lastly := @reaches_released
    (relay.putHolding h handle ⟨registry.decrement handle.name, true⟩) t
    { handle with released := true } waiting h (registry.decrement handle.name) _ _ _ _ inside
    (by simp [putHolding, known]) (by simp [putHolding, among]) (.inr (.inr rfl)) last
  rw [putHolding_putHolding] at decremented lastly
  exact ⟨records, (marked.trans decremented).trans lastly⟩

theorem reaches_take (inside : t < relay.tasks.length) (present : relay.listeners[l]? = some listener)
    (early : listener.lifecycle.state ≠ .stopping ∧ listener.lifecycle.state ≠ .stopped) :
    Reaches t 2 (relay.onTask t (.active none [.stop l .read]))
      ((relay.setListener l { listener with lifecycle.state := .stopping }).onTask t
        (.active none [.stop l .take])) := by
  have read : listener.lifecycle.stop listener.config .read =
      (listener.lifecycle, [], .claim listener.lifecycle.state) := by
    cases found : listener.lifecycle.state <;> simp_all [Lifecycle.stop]
  have claim : listener.lifecycle.stop listener.config (.claim listener.lifecycle.state) =
      ({ listener.lifecycle with state := .stopping }, [], .take) := by
    simp [Lifecycle.stop, ListenerState.compareAndSet]
  have first := reaches_stop [] inside present (.inl rfl) read
  have second := reaches_stop [] inside present (.inr (.inl ⟨_, rfl⟩)) claim
  rw [setListener_self present] at first
  exact first.trans second

end EventRelay.Relay
