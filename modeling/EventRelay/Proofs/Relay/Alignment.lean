import EventRelay.Proofs.Memory.Operations
import EventRelay.Proofs.Relay.Delivery
import EventRelay.Proofs.Relay.Letting

namespace EventRelay

/-- Whether a listener's reference was given back, by its stop or because it was dropped. -/
def Listener.hasLeft (listener : Listener) : Bool := listener.isStopped || listener.dropped

def Memory.Broker.destinations (broker : Memory.Broker Callback) : List String :=
  broker.connections.map (·.destination)

namespace Relay

variable {relay final : Relay} {broker after : Memory.Broker Callback} {registry left : Registry Nat}
  {l : Nat} {listener : Listener} {closing : Option (Nat × LogRecord)}

/-- What a broker gave out is as it was. -/
structure Grows (broker after : Memory.Broker Callback) : Prop where
  destinations : broker.destinations <+: after.destinations
  receivers : broker.receivers <+: after.receivers

theorem Grows.refl (broker : Memory.Broker Callback) : Grows broker broker :=
  ⟨List.prefix_refl _, List.prefix_refl _⟩

theorem Grows.trans {middle : Memory.Broker Callback} (first : Grows broker middle)
    (second : Grows middle after) : Grows broker after :=
  ⟨first.destinations.trans second.destinations, first.receivers.trans second.receivers⟩

theorem Grows.of_eq (connections : after.connections = broker.connections)
    (receivers : after.receivers = broker.receivers) : Grows broker after := by
  have same : after.destinations = broker.destinations := by
    rw [Memory.Broker.destinations, Memory.Broker.destinations, connections]
  exact ⟨same ▸ List.prefix_refl _, receivers ▸ List.prefix_refl _⟩

theorem destinations_withdrawn (broker : Memory.Broker Callback) (closing : Option (Nat × LogRecord)) :
    (withdrawn broker closing).destinations = broker.destinations := by
  cases closing with
  | none => rfl
  | some last =>
    simp only [withdrawn, Memory.Broker.closeConnection]
    split
    · rename_i c found
      split
      · rfl
      · exact map_set_same found rfl
    · rfl

theorem grows_withdrawn (listeners : List (Nat × Callback)) (closing : Option (Nat × LogRecord)) :
    Grows broker (withdrawn { broker with listeners } closing) := by
  obtain ⟨connections, closed, same, _⟩ := withdrawn_eq { broker with listeners } closing
  have named := destinations_withdrawn { broker with listeners } closing
  refine ⟨named ▸ List.prefix_refl _, ?_⟩
  simp only [same, List.prefix_refl]

def OpenedFor (listeners : List Listener) (broker : Memory.Broker Callback) (name : String)
    (connection : Nat) : Prop :=
  ∃ config ∈ listeners.map Listener.config, config.id = name ∧
    broker.destinations[connection]? = some config.destination

theorem OpenedFor.carry {listeners others : List Listener} {name : String} {connection : Nat}
    (opened : OpenedFor listeners broker name connection) (grows : Grows broker after)
    (known : listeners.map Listener.config <+: others.map Listener.config) :
    OpenedFor others after name connection := by
  obtain ⟨config, member, named, destination⟩ := opened
  obtain ⟨inside, same⟩ := List.getElem?_eq_some_iff.mp destination
  have still := List.prefix_iff_getElem?.mp grows.destinations connection inside
  exact ⟨config, known.subset member, named, still.trans (congrArg some same)⟩

structure Placed (handles : List Handle) (broker : Memory.Broker Callback) (listeners : List Listener)
    (l : Nat) (listener : Listener) (connection : Nat) : Prop where
  handle : listener.handle = l
  has : handles[l]? = some ⟨listener.config.id, 0, connection, listener.hasLeft, true, false⟩
  opened : OpenedFor listeners broker listener.config.id connection
  slot : listener.lifecycle.slot.isSome ↔ listener.lifecycle.state = .started
  received : ∀ receiver, listener.lifecycle.slot = some receiver →
    broker.receivers[receiver]? = broker.destinations[connection]?
  settled : listener.lifecycle.state ≠ .stopping

/-- What the relay's parts know of each other between two usages. -/
structure Aligned (relay : Relay) (broker : Memory.Broker Callback) (registry : Registry Nat) : Prop where
  calm : relay.Calm
  brokers : relay.brokers = [broker]
  registries : relay.registries = [registry]
  connections : relay.connections = (List.range broker.connections.length).map (.memory 0)
  receivers : relay.receivers = (List.range broker.receivers.length).map (.memory 0)
  handles : relay.handles.length = relay.listeners.length
  once : relay.held.Nodup
  holders : ∀ held ∈ relay.held, ∃ l < relay.listeners.length, held = .listener l
  seats : ∀ l listener, relay.listeners[l]? = some listener →
    ∃ connection, Placed relay.handles broker relay.listeners l listener connection
  entries : ∀ name entry, registry.find? name = some entry →
    OpenedFor relay.listeners broker name entry.connection
  apart : Apart relay.listeners
  subscribed : broker.listeners.Perm (subscriptions relay.listeners)

theorem aligned_initial (logger : Logger) (reach : Mqtt.Options → Mqtt.Attempt) :
    Aligned (overMemory logger reach) {} {} where
  calm := ⟨by simp [overMemory], rfl, rfl, by simp [overMemory], by simp [overMemory]⟩
  brokers := rfl
  registries := rfl
  connections := rfl
  receivers := rfl
  handles := rfl
  once := .nil
  holders := by simp [overMemory]
  seats := by simp [overMemory]
  entries := by simp [Registry.find?]
  apart := by simp [overMemory, Apart]
  subscribed := .nil

theorem Placed.carry {handles others : List Handle} {listeners changed : List Listener} {connection : Nat}
    (placed : Placed handles broker listeners l listener connection) (has : others[l]? = handles[l]?)
    (grows : Grows broker after)
    (known : listeners.map Listener.config <+: changed.map Listener.config) :
    Placed others after changed l listener connection where
  handle := placed.handle
  has := has.trans placed.has
  opened := placed.opened.carry grows known
  slot := placed.slot
  received := by
    intro receiver has
    obtain ⟨config, _, _, destination⟩ := placed.opened
    -- Growth keeps what is there, so the equation needs a value first.
    obtain ⟨inside, same⟩ := List.getElem?_eq_some_iff.mp destination
    obtain ⟨known, other⟩ := List.getElem?_eq_some_iff.mp ((placed.received receiver has).trans destination)
    rw [List.prefix_iff_getElem?.mp grows.receivers receiver known,
      List.prefix_iff_getElem?.mp grows.destinations connection inside, same, other]
  settled := placed.settled

namespace Aligned

variable (aligned : Aligned relay broker registry)
include aligned

theorem same (calm : final.Calm) (brokers : final.brokers = [after])
    (connected : after.connections = broker.connections) (received : after.receivers = broker.receivers)
    (called : after.listeners = broker.listeners) (connections : final.connections = relay.connections)
    (receivers : final.receivers = relay.receivers) (registries : final.registries = relay.registries)
    (handles : final.handles = relay.handles) (listeners : final.listeners = relay.listeners)
    (held : final.held = relay.held) : Aligned final after registry where
  calm := calm
  brokers := brokers
  registries := registries.trans aligned.registries
  connections := by rw [connections, aligned.connections, connected]
  receivers := by rw [receivers, aligned.receivers, received]
  handles := by rw [handles, listeners, aligned.handles]
  once := by rw [held]; exact aligned.once
  holders := by rw [held, listeners]; exact aligned.holders
  seats := by
    intro l listener present
    rw [listeners] at present
    obtain ⟨connection, placed⟩ := aligned.seats l listener present
    rw [handles, listeners]
    exact ⟨connection, placed.carry rfl (.of_eq connected received) (List.prefix_refl _)⟩
  entries := by
    intro name entry found
    rw [listeners]
    exact (aligned.entries name entry found).carry (.of_eq connected received) (List.prefix_refl _)
  apart := by rw [listeners]; exact aligned.apart
  subscribed := by rw [called, listeners]; exact aligned.subscribed

theorem changed (y : Listener) {connection : Nat} (present : relay.listeners[l]? = some listener)
    (placed : Placed relay.handles broker relay.listeners l listener connection)
    (config : y.config = listener.config) (handle : y.handle = listener.handle)
    (slot : y.lifecycle.slot.isSome ↔ y.lifecycle.state = .started)
    (settled : y.lifecycle.state ≠ .stopping)
    (received : ∀ receiver, y.lifecycle.slot = some receiver →
      after.receivers[receiver]? = after.destinations[connection]?)
    (fresh : ∀ (receiver other : Nat) (x : Listener), y.lifecycle.slot = some receiver → other ≠ l →
      relay.listeners[other]? = some x → x.lifecycle.slot ≠ some receiver)
    (grows : Grows broker after)
    (found : ∀ name entry, left.find? name = some entry →
      ∃ old, registry.find? name = some old ∧ old.connection = entry.connection)
    (subscribed : after.listeners.Perm (subscriptions (relay.listeners.set l y)))
    (calm : final.Calm) (brokers : final.brokers = [after]) (registries : final.registries = [left])
    (connections : final.connections = (List.range after.connections.length).map (.memory 0))
    (receivers : final.receivers = (List.range after.receivers.length).map (.memory 0))
    (handles : final.handles =
      relay.handles.set l ⟨listener.config.id, 0, connection, y.hasLeft, true, false⟩)
    (listeners : final.listeners = relay.listeners.set l y)
    (held : final.held.Sublist relay.held) : Aligned final after left := by
  have inside : l < relay.handles.length := (List.getElem?_eq_some_iff.mp placed.has).1
  have known : relay.listeners.map Listener.config <+: final.listeners.map Listener.config := by
    simp only [listeners, map_set_same present config, List.prefix_refl]
  refine ⟨calm, brokers, registries, connections, receivers, ?_, held.nodup aligned.once, ?_, ?_, ?_, ?_,
    ?_⟩
  · rw [handles, listeners, List.length_set, List.length_set, aligned.handles]
  · intro holder member
    rw [listeners, List.length_set]
    exact aligned.holders holder (held.subset member)
  · intro other x there
    rw [listeners] at there
    rw [handles]
    rcases replaced_or_same there with ⟨rfl, rfl⟩ | ⟨apart, old⟩
    · refine ⟨connection, handle.trans placed.handle, ?_, ?_, slot, received, settled⟩
      · rw [List.getElem?_set_self inside, config]
      · rw [config]
        exact placed.opened.carry grows known
    · obtain ⟨its, placed⟩ := aligned.seats other x old
      exact ⟨its, placed.carry (List.getElem?_set_ne apart.symm) grows known⟩
  · intro name entry there
    obtain ⟨old, before, same⟩ := found name entry there
    rw [← same]
    exact (aligned.entries name old before).carry grows known
  · rw [listeners]
    exact aligned.apart.set fresh
  · rw [listeners]
    exact subscribed

theorem joined {config : ListenerConfig} {sink : Sink} {diagnostics : Option String} {connection : Nat}
    (enrols : Enrols relay config sink diagnostics connection final)
    (opened : OpenedFor final.listeners after config.id connection) (grows : Grows broker after)
    (received : after.receivers = broker.receivers) (called : after.listeners = broker.listeners)
    (found : ∀ name entry, left.find? name = some entry →
      (∃ old, registry.find? name = some old ∧ old.connection = entry.connection) ∨
        name = config.id ∧ entry.connection = connection)
    (brokers : final.brokers = [after]) (registries : final.registries = [left])
    (connections : final.connections = (List.range after.connections.length).map (.memory 0)) :
    Aligned final after left := by
  obtain ⟨_, _, _, receivers, held, handles, listeners, _⟩ := id enrols
  have known : relay.listeners.map Listener.config <+: final.listeners.map Listener.config := by
    rw [listeners, List.map_append]
    exact List.prefix_append _ _
  refine ⟨enrols.calm aligned.calm, brokers, registries, connections, ?_, ?_, ?_, ?_, ?_, ?_, ?_, ?_⟩
  · rw [receivers, aligned.receivers, received]
  · rw [handles, listeners, List.length_append, List.length_append, aligned.handles]
    rfl
  · rw [held, List.nodup_cons]
    refine ⟨?_, aligned.once⟩
    intro member
    obtain ⟨l, inside, same⟩ := aligned.holders _ member
    cases same
    exact Nat.lt_irrefl _ inside
  · intro holder member
    rw [listeners, List.length_append, List.length_singleton]
    rw [held, List.mem_cons] at member
    rcases member with rfl | member
    · exact ⟨_, Nat.lt_succ_self _, rfl⟩
    · obtain ⟨l, inside, same⟩ := aligned.holders holder member
      exact ⟨l, Nat.lt_succ_of_lt inside, same⟩
  · intro l x there
    rw [listeners] at there
    rw [handles]
    rcases last_or_same there with ⟨rfl, rfl⟩ | there
    · refine ⟨connection, aligned.handles, ?_, opened, ?_, nofun, nofun⟩
      · rw [← aligned.handles, List.getElem?_concat_length]
        rfl
      · simp
    · obtain ⟨its, placed⟩ := aligned.seats l x there
      have inside := (List.getElem?_eq_some_iff.mp placed.has).1
      exact ⟨its, placed.carry (List.getElem?_append_left inside) grows known⟩
  · intro name entry there
    rcases found name entry there with ⟨old, before, same⟩ | ⟨rfl, rfl⟩
    · rw [← same]
      exact (aligned.entries name old before).carry grows known
    · exact opened
  · rw [listeners]
    exact aligned.apart.append rfl
  · rw [called, listeners, subscriptions_append _ rfl]
    exact aligned.subscribed

theorem connected {name : String} {connection : Nat}
    (opened : OpenedFor relay.listeners broker name connection) :
    connection < broker.connections.length ∧
      relay.connections[connection]? = some (.memory 0 connection) := by
  obtain ⟨config, _, _, there⟩ := opened
  have inside := (List.getElem?_eq_some_iff.mp there).1
  rw [Memory.Broker.destinations, List.length_map] at inside
  exact ⟨inside, by simp [aligned.connections, inside]⟩

end Aligned

end Relay

end EventRelay
