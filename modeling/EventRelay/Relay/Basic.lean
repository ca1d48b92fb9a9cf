import EventRelay.Provider
import EventRelay.Memory
import EventRelay.Registry
import EventRelay.Script
import EventRelay.Event
import EventRelay.Listener.Lifecycle
import EventRelay.Mqtt.Poll

/-!
A relay: brokers and providers, the connections and receivers that they gave out, registries,
listeners, and the calls that are under way. Everything is known by the order of its making.
-/
namespace EventRelay

inductive Callback
  | recorder (label : String)
  /-- A listener's own handling of messages, which outlives the listener. -/
  | dispatcher (listener : Nat)
  /-- A listener that is kept by the callback. -/
  | forward (listener : Nat)
deriving DecidableEq, Repr

inductive Sink
  | record (label : String)
  | log (sink : LogSink)
  | channel (label : String) (isOpen : Bool)

structure Listener where
  config : ListenerConfig
  lifecycle : Lifecycle Nat := {}
  handle : Nat
  sink : Sink
  diagnostics : Option String
  dropped : Bool := false

structure Handle where
  name : String
  registry : Nat
  connection : Nat
  released : Bool := false
  owned : Bool := false
  dropped : Bool := false

inductive Factory
  | memory (broker : Nat) (required : Option (String × String))
  | script (provider : Nat)
  | mqtt (factory : Mqtt.Factory)

inductive ConnectionRef
  | memory (broker connection : Nat)
  | script (provider : Nat)
  | mqtt (connection : Nat)
deriving DecidableEq, Repr

inductive ReceiverRef
  | memory (broker receiver : Nat)
  | script (provider : Nat)
  | mqtt (connection receiver : Nat)
deriving DecidableEq, Repr

inductive Reply
  | finished
  | started (result : Except ListenerError Unit)
  | receiver (result : Except ProviderError Nat)
  | closed (result : Except ProviderError Unit)

/-- A call that is under way, and where it is. -/
inductive Frame
  | start (listener : Nat) (point : Lifecycle.Start Nat)
  | stop (listener : Nat) (point : Lifecycle.Stop Nat)
  | release (handle : Nat) (point : Registry.Release Nat)
  | closeShared (name : String) (connection : Nat)
  | createReceiver (connection : Nat)
  | receiverOn (handle : Nat)
  | closeReceiver (receiver : Nat)
  | closeConnection (connection : Nat)
  | gated (provider ticket : Nat) (call : Script.Call) (outcome : Script.Outcome)
  | createMqtt (connection : Nat) (point : Mqtt.Connection.Create)
  | closeMqtt (connection : Nat) (point : Mqtt.Connection.Close)

inductive Task
  /-- Calls under way, the innermost first, each of which waits for the one before it, and what
      the one before the first of them answered, if that has not been taken in yet. -/
  | active (answer : Option Reply) (frames : List Frame)
  | finished (reply : Reply)
  | gone

inductive Occurrence
  | logged (record : LogRecord)
  | accepted (label : String) (event : Event)
  | diagnosed (label : String) (diagnostic : Diagnostic)
  | received (label : String) (message : Message)
  | called (provider : Nat) (text : String)
  | sent (connection : Nat) (request : Mqtt.Request)

inductive Held
  | listener (listener : Nat)
  | handle (handle : Nat)
deriving DecidableEq, Repr

structure Relay where
  logger : Logger
  reach : Mqtt.Options → Mqtt.Attempt
  brokers : List (Memory.Broker Callback) := []
  scripts : List (Script.Provider Callback) := []
  mqtt : List (Mqtt.Connection Callback) := []
  connections : List ConnectionRef := []
  receivers : List ReceiverRef := []
  registries : List (Registry Nat) := []
  handles : List Handle := []
  listeners : List Listener := []
  held : List Held := []
  tasks : List Task := []
  history : List Occurrence := []

namespace Relay

def note (relay : Relay) (occurrence : Occurrence) : Relay :=
  { relay with history := occurrence :: relay.history }

def log (relay : Relay) (records : List LogRecord) : Relay :=
  (records.flatMap relay.logger.write).foldl (fun relay record => relay.note (.logged record)) relay

def takeHistory (relay : Relay) : Relay × List Occurrence :=
  ({ relay with history := [] }, relay.history.reverse)

def setBroker (relay : Relay) (i : Nat) (broker : Memory.Broker Callback) : Relay :=
  { relay with brokers := relay.brokers.set i broker }

def setScript (relay : Relay) (i : Nat) (script : Script.Provider Callback) : Relay :=
  { relay with scripts := relay.scripts.set i script }

def setMqtt (relay : Relay) (i : Nat) (connection : Mqtt.Connection Callback) : Relay :=
  { relay with mqtt := relay.mqtt.set i connection }

def setListener (relay : Relay) (i : Nat) (listener : Listener) : Relay :=
  { relay with listeners := relay.listeners.set i listener }

def addConnection (relay : Relay) (connection : ConnectionRef) : Relay × Nat :=
  ({ relay with connections := relay.connections ++ [connection] }, relay.connections.length)

def addReceiver (relay : Relay) (receiver : ReceiverRef) : Relay × Nat :=
  ({ relay with receivers := relay.receivers ++ [receiver] }, relay.receivers.length)

def accept (relay : Relay) (sink : Sink) (event : Event) : Relay :=
  match sink with
  | .record label => relay.note (.accepted label event)
  | .log sink => (sink.accept relay.logger event).foldl (fun r record => r.note (.logged record)) relay
  | .channel label true => relay.note (.accepted label event)
  | .channel _ false =>
    relay.log [⟨.debug, "logbus_listener::sink", "Event channel closed, dropping event"⟩]

/-- Handles a message as a listener does, whatever its state. -/
def dispatch (relay : Relay) (listener : Nat) (message : Message) : Relay :=
  match relay.listeners[listener]? with
  | none => relay
  | some l =>
    match message.effect with
    | .accept event => relay.accept l.sink event
    | .diagnose diagnostic =>
      match l.diagnostics with
      | some label => relay.note (.diagnosed label diagnostic)
      | none => relay.log [diagnostic.record l.config.id]

def hand (relay : Relay) (callback : Callback) (message : Message) : Relay :=
  match callback with
  | .recorder label => relay.note (.received label message)
  | .dispatcher listener | .forward listener => relay.dispatch listener message

def handAll (relay : Relay) (callbacks : List Callback) (message : Message) : Relay :=
  callbacks.foldl (fun relay callback => relay.hand callback message) relay

def publish (relay : Relay) (broker : Nat) (destination : String) (message : Message) :
    Relay × Nat :=
  match relay.brokers[broker]? with
  | none => (relay, 0)
  | some b =>
    let audience := b.audience destination
    (relay.handAll audience message, audience.length)

def deliver (relay : Relay) (provider : Nat) (message : Message) : Relay × Nat :=
  match (relay.scripts[provider]?).bind (·.listener) with
  | some callback => (relay.hand callback message, 1)
  | none => (relay, 0)

def poll (relay : Relay) (connection : Nat) (polled : Mqtt.Polled) : Relay :=
  match relay.mqtt[connection]? with
  | none => relay
  | some c =>
    match c.poll polled with
    | (c, outcome) =>
      outcome.handed.foldl (fun relay (callback, message) => relay.hand callback message)
        ((relay.setMqtt connection c).log outcome.log)

end Relay

end EventRelay
