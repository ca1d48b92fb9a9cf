import EventRelay.Listener.Basic
import EventRelay.Log

/-!
Starting and stopping a listener. Any number of calls may be under way at once. Each is at a point
of its own; what they share is the listener's state and the slot that holds its receiver. A call
moves from point to point in single steps, and waits at the points where a provider has to answer.
-/
namespace EventRelay

/-- What all calls on one listener share. -/
structure Lifecycle (Receiver : Type) where
  state : ListenerState := .initialized
  slot : Option Receiver := none
deriving DecidableEq, Repr

inductive ListenerError
  | unresolved (cause : ProviderError)
  | noReceiver (cause : ProviderError)
  | notRegistered (cause : ProviderError)
deriving DecidableEq, Repr

namespace ListenerError

def cause : ListenerError → ProviderError
  | .unresolved cause | .noReceiver cause | .notRegistered cause => cause

def message (config : ListenerConfig) : ListenerError → String
  | .unresolved _ =>
    "[" ++ config.id ++ "] Failed to resolve connection factory '" ++ config.factory ++ "'"
  | .noReceiver _ => "[" ++ config.id ++ "] Failed to create receiver on '" ++ config.destination ++ "'"
  | .notRegistered _ => "[" ++ config.id ++ "] Failed to register message listener"

def chain (config : ListenerConfig) (e : ListenerError) : List String :=
  e.message config :: e.cause.message :: (e.cause.source.map Json.Fault.message).toList

end ListenerError

namespace Lifecycle

def record (config : ListenerConfig) (level : Level) (text : String) : LogRecord :=
  ⟨level, "logbus_listener::listener", "[" ++ config.id ++ "] " ++ text⟩

inductive Start (Receiver : Type)
  | claim
  | create
  | register (receiver : Receiver)
  | confirm
  /-- Overtaken by a stop, and about to take the receiver out of the slot. -/
  | reclaim
  | discard (receiver : Receiver)
  | done (result : Except ListenerError Unit)
deriving Repr

inductive Stop (Receiver : Type)
  | read
  | claim (current : ListenerState)
  | take
  | close (receiver : Receiver)
  | release
  | finish
  | done
deriving Repr

variable {Receiver : Type} (config : ListenerConfig) (shared : Lifecycle Receiver)

/-- One step of a call at a point where it waits for nobody, and what is logged on the way. -/
def start : Start Receiver → Lifecycle Receiver × List LogRecord × Start Receiver
  | .claim =>
    match shared.state.compareAndSet .initialized .starting with
    | (state, true) =>
      ({ shared with state },
        [record config .info
          ("Starting listener (factory=" ++ config.factory ++ ", destination="
            ++ config.destination ++ ")")],
        .create)
    | (state, false) =>
      (shared, [record config .debug ("Start ignored in state " ++ state.name)], .done (.ok ()))
  | .confirm =>
    match shared.state.compareAndSet .starting .started with
    | (state, true) =>
      ({ shared with state }, [record config .info "Listener started"], .done (.ok ()))
    | (_, false) => (shared, [], .reclaim)
  | .reclaim =>
    match shared.slot with
    | some receiver => ({ shared with slot := none }, [], .discard receiver)
    | none => (shared, [record config .info "Listener stopped during start"], .done (.ok ()))
  | point => (shared, [], point)

def created : Except ProviderError Receiver → Start Receiver
  | .ok receiver => .register receiver
  | .error e => .done (.error (.noReceiver e))

/-- How a call goes on with its receiver in the slot and the listener registered on it, or not:
    the receiver stays in the slot either way. -/
def registered (receiver : Receiver) :
    Except ProviderError Unit → Lifecycle Receiver × Start Receiver
  | .ok () => ({ shared with slot := some receiver }, .confirm)
  | .error e => ({ shared with slot := some receiver }, .done (.error (.notRegistered e)))

def closeRecords : Except ProviderError Unit → List LogRecord
  | .ok () => []
  | .error e => [record config .warn ("Ignoring receiver close failure: " ++ e.message)]

def discarded (result : Except ProviderError Unit) : List LogRecord × Start Receiver :=
  (closeRecords config result ++ [record config .info "Listener stopped during start"],
    .done (.ok ()))

def stop : Stop Receiver → Lifecycle Receiver × List LogRecord × Stop Receiver
  | .read =>
    match shared.state with
    | .stopping | .stopped =>
      (shared, [record config .debug ("Stop ignored in state " ++ shared.state.name)], .done)
    | current => (shared, [], .claim current)
  | .claim current =>
    match shared.state.compareAndSet current .stopping with
    | (state, true) => ({ shared with state }, [], .take)
    | (_, false) => (shared, [], .read)
  | .take =>
    match shared.slot with
    | some receiver => ({ shared with slot := none }, [], .close receiver)
    | none => (shared, [], .release)
  | .finish =>
    ({ shared with state := .stopped }, [record config .info "Listener stopped"], .done)
  | point => (shared, [], point)

def closed (result : Except ProviderError Unit) : List LogRecord × Stop Receiver :=
  (closeRecords config result, .release)

def released : Stop Receiver := .finish

end Lifecycle

end EventRelay
