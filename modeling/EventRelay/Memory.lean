import EventRelay.Log
import EventRelay.Provider

namespace EventRelay

def hexDigits : Nat → Nat → List Char
  | 0, _ => []
  | count + 1, n => hexDigits count (n / 16) ++ [Nat.digitChar (n % 16)]

def identifier (n : Nat) : String :=
  String.ofList
    (hexDigits 8 (n >>> 60) ++ '-' :: hexDigits 4 0 ++ "-4000-8".toList
      ++ hexDigits 3 (n >>> 48) ++ '-' :: hexDigits 12 n)

end EventRelay

namespace EventRelay.Memory

structure Connection where
  destination : String
  required : Option (String × String)
  username : Option String
  password : Option String
  closed : Bool := false
deriving DecidableEq, Repr

/-- Connections and receivers are known by the order of their creation. -/
structure Broker (Listener : Type) where
  connections : List Connection := []
  receivers : List String := []
  listeners : List (Nat × Listener) := []
  opened : Nat := 0
  closed : Nat := 0
  created : Nat := 0
  unavailable : Bool := false
  failClose : Bool := false
deriving Repr

def Connection.accepted (connection : Connection) : Bool :=
  match connection.required with
  | none => true
  | some (username, password) =>
    connection.username == some username && connection.password == some password

namespace Broker

variable {Listener : Type} (broker : Broker Listener)

def connect (required : Option (String × String)) (params : ConnectionParams) :
    Broker Listener × Nat :=
  ({ broker with
      connections := broker.connections
        ++ [⟨params.destination, required, params.username, params.password, false⟩]
      opened := broker.opened + 1 },
    broker.connections.length)

def refusal? (connection : Connection) : Option ProviderError :=
  if connection.closed then some (.connection "connection is closed")
  else if broker.unavailable then
    some (.connection ("destination '" ++ connection.destination ++ "' is unavailable"))
  else if connection.accepted then none
  else some (.credentialsRejected (connection.username.getD ""))

def createReceiver (connection : Nat) : Broker Listener × Except ProviderError Nat :=
  match broker.connections[connection]? with
  | none => (broker, .error (.connection "connection is closed"))
  | some c =>
    match broker.refusal? c with
    | some e => (broker, .error e)
    | none =>
      ({ broker with
          receivers := broker.receivers ++ [c.destination]
          created := broker.created + 1 },
        .ok broker.receivers.length)

def setListener (receiver : Nat) (listener : Listener) : Broker Listener :=
  { broker with listeners := broker.listeners.filter (·.1 ≠ receiver) ++ [(receiver, listener)] }

/-- Closes a receiver. Its listener is gone even where a failure is reported. -/
def closeReceiver (receiver : Nat) :
    Broker Listener × LogRecord × Except ProviderError Unit :=
  ({ broker with listeners := broker.listeners.filter (·.1 ≠ receiver) },
    ⟨.debug, "logbus_listener::memory", "Closed memory receiver " ++ identifier receiver⟩,
    if broker.failClose then .error (.close "broker connection lost") else .ok ())

def closeConnection (connection : Nat) : Broker Listener :=
  match broker.connections[connection]? with
  | some c =>
    if c.closed then broker
    else
      { broker with
        connections := broker.connections.set connection { c with closed := true }
        closed := broker.closed + 1 }
  | none => broker

def audience (destination : String) : List Listener :=
  (broker.listeners.filter fun l => broker.receivers[l.1]? == some destination).map (·.2)

end Broker

end EventRelay.Memory
