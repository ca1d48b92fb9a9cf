import Mathlib.Data.List.Basic
import Mathlib.Logic.Function.Basic
import EventRelay.Memory

namespace EventRelay.Memory

variable {Listener : Type}

def Satisfies (required : Option (String × String)) (params : ConnectionParams) : Prop :=
  ∀ username password, required = some (username, password) →
    params.username = some username ∧ params.password = some password

theorem accepted_iff {destination : String} {required : Option (String × String)}
    {params : ConnectionParams} {closed : Bool} :
    (Connection.mk destination required params.username params.password closed).accepted = true ↔
      Satisfies required params := by
  unfold Connection.accepted Satisfies
  cases required with
  | none => simp
  | some credentials =>
    obtain ⟨username, password⟩ := credentials
    simp

namespace Broker

variable {broker : Broker Listener} {connection : Connection} {c : Nat}

theorem refusal?_eq_none_iff : broker.refusal? connection = none ↔
    connection.closed = false ∧ broker.unavailable = false ∧ connection.accepted = true := by
  unfold refusal?
  cases connection.closed <;> cases broker.unavailable <;> cases connection.accepted <;> simp

theorem createReceiver_cases (there : broker.connections[c]? = some connection) :
    broker.refusal? connection = none ∧ broker.createReceiver c =
      ({ broker with
          receivers := broker.receivers ++ [connection.destination]
          created := broker.created + 1 },
        .ok broker.receivers.length) ∨
    ∃ e, broker.refusal? connection = some e ∧ broker.createReceiver c = (broker, .error e) := by
  cases refused : broker.refusal? connection with
  | none => exact .inl ⟨rfl, by simp only [createReceiver, there, refused]⟩
  | some e => exact .inr ⟨e, rfl, by simp only [createReceiver, there, refused]⟩

theorem createReceiver_of_error {e : ProviderError}
    (failed : (broker.createReceiver c).2 = .error e) : (broker.createReceiver c).1 = broker := by
  cases there : broker.connections[c]? with
  | none => simp only [createReceiver, there]
  | some connection =>
    rcases broker.createReceiver_cases there with ⟨_, given⟩ | ⟨_, _, refused⟩
    · rw [given] at failed
      cases failed
    · rw [refused]

theorem createReceiver_leaves (broker : Broker Listener) (c : Nat) : ∃ receivers created,
    (broker.createReceiver c).1 = { broker with receivers, created } := by
  cases there : broker.connections[c]? with
  | none => exact ⟨_, _, by simp only [createReceiver, there]; rfl⟩
  | some connection =>
    rcases broker.createReceiver_cases there with ⟨_, given⟩ | ⟨_, _, refused⟩
    · exact ⟨_, _, by rw [given]⟩
    · exact ⟨_, _, by rw [refused]⟩

theorem closeConnection_again (there : broker.connections[c]? = some connection)
    (closed : connection.closed = true) : broker.closeConnection c = broker := by
  simp only [closeConnection, there, closed, if_true]

theorem closeConnection_leaves (broker : Broker Listener) (c : Nat) : ∃ connections closed,
    broker.closeConnection c = { broker with connections, closed } := by
  unfold closeConnection
  split
  · split
    · exact ⟨_, _, rfl⟩
    · exact ⟨_, _, rfl⟩
  · exact ⟨_, _, rfl⟩

theorem closeConnection_first (there : broker.connections[c]? = some connection)
    (unclosed : connection.closed = false) : broker.closeConnection c =
      { broker with
        connections := broker.connections.set c { connection with closed := true }
        closed := broker.closed + 1 } := by
  simp only [closeConnection, there, unclosed, Bool.false_eq_true, if_false]

end Broker

inductive Operation (Listener : Type)
  /-- Clones the broker, or a clone of it. The clone requires credentials of its own if it is given
      any. -/
  | clone (source : Nat) (credentials : Option (String × String))
  | connect (through : Nat) (params : ConnectionParams)
  | createReceiver (connection : Nat)
  | setListener (receiver : Nat) (listener : Listener)
  | closeReceiver (receiver : Nat)
  | closeConnection (connection : Nat)
  | setUnavailable (unavailable : Bool)
  | setCloseFailure (fails : Bool)
  | publish (destination : String) (message : Message)

namespace Operation

def connect? : Operation Listener → Option (Nat × ConnectionParams)
  | .connect through params => some (through, params)
  | _ => none

def closed? : Operation Listener → Option Nat
  | .closeConnection connection => some connection
  | _ => none

def listening (before : Nat → Option Listener) : Operation Listener → Nat → Option Listener
  | .setListener receiver listener => Function.update before receiver (some listener)
  | .closeReceiver receiver => Function.update before receiver none
  | _ => before

def unavailable (before : Bool) : Operation Listener → Bool
  | .setUnavailable unavailable => unavailable
  | _ => before

end Operation

structure System (Listener : Type) where
  broker : Broker Listener := {}
  clones : List (Option (String × String)) := [none]
  answers : List (Nat × Except ProviderError Nat) := []

section Told

variable (operations : List (Operation Listener))

def connects : List (Nat × ConnectionParams) := operations.filterMap Operation.connect?

def closings : List Nat := operations.filterMap Operation.closed?

def destinationOf (connection : Nat) : Option String :=
  ((connects operations)[connection]?).map (·.2.destination)

/-- The listener of each receiver, if it was set after the receiver was last closed. -/
def latest : Nat → Option Listener := operations.foldl Operation.listening fun _ => none

def isUnavailable : Bool := operations.foldl Operation.unavailable false

variable (operation : Operation Listener)

theorem connects_concat :
    connects (operations ++ [operation]) = connects operations ++ operation.connect?.toList := by
  rw [connects, List.filterMap_append]
  rfl

theorem closings_concat :
    closings (operations ++ [operation]) = closings operations ++ operation.closed?.toList := by
  rw [closings, List.filterMap_append]
  rfl

theorem latest_concat :
    latest (operations ++ [operation]) = operation.listening (latest operations) :=
  List.foldl_concat ..

theorem isUnavailable_concat :
    isUnavailable (operations ++ [operation]) = operation.unavailable (isUnavailable operations) :=
  List.foldl_concat ..

variable {operation}

theorem connects_of_other (other : operation.connect? = none) :
    connects (operations ++ [operation]) = connects operations := by
  rw [connects_concat, other, Option.toList_none, List.append_nil]

theorem closings_of_other (other : operation.closed? = none) :
    closings (operations ++ [operation]) = closings operations := by
  rw [closings_concat, other, Option.toList_none, List.append_nil]

end Told

namespace System

variable {system next : System Listener} {operations : List (Operation Listener)}
  {operation : Operation Listener}

/-- Nothing is done with a clone, a connection or a receiver that was not made. -/
def step (system : System Listener) : Operation Listener → Option (System Listener)
  | .clone source credentials =>
    (system.clones[source]?).map fun required =>
      { system with clones := system.clones ++ [credentials <|> required] }
  | .connect through params =>
    (system.clones[through]?).map fun required =>
      { system with broker := (system.broker.connect required params).1 }
  | .createReceiver connection =>
    if connection < system.broker.connections.length then
      match system.broker.createReceiver connection with
      | (broker, answer) =>
        some { system with broker, answers := system.answers ++ [(connection, answer)] }
    else none
  | .setListener receiver listener =>
    if receiver < system.broker.receivers.length then
      some { system with broker := system.broker.setListener receiver listener }
    else none
  | .closeReceiver receiver =>
    if receiver < system.broker.receivers.length then
      some { system with broker := (system.broker.closeReceiver receiver).1 }
    else none
  | .closeConnection connection =>
    if connection < system.broker.connections.length then
      some { system with broker := system.broker.closeConnection connection }
    else none
  | .setUnavailable unavailable =>
    some { system with broker := { system.broker with unavailable } }
  | .setCloseFailure failClose => some { system with broker := { system.broker with failClose } }
  | .publish _ _ => some system

def run (operations : List (Operation Listener)) : Option (System Listener) :=
  operations.foldlM step {}

def givenOut (system : System Listener) : List Nat :=
  system.answers.filterMap fun (_, answer) => answer.toOption

def origins (system : System Listener) : List Nat :=
  system.answers.filterMap fun (connection, answer) => answer.toOption.map fun _ => connection

def destination? (system : System Listener) (operations : List (Operation Listener))
    (receiver : Nat) : Option String :=
  (system.origins[receiver]?).bind (destinationOf operations)

def listening (system : System Listener) (operations : List (Operation Listener))
    (destination : String) (receiver : Nat) : Option Listener :=
  if system.destination? operations receiver = some destination then latest operations receiver
  else none

end System

end EventRelay.Memory
