import EventRelay.Log
import EventRelay.Provider

namespace EventRelay

structure RegistryEntry (Connection : Type) where
  name : String
  connection : Connection
  refs : Nat
deriving Repr

/-- The entries of a registry, at most one for each name. -/
structure Registry (Connection : Type) where
  entries : List (RegistryEntry Connection) := []
deriving Repr

namespace Registry

variable {Connection : Type}

def target : String := "logbus_listener::provider"

def find? (registry : Registry Connection) (name : String) : Option (RegistryEntry Connection) :=
  registry.entries.find? fun entry => entry.name == name

def contains (registry : Registry Connection) (name : String) : Bool := (registry.find? name).isSome

def refCount (registry : Registry Connection) (name : String) : Nat :=
  match registry.find? name with
  | some entry => entry.refs
  | none => 0

def adjust (registry : Registry Connection) (name : String) (f : Nat → Nat) : Registry Connection :=
  { entries := registry.entries.map fun entry =>
      if entry.name = name then { entry with refs := f entry.refs } else entry }

def retain? (registry : Registry Connection) (name : String) :
    Option (Registry Connection × Connection × LogRecord) :=
  match registry.find? name with
  | some entry =>
    some (registry.adjust name (· + 1), entry.connection,
      ⟨.debug, target,
        "Reusing connection manager '" ++ name ++ "' (" ++ toString (entry.refs + 1) ++ " refs)"⟩)
  | none => none

def enter (registry : Registry Connection) (name : String) (params : ConnectionParams)
    (connection : Connection) : Registry Connection × LogRecord :=
  ({ entries := registry.entries ++ [⟨name, connection, 1⟩] },
    ⟨.info, target,
      "Opened connection manager '" ++ name ++ "' (factory=" ++ params.factory ++ ", destination="
        ++ params.destination ++ ")"⟩)

def decrement (registry : Registry Connection) (name : String) : Registry Connection :=
  registry.adjust name (· - 1)

/-- Removes the name if there is no reference left, and answers the connection that has to be
    closed. -/
def removeUnused (registry : Registry Connection) (name : String) :
    Registry Connection × Option (Connection × LogRecord) :=
  match registry.find? name with
  | some entry =>
    if entry.refs = 0 then
      ({ entries := registry.entries.filter fun entry => entry.name ≠ name },
        some (entry.connection, ⟨.info, target, "Closing connection manager '" ++ name ++ "'"⟩))
    else (registry, none)
  | none => (registry, none)

def closeRecords (name : String) : Except ProviderError Unit → List LogRecord
  | .ok () => []
  | .error e =>
    [⟨.warn, target, "Failed to close connection manager '" ++ name ++ "': " ++ e.message⟩]

/-- What is logged of a connection that nobody is there to close. -/
def abandonRecord (name : String) : LogRecord :=
  ⟨.warn, target,
    "Connection manager '" ++ name ++ "' dropped outside a tokio runtime, not closed"⟩

inductive Release (Connection : Type)
  | mark
  | decrement
  | remove
  | close (connection : Connection)
  | done
deriving Repr

structure Holding (Connection : Type) where
  registry : Registry Connection
  released : Bool
deriving Repr

/-- One step of a release at a point where it waits for nobody. -/
def release (name : String) (held : Holding Connection) :
    Release Connection → Holding Connection × List LogRecord × Release Connection
  | .mark =>
    if held.released then (held, [], .done) else ({ held with released := true }, [], .decrement)
  | .decrement => ({ held with registry := held.registry.decrement name }, [], .remove)
  | .remove =>
    match held.registry.removeUnused name with
    | (registry, some (connection, log)) => ({ held with registry }, [log], .close connection)
    | (registry, none) => ({ held with registry }, [], .done)
  | point => (held, [], point)

end Registry

end EventRelay
