import EventRelay.Provider

namespace EventRelay

structure ListenerConfig where
  id : String
  factory : String
  destination : String
  username : Option String
  password : Option String
deriving DecidableEq, Repr

namespace ListenerConfig

def generatedId (unique : String) : String := "logbus-listener-" ++ unique

def params (config : ListenerConfig) : ConnectionParams :=
  ⟨config.factory, config.destination, config.username, config.password⟩

def build (unique : String) (id : Option String) (params : ConnectionParams) : ListenerConfig :=
  ⟨id.getD (generatedId unique), params.factory, params.destination, params.username,
    params.password⟩

def fields (unique : String) : List Json.Field :=
  [.defaulted "id" .string (generatedId unique),
   .required "connection_factory_binding" .string,
   .required "destination_binding" .string,
   .optional "username" .string,
   .optional "password" .string]

abbrev shape (unique : String) : Json.Shape := ⟨"ListenerConfig", fields unique⟩

def ofValues (unique : String) : Json.Values (fields unique) → ListenerConfig
  | (id, factory, destination, username, password, ()) =>
    ⟨id, factory, destination, username, password⟩

def decoder (unique : String) : Json.Decoder ListenerConfig :=
  (shape unique).decoder (ofValues unique)

end ListenerConfig

inductive ListenerState
  | initialized
  | starting
  | started
  | stopping
  | stopped
deriving DecidableEq, Repr, Inhabited

namespace ListenerState

def rank : ListenerState → Nat
  | initialized => 0
  | starting => 1
  | started => 2
  | stopping => 3
  | stopped => 4

def name : ListenerState → String
  | initialized => "initialized"
  | starting => "starting"
  | started => "started"
  | stopping => "stopping"
  | stopped => "stopped"

def all : List ListenerState := [initialized, starting, started, stopping, stopped]

def ofName? (name : String) : Option ListenerState := all.find? fun state => state.name == name

/-- Moves to `new` only from `current`: the state afterwards, and whether it was moved. -/
def compareAndSet (state current new : ListenerState) : ListenerState × Bool :=
  if state = current then (new, true) else (state, false)

/-- So many calls that all try the same move: the state afterwards, and how many of them moved. -/
def race (state current new : ListenerState) : Nat → ListenerState × Nat
  | 0 => (state, 0)
  | n + 1 =>
    match state.compareAndSet current new with
    | (next, moved) =>
      match race next current new n with
      | (final, winners) => (final, winners + moved.toNat)

end ListenerState

end EventRelay
