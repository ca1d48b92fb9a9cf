import EventRelay.Message

namespace EventRelay

structure ConnectionParams where
  factory : String
  destination : String
  username : Option String := none
  password : Option String := none
deriving DecidableEq, Repr

inductive ProviderError
  | unknownBinding (name : String)
  | connection (reason : String)
  | credentialsRejected (username : String)
  | subscribe (destination reason : String)
  | unreadable (fault : Json.Fault)
  | notAnObject (kind : String)
  | close (reason : String)
deriving DecidableEq, Repr

namespace ProviderError

def message : ProviderError → String
  | .unknownBinding name => "unknown binding '" ++ name ++ "'"
  | .connection reason => "connection failed: " ++ reason
  | .credentialsRejected username => "credentials rejected for user '" ++ username ++ "'"
  | .subscribe destination reason => "subscribe to '" ++ destination ++ "' failed: " ++ reason
  | .unreadable fault => "cannot extract carried object: " ++ fault.message
  | .notAnObject kind => "message of kind '" ++ kind ++ "' does not carry an object"
  | .close reason => "close failed: " ++ reason

def source : ProviderError → Option Json.Fault
  | .unreadable fault => some fault
  | _ => none

end ProviderError

def Message.carried (message : Message) : Except ProviderError CarriedObject :=
  if message.kind = .object then
    (CarriedObject.decoder.ofJson message.body).mapError .unreadable
  else .error (.notAnObject message.kind.name)

def CarriedObject.event (carried : CarriedObject) : Except ProviderError (Option Event) :=
  carried.event?.mapError .unreadable

inductive Diagnostic
  | warning (text : String)
  | failure (error : ProviderError)
deriving DecidableEq, Repr

/-- The one thing that a message causes. -/
inductive Effect
  | accept (event : Event)
  | diagnose (diagnostic : Diagnostic)
deriving DecidableEq, Repr

namespace Message

def unhandled (message : Message) : String :=
  "Received message of kind " ++ message.kind.name ++ " and type "
    ++ message.type.getD "<none>" ++ " which cannot be handled"

def effect (message : Message) : Effect :=
  if message.kind ≠ .object then .diagnose (.warning message.unhandled)
  else
    match message.carried with
    | .error e => .diagnose (.failure e)
    | .ok carried =>
      match carried.event with
      | .ok (some event) => .accept event
      | .ok none =>
        .diagnose (.warning ("Expected object message to carry " ++ Event.typeName
          ++ ", got type " ++ carried.typeName ++ " instead"))
      | .error e => .diagnose (.failure e)

end Message

namespace Diagnostic

def target : String := "logbus_listener::diagnostics"

def record (id : String) : Diagnostic → LogRecord
  | .warning text => ⟨.warn, target, "[" ++ id ++ "] " ++ text⟩
  | .failure e => ⟨.error, target, "[" ++ id ++ "] " ++ e.message⟩

end Diagnostic

end EventRelay
