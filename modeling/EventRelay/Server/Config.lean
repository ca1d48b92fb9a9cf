import EventRelay.Octets

namespace EventRelay

inductive PortFault
  | empty
  | invalidDigit
  | tooLarge
deriving DecidableEq, Repr

def PortFault.message : PortFault → String
  | .empty => "cannot parse integer from empty string"
  | .invalidDigit => "invalid digit found in string"
  | .tooLarge => "number too large to fit in target type"

def maxPort : Nat := 65535

/-- The number that digits write after `n`, checked from the left. -/
def portDigits (n : Nat) : Octets → Except PortFault Nat
  | [] => .ok n
  | b :: rest =>
    match digit? b with
    | none => .error .invalidDigit
    | some d => if n * 10 + d ≤ maxPort then portDigits (n * 10 + d) rest else .error .tooLarge

def portOctets : Octets → Except PortFault Nat
  | [] => .error .empty
  | b :: rest =>
    if b = Octet.plus then
      if rest.isEmpty then .error .invalidDigit else portDigits 0 rest
    else portDigits 0 (b :: rest)

structure ServerConfig where
  host : String
  port : Nat
  topic : String
  clientId : String
  username : Option String
  password : Option String
deriving DecidableEq, Repr

inductive ServerConfigError
  | hostMissing
  | invalidPort (text : String) (fault : PortFault)
deriving DecidableEq, Repr

def ServerConfigError.chain : ServerConfigError → List String
  | .hostMissing => ["LOGBUS_BROKER_HOST not set"]
  | .invalidPort text fault => ["Invalid LOGBUS_PORT '" ++ text ++ "'", fault.message]

namespace ServerConfig

def standardPort : Nat := 1883

def portOf : Option String → Except ServerConfigError Nat
  | none => .ok standardPort
  | some text => (portOctets (octets text)).mapError (.invalidPort text)

/-- The configuration that variables give, where `unique` tells apart servers without a name. -/
def ofLookup (unique : String) (lookup : String → Option String) :
    Except ServerConfigError ServerConfig :=
  match lookup "LOGBUS_BROKER_HOST" with
  | none => .error .hostMissing
  | some host => do
    let port ← portOf (lookup "LOGBUS_PORT")
    return {
      host
      port
      topic := (lookup "LOGBUS_TOPIC").getD "logs/#"
      clientId := (lookup "LOGBUS_CLIENT_ID").getD ("logbus-server-" ++ unique)
      username := lookup "LOGBUS_USERNAME"
      password := lookup "LOGBUS_PASSWORD" }

end ServerConfig

end EventRelay
