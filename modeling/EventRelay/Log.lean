import EventRelay.Json.Record

namespace EventRelay

inductive Level
  | trace
  | debug
  | info
  | warn
  | error
deriving DecidableEq, Repr, Inhabited

namespace Level

def all : List Level := [trace, debug, info, warn, error]

def name : Level → String
  | trace => "TRACE"
  | debug => "DEBUG"
  | info => "INFO"
  | warn => "WARN"
  | error => "ERROR"

def verbosity : Level → Nat
  | error => 1
  | warn => 2
  | info => 3
  | debug => 4
  | trace => 5

/-- Whether a bound on levels lets this one through; no bound at all lets nothing through. -/
def within (level : Level) (bound : Option Level) : Bool :=
  match bound with
  | none => false
  | some bound => level.verbosity ≤ bound.verbosity

def wider (a b : Option Level) : Option Level :=
  match a, b with
  | some x, some y => if x.verbosity ≤ y.verbosity then b else a
  | none, b => b
  | a, none => a

def bound? (word : String) : Option (Option Level) :=
  let word := String.ofList (word.toList.map Char.toUpper)
  if word = "OFF" then some none else (all.find? fun level => level.name == word).map some

def standard : Level := info

def decoder : Json.Decoder Level := .choice (all.map fun level => (level.name, level))

end Level

structure LogRecord where
  level : Level
  target : String
  text : String
deriving DecidableEq, Repr

structure Logger where
  bound : Option Level
  enabled : String → Level → Bool
  keeps : LogRecord → Bool := fun _ => true

namespace Logger

def write (logger : Logger) (record : LogRecord) : List LogRecord :=
  if record.level.within logger.bound && logger.keeps record then [record] else []

def wants (logger : Logger) (target : String) (level : Level) : Bool :=
  level.within logger.bound && logger.enabled target level

end Logger

end EventRelay
