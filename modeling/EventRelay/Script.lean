import EventRelay.Provider
import EventRelay.Json.Basic

namespace EventRelay.Script

inductive Call
  | connect
  | createReceiver
  | setListener
  | closeReceiver
  | close
deriving DecidableEq, Repr

namespace Call

def name : Call → String
  | connect => "connect"
  | createReceiver => "create_receiver"
  | setListener => "set_listener"
  | closeReceiver => "receiver_close"
  | close => "close"

def all : List Call := [connect, createReceiver, setListener, closeReceiver, close]

def ofName? (name : String) : Option Call := all.find? fun call => call.name == name

end Call

structure Outcome where
  gated : Bool := false
  error : Option ProviderError := none
deriving Repr

def Outcome.result (outcome : Outcome) : Except ProviderError Unit :=
  match outcome.error with
  | some e => .error e
  | none => .ok ()

/-- A gate lets one through each time it opens: those who wait in order, or else the next to
    come. -/
structure Gate where
  permit : Bool := false
  waiting : List Nat := []
  passed : List Nat := []
  tickets : Nat := 0
deriving Repr

namespace Gate

def openOnce (gate : Gate) : Gate :=
  match gate.waiting with
  | ticket :: rest => { gate with waiting := rest, passed := gate.passed ++ [ticket] }
  | [] => { gate with permit := true }

def arrive (gate : Gate) : Gate × Nat :=
  let entered := { gate with tickets := gate.tickets + 1 }
  if gate.permit then
    ({ entered with permit := false, passed := gate.passed ++ [gate.tickets] }, gate.tickets)
  else ({ entered with waiting := gate.waiting ++ [gate.tickets] }, gate.tickets)

def isPassed (gate : Gate) (ticket : Nat) : Bool := gate.passed.contains ticket

def leave (gate : Gate) (ticket : Nat) : Gate :=
  { gate with passed := gate.passed.filter (· ≠ ticket) }

/-- Gives up waiting. One who was let through lets the next through. -/
def forsake (gate : Gate) (ticket : Nat) : Gate :=
  if gate.isPassed ticket then (gate.leave ticket).openOnce
  else { gate with waiting := gate.waiting.filter (· ≠ ticket) }

end Gate

structure Provider (Listener : Type) where
  outcomes : List (Call × Outcome) := []
  gate : Gate := {}
  listener : Option Listener := none
deriving Repr

namespace Provider

variable {Listener : Type} (provider : Provider Listener)

def plan (call : Call) (outcome : Outcome) : Provider Listener :=
  { provider with outcomes := provider.outcomes ++ [(call, outcome)] }

/-- Takes the next outcome for a call; where none is set out the call succeeds. -/
def next (call : Call) : Provider Listener × Outcome :=
  match provider.outcomes.find? (·.1 == call) with
  | some (_, outcome) =>
    ({ provider with outcomes := provider.outcomes.eraseP (·.1 == call) }, outcome)
  | none => (provider, {})

def setListener (listener : Listener) : Provider Listener × Except ProviderError Unit :=
  match provider.next .setListener with
  | (provider, outcome) =>
    match outcome.result with
    | .ok () => ({ provider with listener := some listener }, .ok ())
    | .error e => (provider, .error e)

end Provider

def connectText (params : ConnectionParams) : String :=
  let orNull (s : Option String) : Json := (s.map Json.string).getD .null
  Call.connect.name ++ " " ++ Json.text (.ofMembers [
    ("connection_factory", .string params.factory),
    ("destination", .string params.destination),
    ("username", orNull params.username),
    ("password", orNull params.password)])

end EventRelay.Script
