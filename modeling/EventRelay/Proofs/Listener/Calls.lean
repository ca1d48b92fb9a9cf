import EventRelay.Listener.Lifecycle
import EventRelay.Registry

/-!
All the calls on one listener together, however many there are and in whatever order they go on.
What providers answer, and when, is left open; so is what other holders do to the registry. Every
call goes on by the functions of `Lifecycle` and `Registry`, and what it does is kept in a history.
-/
namespace EventRelay.Lifecycle

variable {Receiver Connection : Type}

structure Common (Receiver Connection : Type) where
  lifecycle : Lifecycle Receiver := {}
  handle : Registry.Holding Connection

/-- A call on a listener: at a point of its own, or waiting for what it asked for there. -/
inductive Call (Receiver Connection : Type)
  | start (point : Start Receiver)
  | creating
  | discarding (receiver : Receiver)
  | stop (point : Stop Receiver)
  | closing (receiver : Receiver)
  | releasing (point : Registry.Release Connection)

/-- What lets a call go on: nothing from outside, or an answer to what it asked for. -/
inductive Prompt (Receiver : Type)
  | go
  | receiver (result : Except ProviderError Receiver)
  | result (result : Except ProviderError Unit)

inductive Deed (Receiver Connection : Type)
  | moved (before after : ListenerState)
  | createReceiver
  | created (result : Except ProviderError Receiver)
  | setListener (receiver : Receiver) (result : Except ProviderError Unit)
  | reclaimed (found : Option Receiver)
  | took (found : Option Receiver)
  | closeReceiver (receiver : Receiver)
  | receiverClosed (receiver : Receiver) (result : Except ProviderError Unit)
  | release
  | connectionClosed (connection : Connection) (result : Except ProviderError Unit)
  | released

namespace Call

def isStart : Call Receiver Connection → Bool
  | .start _ | .creating | .discarding _ => true
  | _ => false

def isStop (call : Call Receiver Connection) : Bool := !call.isStart

def hasReturned : Call Receiver Connection → Bool
  | .start (.done _) | .stop .done => true
  | _ => false

def startDeeds (found left : Lifecycle Receiver) : Start Receiver → List (Deed Receiver Connection)
  | .claim | .confirm => if found.state = left.state then [] else [.moved found.state left.state]
  | .reclaim => [.reclaimed found.slot]
  | _ => []

def stopDeeds (found left : Lifecycle Receiver) : Stop Receiver → List (Deed Receiver Connection)
  | .claim _ => if found.state = left.state then [] else [.moved found.state left.state]
  | .take => [.took found.slot]
  | .finish => [.moved found.state left.state]
  | _ => []

variable (config : ListenerConfig) (common : Common Receiver Connection)

def ownStart (point : Start Receiver) :
    Common Receiver Connection × Call Receiver Connection × List (Deed Receiver Connection) :=
  match common.lifecycle.start config point with
  | (lifecycle, _, next) =>
    ({ common with lifecycle }, .start next, startDeeds common.lifecycle lifecycle point)

def ownStop (point : Stop Receiver) :
    Common Receiver Connection × Call Receiver Connection × List (Deed Receiver Connection) :=
  match common.lifecycle.stop config point with
  | (lifecycle, _, next) =>
    ({ common with lifecycle }, .stop next, stopDeeds common.lifecycle lifecycle point)

def ownRelease (point : Registry.Release Connection) :
    Common Receiver Connection × Call Receiver Connection × List (Deed Receiver Connection) :=
  match Registry.release config.id common.handle point with
  | (handle, _, next) => ({ common with handle }, .releasing next, [])

/-- How a call goes on, unless it waits for something else or has returned. -/
def go : Call Receiver Connection → Prompt Receiver →
    Option (Common Receiver Connection × Call Receiver Connection × List (Deed Receiver Connection))
  | .start .claim, .go => some (ownStart config common .claim)
  | .start .create, .go => some (common, .creating, [.createReceiver])
  | .creating, .receiver result => some (common, .start (created result), [.created result])
  | .start (.register receiver), .result result =>
    match common.lifecycle.registered receiver result with
    | (lifecycle, next) =>
      some ({ common with lifecycle }, .start next, [.setListener receiver result])
  | .start .confirm, .go => some (ownStart config common .confirm)
  | .start .reclaim, .go => some (ownStart config common .reclaim)
  | .start (.discard receiver), .go =>
    some (common, .discarding receiver, [.closeReceiver receiver])
  | .discarding receiver, .result result =>
    some (common, .start (discarded config result).2, [.receiverClosed receiver result])
  | .stop .read, .go => some (ownStop config common .read)
  | .stop (.claim current), .go => some (ownStop config common (.claim current))
  | .stop .take, .go => some (ownStop config common .take)
  | .stop (.close receiver), .go => some (common, .closing receiver, [.closeReceiver receiver])
  | .closing receiver, .result result =>
    some (common, .stop (closed config result).2, [.receiverClosed receiver result])
  | .stop .release, .go => some (common, .releasing .mark, [.release])
  | .releasing .mark, .go => some (ownRelease config common .mark)
  | .releasing .decrement, .go => some (ownRelease config common .decrement)
  | .releasing .remove, .go => some (ownRelease config common .remove)
  | .releasing (.close connection), .result result =>
    some (common, .releasing .done, [.connectionClosed connection result])
  | .releasing .done, .go => some (common, .stop released, [.released])
  | .stop .finish, .go => some (ownStop config common .finish)
  | _, _ => none

end Call

structure System (Receiver Connection : Type) where
  common : Common Receiver Connection
  calls : List (Call Receiver Connection) := []
  history : List (Nat × Deed Receiver Connection) := []

inductive Move (Receiver Connection : Type)
  | start
  | stop
  | prompt (call : Nat) (prompt : Prompt Receiver)
  | elsewhere (registry : Registry Connection)

namespace System

def initial (registry : Registry Connection) : System Receiver Connection :=
  { common := { handle := ⟨registry, false⟩ } }

def state (system : System Receiver Connection) : ListenerState := system.common.lifecycle.state

def slot (system : System Receiver Connection) : Option Receiver := system.common.lifecycle.slot

def calling (system : System Receiver Connection) (call : Call Receiver Connection) :
    System Receiver Connection :=
  { system with calls := system.calls ++ [call] }

def inRegistry (system : System Receiver Connection) (registry : Registry Connection) :
    System Receiver Connection :=
  { system with common.handle := { system.common.handle with registry } }

def going (system : System Receiver Connection) (i : Nat) (common : Common Receiver Connection)
    (next : Call Receiver Connection) (deeds : List (Deed Receiver Connection)) :
    System Receiver Connection :=
  ⟨common, system.calls.set i next, system.history ++ deeds.map fun deed => (i, deed)⟩

variable (config : ListenerConfig)

def step (system : System Receiver Connection) :
    Move Receiver Connection → Option (System Receiver Connection)
  | .start => some (system.calling (.start .claim))
  | .stop => some (system.calling (.stop .read))
  | .prompt i prompt =>
    match system.calls[i]? with
    | none => none
    | some call =>
      match call.go config system.common prompt with
      | none => none
      | some (common, next, deeds) => some (system.going i common next deeds)
  | .elsewhere registry => some (system.inRegistry registry)

def run (system : System Receiver Connection) :
    List (Move Receiver Connection) → Option (System Receiver Connection)
  | [] => some system
  | move :: moves =>
    match system.step config move with
    | none => none
    | some next => run next moves

/-- Some calls, going on in some order, can bring a new listener here. -/
def Reachable (system : System Receiver Connection) : Prop :=
  ∃ registry moves, (initial registry).run config moves = some system

end System

end EventRelay.Lifecycle
