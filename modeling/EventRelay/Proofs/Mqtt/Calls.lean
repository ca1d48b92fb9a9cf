import EventRelay.Mqtt.Poll
import EventRelay.Proofs.Mqtt.Subscription

/-!
All the calls that create receivers on one connection or close it, however many there are and in
whatever order they go on. How attempts to connect end, what the polling brings and takes, and what
becomes of the receivers is left open. Every step goes by the functions of `Connection`.
-/
namespace EventRelay.Mqtt.Connection

variable {Listener : Type}

inductive Call
  | create (point : Create)
  | close (point : Close)

namespace Call

def ticket? : Call → Option Nat
  | .create (.queued ticket) | .create (.connecting ticket) | .close (.queued ticket) => some ticket
  | _ => none

def isConnecting : Call → Bool
  | .create (.connecting _) => true
  | _ => false

end Call

inductive Deed
  | attempting
  | attempted (attempt : Attempt)
  | polling
  | closing (found : Phase)
  | requested (request : Request)
deriving DecidableEq

namespace Deed

def isAccepted : Deed → Bool
  | .attempted .accepted => true
  | _ => false

def isClosing : Deed → Bool
  | .closing _ => true
  | _ => false

end Deed

structure System (Listener : Type) where
  connection : Connection Listener
  calls : List Call := []
  history : List (Option Nat × Deed) := []

inductive Move (Listener : Type)
  | create
  | close
  | go (call : Nat)
  | conclude (call : Nat) (attempt : Attempt)
  | expire (call : Nat)
  | poll (polled : Polled)
  | take (count : Nat)
  | await (idle : Bool)
  | setListener (receiver : Nat) (listener : Listener)
  | closeReceiver (receiver : Nat)

def inFeed (connection : Connection Listener) (feed : Feed Listener) : Connection Listener :=
  { connection with feed }

def requests (connection : Connection Listener) : RequestQueue :=
  connection.feed.subscription.requests

def inQueue (connection : Connection Listener) (requests : RequestQueue) : Connection Listener :=
  connection.inFeed { connection.feed with
    subscription := { connection.feed.subscription with requests } }

/-- The requests that were queued from one moment to another. -/
def requested (found left : Connection Listener) : List Deed :=
  (found.requests.added left.requests).map .requested

def createDeeds : Create → Create → List Deed
  | .queued _, .connecting _ => [.attempting]
  | _, _ => []

def concludeDeeds (left : Connection Listener) (attempt : Attempt) : List Deed :=
  match left.polling with
  | .active => [.attempted attempt, .polling]
  | _ => [.attempted attempt]

def closeDeeds (found : Connection Listener) : Close → Close → List Deed
  | .queued _, .queued _ => []
  | .queued _, _ => [.closing found.phase]
  | _, _ => []

namespace System

def count (system : System Listener) (kind : Deed → Bool) : Nat :=
  system.history.countP fun entry => kind entry.2

def initial (connection : Connection Listener) : System Listener := { connection }

def calling (system : System Listener) (call : Call) : System Listener :=
  { system with calls := system.calls ++ [call] }

def doing (system : System Listener) (who : Option Nat) (deeds : List Deed)
    (left : Connection Listener) : System Listener :=
  { system with
    connection := left
    history := system.history ++ deeds.map fun deed => (who, deed) }

def going (system : System Listener) (i : Nat) (next : Call) (deeds : List Deed)
    (left : Connection Listener) : System Listener :=
  { system.doing (some i) deeds left with calls := system.calls.set i next }

def elsewhere (system : System Listener) (left : Connection Listener) : System Listener :=
  system.doing none (system.connection.requested left) left

def goStep (system : System Listener) (i : Nat) : Call → System Listener
  | .create point =>
    match system.connection.create point with
    | (left, next) =>
      system.going i (.create next) (createDeeds point next ++ system.connection.requested left) left
  | .close point =>
    match system.connection.close point with
    | (left, _, next) =>
      system.going i (.close next)
        (closeDeeds system.connection point next ++ system.connection.requested left) left

/-- The polling takes requests and waits for them only while there is polling, and nothing is done
    with a receiver that was not created. -/
def step (system : System Listener) : Move Listener → Option (System Listener)
  | .create => some (system.calling (.create .enter))
  | .close => some (system.calling (.close .enter))
  | .go i => (system.calls[i]?).map fun call => system.goStep i call
  | .conclude i attempt =>
    match system.calls[i]? with
    | some (.create (.connecting _)) =>
      match system.connection.conclude attempt with
      | (left, _, next) =>
        some (system.going i (.create next)
          (left.concludeDeeds attempt ++ system.connection.requested left) left)
    | _ => none
  | .expire i =>
    match system.calls[i]? with
    | some (.close .grace) =>
      match system.connection.expire .grace with
      | (left, _, next) =>
        some (system.going i (.close next) (system.connection.requested left) left)
    | _ => none
  | .poll polled => some (system.elsewhere (system.connection.poll polled).1)
  | .take count =>
    match system.connection.polling with
    | .active =>
      some (system.elsewhere
        (system.connection.inQueue (system.connection.requests.take count).2))
    | _ => none
  | .await idle =>
    match system.connection.polling with
    | .active =>
      some (system.elsewhere
        (system.connection.inQueue { system.connection.requests with idle }))
    | _ => none
  | .setListener receiver listener =>
    if receiver < system.connection.feed.created then
      some (system.elsewhere
        (system.connection.inFeed (system.connection.feed.setListener receiver listener)))
    else none
  | .closeReceiver receiver =>
    if receiver < system.connection.feed.created then
      some (system.elsewhere
        (system.connection.inFeed (system.connection.feed.closeReceiver receiver).1))
    else none

def run (system : System Listener) : List (Move Listener) → Option (System Listener)
  | [] => some system
  | move :: moves =>
    match system.step move with
    | none => none
    | some next => run next moves

/-- Some calls, going on in some order, can bring the connection here that a factory opened as
    `start`. -/
def Reachable (start : Connection Listener) (system : System Listener) : Prop :=
  (∃ factory params, ofFactory factory params = .ok start) ∧
    ∃ moves, (initial start).run moves = some system

end System

end EventRelay.Mqtt.Connection
