import EventRelay.Provider

namespace EventRelay.Mqtt

inductive Request
  | subscribe (topic : String)
  | unsubscribe (topic : String)
  | disconnect
deriving DecidableEq, Repr

def Request.text : Request → String
  | .subscribe topic => "SUBSCRIBE " ++ topic ++ " qos1"
  | .unsubscribe topic => "UNSUBSCRIBE " ++ topic
  | .disconnect => "DISCONNECT"

structure RequestQueue where
  capacity : Nat
  waiting : List Request := []
  served : Bool := true
  /-- Whether the event loop is waiting for a request, so that one may go beyond the capacity. -/
  idle : Bool := false
deriving DecidableEq, Repr

namespace RequestQueue

def refusal : String := "Failed to send mqtt requests to eventloop"

def hasRoom (queue : RequestQueue) : Bool :=
  queue.served
    && (queue.waiting.length < queue.capacity || (queue.idle && queue.waiting.isEmpty))

def push? (queue : RequestQueue) (request : Request) : Option RequestQueue :=
  if queue.hasRoom then some { queue with waiting := queue.waiting ++ [request] } else none

def take (queue : RequestQueue) (count : Nat) : List Request × RequestQueue :=
  (queue.waiting.take count, { queue with waiting := queue.waiting.drop count })

def drain (queue : RequestQueue) : List Request × RequestQueue := queue.take queue.waiting.length

/-- The queue without its event loop: what waited is lost, and every request is refused. -/
def abandon (queue : RequestQueue) : RequestQueue :=
  { queue with waiting := [], served := false, idle := false }

end RequestQueue

structure Subscription where
  topic : String
  receivers : Nat := 0
  requests : RequestQueue
deriving DecidableEq, Repr

def connectionTarget : String := "logbus_provider_mqtt::connection"

namespace Subscription

/-- Counts a new receiver. The first one subscribes, and is not counted if that is refused. -/
def acquire (s : Subscription) : Subscription × Except ProviderError Unit :=
  if s.receivers = 0 then
    match s.requests.push? (.subscribe s.topic) with
    | some requests => ({ s with receivers := 1, requests }, .ok ())
    | none => (s, .error (.subscribe s.topic RequestQueue.refusal))
  else ({ s with receivers := s.receivers + 1 }, .ok ())

/-- Drops a receiver and answers whether that was the last one, which unsubscribes. -/
def release (s : Subscription) : Subscription × Except ProviderError Bool :=
  let left := { s with receivers := s.receivers - 1 }
  if left.receivers > 0 then (left, .ok false)
  else
    match s.requests.push? (.unsubscribe s.topic) with
    | some requests => ({ left with requests }, .ok true)
    | none => (left, .error (.close RequestQueue.refusal))

def resubscribe (s : Subscription) : Subscription × List LogRecord :=
  if s.receivers = 0 then (s, [])
  else
    match s.requests.push? (.subscribe s.topic) with
    | some requests =>
      ({ s with requests },
        [⟨.info, connectionTarget, "Resubscribed to '" ++ s.topic ++ "'"⟩])
    | none =>
      (s, [⟨.warn, connectionTarget,
        "Failed to resubscribe to '" ++ s.topic ++ "': " ++ RequestQueue.refusal⟩])

end Subscription

structure Feed (Listener : Type) where
  subscription : Subscription
  created : Nat := 0
  closed : List Nat := []
  listeners : List (Nat × Listener) := []

namespace Feed

variable {Listener : Type}

def addReceiver (feed : Feed Listener) : Feed Listener × Nat :=
  ({ feed with created := feed.created + 1 }, feed.created)

def openReceiver (feed : Feed Listener) : Feed Listener × Except ProviderError Nat :=
  match feed.subscription.acquire with
  | (subscription, .ok ()) =>
    match { feed with subscription }.addReceiver with
    | (feed, receiver) => (feed, .ok receiver)
  | (subscription, .error e) => ({ feed with subscription }, .error e)

def setListener (feed : Feed Listener) (receiver : Nat) (listener : Listener) : Feed Listener :=
  { feed with
    listeners := feed.listeners.filter (·.1 ≠ receiver) ++ [(receiver, listener)] }

/-- Closes a receiver. Only the first close of it does anything. -/
def closeReceiver (feed : Feed Listener) (receiver : Nat) :
    Feed Listener × List LogRecord × Except ProviderError Unit :=
  if feed.closed.contains receiver then (feed, [], .ok ())
  else
    match feed.subscription.release with
    | (subscription, result) =>
      let left :=
        { feed with
          subscription
          closed := receiver :: feed.closed
          listeners := feed.listeners.filter (·.1 ≠ receiver) }
      match result with
      | .ok _ => (left, [], .ok ())
      | .error e =>
        (left,
          [⟨.warn, connectionTarget,
            "Failed to unsubscribe from '" ++ feed.subscription.topic ++ "': " ++ e.message⟩],
          .error e)

def audience (feed : Feed Listener) : List Listener := feed.listeners.map (·.2)

end Feed

end EventRelay.Mqtt
