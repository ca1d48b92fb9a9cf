import EventRelay.Mqtt.Feed
import EventRelay.Mqtt.Settings

namespace EventRelay.Mqtt

structure Lock where
  holder : Option Nat := none
  waiting : List Nat := []
  tickets : Nat := 0
deriving DecidableEq, Repr

namespace Lock

/-- Asks for the lock: a ticket, which holds the lock at once if it is free. -/
def request (lock : Lock) : Lock × Nat :=
  let asked := { lock with tickets := lock.tickets + 1 }
  match lock.holder with
  | none => ({ asked with holder := some lock.tickets }, lock.tickets)
  | some _ => ({ asked with waiting := lock.waiting ++ [lock.tickets] }, lock.tickets)

def isHeldBy (lock : Lock) (ticket : Nat) : Bool := lock.holder == some ticket

def release (lock : Lock) : Lock :=
  match lock.waiting with
  | ticket :: rest => { lock with holder := some ticket, waiting := rest }
  | [] => { lock with holder := none }

def forsake (lock : Lock) (ticket : Nat) : Lock :=
  if lock.isHeldBy ticket then lock.release
  else { lock with waiting := lock.waiting.filter (· ≠ ticket) }

end Lock

inductive Phase
  /-- Not connected yet, or the last attempt failed. -/
  | idle
  | running
  | closed
deriving DecidableEq, Repr

inductive Polling
  | unstarted
  | active
  | ended
deriving DecidableEq, Repr

inductive Attempt
  | accepted
  | refused (code : Nat)
  | failed (reason : String)
  | timedOut
deriving DecidableEq, Repr

def unreachable : String := "I/O: Network is unreachable (os error 101)"

structure Connection (Listener : Type) where
  binding : String
  options : Options
  username : Option String
  connectTimeoutSecs : Nat
  phase : Phase := .idle
  polling : Polling := .unstarted
  lock : Lock := {}
  feed : Feed Listener

structure Factory where
  bindings : List (String × Settings) := []

def Factory.bind (factory : Factory) (name : String) (settings : Settings) : Factory :=
  { bindings := (name, settings) :: factory.bindings }

def returnCodeName (code : Nat) : String :=
  match code with
  | 1 => "RefusedProtocolVersion"
  | 2 => "BadClientId"
  | 3 => "ServiceUnavailable"
  | 4 => "BadUserNamePassword"
  | _ => "NotAuthorized"

def isBadLogin (code : Nat) : Bool := code = 4 || code = 5

def secondsText (n : Nat) : String := if n = 0 then "0ns" else toString n ++ "s"

namespace Connection

variable {Listener : Type}

def ofFactory (factory : Factory) (params : ConnectionParams) :
    Except ProviderError (Connection Listener) :=
  match factory.bindings.lookup params.factory with
  | none => .error (.unknownBinding params.factory)
  | some settings =>
    .ok {
      binding := params.factory
      options := settings.options params
      username := settings.usernameFor params
      connectTimeoutSecs := settings.connectTimeoutSecs.toNat
      feed := {
        subscription := {
          topic := params.destination
          requests := { capacity := settings.capacity.toNat } } } }

def record (connection : Connection Listener) (level : Level) (text : String) : LogRecord :=
  ⟨level, connectionTarget, "[" ++ connection.binding ++ "] " ++ text⟩

def attemptError? (connection : Connection Listener) : Attempt → Option ProviderError
  | .accepted => none
  | .refused code =>
    if isBadLogin code then some (.credentialsRejected (connection.username.getD ""))
    else
      some (.connection ("Connection refused, return code: `" ++ returnCodeName code ++ "`"))
  | .failed reason => some (.connection reason)
  | .timedOut =>
    some (.connection ("no CONNACK from '" ++ connection.binding ++ "' within "
      ++ secondsText connection.connectTimeoutSecs))

inductive Create
  | enter
  | queued (ticket : Nat)
  | connecting (ticket : Nat)
  | subscribe
  | done (result : Except ProviderError Nat)
deriving Repr

/-- One step of a call to create a receiver, other than the end of an attempt. A call that waits
    for its turn stays where it is. -/
def create (connection : Connection Listener) : Create → Connection Listener × Create
  | .enter =>
    match connection.lock.request with
    | (lock, ticket) => ({ connection with lock }, .queued ticket)
  | .queued ticket =>
    if connection.lock.isHeldBy ticket then
      match connection.phase with
      | .running => ({ connection with lock := connection.lock.release }, .subscribe)
      | .closed =>
        ({ connection with lock := connection.lock.release },
          .done (.error (.connection ("connection '" ++ connection.binding ++ "' is closed"))))
      | .idle => ({ connection with phase := .closed }, .connecting ticket)
    else (connection, .queued ticket)
  | .subscribe =>
    match connection.feed.openReceiver with
    | (feed, result) => ({ connection with feed }, .done result)
  | point => (connection, point)

/-- The end of an attempt to connect: the lock is handed on either way. -/
def conclude (connection : Connection Listener) (attempt : Attempt) :
    Connection Listener × List LogRecord × Create :=
  let left := { connection with lock := connection.lock.release }
  match connection.attemptError? attempt with
  | some e => ({ left with phase := .idle }, [], .done (.error e))
  | none =>
    ({ left with phase := .running, polling := .active },
      [connection.record .info
          ("Connected, delivering from '" ++ connection.feed.subscription.topic ++ "'"),
        connection.record .info "MQTT event loop started"],
      .subscribe)

def endPolling (connection : Connection Listener) : Connection Listener :=
  let subscription :=
    { connection.feed.subscription with requests := connection.feed.subscription.requests.abandon }
  { connection with polling := .ended, feed := { connection.feed with subscription } }

/-- What an abandoned call leaves behind: the lock is handed on, and an attempt that was under way
    is lost. -/
def abandonCreate (connection : Connection Listener) : Create → Connection Listener
  | .queued ticket => { connection with lock := connection.lock.forsake ticket }
  | .connecting ticket => { connection with lock := connection.lock.forsake ticket }.endPolling
  | _ => connection

inductive Close
  | enter
  | queued (ticket : Nat)
  | disconnect
  | grace
  | done (result : Except ProviderError Unit)
deriving Repr

def shutDown (connection : Connection Listener) : Connection Listener × List LogRecord :=
  match connection.polling with
  | .active => (connection.endPolling, [connection.record .info "Shutdown signal received"])
  | _ => (connection, [])

def close (connection : Connection Listener) :
    Close → Connection Listener × List LogRecord × Close
  | .enter =>
    match connection.lock.request with
    | (lock, ticket) => ({ connection with lock }, [], .queued ticket)
  | .queued ticket =>
    if connection.lock.isHeldBy ticket then
      let left := { connection with phase := .closed, lock := connection.lock.release }
      match connection.phase with
      | .running => (left, [], .disconnect)
      | .idle => (left.endPolling, [], .done (.ok ()))
      | .closed => (left, [], .done (.ok ()))
    else (connection, [], .queued ticket)
  | .disconnect =>
    let requests := connection.feed.subscription.requests
    if requests.served then
      match requests.push? .disconnect with
      | some requests =>
        let subscription := { connection.feed.subscription with requests }
        ({ connection with feed := { connection.feed with subscription } }, [], .grace)
      | none => (connection, [], .disconnect)
    else
      match connection.shutDown with
      | (connection, log) =>
        (connection, log, .done (.error (.close RequestQueue.refusal)))
  | .grace =>
    match connection.polling with
    | .active => (connection, [], .grace)
    | _ => (connection, [], .done (.ok ()))
  | point => (connection, [], point)

def expire (connection : Connection Listener) :
    Close → Connection Listener × List LogRecord × Close
  | .grace =>
    match connection.shutDown with
    | (connection, log) => (connection, log, .done (.ok ()))
  | point => (connection, [], point)

def abandonClose (connection : Connection Listener) : Close → Connection Listener
  | .queued ticket => { connection with lock := connection.lock.forsake ticket }
  | _ => connection

end Connection

end EventRelay.Mqtt
