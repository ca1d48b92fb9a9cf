import EventRelay.Relay.Calls

namespace EventRelay

namespace Relay

def Next.task? (waiting : List Frame) : Next → Option Task
  | .go frame => some (.active none (frame :: waiting))
  | .call frame callee => some (.active none (callee :: frame :: waiting))
  | .reply answer => some (.active (some answer) waiting)
  | .wait => none

def advance? (relay : Relay) : Task → Option (Relay × Task)
  | .active none [] => some (relay, .finished .finished)
  | .active (some reply) [] => some (relay, .finished reply)
  | .active none (frame :: waiting) =>
    match relay.step frame with
    | (relay, next) => (next.task? waiting).map fun task => (relay, task)
  | .active (some reply) (frame :: waiting) =>
    match relay.resume frame reply with
    | (relay, next) => (next.task? waiting).map fun task => (relay, task)
  | _ => none

/-- Lets task `t` go on until it has to wait or is at its end, but so many steps at most. -/
def run (relay : Relay) (t : Nat) : Nat → Relay
  | 0 => relay
  | fuel + 1 =>
    match (relay.tasks[t]?).bind relay.advance? with
    | none => relay
    | some (next, task) => run { next with tasks := next.tasks.set t task } t fuel

/-- More steps than any task takes. -/
def taskSteps : Nat := 64

def isReady (relay : Relay) (t : Nat) : Bool :=
  ((relay.tasks[t]?).bind relay.advance?).isSome

/-- Sends the requests that wait on a connection that is up, which then waits for more. -/
def flush (relay : Relay) (i : Nat) : Relay :=
  match relay.mqtt[i]? with
  | none => relay
  | some c =>
    match c.polling with
    | .active =>
      match c.feed.subscription.requests.drain with
      | (sent, requests) =>
        let subscription := { c.feed.subscription with requests := { requests with idle := true } }
        let left :=
          sent.foldl (fun relay request => relay.note (.sent i request))
            (relay.setMqtt i { c with feed := { c.feed with subscription } })
        if sent.contains .disconnect then left.poll i .disconnected else left
    | _ => relay

def flushAll (relay : Relay) : Relay :=
  (List.range relay.mqtt.length).foldl (fun relay i => relay.flush i) relay

/-- Lets the tasks go on, the first one that can first, until none can, but so many at most. -/
def settle (relay : Relay) : Nat → Relay
  | 0 => relay
  | fuel + 1 =>
    match (List.range relay.tasks.length).find? relay.isReady with
    | some t => settle ((relay.run t taskSteps).collect true) fuel
    | none =>
      let flushed := relay.flushAll
      match (List.range flushed.tasks.length).find? flushed.isReady with
      | some _ => settle flushed fuel
      | none => flushed

def rest (relay : Relay) : Relay :=
  relay.settle
    (taskSteps * (relay.tasks.length + relay.listeners.length + relay.handles.length + 1))

def spawn (relay : Relay) (frame : Frame) : Relay × Nat :=
  match relay.addTask frame with
  | (relay, t) => (relay.rest, t)

def reply? (relay : Relay) (t : Nat) : Option Reply :=
  match relay.tasks[t]? with
  | some (.finished reply) => some reply
  | _ => none

def call (relay : Relay) (frame : Frame) : Relay × Option Reply :=
  match relay.spawn frame with
  | (relay, t) => (relay, relay.reply? t)

def callAll (relay : Relay) (frames : List Frame) : Relay × List Reply :=
  let first := relay.tasks.length
  let left := (frames.foldl (fun relay frame => (relay.addTask frame).1) relay).rest
  (left, (List.range frames.length).filterMap fun i => left.reply? (first + i))

def cancel (relay : Relay) (t : Nat) : Relay :=
  match relay.tasks[t]? with
  | some (.active _ frames) =>
    let left := frames.foldl abandon relay
    ({ left with tasks := left.tasks.set t .gone }.collect true).rest
  | _ => relay

def listen (relay : Relay) (config : ListenerConfig) (registry : Nat) (factory : Factory)
    (sink : Sink) (diagnostics : Option String) : Relay × Except ListenerError Nat :=
  match relay.resolve registry config.id config.params factory true with
  | (relay, .error e) => (relay, .error (.unresolved e))
  | (relay, .ok handle) =>
    let l := relay.listeners.length
    ({ relay with
        listeners := relay.listeners ++ [{ config, handle, sink, diagnostics }]
        held := .listener l :: relay.held },
      .ok l)

def handle (relay : Relay) (registry : Nat) (name : String) (params : ConnectionParams)
    (factory : Factory) : Relay × Except ProviderError Nat :=
  match relay.resolve registry name params factory false with
  | (relay, .error e) => (relay, .error e)
  | (relay, .ok h) => ({ relay with held := .handle h :: relay.held }, .ok h)

def letGo (relay : Relay) (held : Held) (background : Bool) : Relay :=
  ({ relay with held := relay.held.erase held }.collect background).rest

end Relay

end EventRelay
