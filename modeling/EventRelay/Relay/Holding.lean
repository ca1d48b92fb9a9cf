import EventRelay.Relay.Basic

namespace EventRelay

def Frame.holds : Frame → Option Held
  | .start l _ | .stop l _ => some (.listener l)
  | .release h _ | .receiverOn h => some (.handle h)
  | _ => none

def Task.holds (task : Task) (held : Held) : Bool :=
  match task with
  | .active _ frames => frames.any fun frame => frame.holds == some held
  | _ => false

def Callback.holds (callback : Callback) (held : Held) : Bool :=
  match callback with
  | .forward l => held == .listener l
  | _ => false

namespace Relay

def isHeld (relay : Relay) (held : Held) : Bool :=
  relay.held.contains held
    || relay.tasks.any (·.holds held)
    || relay.brokers.any (fun broker => broker.listeners.any (·.2.holds held))
    || relay.scripts.any (fun script => script.listener.any (·.holds held))
    || relay.mqtt.any (fun c => c.feed.listeners.any (·.2.holds held))

def addTask (relay : Relay) (frame : Frame) : Relay × Nat :=
  ({ relay with tasks := relay.tasks ++ [.active none [frame]] }, relay.tasks.length)

def releaseHandle (relay : Relay) (i : Nat) (point : Registry.Release Nat) :
    Relay × Registry.Release Nat :=
  match relay.handles[i]? with
  | none => (relay, .done)
  | some handle =>
    match relay.registries[handle.registry]? with
    | none => (relay, .done)
    | some registry =>
      match Registry.release handle.name ⟨registry, handle.released⟩ point with
      | (held, log, point) =>
        let left :=
          { relay with
            registries := relay.registries.set handle.registry held.registry
            handles := relay.handles.set i { handle with released := held.released } }
        (left.log log, point)

/-- Gives back the reference of a handle that is dropped. A connection that lost its last reference
    is closed in the background, if anything can run there. -/
def dropHandle (relay : Relay) (background : Bool) (h : Nat) : Relay :=
  let rec go (relay : Relay) (point : Registry.Release Nat) : Nat → Relay
    | 0 => relay
    | fuel + 1 =>
      match point with
      | .done => relay
      | .close connection =>
        match relay.handles[h]? with
        | none => relay
        | some handle =>
          if background then (relay.addTask (.closeShared handle.name connection)).1
          else relay.log [Registry.abandonRecord handle.name]
      | point =>
        match relay.releaseHandle h point with
        | (relay, point) => go relay point fuel
  go relay .mark 4

/-- Drops the listeners and handles that nobody holds on to. -/
def collect (relay : Relay) (background : Bool) : Relay :=
  let relay := (List.range relay.listeners.length).foldl (fun relay l =>
    match relay.listeners[l]? with
    | none => relay
    | some listener =>
      if listener.dropped || relay.isHeld (.listener l) then relay
      else (relay.setListener l { listener with dropped := true }).dropHandle background
        listener.handle) relay
  (List.range relay.handles.length).foldl (fun relay h =>
    match relay.handles[h]? with
    | none => relay
    | some handle =>
      if handle.owned || handle.dropped || relay.isHeld (.handle h) then relay
      else
        { relay with handles := relay.handles.set h { handle with dropped := true } }.dropHandle
          background h) relay

end Relay

end EventRelay
