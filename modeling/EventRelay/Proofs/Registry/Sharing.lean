import EventRelay.Registry

/-!
All who share the connections of one registry: those who resolve names, and the releases and drops of
their handles, however many there are and in whatever order they go on. What factories and closing
connections answer, and when, is left open. Every step goes by the functions of `Registry`.
-/
namespace EventRelay.Registry

structure Holder where
  name : String
  connection : Nat
  released : Bool := false
  returned : Bool := false
  dropped : Bool := false

def Holder.isLive (holder : Holder) : Bool := !holder.released && !holder.dropped

inductive Stage
  | own (point : Release Nat)
  | closing (connection : Nat)

structure Call where
  holder : Nat
  stage : Stage := .own .mark

namespace Call

def isDone (call : Call) : Bool :=
  match call.stage with
  | .own .done => true
  | _ => false

def returns (h : Nat) (call : Call) : Bool :=
  match call.stage with
  | .own .decrement => call.holder = h
  | _ => false

def closes (connection : Nat) (call : Call) : Bool :=
  match call.stage with
  | .own (.close other) => other = connection
  | _ => false

def isClosing (connection : Nat) (call : Call) : Bool :=
  match call.stage with
  | .closing other => other = connection
  | _ => false

end Call

inductive Deed
  | connected (name : String) (params : ConnectionParams) (result : Except ProviderError Nat)
  | closing (connection : Nat)
  | closed (connection : Nat) (result : Except ProviderError Unit)

namespace Deed

def isClosing (connection : Nat) : Deed → Bool
  | .closing other => other = connection
  | _ => false

def isClosed (connection : Nat) : Deed → Bool
  | .closed other _ => other = connection
  | _ => false

def asked? : Deed → Option (String × ConnectionParams)
  | .connected name params _ => some (name, params)
  | _ => none

def opened? (name : String) : Deed → Option Nat
  | .connected other _ (.ok connection) => if other = name then some connection else none
  | _ => none

end Deed

structure System where
  registry : Registry Nat := {}
  opened : List String := []
  holders : List Holder := []
  calls : List Call := []
  history : List Deed := []

inductive Move
  /-- Takes a reference on a name's connection; the factory answers this if it is asked. -/
  | resolve (name : String) (params : ConnectionParams) (answer : Except ProviderError Unit)
  | release (holder : Nat)
  | drop (holder : Nat)
  | go (call : Nat)
  | answer (call : Nat) (result : Except ProviderError Unit)

namespace System

def resolve (system : System) (name : String) (params : ConnectionParams)
    (answer : Except ProviderError Unit) : System :=
  match system.registry.retain? name with
  | some (registry, connection, _) =>
    { system with registry, holders := system.holders ++ [{ name, connection }] }
  | none =>
    match answer with
    | .error e => { system with history := system.history ++ [.connected name params (.error e)] }
    | .ok () =>
      let connection := system.opened.length
      { system with
        registry := (system.registry.enter name params connection).1
        opened := system.opened ++ [name]
        holders := system.holders ++ [{ name, connection }]
        history := system.history ++ [.connected name params (.ok connection)] }

def calling (system : System) (h : Nat) : System :=
  { system with calls := system.calls ++ [⟨h, .own .mark⟩] }

def going (system : System) (i h : Nat) (stage : Stage) (deeds : List Deed := []) : System :=
  { system with calls := system.calls.set i ⟨h, stage⟩, history := system.history ++ deeds }

def setHolder (system : System) (h : Nat) (holder : Holder) : System :=
  { system with holders := system.holders.set h holder }

def releaseStep (system : System) (i h : Nat) (holder : Holder) (point : Release Nat) : System :=
  match Registry.release holder.name ⟨system.registry, holder.released⟩ point with
  | (left, _, next) =>
    let returned :=
      match point with
      | .decrement => true
      | _ => holder.returned
    { (system.setHolder h { holder with released := left.released, returned }).going i h (.own next) with
      registry := left.registry }

def isBorrowed (system : System) (h : Nat) : Bool :=
  system.calls.any fun call => call.holder = h && !call.isDone

/-- Nothing is called on a dropped handle, and a handle is not dropped while a call on it is under
    way. -/
def step (system : System) : Move → Option System
  | .resolve name params answer => some (system.resolve name params answer)
  | .release h =>
    match system.holders[h]? with
    | none => none
    | some holder => if holder.dropped then none else some (system.calling h)
  | .drop h =>
    match system.holders[h]? with
    | none => none
    | some holder =>
      if holder.dropped || system.isBorrowed h then none
      else some ((system.setHolder h { holder with dropped := true }).calling h)
  | .go i =>
    match system.calls[i]? with
    | some ⟨h, .own point⟩ =>
      match system.holders[h]? with
      | none => none
      | some holder =>
        match point with
        | .close connection => some (system.going i h (.closing connection) [.closing connection])
        | .done => none
        | point => some (system.releaseStep i h holder point)
    | _ => none
  | .answer i result =>
    match system.calls[i]? with
    | some ⟨h, .closing connection⟩ =>
      some (system.going i h (.own .done) [.closed connection result])
    | _ => none

def run (system : System) : List Move → Option System
  | [] => some system
  | move :: moves =>
    match system.step move with
    | none => none
    | some next => run next moves

/-- Some resolves, releases and drops, going on in some order, can bring a new registry here. -/
def Reachable (system : System) : Prop := ∃ moves, run {} moves = some system

end System

end EventRelay.Registry
