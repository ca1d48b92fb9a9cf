import Mathlib.Data.List.Basic
import EventRelay.Proofs.Basic
import EventRelay.Proofs.Registry
import EventRelay.Proofs.Relay.Roster

namespace EventRelay

section Lists

variable {α β : Type}

theorem filterMap_range_perm {f g : Nat → Option β} {n i : Nat} {b : β} (inside : i < n)
    (before : f i = none) (now : g i = some b) (same : ∀ j, j ≠ i → g j = f j) :
    ((List.range n).filterMap g).Perm (b :: (List.range n).filterMap f) := by
  have split := List.perm_cons_erase (List.mem_range.mpr inside)
  have rest : ((List.range n).erase i).filterMap g = ((List.range n).erase i).filterMap f := by
    apply List.filterMap_congr
    intro j member
    exact same j ((List.nodup_range).mem_erase_iff.mp member).1
  have whole := split.filterMap g
  have less := split.filterMap f
  rw [List.filterMap_cons_some now, rest] at whole
  rw [List.filterMap_cons_none before] at less
  exact whole.trans (less.symm.cons b)

theorem countP_range_getElem? (list : List α) (p : α → Bool) :
    ((List.range list.length).countP fun i => (list[i]?).any p) = list.countP p := by
  induction list with
  | nil => rfl
  | cons a rest ih =>
    rw [List.length_cons, List.range_succ_eq_map, List.countP_cons, List.countP_map, List.countP_cons,
      ← ih]
    rfl

end Lists

def Listener.member (listener : Listener) : Member :=
  ⟨listener.config, listener.sink, listener.lifecycle.state⟩

def Listener.isStopped (listener : Listener) : Bool := listener.lifecycle.state = .stopped

namespace Relay

/-- How many listeners of a name have not given back their reference. -/
def references (listeners : List Listener) (name : String) : Nat :=
  listeners.countP fun listener => listener.config.id = name && !listener.isStopped

def subscription (listeners : List Listener) (l : Nat) : Option (Nat × Callback) :=
  (listeners[l]?).bind fun listener =>
    listener.lifecycle.slot.map fun receiver => (receiver, .dispatcher l)

def subscriptions (listeners : List Listener) : List (Nat × Callback) :=
  (List.range listeners.length).filterMap (subscription listeners)

section Listeners

variable {listeners : List Listener} {l : Nat} {x y : Listener}

theorem references_set (present : listeners[l]? = some x) (config : y.config = x.config)
    (stopped : y.isStopped = x.isStopped) (name : String) :
    references (listeners.set l y) name = references listeners name :=
  countP_set_same present (by rw [config, stopped])

theorem references_stop (present : listeners[l]? = some x) (config : y.config = x.config)
    (running : x.isStopped = false) (stopped : y.isStopped = true) (name : String) :
    references (listeners.set l y) name + (if x.config.id = name then 1 else 0) =
      references listeners name := by
  simpa [references, config, running, stopped] using
    countP_set_add present y fun listener => listener.config.id = name && !listener.isStopped

theorem references_append (listeners : List Listener) (x : Listener) (name : String) :
    references (listeners ++ [x]) name =
      references listeners name + if x.config.id = name && !x.isStopped then 1 else 0 := by
  simp [references, List.countP_append, List.countP_singleton]

theorem references_pos (present : listeners[l]? = some x) (running : x.isStopped = false) :
    0 < references listeners x.config.id :=
  List.countP_pos_iff.mpr ⟨x, List.mem_of_getElem? present, by simp [running]⟩

theorem subscription_of_ne {other : Nat} (apart : other ≠ l) (y : Listener) :
    subscription (listeners.set l y) other = subscription listeners other := by
  simp [subscription, List.getElem?_set_ne apart.symm]

theorem subscriptions_started {receiver : Nat} (present : listeners[l]? = some x)
    (without : x.lifecycle.slot = none) (given : y.lifecycle.slot = some receiver) :
    (subscriptions (listeners.set l y)).Perm ((receiver, .dispatcher l) :: subscriptions listeners) := by
  obtain ⟨inside, _⟩ := List.getElem?_eq_some_iff.mp present
  unfold subscriptions
  rw [List.length_set]
  apply filterMap_range_perm inside
  · simp [subscription, present, without]
  · simp [subscription, inside, given]
  · exact fun other apart => subscription_of_ne apart y

theorem subscribed_started {entries : List (Nat × Callback)} {receiver : Nat}
    (subscribed : entries.Perm (subscriptions listeners)) (present : listeners[l]? = some x)
    (without : x.lifecycle.slot = none) (given : y.lifecycle.slot = some receiver)
    (new : ∀ entry ∈ entries, entry.1 ≠ receiver) :
    ((entries.filter fun entry => entry.1 ≠ receiver) ++ [(receiver, Callback.dispatcher l)]).Perm
      (subscriptions (listeners.set l y)) := by
  have kept : (entries.filter fun entry => entry.1 ≠ receiver) = entries := by
    rw [List.filter_eq_self]
    intro entry member
    simpa using new entry member
  rw [kept]
  exact (List.perm_append_singleton _ _).trans
    ((subscribed.cons _).trans (subscriptions_started present without given).symm)

theorem subscriptions_stopped {receiver : Nat} (present : listeners[l]? = some x)
    (had : x.lifecycle.slot = some receiver) (empty : y.lifecycle.slot = none) :
    (subscriptions listeners).Perm
      ((receiver, .dispatcher l) :: subscriptions (listeners.set l y)) := by
  obtain ⟨inside, _⟩ := List.getElem?_eq_some_iff.mp present
  unfold subscriptions
  rw [List.length_set]
  apply filterMap_range_perm inside
  · simp [subscription, inside, empty]
  · simp [subscription, present, had]
  · exact fun other apart => (subscription_of_ne apart y).symm

theorem subscriptions_set (present : listeners[l]? = some x)
    (slot : y.lifecycle.slot = x.lifecycle.slot) :
    subscriptions (listeners.set l y) = subscriptions listeners := by
  obtain ⟨inside, _⟩ := List.getElem?_eq_some_iff.mp present
  unfold subscriptions
  rw [List.length_set]
  apply List.filterMap_congr
  intro other _
  by_cases same : other = l
  · subst same
    simp only [subscription, List.getElem?_set_self inside, present, Option.bind_some, slot]
  · exact subscription_of_ne same y

theorem subscriptions_append (listeners : List Listener) (without : x.lifecycle.slot = none) :
    subscriptions (listeners ++ [x]) = subscriptions listeners := by
  unfold subscriptions
  rw [List.length_append, List.length_singleton, List.range_succ, List.filterMap_append]
  have last : List.filterMap (subscription (listeners ++ [x])) [listeners.length] = [] := by
    simp [subscription, without]
  rw [last, List.append_nil]
  apply List.filterMap_congr
  intro other member
  simp [subscription, List.getElem?_append_left (List.mem_range.mp member)]

theorem members_set (present : listeners[l]? = some x) {f : Member → Member}
    (follows : f x.member = y.member) :
    (listeners.map Listener.member).modify l f = (listeners.set l y).map Listener.member := by
  obtain ⟨inside, _⟩ := List.getElem?_eq_some_iff.mp present
  apply List.ext_getElem?
  intro i
  rw [List.getElem?_modify, List.getElem?_map, List.getElem?_map]
  by_cases same : l = i
  · subst same
    simp only [present, List.getElem?_set_self inside, Option.map_eq_map, Option.map_some, if_true,
      follows]
  · simp [same, List.getElem?_set_ne]

theorem mem_subscriptions {receiver : Nat} {callback : Callback} :
    (receiver, callback) ∈ subscriptions listeners ↔ ∃ l listener, listeners[l]? = some listener ∧
      listener.lifecycle.slot = some receiver ∧ callback = .dispatcher l := by
  simp only [subscriptions, List.mem_filterMap, List.mem_range, subscription, Option.bind_eq_some_iff,
    Option.map_eq_some_iff, Prod.mk.injEq]
  constructor
  · rintro ⟨l, _, listener, present, _, slot, rfl, rfl⟩
    exact ⟨l, listener, present, slot, rfl⟩
  · rintro ⟨l, listener, present, slot, rfl⟩
    exact ⟨l, (List.getElem?_eq_some_iff.mp present).1, listener, present, _, slot, rfl, rfl⟩

end Listeners

def Apart (listeners : List Listener) : Prop :=
  ∀ (l other : Nat) (x y : Listener) (receiver : Nat), listeners[l]? = some x →
    listeners[other]? = some y → x.lifecycle.slot = some receiver → y.lifecycle.slot = some receiver →
      l = other

theorem Apart.set {listeners : List Listener} {l : Nat} {z : Listener} (apart : Apart listeners)
    (fresh : ∀ (receiver other : Nat) (x : Listener), z.lifecycle.slot = some receiver → other ≠ l →
      listeners[other]? = some x → x.lifecycle.slot ≠ some receiver) : Apart (listeners.set l z) := by
  intro first second x y receiver there here has having
  rcases replaced_or_same there with ⟨rfl, rfl⟩ | ⟨other, oldFirst⟩
  · rcases replaced_or_same here with ⟨rfl, _⟩ | ⟨other, oldSecond⟩
    · rfl
    · exact absurd having (fresh receiver second y has other oldSecond)
  · rcases replaced_or_same here with ⟨rfl, rfl⟩ | ⟨_, oldSecond⟩
    · exact absurd has (fresh receiver first x having other oldFirst)
    · exact apart first second x y receiver oldFirst oldSecond has having

theorem Apart.append {listeners : List Listener} {z : Listener} (apart : Apart listeners)
    (without : z.lifecycle.slot = none) : Apart (listeners ++ [z]) := by
  intro first second x y receiver there here has having
  rcases last_or_same there with ⟨_, rfl⟩ | there
  · rw [without] at has
    cases has
  · rcases last_or_same here with ⟨_, rfl⟩ | here
    · rw [without] at having
      cases having
    · exact apart first second x y receiver there here has having

theorem emptied_eq {listeners : List Listener} {broker : Memory.Broker Callback} {l : Nat} {x : Listener}
    (apart : Apart listeners) (subscribed : broker.listeners.Perm (subscriptions listeners))
    (present : listeners[l]? = some x) :
    ∃ left, emptied broker x.lifecycle.slot = { broker with listeners := left } ∧
      left.Perm (subscriptions (listeners.set l { x with lifecycle := ⟨.stopped, none⟩ })) := by
  cases slot : x.lifecycle.slot with
  | none =>
    refine ⟨broker.listeners, rfl, ?_⟩
    rw [subscriptions_set present (y := { x with lifecycle := ⟨.stopped, none⟩ }) slot.symm]
    exact subscribed
  | some receiver =>
    refine ⟨_, rfl, ?_⟩
    have before := subscribed.trans
      (subscriptions_stopped present (y := { x with lifecycle := ⟨.stopped, none⟩ }) slot rfl)
    have filtered := before.filter fun entry => decide (entry.1 ≠ receiver)
    have others : (subscriptions (listeners.set l
        { x with lifecycle := ⟨.stopped, none⟩ })).filter
          (fun entry => decide (entry.1 ≠ receiver)) =
        subscriptions (listeners.set l { x with lifecycle := ⟨.stopped, none⟩ }) := by
      rw [List.filter_eq_self]
      rintro ⟨its, callback⟩ member
      obtain ⟨other, y, there, has, _⟩ := mem_subscriptions.mp member
      rcases replaced_or_same there with ⟨_, rfl⟩ | ⟨different, old⟩
      · cases has
      · simp only [decide_eq_true_eq]
        rintro rfl
        exact different (apart other l y x its old present has slot)
    rw [List.filter_cons_of_neg (by simp), others] at filtered
    exact filtered

def Named (handles : List Handle) : Prop :=
  ∀ h ∈ handles, ∀ other ∈ handles, h.released = false → other.released = false →
    h.connection = other.connection → h.name = other.name

theorem Named.set {handles : List Handle} {l : Nat} {h : Handle} (named : Named handles)
    (released : h.released = true) : Named (handles.set l h) := by
  have old : ∀ other ∈ handles.set l h, other.released = false → other ∈ handles := by
    intro other member unreleased
    rcases List.mem_or_eq_of_mem_set member with member | rfl
    · exact member
    · rw [released] at unreleased
      cases unreleased
  intro first member second others unreleased open_
  exact named first (old first member unreleased) second (old second others open_) unreleased open_

theorem Named.append {handles : List Handle} {h : Handle} (named : Named handles)
    (alone : ∀ other ∈ handles, other.released = false → other.connection = h.connection →
      other.name = h.name) : Named (handles ++ [h]) := by
  intro first member second others unreleased open_ connects
  rw [List.mem_append, List.mem_singleton] at member others
  rcases member with member | rfl
  · rcases others with others | rfl
    · exact named first member second others unreleased open_ connects
    · exact alone first member unreleased connects
  · rcases others with others | rfl
    · exact (alone second others open_ connects.symm).symm
    · rfl

structure Seated (handles : List Handle) (broker : Memory.Broker Callback) (registry : Registry Nat)
    (required : Option (String × String)) (listeners : List Listener) (l : Nat) (listener : Listener)
    (connection : Nat) : Prop where
  handle : listener.handle = l
  has : handles[l]? = some ⟨listener.config.id, 0, connection, listener.isStopped, true, false⟩
  connected : listener.isStopped = false → broker.connections[connection]? =
    some ⟨listener.config.destination, required, listener.config.username, listener.config.password,
      false⟩
  entered : listener.isStopped = false → registry.find? listener.config.id =
    some ⟨listener.config.id, connection, references listeners listener.config.id⟩
  slot : listener.lifecycle.slot.isSome ↔ listener.lifecycle.state = .started
  received : ∀ receiver, listener.lifecycle.slot = some receiver →
    broker.receivers[receiver]? = some listener.config.destination
  settled : listener.lifecycle.state ≠ .stopping

/-- What the relay's parts and the roster know of each other between two commands. -/
structure Mirrors (relay : Relay) (broker : Memory.Broker Callback) (registry : Registry Nat)
    (roster : Roster) : Prop where
  calm : relay.Calm
  brokers : relay.brokers = [broker]
  registries : relay.registries = [registry]
  connections : relay.connections = (List.range broker.connections.length).map (.memory 0)
  receivers : relay.receivers = (List.range broker.receivers.length).map (.memory 0)
  unavailable : broker.unavailable = roster.unavailable
  members : roster.members = relay.listeners.map Listener.member
  handles : relay.handles.length = relay.listeners.length
  seats : ∀ l listener, relay.listeners[l]? = some listener →
    ∃ connection, Seated relay.handles broker registry roster.required relay.listeners l listener
      connection
  named : Named relay.handles
  entries : ∀ name, (registry.find? name).isSome → 0 < references relay.listeners name
  apart : Apart relay.listeners
  subscribed : broker.listeners.Perm (subscriptions relay.listeners)

section Steps

variable {relay final : Relay} {broker after : Memory.Broker Callback} {registry left : Registry Nat}
  {roster : Roster} {l : Nat} {listener : Listener}

theorem mirrors_initial (logger : Logger) (reach : Mqtt.Options → Mqtt.Attempt)
    (required : Option (String × String)) :
    Mirrors (overMemory logger reach) {} {} { required } where
  calm := ⟨by simp [overMemory], rfl, rfl, by simp [overMemory], by simp [overMemory]⟩
  brokers := rfl
  registries := rfl
  connections := rfl
  receivers := rfl
  unavailable := rfl
  members := rfl
  handles := rfl
  seats := by simp [overMemory]
  named := by simp [overMemory, Named]
  entries := by simp [Registry.find?]
  apart := by simp [overMemory, Apart]
  subscribed := .nil

theorem Seated.carry {handles others : List Handle} {required : Option (String × String)}
    {listeners changed : List Listener} {connection : Nat}
    (seat : Seated handles broker registry required listeners l listener connection)
    (has : others[l]? = handles[l]?)
    (connected : listener.isStopped = false →
      after.connections[connection]? = broker.connections[connection]?)
    (entered : listener.isStopped = false → left.find? listener.config.id =
      some ⟨listener.config.id, connection, references changed listener.config.id⟩)
    (received : ∀ (receiver : Nat) (destination : String),
      broker.receivers[receiver]? = some destination →
        after.receivers[receiver]? = some destination) :
    Seated others after left required changed l listener connection where
  handle := seat.handle
  has := has.trans seat.has
  connected running := (connected running).trans (seat.connected running)
  entered := entered
  slot := seat.slot
  received receiver slot := received receiver _ (seat.received receiver slot)
  settled := seat.settled

namespace Mirrors

variable (mirrors : Mirrors relay broker registry roster)
include mirrors

theorem unchanged {frame : Frame} {reply : Reply} (completes : Completes relay frame reply final)
    (brokers : final.brokers = relay.brokers) (receivers : final.receivers = relay.receivers)
    (registries : final.registries = relay.registries) (handles : final.handles = relay.handles)
    (listeners : final.listeners = relay.listeners) : Mirrors final broker registry roster where
  calm := completes.calm
  brokers := brokers.trans mirrors.brokers
  registries := registries.trans mirrors.registries
  connections := completes.connections.trans mirrors.connections
  receivers := receivers.trans mirrors.receivers
  unavailable := mirrors.unavailable
  members := by rw [listeners]; exact mirrors.members
  handles := by rw [handles, listeners]; exact mirrors.handles
  seats := by rw [handles, listeners]; exact mirrors.seats
  named := by rw [handles]; exact mirrors.named
  entries := by rw [listeners]; exact mirrors.entries
  apart := by rw [listeners]; exact mirrors.apart
  subscribed := by rw [listeners]; exact mirrors.subscribed

theorem modify_settled {f : Member → Member}
    (settled : ∀ listener, relay.listeners[l]? = some listener → f listener.member = listener.member) :
    roster.members.modify l f = roster.members := by
  apply List.ext_getElem?
  intro i
  rw [List.getElem?_modify, mirrors.members, List.getElem?_map]
  by_cases here : l = i
  · subst here
    cases present : relay.listeners[l]? with
    | none => rfl
    | some listener => simp [settled listener present]
  · simp [here]

theorem start_settled (found : ∀ listener, relay.listeners[l]? = some listener →
    listener.lifecycle.state ≠ .initialized) : roster.after (.start l) = roster := by
  have same : roster.members.modify l (fun member => { member with state := roster.started member }) =
      roster.members := by
    apply mirrors.modify_settled
    intro listener present
    simp [Roster.started, Listener.member, found listener present]
  simp only [Roster.after, same]

theorem stop_settled (found : ∀ listener, relay.listeners[l]? = some listener →
    listener.lifecycle.state = .stopped) : roster.after (.stop l) = roster := by
  have same : roster.members.modify l (fun member => { member with state := .stopped }) =
      roster.members := by
    apply mirrors.modify_settled
    intro listener present
    simp [Listener.member, found listener present]
  simp only [Roster.after, same]

theorem progressed (present : relay.listeners[l]? = some listener)
    (running : listener.isStopped = false) {lifecycle : Lifecycle Nat}
    (early : lifecycle.state ≠ .stopping ∧ lifecycle.state ≠ .stopped)
    (slot : lifecycle.slot.isSome ↔ lifecycle.state = .started)
    (follows : roster.started listener.member = lifecycle.state)
    (same : after.connections = broker.connections) (available : after.unavailable = broker.unavailable)
    (received : ∀ (receiver : Nat) (destination : String),
      broker.receivers[receiver]? = some destination → after.receivers[receiver]? = some destination)
    (fresh : ∀ receiver, lifecycle.slot = some receiver →
      after.receivers[receiver]? = some listener.config.destination ∧
        broker.receivers[receiver]? = none)
    (subscribed : after.listeners.Perm
      (subscriptions (relay.listeners.set l { listener with lifecycle })))
    {frame : Frame} {reply : Reply} (completes : Completes relay frame reply final)
    (brokers : final.brokers = [after])
    (receivers : final.receivers = (List.range after.receivers.length).map (.memory 0))
    (registries : final.registries = relay.registries) (handles : final.handles = relay.handles)
    (listeners : final.listeners = relay.listeners.set l { listener with lifecycle }) :
    Mirrors final after registry (roster.after (.start l)) := by
  have inside : l < relay.listeners.length := (List.getElem?_eq_some_iff.mp present).1
  have goesOn : ({ listener with lifecycle } : Listener).isStopped = false := by
    simp [Listener.isStopped, early.2]
  have counts := references_set present (y := { listener with lifecycle }) rfl
    (goesOn.trans running.symm)
  refine ⟨completes.calm, brokers, registries.trans mirrors.registries, ?_, receivers,
    available.trans mirrors.unavailable, ?_, ?_, ?_, ?_, ?_, ?_, ?_⟩
  · rw [completes.connections, mirrors.connections, same]
  · have told : ({ listener.member with state := roster.started listener.member } : Member) =
        ({ listener with lifecycle } : Listener).member := by
      rw [follows]
      rfl
    rw [listeners, ← members_set present
      (f := fun member => { member with state := roster.started member }) told]
    simp only [Roster.after, mirrors.members]
  · rw [handles, listeners, List.length_set]
    exact mirrors.handles
  · intro other x there
    rw [listeners] at there
    rw [handles, listeners]
    rcases replaced_or_same there with ⟨rfl, rfl⟩ | ⟨_, there⟩
    · obtain ⟨connection, seat⟩ := mirrors.seats other listener present
      refine ⟨connection, seat.handle, ?_, ?_, ?_, slot, fun receiver given => (fresh receiver given).1,
        early.1⟩
      · have has := seat.has
        rw [running] at has
        rw [goesOn]
        exact has
      · intro _
        rw [same]
        exact seat.connected running
      · intro _
        rw [counts]
        exact seat.entered running
    · obtain ⟨connection, seat⟩ := mirrors.seats other x there
      refine ⟨connection, seat.carry rfl (fun _ => by rw [same]) ?_ received⟩
      intro running
      rw [counts]
      exact seat.entered running
  · rw [handles]
    exact mirrors.named
  · intro name found
    rw [listeners, counts]
    exact mirrors.entries name found
  · -- The new receiver is nobody else's: what others have was given out before.
    rw [listeners]
    apply mirrors.apart.set
    intro receiver other z given _ there has
    obtain ⟨connection, seat⟩ := mirrors.seats other z there
    have old := seat.received receiver has
    rw [(fresh receiver given).2] at old
    cases old
  · rw [listeners]
    exact subscribed

end Mirrors

end Steps

end Relay

end EventRelay
