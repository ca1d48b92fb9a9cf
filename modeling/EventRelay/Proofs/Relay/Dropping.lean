import EventRelay.Proofs.Relay.Operating

namespace EventRelay

inductive Usage
  | perform (command : Command)
  | drop (listener : Nat)

namespace Usage

def listener? : Usage → Option Nat
  | .perform (.start l) | .perform (.stop l) | .drop l => some l
  | .perform _ => none

def dropped? : Usage → Option Nat
  | .drop l => some l
  | .perform _ => none

def config? : Usage → Option ListenerConfig
  | .perform command => command.config?
  | .drop _ => none

/-- Nobody uses a listener that was let go. -/
def Proper (usages : List Usage) : Prop :=
  usages.Pairwise fun earlier later =>
    earlier.dropped? = none ∨ later.listener? ≠ earlier.dropped?

instance (usages : List Usage) : Decidable (Proper usages) :=
  inferInstanceAs (Decidable (usages.Pairwise fun earlier later =>
    earlier.dropped? = none ∨ later.listener? ≠ earlier.dropped?))

def Leaves (before after : List Listener) : Usage → Prop
  | .perform (.listen config sink diagnostics) =>
    after = before ++ [{ config, handle := before.length, sink, diagnostics }]
  | .perform (.start l) | .perform (.stop l) =>
    ∃ lifecycle, after = before.modify l fun listener => { listener with lifecycle }
  | .perform _ => after = before
  | .drop l => after = before.modify l fun listener => { listener with dropped := true }

namespace Leaves

variable {usage : Usage} {before after : List Listener} {l : Nat} {listener : Listener}

theorem configs (leaves : usage.Leaves before after) :
    after.map Listener.config = before.map Listener.config ++ usage.config?.toList := by
  cases usage with
  | drop l =>
    cases leaves
    simp [config?, map_modify_same]
  | perform command =>
    cases command with
    | start l | stop l =>
      obtain ⟨lifecycle, rfl⟩ := leaves
      simp [config?, Command.config?, map_modify_same]
    | _ =>
      cases leaves
      simp [config?, Command.config?]

theorem others (leaves : usage.Leaves before after) (present : before[l]? = some listener)
    (other : usage.listener? ≠ some l) : after[l]? = some listener := by
  obtain ⟨inside, _⟩ := List.getElem?_eq_some_iff.mp present
  cases usage with
  | drop k =>
    cases leaves
    have apart : k ≠ l := fun same => other (congrArg some same)
    rw [List.getElem?_modify_ne _ _ apart, present]
  | perform command =>
    cases command with
    | start k | stop k =>
      obtain ⟨lifecycle, rfl⟩ := leaves
      have apart : k ≠ l := fun same => other (congrArg some same)
      rw [List.getElem?_modify_ne _ _ apart, present]
    | listen config sink diagnostics =>
      cases leaves
      rw [List.getElem?_append_left inside, present]
    | _ =>
      cases leaves
      exact present

theorem dropped (leaves : usage.Leaves before after) (there : after[l]? = some listener)
    (gone : listener.dropped = true) (kept : usage.dropped? ≠ some l) :
    ∃ old, before[l]? = some old ∧ old.dropped = true := by
  cases usage with
  | drop k =>
    cases leaves
    have apart : k ≠ l := fun same => kept (congrArg some same)
    rw [List.getElem?_modify_ne _ _ apart] at there
    exact ⟨listener, there, gone⟩
  | perform command =>
    cases command with
    | start k | stop k =>
      obtain ⟨lifecycle, rfl⟩ := leaves
      rw [List.getElem?_modify, Option.map_eq_map, Option.map_eq_some_iff] at there
      obtain ⟨old, present, rfl⟩ := there
      refine ⟨old, present, ?_⟩
      split at gone <;> exact gone
    | listen config sink diagnostics =>
      cases leaves
      rcases last_or_same there with ⟨_, rfl⟩ | there
      · cases gone
      · exact ⟨listener, there, gone⟩
    | _ =>
      cases leaves
      exact ⟨listener, there, gone⟩

end Leaves

end Usage

namespace Relay

def use (required : Option (String × String)) (relay : Relay) : Usage → Option Relay
  | .perform command => relay.perform required command
  | .drop l => some (relay.letGo (.listener l) true)

def useAll (required : Option (String × String)) (relay : Relay) (usages : List Usage) : Option Relay :=
  usages.foldlM (use required) relay

theorem useAll_append (relay : Relay) (required : Option (String × String)) (earlier later : List Usage) :
    relay.useAll required (earlier ++ later) =
      (relay.useAll required earlier).bind fun before => before.useAll required later :=
  List.foldlM_append

theorem useAll_cons (relay : Relay) (required : Option (String × String)) (usage : Usage)
    (later : List Usage) : relay.useAll required (usage :: later) =
      (relay.use required usage).bind fun next => next.useAll required later := List.foldlM_cons

def destination? (relay : Relay) (receiver : Nat) : Option String :=
  match relay.receivers[receiver]? with
  | some (.memory i r) => (relay.brokers[i]?).bind fun broker => broker.receivers[r]?
  | _ => none

def ReceivesFrom (relay : Relay) (l : Nat) (destination : String) : Prop :=
  ∃ listener receiver, relay.listeners[l]? = some listener ∧
    listener.lifecycle.slot = some receiver ∧ relay.destination? receiver = some destination

variable {relay next final : Relay} {broker after : Memory.Broker Callback} {registry : Registry Nat}
  {required : Option (String × String)} {usage : Usage} {usages : List Usage} {l : Nat}
  {listener : Listener}

def DroppedBy (usages : List Usage) (relay : Relay) : Prop :=
  ∀ l listener, relay.listeners[l]? = some listener → listener.dropped = true →
    ∃ usage ∈ usages, usage.dropped? = some l

theorem DroppedBy.free {earlier later : List Usage} (known : DroppedBy earlier relay)
    (proper : Usage.Proper (earlier ++ later)) (member : usage ∈ later)
    (uses : usage.listener? = some l) (present : relay.listeners[l]? = some listener) :
    listener.dropped = false := by
  cases gone : listener.dropped with
  | false => rfl
  | true =>
    obtain ⟨old, among, drops⟩ := known l listener present gone
    rcases (List.pairwise_append.mp proper).2.2 old among usage member with nobody | other
    · rw [nobody] at drops
      cases drops
    · exact absurd (uses.trans drops.symm) other

theorem DroppedBy.concat (known : DroppedBy usages relay)
    (leaves : usage.Leaves relay.listeners next.listeners) : DroppedBy (usages ++ [usage]) next := by
  intro l listener there gone
  by_cases drops : usage.dropped? = some l
  · exact ⟨usage, by simp, drops⟩
  · obtain ⟨old, present, was⟩ := leaves.dropped there gone drops
    obtain ⟨other, member, drops⟩ := known l old present was
    exact ⟨other, List.mem_append_left _ member, drops⟩

namespace Aligned

variable (aligned : Aligned relay broker registry)
include aligned

theorem destination?_eq (receiver : Nat) :
    relay.destination? receiver = broker.receivers[receiver]? := by
  unfold destination?
  rw [aligned.receivers, List.getElem?_map]
  by_cases inside : receiver < broker.receivers.length
  · simp [inside, aligned.brokers]
  · have outside : broker.receivers.length ≤ receiver := Nat.le_of_not_lt inside
    simp [outside]

theorem receivesFrom_iff {connection : Nat} (present : relay.listeners[l]? = some listener)
    (placed : Placed relay.handles broker relay.listeners l listener connection) (destination : String) :
    relay.ReceivesFrom l destination ↔ listener.lifecycle.state = .started ∧
      broker.destinations[connection]? = some destination := by
  constructor
  · rintro ⟨other, receiver, there, slot, receives⟩
    rw [present] at there
    cases there
    rw [aligned.destination?_eq, placed.received receiver slot] at receives
    exact ⟨placed.slot.mp (by rw [slot]; rfl), receives⟩
  · rintro ⟨started, opened⟩
    obtain ⟨receiver, slot⟩ := Option.isSome_iff_exists.mp (placed.slot.mpr started)
    refine ⟨listener, receiver, present, slot, ?_⟩
    rw [aligned.destination?_eq, placed.received receiver slot, opened]

/-- A message goes to those who have a receiver on its destination, each of them once, dropped or not. -/
theorem publish (destination : String) (message : Message) :
    ∃ order : List Nat, order.Nodup ∧ (∀ l, l ∈ order ↔ relay.ReceivesFrom l destination) ∧
      relay.publish 0 destination message =
        (order.foldl (fun relay l => relay.dispatch l message) relay, order.length) := by
  classical
  obtain ⟨order, calls, perm⟩ := @audience_of_subscribed broker relay.listeners destination
    (fun l => relay.ReceivesFrom l destination) aligned.subscribed (by
      intro l listener present
      obtain ⟨connection, placed⟩ := aligned.seats l listener present
      rw [calledBack present placed.slot placed.received]
      simp only [aligned.receivesFrom_iff present placed, decide_eq_true_eq])
  refine ⟨order, ?_, ?_, publish_of_audience aligned.brokers calls message⟩
  · exact perm.nodup_iff.mpr (List.nodup_range.filter _)
  · intro l
    rw [perm.mem_iff, List.mem_filter, List.mem_range, decide_eq_true_eq]
    refine ⟨fun found => found.2, fun receives => ⟨?_, receives⟩⟩
    obtain ⟨listener, _, present, _⟩ := receives
    exact (List.getElem?_eq_some_iff.mp present).1

theorem published (destination : String) (message : Message) :
    Becomes broker (relay.publish 0 destination message).1 relay.listeners := by
  obtain ⟨order, _, receives, published⟩ := aligned.publish destination message
  have known : ∀ l ∈ order, l < relay.listeners.length := by
    intro l member
    obtain ⟨listener, _, present, _⟩ := (receives l).mp member
    exact (List.getElem?_eq_some_iff.mp present).1
  obtain ⟨history, same, _⟩ := accepted_dispatchAll message known
  rw [published, same]
  exact ⟨broker, registry, aligned.same (aligned.calm.noted history) aligned.brokers rfl rfl rfl rfl rfl
    rfl rfl rfl rfl, .refl _, rfl⟩

theorem use (free : ∀ l listener, usage.listener? = some l → relay.listeners[l]? = some listener →
      listener.dropped = false) (required : Option (String × String)) :
    ∃ next listeners, relay.use required usage = some next ∧ usage.Leaves relay.listeners listeners ∧
      Becomes broker next listeners := by
  have there : relay.brokers[0]? = some broker := by simp [aligned.brokers]
  have configured : ∀ unavailable failClose, Becomes broker
      (relay.setBroker 0 { broker with unavailable, failClose }) relay.listeners := by
    intro unavailable failClose
    have brokers : (relay.setBroker 0 { broker with unavailable, failClose }).brokers =
        [{ broker with unavailable, failClose }] := by simp [setBroker, aligned.brokers]
    exact ⟨_, registry, aligned.same (aligned.calm.setBroker ..) brokers rfl rfl rfl rfl rfl rfl rfl rfl
      rfl, .of_eq rfl rfl, rfl⟩
  cases usage with
  | drop l =>
    exact ⟨_, _, rfl, rfl, aligned.letGo l fun listener => free l listener rfl⟩
  | perform command =>
    cases command with
    | listen config sink diagnostics =>
      obtain ⟨next, made, becomes⟩ := aligned.listen config sink diagnostics required
      exact ⟨next, _, by simp only [Relay.use, perform, made], rfl, becomes⟩
    | start l =>
      obtain ⟨next, reply, lifecycle, called, becomes⟩ := aligned.start l
      exact ⟨next, _, by simp only [Relay.use, perform, called], ⟨lifecycle, rfl⟩, becomes⟩
    | stop l =>
      obtain ⟨next, lifecycle, called, becomes⟩ := aligned.stop l fun listener => free l listener rfl
      exact ⟨next, _, by simp only [Relay.use, perform, called], ⟨lifecycle, rfl⟩, becomes⟩
    | setUnavailable value =>
      exact ⟨_, _, by simp only [Relay.use, perform, there, Option.map_some], rfl,
        configured value broker.failClose⟩
    | setCloseFailure value =>
      exact ⟨_, _, by simp only [Relay.use, perform, there, Option.map_some], rfl,
        configured broker.unavailable value⟩
    | publish destination message =>
      exact ⟨_, _, rfl, rfl, aligned.published destination message⟩

theorem useAll {earlier : List Usage} (known : DroppedBy earlier relay)
    (proper : Usage.Proper (earlier ++ usages)) (required : Option (String × String)) :
    ∃ final after left, relay.useAll required usages = some final ∧ Aligned final after left ∧
      Grows broker after ∧ DroppedBy (earlier ++ usages) final ∧
      final.listeners.map Listener.config =
        relay.listeners.map Listener.config ++ usages.filterMap Usage.config? ∧
      ∀ l listener, relay.listeners[l]? = some listener →
        (∀ usage ∈ usages, usage.listener? ≠ some l) → final.listeners[l]? = some listener := by
  -- What was used before grows along the run, so that who was dropped stays known to be out of use.
  induction usages generalizing relay broker registry earlier with
  | nil =>
    refine ⟨relay, broker, registry, rfl, aligned, .refl _, ?_, (List.append_nil _).symm,
      fun _ _ present _ => present⟩
    rw [List.append_nil]
    exact known
  | cons usage rest ih =>
    obtain ⟨next, _, used, leaves, middle, left, onward, first, rfl⟩ :=
      aligned.use (fun _ _ => known.free proper List.mem_cons_self) required
    rw [List.append_cons] at proper ⊢
    obtain ⟨final, after, last, others, ends, second, dropped, configs, same⟩ :=
      ih onward (known.concat leaves) proper
    refine ⟨final, after, last, ?_, ends, first.trans second, dropped, ?_, ?_⟩
    · rw [useAll_cons, used]
      exact others
    · have split : (usage :: rest).filterMap Usage.config? =
          usage.config?.toList ++ rest.filterMap Usage.config? := by
        cases made : usage.config? <;> simp [made]
      rw [configs, leaves.configs, split, List.append_assoc]
    · intro l listener present unused
      apply same l listener
      · exact leaves.others present (unused usage List.mem_cons_self)
      · exact fun later member => unused later (List.mem_cons_of_mem _ member)

theorem started_iff (present : relay.listeners[l]? = some listener) :
    listener.lifecycle.state = .started ↔ ∃ destination, relay.ReceivesFrom l destination := by
  obtain ⟨connection, placed⟩ := aligned.seats l listener present
  obtain ⟨config, _, _, opened⟩ := placed.opened
  constructor
  · exact fun started => ⟨_, (aligned.receivesFrom_iff present placed _).mpr ⟨started, opened⟩⟩
  · rintro ⟨destination, receives⟩
    exact ((aligned.receivesFrom_iff present placed destination).mp receives).1

theorem listens_iff (agree : Agree (relay.listeners.map Listener.config)) (l : Nat)
    (destination : String) : relay.ReceivesFrom l destination ↔ relay.Listens l destination := by
  cases present : relay.listeners[l]? with
  | none => simp [ReceivesFrom, Listens, present]
  | some listener =>
    obtain ⟨connection, placed⟩ := aligned.seats l listener present
    obtain ⟨config, member, named, opened⟩ := placed.opened
    have mine := List.mem_map_of_mem (f := Listener.config) (List.mem_of_getElem? present)
    have shared := agree config member _ mine named
    simp only [ListenerConfig.params, ConnectionParams.mk.injEq] at shared
    rw [aligned.receivesFrom_iff present placed, opened, shared.2.1]
    simp [Listens, present]

theorem receivesFrom_same {left : Registry Nat} {x : Listener} (ends : Aligned final after left)
    (grows : Grows broker after) (present : relay.listeners[l]? = some listener)
    (there : final.listeners[l]? = some x) (slot : x.lifecycle.slot = listener.lifecycle.slot)
    (destination : String) : final.ReceivesFrom l destination ↔ relay.ReceivesFrom l destination := by
  have kept : ∀ receiver, listener.lifecycle.slot = some receiver →
      final.destination? receiver = relay.destination? receiver := by
    intro receiver has
    have inside := aligned.received_of_slot present has
    rw [ends.destination?_eq, aligned.destination?_eq, List.getElem?_eq_getElem inside]
    exact List.prefix_iff_getElem?.mp grows.receivers receiver inside
  simp only [ReceivesFrom, present, there, Option.some.injEq, exists_and_left, exists_eq_left', slot]
  refine exists_congr fun receiver => and_congr_right fun has => ?_
  rw [kept receiver has]

theorem released_of_dropped (present : relay.listeners[l]? = some listener)
    (gone : listener.dropped = true) :
    ∃ handle, relay.handles[listener.handle]? = some handle ∧ handle.released = true := by
  obtain ⟨connection, placed⟩ := aligned.seats l listener present
  rw [placed.handle]
  exact ⟨_, placed.has, by simp [Listener.hasLeft, gone]⟩

theorem useAll_drop {earlier later : List Usage} (known : DroppedBy earlier relay)
    (proper : Usage.Proper (earlier ++ .drop l :: later)) (required : Option (String × String))
    (present : relay.listeners[l]? = some listener) :
    ∃ final after left, relay.useAll required (.drop l :: later) = some final ∧
      Aligned final after left ∧ final.listeners[l]? = some { listener with dropped := true } ∧
      ∀ destination, final.ReceivesFrom l destination ↔ relay.ReceivesFrom l destination := by
  obtain ⟨next, _, used, leaves, middle, entries, onward, grows, rfl⟩ :=
    aligned.use (fun _ _ => known.free proper List.mem_cons_self) required
  have again := proper
  rw [List.append_cons] at again
  obtain ⟨final, after, left, performed, ends, further, _, _, same⟩ :=
    onward.useAll (known.concat leaves) again required
  have unused : ∀ usage ∈ later, usage.listener? ≠ some l := by
    intro usage member
    have apart := (List.pairwise_cons.mp (List.pairwise_append.mp proper).2.1).1 usage member
    exact apart.resolve_left (by simp [Usage.dropped?])
  have parted : next.listeners[l]? = some { listener with dropped := true } := by
    rw [leaves, List.getElem?_modify_eq, present]
    rfl
  have there := same l _ parted unused
  refine ⟨final, after, left, ?_, ends, there, ?_⟩
  · rw [useAll_cons, used]
    exact performed
  · exact aligned.receivesFrom_same ends (grows.trans further) present there rfl

end Aligned

/-- Listeners on one broker and in one registry are let go without a stop. Each has then given its
    reference back, and is otherwise as it was when it was let go: it goes on to be handed what is published
    to the destination of its receiver, if it was started. -/
theorem dropped_listener_goes_on (logger : Logger) (reach : Mqtt.Options → Mqtt.Attempt)
    (required : Option (String × String)) {usages : List Usage} (proper : Usage.Proper usages) :
    ∃ final, (overMemory logger reach).useAll required usages = some final ∧
      (∀ task ∈ final.tasks, task.IsFinished) ∧
      (∀ destination message, ∃ order : List Nat, order.Nodup ∧
        (∀ l, l ∈ order ↔ final.ReceivesFrom l destination) ∧
        final.publish 0 destination message =
          (order.foldl (fun relay l => relay.dispatch l message) final, order.length)) ∧
      (∀ l listener, final.listeners[l]? = some listener →
        (listener.lifecycle.state = .started ↔ ∃ destination, final.ReceivesFrom l destination)) ∧
      (Agree (usages.filterMap Usage.config?) →
        ∀ l destination, final.ReceivesFrom l destination ↔ final.Listens l destination) ∧
      ∀ earlier later l, usages = earlier ++ .drop l :: later →
        ∃ before, (overMemory logger reach).useAll required earlier = some before ∧
          ∀ listener, before.listeners[l]? = some listener →
            final.listeners[l]? = some { listener with dropped := true } ∧
            (∃ handle, final.handles[listener.handle]? = some handle ∧ handle.released = true) ∧
            ∀ destination, final.ReceivesFrom l destination ↔ before.ReceivesFrom l destination := by
  have initial := aligned_initial logger reach
  have nobody : DroppedBy [] (overMemory logger reach) := by simp [DroppedBy, overMemory]
  obtain ⟨final, after, left, performed, aligned, _, _, configs, _⟩ := initial.useAll nobody proper required
  refine ⟨final, performed, aligned.calm.idle, aligned.publish, fun _ _ => aligned.started_iff, ?_, ?_⟩
  · intro agree
    apply aligned.listens_iff
    rw [configs]
    exact agree
  · rintro earlier later l rfl
    have first : Usage.Proper ([] ++ earlier) := (List.pairwise_append.mp proper).1
    obtain ⟨before, _, _, reached, stands, _, known, _⟩ := initial.useAll nobody first required
    refine ⟨before, reached, fun listener present => ?_⟩
    obtain ⟨other, _, _, rest, ends, there, receives⟩ :=
      stands.useAll_drop known proper required present
    -- The run that drops the listener is the same run, split where it is dropped.
    have arrives : final = other := by
      rw [useAll_append, reached, Option.bind_some, rest, Option.some.injEq] at performed
      exact performed.symm
    subst arrives
    have released := ends.released_of_dropped there rfl
    exact ⟨there, released, receives⟩

def deserted : List Usage :=
  let config : ListenerConfig := ⟨"audit", "broker", "events", none, none⟩
  [.perform (.listen config (.record "first") none), .perform (.listen config (.record "second") none),
    .perform (.start 0), .perform (.start 1), .drop 0, .drop 1]

theorem deserted_leaves : ∃ (logger : Logger) (reach : Mqtt.Options → Mqtt.Attempt) (final : Relay),
    (overMemory logger reach).useAll none deserted = some final ∧
      final.listeners = [
        ⟨⟨"audit", "broker", "events", none, none⟩, ⟨.started, some 0⟩, 0, .record "first", none, true⟩,
        ⟨⟨"audit", "broker", "events", none, none⟩, ⟨.started, some 1⟩, 1, .record "second", none, true⟩] ∧
      final.tasks = [.finished (.started (.ok ())), .finished (.started (.ok ())), .finished .finished] ∧
      (final.brokers.map fun broker => broker.connections.map (·.closed)) = [[true]] ∧
      final.accepted "first" = [] ∧
      (final.publish 0 "events" (Message.ofEvent { text := "late" })).1.accepted "first" =
        [{ text := "late" }] :=
  ⟨⟨none, fun _ _ => false, fun _ => true⟩, fun _ => .accepted, _, rfl, rfl, rfl, rfl, rfl, rfl⟩

theorem dropped_listener_goes_on_deserted :
    Usage.Proper deserted ∧ Agree (deserted.filterMap Usage.config?) ∧
      ∃ (logger : Logger) (reach : Mqtt.Options → Mqtt.Attempt) (final : Relay),
        (overMemory logger reach).useAll none deserted = some final ∧
        (∀ listener ∈ final.listeners, listener.dropped = true) ∧
        ∀ message, ∃ order : List Nat, order.Nodup ∧ (∀ l, l ∈ order ↔ l = 0 ∨ l = 1) ∧
          final.publish 0 "events" message =
            (order.foldl (fun relay l => relay.dispatch l message) final, order.length) := by
  have proper : Usage.Proper deserted := by decide
  have agree : Agree (deserted.filterMap Usage.config?) := by decide
  refine ⟨proper, agree, ?_⟩
  obtain ⟨logger, reach, final, performed, listeners, _⟩ := deserted_leaves
  obtain ⟨other, again, _, publish, _, listens, _⟩ := dropped_listener_goes_on logger reach none proper
  rw [performed, Option.some.injEq] at again
  subst again
  refine ⟨logger, reach, final, performed, by simp [listeners], fun message => ?_⟩
  obtain ⟨order, once, receives, published⟩ := publish "events" message
  refine ⟨order, once, fun l => ?_, published⟩
  rw [receives, listens agree, Listens, listeners]
  rcases l with _ | _ | l
  · simp
  · simp
  · simp

/-- So a listener that was dropped, and whose connection is closed, may accept what is published later. -/
theorem dropped_listener_not_silent :
    ¬ ∀ (logger : Logger) (reach : Mqtt.Options → Mqtt.Attempt) (required : Option (String × String))
      (usages : List Usage) (final : Relay) (l : Nat) (listener : Listener) (label : String),
      Usage.Proper usages → (overMemory logger reach).useAll required usages = some final →
      final.listeners[l]? = some listener → listener.dropped = true → listener.isStopped = false →
      (∀ task ∈ final.tasks, task.IsFinished) →
      (∀ broker ∈ final.brokers, ∀ connection ∈ broker.connections, connection.closed = true) →
      (∀ i other, final.listeners[i]? = some other → (other.sink.keeps label = true ↔ i = l)) →
      ∀ message, (final.publish 0 listener.config.destination message).1.accepted label =
        final.accepted label := by
  intro silent
  obtain ⟨logger, reach, final, performed, listeners, tasks, connections, before, after⟩ := deserted_leaves
  have finished : ∀ task ∈ final.tasks, task.IsFinished := by
    rw [tasks]
    simp [Task.IsFinished]
  have closed : ∀ broker ∈ final.brokers, ∀ connection ∈ broker.connections,
      connection.closed = true := by
    intro broker member connection among
    have one : broker.connections.map (·.closed) ∈ [[true]] := connections ▸ List.mem_map_of_mem member
    have all : connection.closed ∈ [true] := List.mem_singleton.mp one ▸ List.mem_map_of_mem among
    exact List.mem_singleton.mp all
  have only : ∀ i other, final.listeners[i]? = some other →
      (other.sink.keeps "first" = true ↔ i = 0) := by
    intro i other present
    rw [listeners] at present
    match i, present with
    | 0, rfl => decide
    | 1, rfl => decide
  have nothing := silent logger reach none deserted final 0 _ "first" (by decide) performed
    (by rw [listeners]; rfl) rfl rfl finished closed only (Message.ofEvent { text := "late" })
  rw [before, after] at nothing
  cases nothing

end Relay

end EventRelay
