import Mathlib.Data.List.Perm.Basic
import EventRelay.Proofs.Relay.Enrolment

namespace EventRelay.Relay

variable {relay : Relay} {broker : Memory.Broker Callback} {registry : Registry Nat} {roster : Roster}

theorem accepted_accept (relay : Relay) (sink : Sink) (event : Event) :
    ∃ history, relay.accept sink event = { relay with history } ∧ ∀ label,
      (relay.accept sink event).accepted label =
        relay.accepted label ++ if sink.keeps label then [event] else [] := by
  have noted : ∀ other label, (relay.note (.accepted other event)).accepted label =
      relay.accepted label ++ if other = label then [event] else [] := by
    intro other label
    simp only [accepted, note, List.reverse_cons, List.filterMap_append]
    by_cases same : other = label <;> simp [Occurrence.accepted?, same]
  cases sink with
  | record other =>
    refine ⟨_, rfl, fun label => ?_⟩
    rw [accept, noted]
    simp [Sink.keeps]
  | log sink =>
    rw [accept, foldl_note]
    refine ⟨_, rfl, fun label => ?_⟩
    rw [accepted_logged]
    simp [Sink.keeps]
  | channel other isOpen =>
    cases isOpen with
    | true =>
      refine ⟨_, rfl, fun label => ?_⟩
      rw [accept, noted]
      simp [Sink.keeps]
    | false =>
      rw [accept, log_eq]
      refine ⟨_, rfl, fun label => ?_⟩
      rw [← log_eq, accepted_log]
      simp [Sink.keeps]

theorem accepted_dispatch {l : Nat} {listener : Listener} (present : relay.listeners[l]? = some listener)
    (message : Message) :
    ∃ history, relay.dispatch l message = { relay with history } ∧ ∀ label,
      (relay.dispatch l message).accepted label =
        relay.accepted label ++ message.copies (if listener.sink.keeps label then 1 else 0) := by
  cases effect : message.effect with
  | accept event =>
    have carries := (message.effect_eq_accept_iff event).mp effect
    obtain ⟨history, same, accepted⟩ := accepted_accept relay listener.sink event
    simp only [dispatch, present, effect]
    refine ⟨history, same, fun label => ?_⟩
    rw [accepted, Message.copies, carries]
    cases listener.sink.keeps label <;> rfl
  | diagnose diagnostic =>
    have nothing : ∀ n, message.copies n = [] := by
      intro n
      unfold Message.copies
      split
      · rename_i event carries
        have other := (message.effect_eq_accept_iff event).mpr carries
        rw [effect] at other
        cases other
      · rfl
    simp only [dispatch, present, effect, nothing, List.append_nil]
    cases listener.diagnostics with
    | none =>
      refine ⟨_, log_eq .., fun label => ?_⟩
      rw [accepted_log]
    | some other =>
      refine ⟨_, rfl, fun label => ?_⟩
      simp [accepted, note, Occurrence.accepted?]

theorem accepted_dispatchAll (message : Message) {order : List Nat}
    (known : ∀ l ∈ order, l < relay.listeners.length) :
    ∃ history, order.foldl (fun relay l => relay.dispatch l message) relay = { relay with history } ∧
      ∀ label, accepted { relay with history } label = relay.accepted label ++ message.copies
        (order.countP fun l => (relay.listeners[l]?).any fun listener => listener.sink.keeps label) := by
  induction order generalizing relay with
  | nil =>
    refine ⟨relay.history, rfl, fun label => ?_⟩
    rw [List.countP_nil, Message.copies_zero, List.append_nil]
  | cons l rest ih =>
    have present := List.getElem?_eq_getElem (known l List.mem_cons_self)
    obtain ⟨middle, same, first⟩ := accepted_dispatch present message
    obtain ⟨history, others, later⟩ := @ih { relay with history := middle } fun other member =>
      known other (List.mem_cons_of_mem _ member)
    refine ⟨history, ?_, fun label => ?_⟩
    · rw [List.foldl_cons, same, others]
    · have now := first label
      rw [same] at now
      have whole := later label
      rw [now, List.append_assoc, ← Message.copies_add] at whole
      rw [List.countP_cons, present, Option.any_some, Nat.add_comm]
      exact whole

theorem calledBack {listeners : List Listener} {l : Nat} {listener : Listener} {its : Option String}
    (present : listeners[l]? = some listener)
    (slot : listener.lifecycle.slot.isSome ↔ listener.lifecycle.state = .started)
    (received : ∀ receiver, listener.lifecycle.slot = some receiver → broker.receivers[receiver]? = its)
    (destination : String) :
    ((subscription listeners l).filter fun entry =>
        broker.receivers[entry.1]? == some destination).map Prod.snd =
      if listener.lifecycle.state = .started ∧ its = some destination then some (.dispatcher l)
      else none := by
  simp only [subscription, present, Option.bind_some]
  cases has : listener.lifecycle.slot with
  | none =>
    rw [has] at slot
    have waits : listener.lifecycle.state ≠ .started := fun started => by simpa using slot.mpr started
    simp [waits]
  | some receiver =>
    rw [has] at slot
    have started := slot.mp rfl
    have receives := received receiver has
    by_cases fits : its = some destination <;> simp [started, receives, fits, Option.filter]

theorem audience_of_subscribed {listeners : List Listener} {destination : String} {hears : Nat → Bool}
    (subscribed : broker.listeners.Perm (subscriptions listeners))
    (called : ∀ l listener, listeners[l]? = some listener →
      ((subscription listeners l).filter fun entry =>
          broker.receivers[entry.1]? == some destination).map Prod.snd =
        if hears l then some (.dispatcher l) else none) :
    ∃ order : List Nat, broker.audience destination = order.map .dispatcher ∧
      order.Perm ((List.range listeners.length).filter hears) := by
  have calls : (broker.audience destination).Perm
      (((List.range listeners.length).filter hears).map Callback.dispatcher) := by
    have perm := (subscribed.filter fun entry =>
      broker.receivers[entry.1]? == some destination).map Prod.snd
    rw [subscriptions, List.filter_filterMap, List.map_filterMap] at perm
    apply perm.trans
    apply List.Perm.of_eq
    rw [← List.filterMap_eq_map', List.filterMap_filter]
    apply List.filterMap_congr
    intro l member
    exact called l _ (List.getElem?_eq_getElem (List.mem_range.mp member))
  have split : Relation.Comp (· = List.map Callback.dispatcher ·) List.Perm
      (broker.audience destination) ((List.range listeners.length).filter hears) := by
    rw [List.eq_map_comp_perm]
    exact calls
  exact split

theorem publish_of_audience {destination : String} {order : List Nat} (brokers : relay.brokers = [broker])
    (calls : broker.audience destination = order.map .dispatcher) (message : Message) :
    relay.publish 0 destination message =
      (order.foldl (fun relay l => relay.dispatch l message) relay, order.length) := by
  have there : relay.brokers[0]? = some broker := by simp [brokers]
  simp only [Relay.publish, there, calls, handAll, List.foldl_map, List.length_map]
  rfl

namespace Mirrors

variable (mirrors : Mirrors relay broker registry roster)
include mirrors

theorem noted (history : List Occurrence) : Mirrors { relay with history } broker registry roster where
  calm := mirrors.calm.noted history
  brokers := mirrors.brokers
  registries := mirrors.registries
  connections := mirrors.connections
  receivers := mirrors.receivers
  unavailable := mirrors.unavailable
  members := mirrors.members
  handles := mirrors.handles
  seats := mirrors.seats
  named := mirrors.named
  entries := mirrors.entries
  apart := mirrors.apart
  subscribed := mirrors.subscribed

theorem configured (unavailable failClose : Bool) :
    Mirrors (relay.setBroker 0 { broker with unavailable, failClose })
      { broker with unavailable, failClose } registry { roster with unavailable } where
  calm := mirrors.calm.setBroker ..
  brokers := by simp [setBroker, mirrors.brokers]
  registries := mirrors.registries
  connections := mirrors.connections
  receivers := mirrors.receivers
  unavailable := rfl
  members := mirrors.members
  handles := mirrors.handles
  seats l listener present := by
    obtain ⟨connection, seat⟩ := mirrors.seats l listener present
    exact ⟨connection, seat.carry rfl (fun _ => rfl) seat.entered fun _ _ given => given⟩
  named := mirrors.named
  entries := mirrors.entries
  apart := mirrors.apart
  subscribed := mirrors.subscribed

theorem audience (destination : String) :
    ∃ order : List Nat, broker.audience destination = order.map .dispatcher ∧
      order.Perm ((List.range relay.listeners.length).filter fun l => roster.attends l destination) := by
  apply audience_of_subscribed mirrors.subscribed
  intro l listener present
  obtain ⟨connection, seat⟩ := mirrors.seats l listener present
  rw [calledBack present seat.slot seat.received]
  simp [Roster.attends, mirrors.members, present, Listener.member]

theorem publish (destination : String) (message : Message) :
    ∃ order : List Nat,
      order.Perm
        ((List.range relay.listeners.length).filter fun l => roster.attends l destination) ∧
      relay.publish 0 destination message =
        (order.foldl (fun relay l => relay.dispatch l message) relay, order.length) := by
  obtain ⟨order, calls, perm⟩ := mirrors.audience destination
  exact ⟨order, perm, publish_of_audience mirrors.brokers calls message⟩

theorem hearers (label destination : String) :
    (((List.range relay.listeners.length).filter fun l => roster.attends l destination).countP fun l =>
        (relay.listeners[l]?).any fun listener => listener.sink.keeps label) =
      roster.members.countP fun member => member.hears label destination := by
  rw [← countP_range_getElem? roster.members, List.countP_filter, mirrors.members, List.length_map]
  apply List.countP_congr
  intro l member
  have present := List.getElem?_eq_getElem (List.mem_range.mp member)
  simp only [Roster.attends, mirrors.members, List.getElem?_map, present, Option.map_some,
    Option.any_some, Listener.member, Member.hears, Bool.and_eq_true]
  exact and_comm

theorem accepted_publish (label destination : String) (message : Message) :
    (relay.publish 0 destination message).1.Follows roster ∧
      (relay.publish 0 destination message).1.accepted label =
        relay.accepted label ++ roster.due label (.publish destination message) := by
  obtain ⟨order, perm, published⟩ := mirrors.publish destination message
  have known : ∀ l ∈ order, l < relay.listeners.length := by
    intro l member
    have attends := perm.mem_iff.mp member
    exact List.mem_range.mp (List.mem_filter.mp attends).1
  obtain ⟨history, same, accepted⟩ := accepted_dispatchAll message known
  rw [published, same]
  refine ⟨⟨broker, registry, mirrors.noted history⟩, ?_⟩
  rw [accepted, perm.countP_eq, mirrors.hearers]
  rfl

end Mirrors

/-- Every command comes to its end, and brings about what the roster says. -/
theorem Follows.perform {command : Command} (follows : relay.Follows roster)
    (agree : Agree (roster.members.map Member.config ++ command.config?.toList)) :
    ∃ final, relay.perform roster.required command = some final ∧ final.Follows (roster.after command) ∧
      ∀ label, final.accepted label = relay.accepted label ++ roster.due label command := by
  obtain ⟨broker, registry, mirrors⟩ := follows
  have there : relay.brokers[0]? = some broker := by simp [mirrors.brokers]
  cases command with
  | listen config sink diagnostics =>
    have shared : ∀ member ∈ roster.members, member.config.id = config.id →
        member.config.params = config.params := by
      intro member among
      apply agree
      · exact List.mem_append_left _ (List.mem_map_of_mem among)
      · exact List.mem_append_right _ List.mem_cons_self
    obtain ⟨final, made, follows, accepted⟩ := mirrors.listen config sink diagnostics shared
    refine ⟨final, by simp only [Relay.perform, made], follows, fun label => ?_⟩
    rw [accepted]
    exact (List.append_nil _).symm
  | start l =>
    obtain ⟨final, reply, called, follows, accepted⟩ := mirrors.start l
    refine ⟨final, by simp only [Relay.perform, called], follows, fun label => ?_⟩
    rw [accepted]
    exact (List.append_nil _).symm
  | stop l =>
    obtain ⟨final, called, follows, accepted⟩ := mirrors.stop l
    refine ⟨final, by simp only [Relay.perform, called], follows, fun label => ?_⟩
    rw [accepted]
    exact (List.append_nil _).symm
  | setUnavailable value =>
    have kept := mirrors.configured value broker.failClose
    exact ⟨_, by simp only [Relay.perform, there, Option.map_some], ⟨_, registry, kept⟩,
      fun label => (List.append_nil _).symm⟩
  | setCloseFailure value =>
    have kept := mirrors.configured broker.unavailable value
    have same : ({ roster with unavailable := broker.unavailable } : Roster) = roster := by
      rw [mirrors.unavailable]
    rw [same] at kept
    exact ⟨_, by simp only [Relay.perform, there, Option.map_some], ⟨_, registry, kept⟩,
      fun label => (List.append_nil _).symm⟩
  | publish destination message =>
    have published := fun label => mirrors.accepted_publish label destination message
    exact ⟨_, rfl, (published "").1, fun label => (published label).2⟩

theorem Follows.performAll {commands : List Command} (follows : relay.Follows roster)
    (agree : Agree (roster.members.map Member.config ++ commands.filterMap Command.config?)) :
    ∃ final, relay.performAll roster.required commands = some final ∧
      final.Follows (commands.foldl Roster.after roster) ∧
      ∀ label, final.accepted label = relay.accepted label ++ roster.expected label commands := by
  induction commands generalizing relay roster with
  | nil => exact ⟨relay, rfl, follows, fun label => (List.append_nil _).symm⟩
  | cons command rest ih =>
    have split : (command :: rest).filterMap Command.config? =
        command.config?.toList ++ rest.filterMap Command.config? := by
      cases made : command.config? <;> simp [made]
    rw [split, ← List.append_assoc] at agree
    have first := agree.mono fun _ member => List.mem_append_left _ member
    obtain ⟨next, performed, onward, now⟩ := follows.perform first
    rw [← Roster.configs_after] at agree
    obtain ⟨final, others, last, later⟩ := ih onward agree
    have required : (roster.after command).required = roster.required := roster.foldl_required [command]
    refine ⟨final, ?_, last, fun label => ?_⟩
    · simp only [Relay.performAll, performed]
      rw [← required]
      exact others
    · rw [later, now, List.append_assoc]
      rfl

def Listens (relay : Relay) (l : Nat) (destination : String) : Prop :=
  ∃ listener, relay.listeners[l]? = some listener ∧ listener.lifecycle.state = .started ∧
    listener.config.destination = destination

theorem Follows.members (follows : relay.Follows roster) :
    roster.members = relay.listeners.map Listener.member := by
  obtain ⟨_, _, mirrors⟩ := follows
  exact mirrors.members

theorem Follows.attends_iff (follows : relay.Follows roster) {l : Nat} {destination : String} :
    roster.attends l destination = true ↔ relay.Listens l destination := by
  rw [Roster.attends, Listens, follows.members, List.getElem?_map]
  cases relay.listeners[l]? with
  | none => simp
  | some listener => simp [Listener.member]

theorem Follows.publish (follows : relay.Follows roster) (destination : String) (message : Message) :
    ∃ order : List Nat, order.Nodup ∧ (∀ l, l ∈ order ↔ relay.Listens l destination) ∧
      relay.publish 0 destination message =
        (order.foldl (fun relay l => relay.dispatch l message) relay, order.length) := by
  obtain ⟨_, _, mirrors⟩ := id follows
  obtain ⟨order, perm, published⟩ := mirrors.publish destination message
  refine ⟨order, ?_, fun l => ?_, published⟩
  · exact perm.nodup_iff.mpr (List.nodup_range.filter _)
  · rw [perm.mem_iff, List.mem_filter, List.mem_range, follows.attends_iff]
    constructor
    · rintro ⟨_, listening⟩
      exact listening
    · rintro ⟨listener, present, listening⟩
      exact ⟨(List.getElem?_eq_some_iff.mp present).1, listener, present, listening⟩

theorem Follows.start (follows : relay.Follows roster) {l : Nat} {listener : Listener}
    (present : relay.listeners[l]? = some listener)
    (initialized : listener.lifecycle.state = .initialized) :
    ∃ next result, relay.call (.start l .claim) = (next, some (.started result)) ∧
      (result = .ok () ↔ ∃ after, next.listeners[l]? = some after ∧ after.lifecycle.state = .started) := by
  obtain ⟨_, _, mirrors⟩ := id follows
  obtain ⟨next, result, called, onward, _, succeeds⟩ := mirrors.start_initialized l present initialized
  refine ⟨next, result, called, ?_⟩
  have told : (next.listeners[l]?).map Listener.member =
      some { listener.member with state := roster.started listener.member } := by
    rw [← List.getElem?_map, ← onward.members]
    simp [Roster.after, follows.members, present]
  rw [succeeds]
  cases there : next.listeners[l]? with
  | none =>
    rw [there] at told
    cases told
  | some after =>
    rw [there, Option.map_some, Option.some.injEq] at told
    have state : after.lifecycle.state = roster.started listener.member := congrArg Member.state told
    have waits : listener.member.state = .initialized := initialized
    rw [Roster.started, if_pos waits] at state
    cases admitted : roster.admits listener.config <;> simp [state, Listener.member, admitted]

/-- Whatever is done to listeners on one broker and in one registry, what shows up under a label is what
    was published, while they were started, to the destinations of the listeners whose sinks keep it. -/
theorem delivers_while_started (logger : Logger) (reach : Mqtt.Options → Mqtt.Attempt)
    (required : Option (String × String)) {commands : List Command}
    (agree : Agree (commands.filterMap Command.config?)) :
    ∃ final, (overMemory logger reach).performAll required commands = some final ∧
      final.listeners.map Listener.member = (commands.foldl Roster.after { required }).members ∧
      (∀ label, final.accepted label = Roster.expected label { required } commands) ∧
      (∀ l label, (∀ i listener, final.listeners[i]? = some listener →
          (listener.sink.keeps label = true ↔ i = l)) →
        final.accepted label = Roster.heard l { required } commands) ∧
      (∀ destination message, ∃ order : List Nat, order.Nodup ∧
        (∀ l, l ∈ order ↔ final.Listens l destination) ∧
        final.publish 0 destination message =
          (order.foldl (fun relay l => relay.dispatch l message) final, order.length)) ∧
      (∀ l listener, final.listeners[l]? = some listener → listener.lifecycle.state = .initialized →
        ∃ next result, final.call (.start l .claim) = (next, some (.started result)) ∧
          (result = .ok () ↔
            ∃ after, next.listeners[l]? = some after ∧ after.lifecycle.state = .started)) ∧
      ∀ earlier later l label, commands = earlier ++ .stop l :: later →
        (∀ listener, final.listeners[l]? = some listener → listener.sink.keeps label = false) →
          ∃ other, (overMemory logger reach).performAll required (earlier ++ later) = some other ∧
            other.accepted label = final.accepted label := by
  have initial : (overMemory logger reach).Follows { required } :=
    ⟨_, _, mirrors_initial logger reach required⟩
  have shown : ∀ {commands : List Command}, Agree (commands.filterMap Command.config?) →
      ∃ final, (overMemory logger reach).performAll required commands = some final ∧
        final.Follows (commands.foldl Roster.after { required }) ∧
        ∀ label, final.accepted label = Roster.expected label { required } commands :=
    fun agree => initial.performAll agree
  obtain ⟨final, performed, follows, accepted⟩ := shown agree
  have known : ∀ (i : Nat) (member : Member),
      (commands.foldl Roster.after { required }).members[i]? = some member →
        ∃ listener : Listener, final.listeners[i]? = some listener ∧ listener.sink = member.sink := by
    intro i member present
    rw [follows.members, List.getElem?_map, Option.map_eq_some_iff] at present
    obtain ⟨listener, there, rfl⟩ := present
    exact ⟨listener, there, rfl⟩
  refine ⟨final, performed, follows.members.symm, accepted, ?_, follows.publish,
    fun l listener => follows.start, ?_⟩
  · intro l label only
    rw [accepted]
    apply Roster.expected_eq_heard
    intro i x present
    obtain ⟨listener, there, same⟩ := known i x present
    rw [← same]
    exact only i listener there
  · intro earlier later l label split apart
    have fewer : Agree ((earlier ++ later).filterMap Command.config?) := by
      apply agree.mono
      intro config made
      rw [split]
      simp only [List.filterMap_append, List.filterMap_cons, Command.config?] at made ⊢
      exact made
    obtain ⟨other, without, _, shows⟩ := shown fewer
    refine ⟨other, without, ?_⟩
    rw [shows, accepted, split]
    symm
    apply Roster.expected_stop
    intro x present
    rw [← split] at present
    obtain ⟨listener, there, same⟩ := known l x present
    rw [← same]
    exact apart listener there

def sharing : List Command :=
  let config : ListenerConfig := ⟨"audit", "broker", "events", none, none⟩
  let message := Message.ofEvent { text := "up" }
  [.listen config (.record "first") none, .listen config (.record "second") none, .start 0, .start 1,
    .publish "events" message, .setCloseFailure true, .stop 0, .publish "events" message]

theorem delivers_while_started_sharing :
    Agree (sharing.filterMap Command.config?) ∧ ∀ logger reach,
      ∃ final, (overMemory logger reach).performAll none sharing = some final ∧
        final.accepted "first" = [{ text := "up" }] ∧
        final.accepted "second" = [{ text := "up" }, { text := "up" }] := by
  have agree : Agree (sharing.filterMap Command.config?) := by decide
  refine ⟨agree, fun logger reach => ?_⟩
  obtain ⟨final, performed, _, accepted, _⟩ := delivers_while_started logger reach none agree
  refine ⟨final, performed, ?_, ?_⟩
  · rw [accepted]
    decide
  · rw [accepted]
    decide

end EventRelay.Relay
