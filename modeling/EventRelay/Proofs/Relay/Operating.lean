import EventRelay.Proofs.Relay.Alignment

namespace EventRelay.Relay

variable {relay final : Relay} {broker after : Memory.Broker Callback} {registry left : Registry Nat}
  {l : Nat} {listener : Listener} {closing : Option (Nat × LogRecord)}

/-- The relay is aligned, has these listeners, and has what its broker gave out. -/
def Becomes (broker : Memory.Broker Callback) (final : Relay) (listeners : List Listener) : Prop :=
  ∃ after left, Aligned final after left ∧ Grows broker after ∧ final.listeners = listeners

namespace Aligned

variable (aligned : Aligned relay broker registry)
include aligned

theorem ignored {frame : Frame} {reply : Reply} (l : Nat)
    (leaves : ∃ final, Completes relay frame reply final ∧
      final.brokers = relay.brokers ∧ final.receivers = relay.receivers ∧
      final.registries = relay.registries ∧ final.handles = relay.handles ∧
      final.listeners = relay.listeners) :
    ∃ final lifecycle, relay.call frame = (final, some reply) ∧ Becomes broker final
      (relay.listeners.modify l fun listener => { listener with lifecycle }) := by
  obtain ⟨final, completes, brokers, receivers, registries, handles, listeners⟩ := leaves
  have stands := aligned.same completes.calm (brokers.trans aligned.brokers) rfl rfl rfl
    completes.connections receivers registries handles listeners completes.held
  cases present : relay.listeners[l]? with
  | none =>
    refine ⟨final, {}, completes.call, broker, registry, stands, .refl _, ?_⟩
    rw [listeners, List.modify_eq_self (List.getElem?_eq_none_iff.mp present)]
  | some listener =>
    refine ⟨final, listener.lifecycle, completes.call, broker, registry, stands, .refl _, ?_⟩
    rw [listeners, List.modify_eq_set_getElem?, present]
    exact (set_of_present present).symm

theorem listen (config : ListenerConfig) (sink : Sink) (diagnostics : Option String)
    (required : Option (String × String)) :
    ∃ final, relay.listen config 0 (.memory 0 required) sink diagnostics =
        (final, .ok relay.listeners.length) ∧
      Becomes broker final
        (relay.listeners ++ [{ config, handle := relay.listeners.length, sink, diagnostics }]) := by
  cases found : registry.find? config.id with
  | some entry =>
    obtain ⟨final, made, enrols, brokers, registries, connections⟩ :=
      listen_retained config sink diagnostics (.memory 0 required) aligned.registries found
    have listeners := enrols.listeners
    have known : relay.listeners.map Listener.config <+: final.listeners.map Listener.config := by
      rw [listeners, List.map_append]
      exact List.prefix_append _ _
    rw [aligned.handles] at listeners
    refine ⟨final, made, broker, _, aligned.joined enrols ?_ (.refl _) rfl rfl ?_
      (brokers.trans aligned.brokers) registries ?_, .refl _, listeners⟩
    · exact (aligned.entries _ entry found).carry (.refl _) known
    · intro name entry there
      rw [Registry.find?_adjust] at there
      split at there
      · rename_i named
        obtain ⟨old, before, rfl⟩ := Option.map_eq_some_iff.mp there
        exact .inl ⟨old, named ▸ before, rfl⟩
      · exact .inl ⟨entry, there, rfl⟩
    · rw [connections, aligned.connections]
  | none =>
    obtain ⟨final, made, enrols, brokers, registries, connections⟩ :=
      listen_opened config sink diagnostics required aligned.brokers aligned.registries found
    have next : relay.connections.length = broker.connections.length := by simp [aligned.connections]
    have listeners := enrols.listeners
    rw [aligned.handles] at listeners
    have grows : Grows broker (broker.connect required config.params).1 := by
      refine ⟨?_, List.prefix_refl _⟩
      simp [Memory.Broker.destinations, Memory.Broker.connect]
    refine ⟨final, made, _, _, aligned.joined enrols ?_ grows rfl rfl ?_ brokers registries ?_, grows,
      listeners⟩
    · refine ⟨config, by simp [listeners], rfl, ?_⟩
      simp [next, Memory.Broker.destinations, Memory.Broker.connect, ListenerConfig.params]
    · intro name entry there
      rw [Registry.find?_enter] at there
      cases before : registry.find? name with
      | some old =>
        rw [before] at there
        cases there
        exact .inl ⟨_, rfl, rfl⟩
      | none =>
        rw [before, Option.none_or] at there
        split at there
        · rename_i named
          cases there
          exact .inr ⟨named, rfl⟩
        · cases there
    · simp [connections, aligned.connections, Memory.Broker.connect, List.range_succ]

theorem received_of_slot {receiver : Nat} (present : relay.listeners[l]? = some listener)
    (slot : listener.lifecycle.slot = some receiver) : receiver < broker.receivers.length := by
  obtain ⟨connection, placed⟩ := aligned.seats l listener present
  obtain ⟨config, _, _, opened⟩ := placed.opened
  exact (List.getElem?_eq_some_iff.mp ((placed.received receiver slot).trans opened)).1

theorem received_lt {receiver : Nat} {callback : Callback}
    (member : (receiver, callback) ∈ broker.listeners) : receiver < broker.receivers.length := by
  obtain ⟨l, listener, present, slot, _⟩ := mem_subscriptions.mp (aligned.subscribed.mem_iff.mp member)
  exact aligned.received_of_slot present slot

theorem progressed {connection : Nat} {lifecycle : Lifecycle Nat} {frame : Frame} {reply : Reply}
    (present : relay.listeners[l]? = some listener)
    (placed : Placed relay.handles broker relay.listeners l listener connection)
    (running : listener.isStopped = false)
    (early : lifecycle.state ≠ .stopping ∧ lifecycle.state ≠ .stopped)
    (slot : lifecycle.slot.isSome ↔ lifecycle.state = .started)
    (received : ∀ receiver, lifecycle.slot = some receiver →
      after.receivers[receiver]? = broker.destinations[connection]?)
    (new : ∀ receiver, lifecycle.slot = some receiver → ∀ entry ∈ broker.listeners, entry.1 ≠ receiver)
    (same : after.connections = broker.connections) (grows : broker.receivers <+: after.receivers)
    (subscribed : after.listeners.Perm
      (subscriptions (relay.listeners.set l { listener with lifecycle })))
    (completes : Completes relay frame reply final) (brokers : final.brokers = [after])
    (receivers : final.receivers = (List.range after.receivers.length).map (.memory 0))
    (registries : final.registries = relay.registries) (handles : final.handles = relay.handles)
    (listeners : final.listeners = relay.listeners.set l { listener with lifecycle }) :
    Becomes broker final (relay.listeners.set l { listener with lifecycle }) := by
  have goesOn : ({ listener with lifecycle } : Listener).isStopped = false := by
    simp [Listener.isStopped, early.2]
  have left : ({ listener with lifecycle } : Listener).hasLeft = listener.hasLeft := by
    rw [Listener.hasLeft, Listener.hasLeft, goesOn, running]
  have keeps : after.destinations = broker.destinations := by
    rw [Memory.Broker.destinations, same]
    rfl
  have more : Grows broker after := ⟨keeps ▸ List.prefix_refl _, grows⟩
  refine ⟨after, registry, aligned.changed { listener with lifecycle } present placed
    rfl rfl slot early.1 ?_ ?_ more ?_ subscribed completes.calm brokers
    (registries.trans aligned.registries) ?_ receivers ?_ listeners ?_, more, listeners⟩
  · rw [keeps]
    exact received
  · intro receiver other x given _ old has
    have member := mem_subscriptions.mpr ⟨other, x, old, has, rfl⟩
    exact new receiver given _ (aligned.subscribed.mem_iff.mpr member) rfl
  · exact fun name entry found => ⟨entry, found, rfl⟩
  · rw [completes.connections, aligned.connections, same]
  · rw [handles, left, set_of_present placed.has]
  · rw [completes.held]

theorem start_initialized (present : relay.listeners[l]? = some listener)
    (initialized : listener.lifecycle.state = .initialized) :
    ∃ final reply lifecycle, relay.call (.start l .claim) = (final, some reply) ∧
      Becomes broker final (relay.listeners.set l { listener with lifecycle }) := by
  obtain ⟨connection, placed⟩ := aligned.seats l listener present
  obtain ⟨inside, wired⟩ := aligned.connected placed.opened
  have has := placed.has
  rw [← placed.handle] at has
  have without : listener.lifecycle.slot = none := by
    have slot := placed.slot
    rw [initialized] at slot
    simpa using slot
  have running : listener.isStopped = false := by simp [Listener.isStopped, initialized]
  have there : relay.brokers[0]? = some broker := by simp [aligned.brokers]
  have next : relay.receivers.length = broker.receivers.length := by simp [aligned.receivers]
  have opened := List.getElem?_eq_getElem inside
  rcases Memory.Broker.createReceiver_cases opened with ⟨_, given⟩ | ⟨e, _, denied⟩
  · obtain ⟨final, completes, brokers, receivers, registries, handles, listeners⟩ :=
      call_start_started aligned.calm present initialized has wired there given
    rw [next] at listeners
    rw [aligned.brokers, List.set_cons_zero] at brokers
    have new : ∀ entry ∈ broker.listeners, entry.1 ≠ broker.receivers.length :=
      fun entry member => Nat.ne_of_lt (aligned.received_lt member)
    refine ⟨final, _, _, completes.call, aligned.progressed present placed running ?_ ?_ ?_ ?_ ?_ ?_ ?_
      completes brokers ?_ registries handles listeners⟩
    · exact ⟨by simp, by simp⟩
    · simp
    · rintro receiver ⟨⟩
      simp [Memory.Broker.setListener, Memory.Broker.destinations, opened]
    · rintro receiver ⟨⟩
      exact new
    · rfl
    · exact List.prefix_append _ _
    · exact subscribed_started aligned.subscribed present without rfl new
    · simp [receivers, aligned.receivers, Memory.Broker.setListener, List.range_succ]
  · obtain ⟨final, completes, brokers, receivers, registries, handles, listeners⟩ :=
      call_start_denied aligned.calm present initialized has wired there denied
    rw [aligned.brokers, List.set_cons_zero] at brokers
    refine ⟨final, _, _, completes.call, aligned.progressed present placed running ?_ ?_ ?_ ?_ rfl ?_ ?_
      completes brokers ?_ registries handles listeners⟩
    · exact ⟨by simp, by simp⟩
    · simp [without]
    · simp [without]
    · simp [without]
    · exact List.prefix_refl _
    · rw [subscriptions_set present (y := { listener with lifecycle.state := .starting }) rfl]
      exact aligned.subscribed
    · rw [receivers, aligned.receivers]

theorem start (l : Nat) : ∃ final reply lifecycle, relay.call (.start l .claim) = (final, some reply) ∧
    Becomes broker final
      (relay.listeners.modify l fun listener => { listener with lifecycle }) := by
  cases present : relay.listeners[l]? with
  | none =>
    obtain ⟨final, becomes⟩ := aligned.ignored l (call_unknown aligned.calm present (.inl rfl))
    exact ⟨final, _, becomes⟩
  | some listener =>
    by_cases initialized : listener.lifecycle.state = .initialized
    · obtain ⟨final, reply, lifecycle, called, becomes⟩ := aligned.start_initialized present initialized
      refine ⟨final, reply, lifecycle, called, ?_⟩
      rw [List.modify_eq_set_getElem?, present]
      exact becomes
    · obtain ⟨final, becomes⟩ := aligned.ignored l (call_start_ignored aligned.calm present initialized)
      exact ⟨final, _, becomes⟩

theorem departed (y : Listener) {connection : Nat} {listeners : List (Nat × Callback)}
    (present : relay.listeners[l]? = some listener)
    (placed : Placed relay.handles broker relay.listeners l listener connection)
    (config : y.config = listener.config) (handle : y.handle = listener.handle)
    (slot : y.lifecycle.slot.isSome ↔ y.lifecycle.state = .started)
    (settled : y.lifecycle.state ≠ .stopping) (gone : y.hasLeft = true)
    (had : ∀ receiver, y.lifecycle.slot = some receiver → listener.lifecycle.slot = some receiver)
    (returns : Returns ⟨listener.config.id, 0, connection, listener.hasLeft, true, false⟩ registry left
      closing)
    (subscribed : listeners.Perm (subscriptions (relay.listeners.set l y)))
    (calm : final.Calm) (brokers : final.brokers = [withdrawn { broker with listeners } closing])
    (connections : final.connections = relay.connections) (receivers : final.receivers = relay.receivers)
    (registries : final.registries = [left])
    (handles : final.handles =
      relay.handles.set l ⟨listener.config.id, 0, connection, true, true, false⟩)
    (left : final.listeners = relay.listeners.set l y)
    (held : final.held.Sublist relay.held) : Becomes broker final (relay.listeners.set l y) := by
  obtain ⟨opened, closed, same, length, _⟩ := withdrawn_eq { broker with listeners } closing
  have grows : Grows broker (withdrawn { broker with listeners } closing) := grows_withdrawn ..
  have keeps : (withdrawn { broker with listeners } closing).receivers = broker.receivers := by
    rw [same]
  refine ⟨_, _, aligned.changed y present placed config handle slot settled ?_ ?_ grows returns.found.1 ?_
    calm brokers registries ?_ ?_ ?_ left held, grows, left⟩
  · intro receiver given
    rw [keeps, destinations_withdrawn]
    exact placed.received receiver (had receiver given)
  -- The receiver was the listener's before, so nobody else can have it now.
  · intro receiver other x given apart old has
    exact absurd (aligned.apart other l x listener receiver old present has (had receiver given)) apart
  · rw [same]
    exact subscribed
  · rw [connections, aligned.connections, same, length]
  · rw [receivers, aligned.receivers, keeps]
  · rw [handles, gone]

theorem wired {c : Nat}
    (returns : Returns ⟨listener.config.id, 0, c, listener.hasLeft, true, false⟩ registry left closing) :
    ∀ connection record, closing = some (connection, record) →
      relay.connections[connection]? = some (.memory 0 connection) := by
  intro connection record last
  obtain ⟨entry, found, rfl⟩ := returns.found.2 connection record last
  exact (aligned.connected (aligned.entries _ entry found)).2

theorem stop_running (present : relay.listeners[l]? = some listener) (kept : listener.dropped = false)
    (running : listener.lifecycle.state ≠ .stopped) :
    ∃ final, relay.call (.stop l .read) = (final, some .finished) ∧
      Becomes broker final
        (relay.listeners.set l { listener with lifecycle := ⟨.stopped, none⟩ }) := by
  obtain ⟨connection, placed⟩ := aligned.seats l listener present
  have has := placed.has
  rw [← placed.handle] at has
  have unreleased : listener.hasLeft = false := by
    simp [Listener.hasLeft, Listener.isStopped, running, kept]
  obtain ⟨⟨left, closing⟩, removed⟩ : ∃ result, (registry.decrement listener.config.id).removeUnused
      listener.config.id = result := ⟨_, rfl⟩
  have returns : Returns ⟨listener.config.id, 0, connection, listener.hasLeft, true, false⟩ registry left
      closing := by
    rw [Returns, if_neg (by simp [unreleased])]
    exact removed
  have given : ∀ receiver, listener.lifecycle.slot = some receiver →
      relay.receivers[receiver]? = some (.memory 0 receiver) := by
    intro receiver slot
    have inside := aligned.received_of_slot present slot
    simp [aligned.receivers, inside]
  obtain ⟨final, completes, brokers, receivers, registries, handles, listeners⟩ :=
    call_stop_stopped aligned.calm present ⟨placed.settled, running⟩ aligned.brokers given has unreleased
      aligned.registries rfl removed (aligned.wired returns)
  obtain ⟨subscribers, empty, subscribed⟩ := emptied_eq aligned.apart aligned.subscribed present
  rw [empty] at brokers
  rw [placed.handle] at handles
  refine ⟨final, completes.call, aligned.departed { listener with lifecycle := ⟨.stopped, none⟩ } present
    placed rfl rfl ?_ ?_ ?_ ?_ returns subscribed completes.calm brokers completes.connections receivers
    registries handles listeners ?_⟩
  · simp
  · simp
  · simp [Listener.hasLeft, Listener.isStopped]
  · intro receiver slot
    cases slot
  · rw [completes.held]

theorem stop (l : Nat)
    (kept : ∀ listener, relay.listeners[l]? = some listener → listener.dropped = false) :
    ∃ final lifecycle, relay.call (.stop l .read) = (final, some .finished) ∧
      Becomes broker final
        (relay.listeners.modify l fun listener => { listener with lifecycle }) := by
  cases present : relay.listeners[l]? with
  | none => exact aligned.ignored l (call_unknown aligned.calm present (.inr rfl))
  | some listener =>
    by_cases stopped : listener.lifecycle.state = .stopped
    · exact aligned.ignored l (call_stop_ignored aligned.calm present (.inr stopped))
    · obtain ⟨final, called, becomes⟩ := aligned.stop_running present (kept listener present) stopped
      refine ⟨final, ⟨.stopped, none⟩, called, ?_⟩
      rw [List.modify_eq_set_getElem?, present]
      exact becomes

theorem not_held_of_callback (l : Nat) :
    ∀ entry ∈ broker.listeners, entry.2.holds (.listener l) = false := by
  rintro ⟨receiver, callback⟩ member
  obtain ⟨_, _, _, _, rfl⟩ := mem_subscriptions.mp (aligned.subscribed.mem_iff.mp member)
  rfl

theorem letGo (l : Nat)
    (kept : ∀ listener, relay.listeners[l]? = some listener → listener.dropped = false) :
    Becomes broker (relay.letGo (.listener l) true)
      (relay.listeners.modify l fun listener => { listener with dropped := true }) := by
  cases present : relay.listeners[l]? with
  | none =>
    have outside := List.getElem?_eq_none_iff.mp present
    -- Nobody can have hold of a listener that was never made, so the collection finds nothing to drop.
    have free : Held.listener l ∉ relay.held := by
      intro member
      obtain ⟨other, inside, same⟩ := aligned.holders _ member
      cases same
      omega
    have same : relay.letGo (.listener l) true = relay := by
      rw [Relay.letGo, List.erase_of_not_mem free]
      have collected : relay.collect true = relay := aligned.calm.allHeld.collect_eq true
      exact (congrArg rest collected).trans (settle_of_idle aligned.calm.idle aligned.calm.noMqtt _)
    rw [same, List.modify_eq_self outside]
    exact ⟨broker, registry, aligned, .refl _, rfl⟩
  | some listener =>
    obtain ⟨connection, placed⟩ := aligned.seats l listener present
    have has := placed.has
    rw [← placed.handle] at has
    obtain ⟨left, closing, returns⟩ : ∃ left closing, Returns
        ⟨listener.config.id, 0, connection, listener.hasLeft, true, false⟩ registry left closing := by
      unfold Returns
      split
      · exact ⟨_, _, rfl, rfl⟩
      · exact ⟨_, _, rfl⟩
    obtain ⟨final, done, calm, brokers, connections, receivers, registries, handles, listeners, held⟩ :=
      letGo_listener aligned.calm aligned.once present (kept listener present) aligned.brokers
        (aligned.not_held_of_callback l) has aligned.registries rfl returns (aligned.wired returns)
    rw [placed.handle] at handles
    rw [List.modify_eq_set_getElem?, present, done]
    refine aligned.departed { listener with dropped := true } present placed rfl rfl placed.slot
      placed.settled ?_ (fun _ given => given) returns ?_ calm brokers connections receivers registries
      handles listeners ?_
    · simp [Listener.hasLeft]
    · rw [subscriptions_set present (y := { listener with dropped := true }) rfl]
      exact aligned.subscribed
    · rw [held]
      exact List.erase_sublist

end Aligned

end EventRelay.Relay
