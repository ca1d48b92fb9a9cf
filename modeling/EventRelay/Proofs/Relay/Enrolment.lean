import EventRelay.Proofs.Relay.Upkeep

namespace EventRelay.Relay

variable {relay final : Relay} {broker : Memory.Broker Callback} {registry : Registry Nat}
  {roster : Roster} {config : ListenerConfig} {sink : Sink} {diagnostics : Option String}

structure Enrols (relay : Relay) (config : ListenerConfig) (sink : Sink) (diagnostics : Option String)
    (connection : Nat) (final : Relay) : Prop where
  tasks : final.tasks = relay.tasks
  mqtt : final.mqtt = relay.mqtt
  scripts : final.scripts = relay.scripts
  receivers : final.receivers = relay.receivers
  held : final.held = .listener relay.listeners.length :: relay.held
  handles : final.handles = relay.handles ++ [⟨config.id, 0, connection, false, true, false⟩]
  listeners : final.listeners = relay.listeners ++
    [{ config, handle := relay.handles.length, sink, diagnostics }]
  accepted : ∀ label, final.accepted label = relay.accepted label

theorem Enrols.calm {connection : Nat}
    (enrols : Enrols relay config sink diagnostics connection final) (calm : relay.Calm) :
    final.Calm := by
  obtain ⟨tasks, mqtt, scripts, _, held, handles, listeners, _⟩ := enrols
  refine ⟨?_, mqtt.trans calm.noMqtt, scripts.trans calm.noScripts, ?_, ?_⟩
  · rw [tasks]
    exact calm.idle
  · intro l listener present kept
    rw [listeners] at present
    rw [held]
    rcases last_or_same present with ⟨rfl, _⟩ | present
    · exact List.mem_cons_self
    · exact List.mem_cons_of_mem _ (calm.allHeld.listeners l listener present kept)
  · intro h member
    rw [handles] at member
    rcases List.mem_append.mp member with member | member
    · exact calm.allHeld.handles h member
    · rw [List.mem_singleton.mp member]

theorem listen_retained (config : ListenerConfig) (sink : Sink) (diagnostics : Option String)
    (factory : Factory) {entry : RegistryEntry Nat} (there : relay.registries = [registry])
    (found : registry.find? config.id = some entry) :
    ∃ final, relay.listen config 0 factory sink diagnostics = (final, .ok relay.listeners.length) ∧
      Enrols relay config sink diagnostics entry.connection final ∧ final.brokers = relay.brokers ∧
      final.registries = [registry.adjust config.id (· + 1)] ∧
      final.connections = relay.connections := by
  refine ⟨_, Prod.ext rfl ?_, ⟨?_, ?_, ?_, ?_, ?_, ?_, ?_, ?_⟩, ?_, ?_, ?_⟩
  all_goals
    simp [listen, resolve, there, Registry.retain?, found, addHandle]
  exact fun label => accepted_log label _

theorem listen_opened (config : ListenerConfig) (sink : Sink) (diagnostics : Option String)
    (required : Option (String × String)) (known : relay.brokers = [broker])
    (there : relay.registries = [registry]) (found : registry.find? config.id = none) :
    ∃ final, relay.listen config 0 (.memory 0 required) sink diagnostics =
        (final, .ok relay.listeners.length) ∧
      Enrols relay config sink diagnostics relay.connections.length final ∧
      final.brokers = [(broker.connect required config.params).1] ∧
      final.registries = [(registry.enter config.id config.params relay.connections.length).1] ∧
      final.connections = relay.connections ++ [.memory 0 broker.connections.length] := by
  refine ⟨_, Prod.ext rfl ?_, ⟨?_, ?_, ?_, ?_, ?_, ?_, ?_, ?_⟩, ?_, ?_, ?_⟩
  all_goals
    simp [listen, resolve, there, Registry.retain?, found, addHandle, connect, known, addConnection,
      setBroker, Memory.Broker.connect]
  exact fun label => accepted_log label _

namespace Mirrors

variable (mirrors : Mirrors relay broker registry roster)
include mirrors

theorem listener_of_handle {h : Handle} (member : h ∈ relay.handles) (unreleased : h.released = false) :
    ∃ l x, relay.listeners[l]? = some x ∧ x.isStopped = false ∧
      Seated relay.handles broker registry roster.required relay.listeners l x h.connection := by
  obtain ⟨l, inside, rfl⟩ := List.getElem_of_mem member
  have present := List.getElem?_eq_getElem (mirrors.handles ▸ inside)
  obtain ⟨connection, seat⟩ := mirrors.seats l _ present
  have has := seat.has
  rw [List.getElem?_eq_getElem inside, Option.some.injEq] at has
  refine ⟨l, _, present, ?_, ?_⟩
  · rw [has] at unreleased
    exact unreleased
  · rw [has]
    exact seat

theorem listener_of_references {name : String} (positive : 0 < references relay.listeners name) :
    ∃ l x connection, relay.listeners[l]? = some x ∧ x.isStopped = false ∧ x.config.id = name ∧
      Seated relay.handles broker registry roster.required relay.listeners l x connection := by
  obtain ⟨x, member, fits⟩ := List.countP_pos_iff.mp positive
  simp only [Bool.and_eq_true, decide_eq_true_eq, Bool.not_eq_eq_eq_not, Bool.not_true] at fits
  obtain ⟨named, running⟩ := fits
  obtain ⟨l, present⟩ := List.getElem?_of_mem member
  obtain ⟨connection, seat⟩ := mirrors.seats l x present
  exact ⟨l, x, connection, present, running, named, seat⟩

theorem listener_of_entry {name : String} {entry : RegistryEntry Nat}
    (found : registry.find? name = some entry) :
    ∃ l x, relay.listeners[l]? = some x ∧ x.isStopped = false ∧ x.config.id = name ∧
      Seated relay.handles broker registry roster.required relay.listeners l x entry.connection ∧
      entry = ⟨name, entry.connection, references relay.listeners name⟩ := by
  have positive := mirrors.entries name (by simp [found])
  obtain ⟨l, x, connection, present, running, rfl, seat⟩ := mirrors.listener_of_references positive
  have entered := seat.entered running
  rw [found, Option.some.injEq] at entered
  rw [entered]
  exact ⟨l, x, present, running, rfl, seat, rfl⟩

theorem references_eq_zero {name : String} (unknown : registry.find? name = none) :
    references relay.listeners name = 0 := by
  apply Nat.eq_zero_of_not_pos
  intro positive
  obtain ⟨l, x, connection, _, running, rfl, seat⟩ := mirrors.listener_of_references positive
  rw [seat.entered running] at unknown
  cases unknown

theorem seated_enrolled {after : Memory.Broker Callback} {left : Registry Nat} {connection l : Nat}
    {x : Listener}
    (kept : ∀ c < broker.connections.length, after.connections[c]? = broker.connections[c]?)
    (same : after.receivers = broker.receivers)
    (answers : ∀ other, left.find? other = if other = config.id then
      some ⟨config.id, connection, references relay.listeners config.id + 1⟩ else registry.find? other)
    (joined : ∀ entry, registry.find? config.id = some entry → entry.connection = connection)
    (there : relay.listeners[l]? = some x) :
    ∃ its, Seated (relay.handles ++ [⟨config.id, 0, connection, false, true, false⟩]) after left
      roster.required
      (relay.listeners ++ [{ config, handle := relay.handles.length, sink, diagnostics }]) l x its := by
  obtain ⟨its, seat⟩ := mirrors.seats l x there
  have inside := (List.getElem?_eq_some_iff.mp seat.has).1
  refine ⟨its, seat.carry (List.getElem?_append_left inside) ?_ ?_ ?_⟩
  · intro running
    exact kept its (List.getElem?_eq_some_iff.mp (seat.connected running)).1
  · intro running
    have entered := seat.entered running
    rw [references_append, answers]
    by_cases named : x.config.id = config.id
    · rw [named] at entered ⊢
      have old : its = connection := joined _ entered
      rw [if_pos rfl, old]
      simp [Listener.isStopped]
    · rw [if_neg named, entered]
      simp [Ne.symm named]
  · intro receiver destination given
    rw [same]
    exact given

theorem enrolled {after : Memory.Broker Callback} {left : Registry Nat} {connection : Nat}
    (connected : after.connections[connection]? =
      some ⟨config.destination, roster.required, config.username, config.password, false⟩)
    (kept : ∀ c < broker.connections.length, after.connections[c]? = broker.connections[c]?)
    (same : after.receivers = broker.receivers) (others : after.listeners = broker.listeners)
    (available : after.unavailable = broker.unavailable)
    (answers : ∀ other, left.find? other = if other = config.id then
      some ⟨config.id, connection, references relay.listeners config.id + 1⟩ else registry.find? other)
    (joined : ∀ entry, registry.find? config.id = some entry → entry.connection = connection)
    (named : ∀ h ∈ relay.handles, h.released = false → h.connection = connection → h.name = config.id)
    (enrols : Enrols relay config sink diagnostics connection final)
    (brokers : final.brokers = [after]) (registries : final.registries = [left])
    (connections : final.connections = (List.range after.connections.length).map (.memory 0)) :
    Mirrors final after left (roster.after (.listen config sink diagnostics)) := by
  obtain ⟨_, _, _, receivers, _, handles, listeners, _⟩ := id enrols
  have count := references_append relay.listeners
    { config, handle := relay.handles.length, sink, diagnostics }
  refine ⟨enrols.calm mirrors.calm, brokers, registries, connections, ?_,
    available.trans mirrors.unavailable, ?_, ?_, ?_, ?_, ?_, ?_, ?_⟩
  · rw [receivers, mirrors.receivers, same]
  · rw [listeners, List.map_append, ← mirrors.members]
    rfl
  · rw [handles, listeners, List.length_append, List.length_append, mirrors.handles]
    rfl
  · intro l x there
    rw [listeners] at there
    rw [handles, listeners]
    rcases last_or_same there with ⟨rfl, rfl⟩ | there
    · refine ⟨connection, mirrors.handles, ?_, fun _ => connected, ?_, ?_, nofun, nofun⟩
      · rw [← mirrors.handles, List.getElem?_concat_length]
        rfl
      · intro _
        rw [count, answers, if_pos rfl]
        simp [Listener.isStopped]
      · simp
    · exact mirrors.seated_enrolled kept same answers joined there
  · rw [handles]
    exact mirrors.named.append named
  · intro name found
    rw [listeners, count]
    rw [answers] at found
    by_cases new : name = config.id
    · rw [new]
      simp [Listener.isStopped]
    · rw [if_neg new] at found
      have positive := mirrors.entries name found
      omega
  · rw [listeners]
    exact mirrors.apart.append rfl
  · rw [others, listeners, subscriptions_append _ rfl]
    exact mirrors.subscribed

/-- A listener is made in any case, as long as those of its name ask for the same connection. -/
theorem listen (config : ListenerConfig) (sink : Sink) (diagnostics : Option String)
    (agree : ∀ member ∈ roster.members, member.config.id = config.id →
      member.config.params = config.params) :
    ∃ final, relay.listen config 0 (.memory 0 roster.required) sink diagnostics =
        (final, .ok relay.listeners.length) ∧
      final.Follows (roster.after (.listen config sink diagnostics)) ∧
      ∀ label, final.accepted label = relay.accepted label := by
  cases found : registry.find? config.id with
  | some entry =>
    obtain ⟨final, made, enrols, brokers, registries, connections⟩ :=
      listen_retained config sink diagnostics (.memory 0 roster.required) mirrors.registries found
    obtain ⟨l, x, present, running, named, seat, same⟩ := mirrors.listener_of_entry found
    have params : x.config.params = config.params := by
      apply agree x.member
      · rw [mirrors.members]
        exact List.mem_map_of_mem (List.mem_of_getElem? present)
      · exact named
    simp only [ListenerConfig.params, ConnectionParams.mk.injEq] at params
    obtain ⟨_, destination, username, password⟩ := params
    have connected := seat.connected running
    rw [destination, username, password] at connected
    refine ⟨final, made, ⟨broker, _, mirrors.enrolled connected (fun _ _ => rfl) rfl rfl rfl ?_ ?_ ?_
      enrols (brokers.trans mirrors.brokers) registries ?_⟩, enrols.accepted⟩
    · intro other
      rw [Registry.find?_adjust, found, same]
      rfl
    · intro other also
      rw [found] at also
      cases also
      rfl
    · intro h member unreleased connects
      have has := seat.has
      rw [running] at has
      rw [← named]
      exact mirrors.named h member _ (List.mem_of_getElem? has) unreleased rfl connects
    · rw [connections, mirrors.connections]
  | none =>
    obtain ⟨final, made, enrols, brokers, registries, connections⟩ :=
      listen_opened config sink diagnostics roster.required mirrors.brokers mirrors.registries found
    have next : relay.connections.length = broker.connections.length := by simp [mirrors.connections]
    rw [next] at enrols registries
    refine ⟨final, made, ⟨(broker.connect roster.required config.params).1, _,
      mirrors.enrolled ?_ ?_ rfl rfl rfl ?_ ?_ ?_ enrols brokers registries ?_⟩, enrols.accepted⟩
    · simp [Memory.Broker.connect, ListenerConfig.params]
    · intro c inside
      exact List.getElem?_append_left inside
    · intro other
      rw [Registry.find?_enter, mirrors.references_eq_zero found]
      by_cases named : other = config.id
      · simp [named, found]
      · simp [named]
    · intro entry also
      rw [found] at also
      cases also
    · intro h member unreleased connects
      -- Only this connection is new: those that others have a reference on were there before.
      obtain ⟨l, x, present, running, seat⟩ := mirrors.listener_of_handle member unreleased
      have inside := (List.getElem?_eq_some_iff.mp (seat.connected running)).1
      omega
    · simp [connections, mirrors.connections, Memory.Broker.connect, List.range_succ]

end Mirrors

end EventRelay.Relay
