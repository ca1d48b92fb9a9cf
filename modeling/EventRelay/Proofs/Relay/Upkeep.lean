import EventRelay.Proofs.Relay.Mirror

namespace EventRelay

theorem Memory.Broker.createReceiver_open {Listener : Type} {broker : Memory.Broker Listener}
    {roster : Roster} {config : ListenerConfig} {c : Nat}
    (connected : broker.connections[c]? =
      some ⟨config.destination, roster.required, config.username, config.password, false⟩)
    (unavailable : broker.unavailable = roster.unavailable) :
    if roster.admits config then
      broker.createReceiver c = ({ broker with
        receivers := broker.receivers ++ [config.destination]
        created := broker.created + 1 }, .ok broker.receivers.length)
    else ∃ e, broker.createReceiver c = (broker, .error e) := by
  simp only [createReceiver, connected, refusal?, unavailable, Roster.admits,
    Memory.Connection.accepted]
  cases roster.unavailable with
  | true => simp
  | false =>
    cases roster.required with
    | none => simp
    | some credentials =>
      obtain ⟨username, password⟩ := credentials
      by_cases presented : config.username = some username ∧ config.password = some password <;>
        simp [presented]

theorem Relay.withdrawn_eq (broker : Memory.Broker Callback) (closing : Option (Nat × LogRecord)) :
    ∃ connections closed, withdrawn broker closing = { broker with connections, closed } ∧
      connections.length = broker.connections.length ∧
      ∀ c, (∀ record, closing ≠ some (c, record)) → connections[c]? = broker.connections[c]? := by
  cases closing with
  | none => exact ⟨_, _, rfl, rfl, fun _ _ => rfl⟩
  | some last =>
    obtain ⟨c, record⟩ := last
    simp only [withdrawn, Memory.Broker.closeConnection]
    split
    · rename_i connection found
      split
      · exact ⟨_, _, rfl, rfl, fun _ _ => rfl⟩
      · refine ⟨_, _, rfl, List.length_set, ?_⟩
        intro other apart
        apply List.getElem?_set_ne
        rintro rfl
        exact apart record rfl
    · exact ⟨_, _, rfl, rfl, fun _ _ => rfl⟩

namespace Relay

variable {relay : Relay} {broker : Memory.Broker Callback} {registry : Registry Nat} {roster : Roster}

def Follows (relay : Relay) (roster : Roster) : Prop :=
  ∃ broker registry, Mirrors relay broker registry roster

namespace Mirrors

variable (mirrors : Mirrors relay broker registry roster) (l : Nat)
include mirrors

theorem received_lt {receiver : Nat} {callback : Callback}
    (member : (receiver, callback) ∈ broker.listeners) : receiver < broker.receivers.length := by
  obtain ⟨l, listener, present, slot, _⟩ := mem_subscriptions.mp (mirrors.subscribed.mem_iff.mp member)
  obtain ⟨connection, seat⟩ := mirrors.seats l listener present
  exact (List.getElem?_eq_some_iff.mp (seat.received receiver slot)).1

theorem start_initialized {listener : Listener} (present : relay.listeners[l]? = some listener)
    (initialized : listener.lifecycle.state = .initialized) :
    ∃ final result, relay.call (.start l .claim) = (final, some (.started result)) ∧
      final.Follows (roster.after (.start l)) ∧
      (∀ label, final.accepted label = relay.accepted label) ∧
      (result = .ok () ↔ roster.admits listener.config) := by
  obtain ⟨connection, seat⟩ := mirrors.seats l listener present
  have running : listener.isStopped = false := by simp [Listener.isStopped, initialized]
  have without : listener.lifecycle.slot = none := by
    have slot := seat.slot
    rw [initialized] at slot
    simpa using slot
  have has : relay.handles[listener.handle]? =
      some ⟨listener.config.id, 0, connection, listener.isStopped, true, false⟩ := by
    rw [seat.handle]
    exact seat.has
  have connected := seat.connected running
  have wired : relay.connections[connection]? = some (.memory 0 connection) := by
    have inside := (List.getElem?_eq_some_iff.mp connected).1
    simp [mirrors.connections, inside]
  have there : relay.brokers[0]? = some broker := by simp [mirrors.brokers]
  have next : relay.receivers.length = broker.receivers.length := by simp [mirrors.receivers]
  have answers := Memory.Broker.createReceiver_open connected mirrors.unavailable
  have told : roster.started listener.member =
      if roster.admits listener.config then .started else .starting := by
    simp [Roster.started, Listener.member, initialized]
  cases admitted : roster.admits listener.config with
  | true =>
    rw [admitted, if_pos rfl] at answers told
    obtain ⟨final, completes, brokers, receivers, registries, handles, listeners⟩ :=
      call_start_started mirrors.calm present initialized has wired there answers
    rw [next] at listeners
    rw [mirrors.brokers, List.set_cons_zero] at brokers
    have new : ∀ entry ∈ broker.listeners, entry.1 ≠ broker.receivers.length :=
      fun entry member => Nat.ne_of_lt (mirrors.received_lt member)
    refine ⟨final, _, completes.call, ⟨_, registry, mirrors.progressed present running ?_ ?_ told
      ?_ ?_ ?_ ?_ ?_ completes brokers ?_ registries handles listeners⟩,
      completes.accepted, by simp⟩
    · exact ⟨by simp, by simp⟩
    · simp
    · rfl
    · rfl
    · intro receiver destination given
      have inside := (List.getElem?_eq_some_iff.mp given).1
      simpa [Memory.Broker.setListener, List.getElem?_append_left inside] using given
    · rintro receiver ⟨⟩
      simp [Memory.Broker.setListener]
    · exact subscribed_started mirrors.subscribed present without rfl new
    · simp [receivers, mirrors.receivers, Memory.Broker.setListener, List.range_succ]
  | false =>
    rw [admitted] at answers told
    obtain ⟨e, denied⟩ := answers
    obtain ⟨final, completes, brokers, receivers, registries, handles, listeners⟩ :=
      call_start_denied mirrors.calm present initialized has wired there denied
    rw [mirrors.brokers, List.set_cons_zero] at brokers
    refine ⟨final, _, completes.call, ⟨_, registry, mirrors.progressed present running ?_ ?_ told
      rfl rfl ?_ ?_ ?_ completes brokers ?_ registries handles listeners⟩,
      completes.accepted, by simp⟩
    · exact ⟨by simp, by simp⟩
    · simp [without]
    · exact fun _ _ given => given
    · simp [without]
    · rw [subscriptions_set present (y := { listener with lifecycle.state := .starting }) rfl]
      exact mirrors.subscribed
    · rw [receivers, mirrors.receivers]

theorem start : ∃ final reply, relay.call (.start l .claim) = (final, some reply) ∧
    final.Follows (roster.after (.start l)) ∧
    ∀ label, final.accepted label = relay.accepted label := by
  cases present : relay.listeners[l]? with
  | none =>
    obtain ⟨final, completes, brokers, receivers, registries, handles, listeners⟩ :=
      call_unknown mirrors.calm present (.inl rfl)
    have same : roster.after (.start l) = roster :=
      mirrors.start_settled (by simp [present])
    rw [same]
    exact ⟨final, _, completes.call, ⟨_, _, mirrors.unchanged completes brokers receivers registries
      handles listeners⟩, completes.accepted⟩
  | some listener =>
    by_cases initialized : listener.lifecycle.state = .initialized
    · obtain ⟨final, result, called, follows, accepted, _⟩ :=
        mirrors.start_initialized l present initialized
      exact ⟨final, _, called, follows, accepted⟩
    · obtain ⟨final, completes, brokers, receivers, registries, handles, listeners⟩ :=
        call_start_ignored mirrors.calm present initialized
      have same : roster.after (.start l) = roster :=
        mirrors.start_settled (by simp [present, initialized])
      rw [same]
      exact ⟨final, _, completes.call, ⟨_, _, mirrors.unchanged completes brokers receivers registries
        handles listeners⟩, completes.accepted⟩

theorem shares {listener x : Listener} {other connection its : Nat}
    (present : relay.listeners[l]? = some listener) (running : listener.isStopped = false)
    (seat : Seated relay.handles broker registry roster.required relay.listeners l listener connection)
    (apart : other ≠ l) (there : relay.listeners[other]? = some x) (goesOn : x.isStopped = false)
    (seated : Seated relay.handles broker registry roster.required relay.listeners other x its) :
    (x.config.id = listener.config.id →
      its = connection ∧ 2 ≤ references relay.listeners listener.config.id) ∧
    (x.config.id ≠ listener.config.id → its ≠ connection) := by
  constructor
  · intro named
    have entered := seat.entered running
    rw [← named, seated.entered goesOn] at entered
    have count := references_stop present
      (y := { listener with lifecycle := ⟨.stopped, none⟩ }) rfl running rfl listener.config.id
    have remains : (relay.listeners.set l { listener with lifecycle := ⟨.stopped, none⟩ })[other]? =
        some x := by rw [List.getElem?_set_ne apart.symm, there]
    have positive := references_pos remains goesOn
    rw [named] at positive
    rw [if_pos rfl] at count
    refine ⟨?_, by omega⟩
    cases entered
    rfl
  · intro named same
    have has := seat.has
    have having := seated.has
    rw [running] at has
    rw [goesOn, same] at having
    exact named (mirrors.named _ (List.mem_of_getElem? having) _ (List.mem_of_getElem? has) rfl rfl rfl)

theorem seated_halted {after : Memory.Broker Callback} {left : Registry Nat} {listener x : Listener}
    {other connection : Nat} (present : relay.listeners[l]? = some listener)
    (running : listener.isStopped = false)
    (seat : Seated relay.handles broker registry roster.required relay.listeners l listener connection)
    (kept : ∀ other, other ≠ connection → after.connections[other]? = broker.connections[other]?)
    (shared : 2 ≤ references relay.listeners listener.config.id →
      after.connections = broker.connections)
    (same : after.receivers = broker.receivers)
    (answers : ∀ other, left.find? other = if other = listener.config.id then
        if references relay.listeners listener.config.id ≤ 1 then none
        else some ⟨listener.config.id, connection,
          references relay.listeners listener.config.id - 1⟩
      else registry.find? other)
    (apart : other ≠ l) (there : relay.listeners[other]? = some x) :
    ∃ its, Seated (relay.handles.set l ⟨listener.config.id, 0, connection, true, true, false⟩) after
      left roster.required (relay.listeners.set l { listener with lifecycle := ⟨.stopped, none⟩ })
      other x its := by
  obtain ⟨its, seated⟩ := mirrors.seats other x there
  have shares := fun goesOn => mirrors.shares l present running seat apart there goesOn seated
  refine ⟨its, seated.carry (List.getElem?_set_ne apart.symm) ?_ ?_ ?_⟩
  · intro goesOn
    obtain ⟨together, alone⟩ := shares goesOn
    by_cases named : x.config.id = listener.config.id
    · rw [shared (together named).2]
    · exact kept its (alone named)
  · intro goesOn
    obtain ⟨together, alone⟩ := shares goesOn
    have fewer := references_stop present (y := { listener with lifecycle := ⟨.stopped, none⟩ }) rfl
      running rfl x.config.id
    rw [answers]
    by_cases named : x.config.id = listener.config.id
    · obtain ⟨sameConnection, two⟩ := together named
      rw [named] at fewer ⊢
      rw [if_pos rfl] at fewer ⊢
      rw [if_neg (by omega), sameConnection]
      congr 2
      omega
    · rw [if_neg (Ne.symm named)] at fewer
      rw [if_neg named, seated.entered goesOn, ← fewer, Nat.add_zero]
  · intro receiver destination given
    rw [same]
    exact given

theorem halted {final : Relay} {after : Memory.Broker Callback} {left : Registry Nat}
    {listener : Listener} {connection : Nat} (present : relay.listeners[l]? = some listener)
    (running : listener.isStopped = false)
    (seat : Seated relay.handles broker registry roster.required relay.listeners l listener connection)
    (length : after.connections.length = broker.connections.length)
    (kept : ∀ other, other ≠ connection → after.connections[other]? = broker.connections[other]?)
    (shared : 2 ≤ references relay.listeners listener.config.id →
      after.connections = broker.connections)
    (same : after.receivers = broker.receivers) (available : after.unavailable = broker.unavailable)
    (subscribed : after.listeners.Perm
      (subscriptions (relay.listeners.set l { listener with lifecycle := ⟨.stopped, none⟩ })))
    (answers : ∀ other, left.find? other = if other = listener.config.id then
        if references relay.listeners listener.config.id ≤ 1 then none
        else some ⟨listener.config.id, connection,
          references relay.listeners listener.config.id - 1⟩
      else registry.find? other)
    {frame : Frame} {reply : Reply} (completes : Completes relay frame reply final)
    (brokers : final.brokers = [after]) (receivers : final.receivers = relay.receivers)
    (registries : final.registries = [left])
    (handles : final.handles =
      relay.handles.set l ⟨listener.config.id, 0, connection, true, true, false⟩)
    (listeners : final.listeners =
      relay.listeners.set l { listener with lifecycle := ⟨.stopped, none⟩ }) :
    Mirrors final after left (roster.after (.stop l)) := by
  have count := references_stop present (y := { listener with lifecycle := ⟨.stopped, none⟩ }) rfl
    running rfl
  have inside : l < relay.handles.length := (List.getElem?_eq_some_iff.mp seat.has).1
  refine ⟨completes.calm, brokers, registries, ?_, ?_, available.trans mirrors.unavailable, ?_, ?_, ?_,
    ?_, ?_, ?_, ?_⟩
  · rw [completes.connections, mirrors.connections, length]
  · rw [receivers, mirrors.receivers, same]
  · rw [listeners, ← members_set present (f := fun member => { member with state := .stopped }) rfl]
    simp only [Roster.after, mirrors.members]
  · rw [handles, listeners, List.length_set, List.length_set]
    exact mirrors.handles
  · intro other x there
    rw [listeners] at there
    rw [handles, listeners]
    rcases replaced_or_same there with ⟨rfl, rfl⟩ | ⟨apart, old⟩
    · refine ⟨connection, seat.handle, List.getElem?_set_self inside, ?_, ?_, ?_, ?_, ?_⟩
      · intro goesOn
        cases goesOn
      · intro goesOn
        cases goesOn
      · simp
      · intro receiver given
        cases given
      · simp
    · exact mirrors.seated_halted l present running seat kept shared same answers apart old
  · rw [handles]
    exact mirrors.named.set rfl
  · intro name found
    have fewer := count name
    rw [listeners]
    rw [answers] at found
    by_cases named : name = listener.config.id
    · rw [if_pos named] at found
      rw [if_pos named.symm] at fewer
      split at found
      · cases found
      · rw [named] at fewer ⊢
        omega
    · rw [if_neg named] at found
      rw [if_neg (Ne.symm named)] at fewer
      have positive := mirrors.entries name found
      omega
  · rw [listeners]
    apply mirrors.apart.set
    intro receiver other x given
    cases given
  · rw [listeners]
    exact subscribed

theorem stop_running {listener : Listener} (present : relay.listeners[l]? = some listener)
    (running : listener.isStopped = false) :
    ∃ final, relay.call (.stop l .read) = (final, some .finished) ∧
      final.Follows (roster.after (.stop l)) ∧
      ∀ label, final.accepted label = relay.accepted label := by
  obtain ⟨connection, seat⟩ := mirrors.seats l listener present
  have has : relay.handles[listener.handle]? =
      some ⟨listener.config.id, 0, connection, listener.isStopped, true, false⟩ := by
    rw [seat.handle]
    exact seat.has
  have early : listener.lifecycle.state ≠ .stopping ∧ listener.lifecycle.state ≠ .stopped := by
    refine ⟨seat.settled, ?_⟩
    simpa [Listener.isStopped] using running
  have given : ∀ receiver, listener.lifecycle.slot = some receiver →
      relay.receivers[receiver]? = some (.memory 0 receiver) := by
    intro receiver slot
    have inside := (List.getElem?_eq_some_iff.mp (seat.received receiver slot)).1
    simp [mirrors.receivers, inside]
  have inside := (List.getElem?_eq_some_iff.mp (seat.connected running)).1
  obtain ⟨left, closing, removed, answers, closes⟩ := Registry.giveBack (seat.entered running)
  have only : ∀ other record, closing = some (other, record) → other = connection ∧
      references relay.listeners listener.config.id ≤ 1 := by
    intro other record last
    split at closes
    · rename_i lastOne
      obtain ⟨_, same⟩ := closes
      rw [last] at same
      cases same
      exact ⟨rfl, lastOne⟩
    · rw [last] at closes
      cases closes
  have wired : ∀ other record, closing = some (other, record) →
      relay.connections[other]? = some (.memory 0 other) := by
    intro other record last
    simp [mirrors.connections, (only other record last).1, inside]
  obtain ⟨final, completes, brokers, receivers, registries, handles, listeners⟩ :=
    call_stop_stopped mirrors.calm present early mirrors.brokers given has running mirrors.registries
      rfl removed wired
  obtain ⟨subscribers, empty, subscribed⟩ := emptied_eq mirrors.apart mirrors.subscribed present
  obtain ⟨connections, closed, same, length, kept⟩ :=
    withdrawn_eq { broker with listeners := subscribers } closing
  rw [empty, same] at brokers
  rw [seat.handle] at handles
  refine ⟨final, completes.call, ⟨_, left, mirrors.halted l present running seat ?_ ?_ ?_ ?_ ?_ ?_
    answers completes brokers receivers registries handles listeners⟩, completes.accepted⟩
  · exact length
  · intro other apart
    apply kept
    intro record last
    exact apart (only other record last).1
  · intro two
    apply List.ext_getElem?
    intro other
    apply kept
    intro record last
    have bound := (only other record last).2
    omega
  · rfl
  · rfl
  · exact subscribed

theorem stop : ∃ final, relay.call (.stop l .read) = (final, some .finished) ∧
    final.Follows (roster.after (.stop l)) ∧
    ∀ label, final.accepted label = relay.accepted label := by
  cases present : relay.listeners[l]? with
  | none =>
    obtain ⟨final, completes, brokers, receivers, registries, handles, listeners⟩ :=
      call_unknown mirrors.calm present (.inr rfl)
    rw [mirrors.stop_settled (by simp [present])]
    exact ⟨final, completes.call, ⟨_, _, mirrors.unchanged completes brokers receivers registries
      handles listeners⟩, completes.accepted⟩
  | some listener =>
    cases running : listener.isStopped with
    | false => exact mirrors.stop_running l present running
    | true =>
      have stopped : listener.lifecycle.state = .stopped := by
        simpa [Listener.isStopped] using running
      obtain ⟨final, completes, brokers, receivers, registries, handles, listeners⟩ :=
        call_stop_ignored mirrors.calm present (.inr stopped)
      rw [mirrors.stop_settled (by simp [present, stopped])]
      exact ⟨final, completes.call, ⟨_, _, mirrors.unchanged completes brokers receivers registries
        handles listeners⟩, completes.accepted⟩

end Mirrors

end Relay

end EventRelay
