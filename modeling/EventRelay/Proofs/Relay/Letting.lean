import EventRelay.Proofs.Registry
import EventRelay.Proofs.Relay.Calls

namespace EventRelay.Relay

variable {relay next : Relay} {l h : Nat} {listener : Listener} {handle : Handle}
  {registry left : Registry Nat} {closing : Option (Nat × LogRecord)} {broker : Memory.Broker Callback}

/-- What a handle's reference leaves when it is given back, if that was not done before. -/
def Returns (handle : Handle) (registry left : Registry Nat) (closing : Option (Nat × LogRecord)) : Prop :=
  if handle.released then left = registry ∧ closing = none
  else (registry.decrement handle.name).removeUnused handle.name = (left, closing)

theorem Returns.found (returns : Returns handle registry left closing) :
    (∀ name entry, left.find? name = some entry →
      ∃ old, registry.find? name = some old ∧ old.connection = entry.connection) ∧
    ∀ connection record, closing = some (connection, record) →
      ∃ old, registry.find? handle.name = some old ∧ old.connection = connection := by
  unfold Returns at returns
  split at returns
  · obtain ⟨rfl, rfl⟩ := returns
    exact ⟨fun name entry found => ⟨entry, found, rfl⟩, nofun⟩
  · exact Registry.found_before returns

def closeLater (relay : Relay) (name : String) : Option (Nat × LogRecord) → Relay
  | some (connection, _) => (relay.addTask (.closeShared name connection)).1
  | none => relay

theorem dropHandle_eq (has : relay.handles[h]? = some handle)
    (there : relay.registries[handle.registry]? = some registry)
    (returns : Returns handle registry left closing) :
    ∃ records, relay.dropHandle true h =
      ((relay.putHolding h handle ⟨left, true⟩).log records).closeLater handle.name closing := by
  obtain ⟨known, _⟩ := List.getElem?_eq_some_iff.mp has
  obtain ⟨among, _⟩ := List.getElem?_eq_some_iff.mp there
  cases released : handle.released with
  | true =>
    rw [Returns, if_pos released] at returns
    obtain ⟨rfl, rfl⟩ := returns
    have mark : Registry.release handle.name ⟨left, handle.released⟩ .mark =
        (⟨left, true⟩, [], .done) := by
      simp [Registry.release, released]
    have marked := releaseHandle_eq has there mark
    refine ⟨[], ?_⟩
    simp only [dropHandle, dropHandle.go, marked]
    rfl
  | false =>
    rw [Returns, if_neg (by simp [released])] at returns
    have mark : Registry.release handle.name ⟨registry, handle.released⟩ .mark =
        (⟨registry, true⟩, [], .decrement) := by
      simp [Registry.release, released]
    have marked := releaseHandle_eq has there mark
    have decremented := @releaseHandle_eq (relay.putHolding h handle ⟨registry, true⟩)
      { handle with released := true } h registry .decrement .remove
      ⟨registry.decrement handle.name, true⟩ [] (by simp [putHolding, known])
      (by simp [putHolding, among]) rfl
    obtain ⟨records, remove⟩ := release_remove returns true
    have removed := @releaseHandle_eq
      (relay.putHolding h handle ⟨registry.decrement handle.name, true⟩)
      { handle with released := true } h (registry.decrement handle.name) .remove _ _ _
      (by simp [putHolding, known]) (by simp [putHolding, among]) remove
    rw [putHolding_putHolding] at decremented removed
    refine ⟨records, ?_⟩
    simp only [dropHandle, dropHandle.go, marked, log_nil, decremented, removed]
    cases closing with
    | none => rfl
    | some last => simp [afterRemoval, putHolding, known, closeLater]

theorem foldl_once {f : Relay → Nat → Relay} {indices : List Nat} (once : indices.Nodup)
    (member : l ∈ indices) (before : ∀ i ∈ indices, i ≠ l → f relay i = relay)
    (now : f relay l = next) (after : ∀ i ∈ indices, i ≠ l → f next i = next) :
    indices.foldl f relay = next := by
  induction indices with
  | nil => cases member
  | cons i rest ih =>
    obtain ⟨new, once⟩ := List.nodup_cons.mp once
    rw [List.foldl_cons]
    by_cases here : i = l
    · subst here
      rw [now]
      apply foldl_unchanged
      intro j later
      apply after j (List.mem_cons_of_mem _ later)
      rintro rfl
      exact new later
    · rw [before i List.mem_cons_self here]
      have later := (List.mem_cons.mp member).resolve_left (Ne.symm here)
      exact ih once later (fun j member => before j (List.mem_cons_of_mem _ member))
        fun j member => after j (List.mem_cons_of_mem _ member)

theorem collect_once (present : relay.listeners[l]? = some listener) (kept : listener.dropped = false)
    (unheld : relay.isHeld (.listener l) = false)
    (others : ∀ i other, i ≠ l → relay.listeners[i]? = some other → other.dropped = false →
      .listener i ∈ relay.held)
    (drops : (relay.setListener l { listener with dropped := true }).dropHandle true listener.handle = next)
    (held : next.AllHeld) : relay.collect true = next := by
  obtain ⟨inside, _⟩ := List.getElem?_eq_some_iff.mp present
  -- A visit tests for holders at its own time: before `l` is dropped the others are held, afterwards nobody
  -- is left that is not.
  have swept : (List.range relay.listeners.length).foldl (visitListener true) relay = next := by
    apply foldl_once List.nodup_range (List.mem_range.mpr inside)
    · intro i _ apart
      unfold visitListener
      cases there : relay.listeners[i]? with
      | none => rfl
      | some other =>
        cases dropped : other.dropped with
        | true => simp [dropped]
        | false => simp [isHeld, others i other apart there dropped]
    · simp only [visitListener, present, kept, unheld, Bool.or_false, drops]
      rfl
    · exact fun i _ _ => held.visitListener_eq true i
  rw [collect_eq_visits, swept]
  exact held.visitHandles_eq true

theorem isHeld_eq_false (idle : ∀ task ∈ relay.tasks, task.IsFinished) (noScripts : relay.scripts = [])
    (noMqtt : relay.mqtt = []) (brokers : relay.brokers = [broker])
    (silent : ∀ entry ∈ broker.listeners, entry.2.holds (.listener l) = false)
    (free : .listener l ∉ relay.held) : relay.isHeld (.listener l) = false := by
  have tasks : relay.tasks.any (fun task => task.holds (.listener l)) = false := by
    rw [List.any_eq_false]
    intro task member holds
    obtain ⟨reply, rfl⟩ := idle task member
    cases holds
  have callbacks : broker.listeners.any (fun entry => entry.2.holds (.listener l)) = false := by
    rw [List.any_eq_false]
    intro entry member
    simp [silent entry member]
  simp [isHeld, free, tasks, brokers, callbacks, noScripts, noMqtt]

theorem rest_closeLater (calm : relay.Calm) (brokers : relay.brokers = [broker]) (name : String)
    (connected : ∀ connection record, closing = some (connection, record) →
      relay.connections[connection]? = some (.memory 0 connection)) :
    ∃ tasks, (relay.closeLater name closing).rest =
        { relay with brokers := [withdrawn broker closing], tasks } ∧
      ∀ task ∈ tasks, task.IsFinished := by
  cases closing with
  | none =>
    refine ⟨relay.tasks, ?_, calm.idle⟩
    have same : { relay with brokers := [withdrawn broker none] } = relay := by
      simp only [withdrawn, ← brokers]
    rw [same]
    exact settle_of_idle calm.idle calm.noMqtt _
  | some last =>
    obtain ⟨connection, record⟩ := last
    have there : relay.brokers[0]? = some broker := by simp [brokers]
    have chain := @reaches_sharedClosed (relay.addTask (.closeShared name connection)).1 relay.tasks.length
      0 connection broker name connection (length_addTask _ _) (connected connection record rfl) there
    rw [addTask_eq] at chain
    have held : ((relay.addTask (.closeShared name connection)).1.setBroker 0
        (broker.closeConnection connection)).AllHeld := ⟨calm.allHeld.listeners, calm.allHeld.handles⟩
    have rested := rest_of_reaches calm.idle chain (by decide) rfl calm.noMqtt (held.onTask ..)
    have after : (relay.addTask (.closeShared name connection)).1.setBroker 0
        (broker.closeConnection connection) =
          { (relay.addTask (.closeShared name connection)).1 with
            brokers := [withdrawn broker (some (connection, record))] } := by
      simp [setBroker, addTask, brokers, withdrawn]
    rw [after] at rested
    exact ⟨_, rested, @idle_onTask _ _ (.closeShared name connection) .finished calm.idle rfl⟩

theorem Calm.log (calm : relay.Calm) (records : List LogRecord) : (relay.log records).Calm := by
  rw [log_eq]
  exact calm.noted _

def part (relay : Relay) (l : Nat) (listener : Listener) (handle : Handle) (left : Registry Nat) : Relay :=
  ({ relay with held := relay.held.erase (.listener l) }.setListener l
    { listener with dropped := true }).putHolding listener.handle handle ⟨left, true⟩

theorem held_others (calm : relay.Calm) {i : Nat} {other : Listener} (apart : i ≠ l)
    (there : relay.listeners[i]? = some other) (kept : other.dropped = false) :
    .listener i ∈ relay.held.erase (.listener l) := by
  have different : Held.listener i ≠ .listener l := fun same => apart (by cases same; rfl)
  exact (List.mem_erase_of_ne different).mpr (calm.allHeld.listeners i other there kept)

theorem calm_part (calm : relay.Calm) (has : relay.handles[listener.handle]? = some handle) :
    (relay.part l listener handle left).Calm := by
  refine ⟨calm.idle, calm.noMqtt, calm.noScripts, ?_, ?_⟩
  · intro i x there kept
    rcases replaced_or_same there with ⟨rfl, rfl⟩ | ⟨apart, old⟩
    · cases kept
    · exact held_others calm apart old kept
  · intro other member
    rcases List.mem_or_eq_of_mem_set member with member | rfl
    · exact calm.allHeld.handles other member
    · exact calm.allHeld.handles handle (List.mem_of_getElem? has)

/-- A listener is let go: it is dropped, its reference is given back, and if that was the last one the
    close of the connection comes to its end. -/
theorem letGo_listener (calm : relay.Calm) (once : relay.held.Nodup)
    (present : relay.listeners[l]? = some listener) (kept : listener.dropped = false)
    (brokers : relay.brokers = [broker])
    (silent : ∀ entry ∈ broker.listeners, entry.2.holds (.listener l) = false)
    (has : relay.handles[listener.handle]? = some handle) (entries : relay.registries = [registry])
    (ours : handle.registry = 0) (returns : Returns handle registry left closing)
    (connected : ∀ connection record, closing = some (connection, record) →
      relay.connections[connection]? = some (.memory 0 connection)) :
    ∃ final, relay.letGo (.listener l) true = final ∧ final.Calm ∧
      final.brokers = [withdrawn broker closing] ∧ final.connections = relay.connections ∧
      final.receivers = relay.receivers ∧ final.registries = [left] ∧
      final.handles = relay.handles.set listener.handle { handle with released := true } ∧
      final.listeners = relay.listeners.set l { listener with dropped := true } ∧
      final.held = relay.held.erase (.listener l) := by
  let free : Relay := { relay with held := relay.held.erase (.listener l) }
  have there : relay.registries[handle.registry]? = some registry := by simp [ours, entries]
  obtain ⟨records, drops⟩ := @dropHandle_eq (free.setListener l { listener with dropped := true })
    listener.handle handle registry left closing has there returns
  have calmly : ((relay.part l listener handle left).log records).Calm := (calm_part calm has).log records
  have collected : free.collect true =
      ((relay.part l listener handle left).log records).closeLater handle.name closing := by
    refine collect_once present kept ?_ (fun _ _ => held_others calm) drops ?_
    · exact isHeld_eq_false calm.idle calm.noScripts calm.noMqtt brokers silent once.not_mem_erase
    · cases closing <;> exact ⟨calmly.allHeld.listeners, calmly.allHeld.handles⟩
  obtain ⟨tasks, rested, finished⟩ := @rest_closeLater _ _ broker calmly
    (by rw [log_brokers]; exact brokers) handle.name (by rw [log_connections]; exact connected)
  have done : relay.letGo (.listener l) true =
      { (relay.part l listener handle left).log records with
        brokers := [withdrawn broker closing], tasks } := by
    rw [letGo, collected]
    exact rested
  refine ⟨_, done, ?_, rfl, ?_, ?_, ?_, ?_, ?_, ?_⟩
  · exact ⟨finished, calmly.noMqtt, calmly.noScripts, calmly.allHeld.listeners,
      calmly.allHeld.handles⟩
  all_goals simp [part, setListener, putHolding, entries, ours]

end EventRelay.Relay
