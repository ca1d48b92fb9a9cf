import EventRelay.Proofs.Mqtt.Deliveries

namespace EventRelay.Mqtt.Connection

variable {Listener : Type}

def Move.listenerOn? (receiver : Nat) : Move Listener → Option Listener
  | .setListener other listener => if other = receiver then some listener else none
  | _ => none

/-- The listener that moves put on a receiver last, if they put one on it. -/
def latestOn (receiver : Nat) (moves : List (Move Listener)) : Option Listener :=
  (moves.filterMap (·.listenerOn? receiver)).getLast?

theorem latestOn_concat (receiver : Nat) (moves : List (Move Listener)) (move : Move Listener) :
    latestOn receiver (moves ++ [move]) =
      (move.listenerOn? receiver).or (latestOn receiver moves) := by
  cases put : move.listenerOn? receiver <;> simp [latestOn, put]

namespace Scene

variable {scene : Scene Listener} {move : Move Listener} {receiver : Nat}

theorem mem_closed_after : receiver ∈ (scene.after move).closed ↔
    receiver ∈ scene.closed ∨ move.closes receiver = true := by
  cases move with
  | closeReceiver other =>
    by_cases closed : other ∈ scene.closed
    · have kept : (scene.after (.closeReceiver other)).closed = scene.closed := by
        simp only [after, closed, if_true]
      rw [kept, Move.closes, decide_eq_true_iff]
      constructor
      · exact .inl
      · rintro (closed | rfl) <;> assumption
    · have added : (scene.after (.closeReceiver other)).closed = other :: scene.closed := by
        simp only [after, closed, if_false]
      rw [added, List.mem_cons, Move.closes, decide_eq_true_iff, or_comm]
      exact or_congr_right eq_comm
  | _ => simp [after, Move.closes]

theorem listening_after_closed (closed : receiver ∈ scene.closed) (move : Move Listener) :
    (scene.after move).listening receiver =
      (move.listenerOn? receiver).or (scene.listening receiver) := by
  cases move with
  | setListener other listener =>
    by_cases same : receiver = other
    · subst same
      simp [after, Move.listenerOn?]
    · simp [after, Move.listenerOn?, same, Ne.symm same]
  | closeReceiver other =>
    by_cases again : other ∈ scene.closed
    · simp only [after, again, if_true, Move.listenerOn?, Option.none_or]
    · have same : receiver ≠ other := fun same => again (same ▸ closed)
      simp [after, again, Move.listenerOn?, same]
  | _ => rfl

theorem listening_after_first_close (first : receiver ∉ scene.closed) :
    (scene.after (.closeReceiver receiver)).listening receiver = none := by
  simp [after, first]

end Scene

namespace System

variable {start : Connection Listener} {system : System Listener} {scene : Scene Listener}
  {earlier later moves : List (Move Listener)} {receiver : Nat}

theorem mem_closed_sceneAfter :
    receiver ∈ (sceneAfter moves).closed ↔ stillOpen moves receiver = false := by
  induction moves using List.reverseRecOn with
  | nil => simp [sceneAfter, stillOpen]
  | append_singleton moves move ih =>
    rw [sceneAfter_concat, Scene.mem_closed_after, ih, stillOpen_concat, Bool.and_eq_false_iff,
      Bool.not_eq_false']

theorem listening_since_close (first : stillOpen earlier receiver = true) :
    (sceneAfter (earlier ++ .closeReceiver receiver :: later)).listening receiver =
      latestOn receiver later := by
  induction later using List.reverseRecOn with
  | nil =>
    have open_ : receiver ∉ (sceneAfter earlier).closed := by
      rw [mem_closed_sceneAfter, first]
      exact Bool.noConfusion
    rw [sceneAfter_concat]
    exact Scene.listening_after_first_close open_
  | append_singleton later move ih =>
    have closed : receiver ∈ (sceneAfter (earlier ++ .closeReceiver receiver :: later)).closed := by
      simp [mem_closed_sceneAfter, stillOpen, Move.closes]
    rw [← List.cons_append, ← List.append_assoc, sceneAfter_concat,
      Scene.listening_after_closed closed, ih, latestOn_concat]

/-- What a move hands out by way of one receiver: what it would hand out if nobody was registered on
    another one. -/
def handedThrough (system : System Listener) (receiver : Nat) (move : Move Listener) :
    List (Listener × Message) :=
  let feed := system.connection.feed
  let alone := { feed with listeners := feed.listeners.filter (·.1 = receiver) }
  { system with connection := system.connection.inFeed alone }.handed move

theorem handed_publish (system : System Listener) (topic : String) (payload : Octets) :
    system.handed (.poll (.publish topic payload)) =
      if system.connection.polling = .active then
        system.connection.feed.audience.map fun listener => (listener, decodePayload topic payload)
      else [] := by
  by_cases active : system.connection.polling = .active
  · simp only [handed, poll, active, if_true]
  · simp only [handed, poll_of_inactive active, if_neg active]

theorem Follows.handed_perm (follows : Follows scene system) (move : Move Listener) :
    (system.handed move).Perm
      ((List.range system.connection.feed.created).flatMap fun receiver =>
        system.handedThrough receiver move) := by
  by_cases publishes : ∃ topic payload, move = .poll (.publish topic payload)
  · obtain ⟨topic, payload, rfl⟩ := publishes
    have made : ∀ entry ∈ system.connection.feed.listeners,
        entry.1 < system.connection.feed.created := by
      intro entry among
      have listens := (follows.registers.mem_iff entry.1 entry.2).mp among
      exact follows.made entry.1 (by rw [listens]; rfl)
    have parts := (perm_flatMap_filter made).map fun entry => (entry.2, decodePayload topic payload)
    simp only [handedThrough, handed_publish, inFeed, Feed.audience, List.map_map]
    split
    · rw [List.map_flatMap] at parts
      exact parts
    · simp
  · simp only [handedThrough, handed_of_other publishes]
    simp

theorem Follows.handedThrough_publish (follows : Follows scene system) (receiver : Nat)
    (topic : String) (payload : Octets) :
    system.handedThrough receiver (.poll (.publish topic payload)) =
      if system.connection.polling = .active then
        (scene.listening receiver).toList.map fun listener =>
          (listener, decodePayload topic payload)
      else [] := by
  rw [handedThrough, handed_publish]
  simp only [inFeed, Feed.audience, follows.registers.filter_eq receiver, List.map_map,
    Function.comp_def]

/-- A publish that arrives after the first close of a receiver goes by way of it to the listener that was
    put on it last since then, and to nobody if none was. A further close is none at all. -/
theorem closed_receiver_keeps_later_listener {factory : Factory} {params : ConnectionParams}
    (opened : ofFactory factory params = .ok start) (first : stillOpen earlier receiver = true)
    (ran : (initial start).run (earlier ++ .closeReceiver receiver :: later) = some system) :
    (∀ topic payload, system.handedThrough receiver (.poll (.publish topic payload)) =
      if system.connection.polling = .active then
        (latestOn receiver later).toList.map fun listener => (listener, decodePayload topic payload)
      else []) ∧
    (∀ move, (system.handed move).Perm
      ((List.range system.connection.feed.created).flatMap fun other =>
        system.handedThrough other move)) ∧
    system.connection.feed.closeReceiver receiver = (system.connection.feed, [], .ok ()) := by
  have follows := follows_of_run opened ran
  refine ⟨?_, follows.handed_perm, ?_⟩
  · intro topic payload
    rw [follows.handedThrough_publish, listening_since_close first]
  · apply Feed.closeReceiver_again
    rw [follows.closed, mem_closed_sceneAfter]
    simp [stillOpen, Move.closes]

def listened : List (Move Nat) :=
  [.create, .go 0, .go 0, .conclude 0 .accepted, .go 0, .create, .go 1, .go 1, .go 1,
    .setListener 0 7]

def relistened : List (Move Nat) := [.setListener 0 8, .closeReceiver 0]

theorem relistened_hears : ∃ (start : Connection Nat) (system : System Nat),
    (∃ factory params, ofFactory factory params = .ok start) ∧
      (initial start).run (listened ++ .closeReceiver 0 :: relistened) = some system ∧
      system.connection.polling = .active :=
  ⟨_, _, ⟨({} : Factory).bind "local" (.forHost "broker"), ⟨"local", "logs/#", none, none⟩, rfl⟩,
    rfl, rfl⟩

theorem closed_receiver_keeps_later_listener_relistened :
    ∃ (start : Connection Nat) (system : System Nat),
      (∃ factory params, ofFactory factory params = .ok start) ∧
      stillOpen listened 0 = true ∧
      (initial start).run (listened ++ .closeReceiver 0 :: relistened) = some system ∧
      system.handedThrough 0 (.poll (.publish "logs" [1])) = [(8, decodePayload "logs" [1])] ∧
      system.connection.feed.closeReceiver 0 = (system.connection.feed, [], .ok ()) := by
  obtain ⟨start, system, ⟨factory, params, opened⟩, ran, active⟩ := relistened_hears
  obtain ⟨hands, _, again⟩ := closed_receiver_keeps_later_listener opened rfl ran
  refine ⟨start, system, ⟨factory, params, opened⟩, rfl, ran, ?_, again⟩
  rw [hands, if_pos active]
  rfl

/-- So a closed receiver may hand on what arrives later. -/
theorem closed_receiver_not_silent :
    ¬ ∀ (start : Connection Nat) (factory : Factory) (params : ConnectionParams)
      (earlier later : List (Move Nat)) (receiver : Nat) (system : System Nat),
      ofFactory factory params = .ok start →
      (initial start).run (earlier ++ .closeReceiver receiver :: later) = some system →
      ∀ topic payload, system.handedThrough receiver (.poll (.publish topic payload)) = [] := by
  intro silent
  obtain ⟨start, system, ⟨factory, params, opened⟩, ran, active⟩ := relistened_hears
  have nobody := silent start factory params listened relistened 0 system opened ran "logs" [1]
  rw [(follows_of_run opened ran).handedThrough_publish, if_pos active] at nobody
  cases nobody

end System

end EventRelay.Mqtt.Connection
