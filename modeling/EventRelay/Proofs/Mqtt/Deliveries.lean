import EventRelay.Proofs.Registrations
import EventRelay.Proofs.Mqtt.Polling
import EventRelay.Proofs.Mqtt.Receivers

namespace EventRelay.Mqtt.Connection

variable {Listener : Type}

structure Scene (Listener : Type) where
  live : Bool := false
  closed : List Nat := []
  listening : Nat → Option Listener := fun _ => none

namespace Scene

/-- A listener stays until its receiver is closed for the first time, or gets another one. -/
def after (scene : Scene Listener) (move : Move Listener) : Scene Listener :=
  let scene := { scene with live := move.livens scene.live }
  match move with
  | .setListener receiver listener =>
    { scene with listening := Function.update scene.listening receiver (some listener) }
  | .closeReceiver receiver =>
    if receiver ∈ scene.closed then scene
    else
      { scene with
        closed := receiver :: scene.closed
        listening := Function.update scene.listening receiver none }
  | _ => scene

theorem after_of_other {scene : Scene Listener} {move : Move Listener}
    (other : move.receiver? = none) :
    scene.after move = { scene with live := move.livens scene.live } := by
  cases move with
  | setListener | closeReceiver => cases other
  | _ => rfl

variable [DecidableEq Listener]

def times (scene : Scene Listener) (receivers : Nat) (listener : Listener) : Nat :=
  (List.range receivers).countP fun receiver => scene.listening receiver == some listener

/-- What a listener should hear of a move. -/
def hears (scene : Scene Listener) (receivers : Nat) (listener : Listener) :
    Move Listener → List Message
  | .poll (.publish topic payload) =>
    if scene.live then
      List.replicate (scene.times receivers listener) (decodePayload topic payload)
    else []
  | _ => []

theorem hears_of_other {scene : Scene Listener} {receivers : Nat} {listener : Listener}
    {move : Move Listener} (other : ¬ ∃ topic payload, move = .poll (.publish topic payload)) :
    scene.hears receivers listener move = [] := by
  unfold hears
  split
  · exact absurd ⟨_, _, rfl⟩ other
  · rfl

def heard (receivers : Nat) (listener : Listener) :
    Scene Listener → List (Move Listener) → List Message
  | _, [] => []
  | scene, move :: moves =>
    scene.hears receivers listener move ++ heard receivers listener (scene.after move) moves

end Scene

namespace System

def handed (system : System Listener) : Move Listener → List (Listener × Message)
  | .poll polled => (system.connection.poll polled).2.handed
  | _ => []

def deliveries (system : System Listener) : List (Move Listener) → List (Listener × Message)
  | [] => []
  | move :: moves =>
    system.handed move ++
      match system.step move with
      | none => []
      | some next => next.deliveries moves

def messagesFor [DecidableEq Listener] (listener : Listener) (handed : List (Listener × Message)) :
    List Message :=
  (handed.filter (·.1 == listener)).map (·.2)

def sceneAfter (moves : List (Move Listener)) : Scene Listener := moves.foldl Scene.after {}

structure Follows (scene : Scene Listener) (system : System Listener) : Prop where
  live : scene.live = true ↔ system.connection.polling = .active
  closed : system.connection.feed.closed = scene.closed
  registers : Registers system.connection.feed.listeners scene.listening
  made : ∀ receiver, (scene.listening receiver).isSome = true →
    receiver < system.connection.feed.created

variable {start : Connection Listener} {system next : System Listener} {scene : Scene Listener}
  {moves : List (Move Listener)} {move : Move Listener}

theorem live_of_step (sound : system.Sound start) (wound : system.Wound)
    (stepped : system.step move = some next) {live : Bool}
    (now : live = true ↔ system.connection.polling = .active) :
    move.livens live = true ↔ next.connection.polling = .active := by
  cases polls_of_step wound.ended stepped with
  | keeps same other =>
    rw [same.1, ← now]
    rcases other live with kept | ⟨stopped, inactive⟩
    · rw [kept]
    · rw [now, stopped]
      simp [inactive]
  | starts there active _ => simp [Move.livens, active]
  | stops stopped _ gone => simp [stopped, gone.1]
  | closes idle gone _ =>
    have early := (sound.idle idle).1
    have inactive := (sound.unpolled early).1
    simp [Move.livens, now, inactive, gone.1]

theorem handed_of_other (other : ¬ ∃ topic payload, move = .poll (.publish topic payload)) :
    system.handed move = [] := by
  cases move with
  | poll polled =>
    by_cases active : system.connection.polling = .active
    · cases polled with
      | publish topic payload => exact absurd ⟨topic, payload, rfl⟩ other
      | connected sessionPresent => cases sessionPresent <;> simp [handed, poll, active]
      | _ => simp only [handed, poll, active]
    · simp only [handed, poll_of_inactive active]
  | _ => rfl

theorem messagesFor_map [DecidableEq Listener] (listener : Listener) (audience : List Listener)
    (message : Message) :
    messagesFor listener (audience.map fun other => (other, message)) =
      List.replicate (audience.count listener) message := by
  simp only [messagesFor, List.filter_map, Function.comp_def, List.filter_beq, List.map_replicate]

theorem messagesFor_append [DecidableEq Listener] (listener : Listener)
    (first second : List (Listener × Message)) :
    messagesFor listener (first ++ second) =
      messagesFor listener first ++ messagesFor listener second := by
  simp only [messagesFor, List.filter_append, List.map_append]

namespace Follows

variable (follows : Follows scene system)

include follows

theorem keeps (other : move.receiver? = none)
    (live : move.livens scene.live = true ↔ next.connection.polling = .active)
    (closed : next.connection.feed.closed = system.connection.feed.closed)
    (listeners : next.connection.feed.listeners = system.connection.feed.listeners)
    (created : system.connection.feed.created ≤ next.connection.feed.created) :
    Follows (scene.after move) next := by
  rw [Scene.after_of_other other]
  refine ⟨live, closed.trans follows.closed, ?_, ?_⟩
  · rw [listeners]
    exact follows.registers
  · intro receiver listens
    exact Nat.lt_of_lt_of_le (follows.made receiver listens) created

theorem listens {receiver : Nat} (there : receiver < system.connection.feed.created)
    (listener : Listener) :
    Follows (scene.after (.setListener receiver listener)) (system.elsewhere
      (system.connection.inFeed (system.connection.feed.setListener receiver listener))) := by
  refine ⟨follows.live, follows.closed, follows.registers.put receiver listener, ?_⟩
  intro other listens
  by_cases same : other = receiver
  · exact same ▸ there
  · exact follows.made other (Function.update_of_ne same _ scene.listening ▸ listens)

theorem closes (receiver : Nat) :
    Follows (scene.after (.closeReceiver receiver)) (system.elsewhere
      (system.connection.inFeed (system.connection.feed.closeReceiver receiver).1)) := by
  by_cases closed : receiver ∈ system.connection.feed.closed
  · rw [Feed.closeReceiver_again closed]
    rw [follows.closed] at closed
    have kept : scene.after (.closeReceiver receiver) = scene := if_pos closed
    rw [kept]
    exact ⟨follows.live, follows.closed, follows.registers, follows.made⟩
  · rw [Feed.closeReceiver_feed closed]
    rw [follows.closed] at closed
    have left : scene.after (.closeReceiver receiver) =
        { scene with
          closed := receiver :: scene.closed
          listening := Function.update scene.listening receiver none } := if_neg closed
    rw [left]
    refine ⟨follows.live, congrArg _ follows.closed, follows.registers.remove receiver, ?_⟩
    intro other listens
    by_cases same : other = receiver
    · subst same
      simp at listens
    · exact follows.made other (Function.update_of_ne same _ scene.listening ▸ listens)

theorem went (sound : system.Sound start) (wound : system.Wound)
    (stepped : system.step move = some next) : Follows (scene.after move) next := by
  have live := live_of_step sound wound stepped follows.live
  cases serves_of_step stepped with
  | spares other kept _ =>
    obtain ⟨requests, feed⟩ := kept.feed
    exact follows.keeps other live (by rw [feed]) (by rw [feed]) (Nat.le_of_eq (by rw [feed]))
  | opens there =>
    rcases system.connection.feed.openReceiver_counts with ⟨requests, counted⟩ | ⟨e, refused⟩
    · rw [counted] at live ⊢
      exact follows.keeps rfl live rfl rfl (Nat.le_succ _)
    · rw [refused] at live ⊢
      exact follows.keeps rfl live rfl rfl (Nat.le_refl _)
  | listens there listener => exact follows.listens there listener
  | closes there => exact follows.closes _

theorem publish (topic : String) (payload : Octets) :
    ∃ audience,
      (if scene.live then IsAudience scene.listening audience else audience = []) ∧
      system.handed (.poll (.publish topic payload)) =
        audience.map fun listener => (listener, decodePayload topic payload) := by
  by_cases active : system.connection.polling = .active
  · refine ⟨system.connection.feed.audience, ?_, ?_⟩
    · rw [if_pos (follows.live.mpr active)]
      exact follows.registers.isAudience
    · simp only [handed, poll, active]
  · refine ⟨[], ?_, ?_⟩
    · rw [if_neg (mt follows.live.mp active)]
    · simp only [handed, poll_of_inactive active, List.map_nil]

theorem hears [DecidableEq Listener] {receivers : Nat}
    (few : system.connection.feed.created ≤ receivers) (listener : Listener) (move : Move Listener) :
    messagesFor listener (system.handed move) = scene.hears receivers listener move := by
  by_cases publishes : ∃ topic payload, move = .poll (.publish topic payload)
  · obtain ⟨topic, payload, rfl⟩ := publishes
    obtain ⟨audience, gathers, handed⟩ := follows.publish topic payload
    rw [handed, messagesFor_map, Scene.hears]
    split
    · rename_i live
      rw [if_pos live] at gathers
      rw [gathers.count fun receiver listens =>
        Nat.lt_of_lt_of_le (follows.made receiver listens) few]
      rfl
    · rename_i silent
      rw [if_neg silent] at gathers
      rw [gathers]
      rfl
  · rw [handed_of_other publishes, Scene.hears_of_other publishes]
    rfl

end Follows

theorem created_le_of_step (stepped : system.step move = some next) :
    system.connection.feed.created ≤ next.connection.feed.created := by
  cases serves_of_step stepped with
  | spares _ kept _ =>
    obtain ⟨requests, feed⟩ := kept.feed
    exact Nat.le_of_eq (by rw [feed])
  | opens there =>
    show _ ≤ system.connection.feed.openReceiver.1.created
    rcases system.connection.feed.openReceiver_counts with ⟨requests, counted⟩ | ⟨e, refused⟩
    · rw [counted]
      exact Nat.le_succ _
    · exact Nat.le_of_eq (by rw [refused])
  | listens _ listener => exact Nat.le_refl _
  | @closes receiver there =>
    show _ ≤ (system.connection.feed.closeReceiver receiver).1.created
    by_cases closed : receiver ∈ system.connection.feed.closed
    · exact Nat.le_of_eq (by rw [Feed.closeReceiver_again closed])
    · exact Nat.le_of_eq (by rw [Feed.closeReceiver_feed closed])

theorem created_le_of_run (ran : system.run moves = some next) :
    system.connection.feed.created ≤ next.connection.feed.created := by
  have went (moves : List (Move Listener)) (move : Move Listener) (now later : System Listener)
      (reached : system.run moves = some now)
      (few : system.connection.feed.created ≤ now.connection.feed.created)
      (stepped : now.step move = some later) :
      system.connection.feed.created ≤ later.connection.feed.created :=
    Nat.le_trans few (created_le_of_step stepped)
  exact run_induction_on (Nat.le_refl _) went ran

theorem follows_initial {factory : Factory} {params : ConnectionParams}
    (opened : ofFactory factory params = .ok start) : Follows {} (initial start) := by
  obtain ⟨_, _, _, _, _, _, rfl⟩ := new_of_ofFactory opened
  refine ⟨?_, rfl, .nil, ?_⟩
  · simp [initial]
  · simp

/-- Over a whole run each listener is handed what the scene says it should hear, in that order. -/
theorem Follows.heard [DecidableEq Listener] (follows : Follows scene system)
    (reachable : system.Reachable start) (listener : Listener) (ran : system.run moves = some next) :
    messagesFor listener (system.deliveries moves) =
      scene.heard next.connection.feed.created listener moves := by
  -- By induction on the moves: the scene goes along, and no receiver is beyond those there in the end.
  induction moves generalizing scene system with
  | nil => rfl
  | cons move moves ih =>
    have few := created_le_of_run ran
    simp only [run] at ran
    split at ran
    · cases ran
    · rename_i left stepped
      have rest := ih (follows.went reachable.sound reachable.wound stepped)
        (reachable.step stepped) ran
      rw [deliveries, Scene.heard, stepped, messagesFor_append, follows.hears few, rest]

theorem sceneAfter_concat (moves : List (Move Listener)) (move : Move Listener) :
    sceneAfter (moves ++ [move]) = (sceneAfter moves).after move := List.foldl_concat ..

theorem follows_of_run {factory : Factory} {params : ConnectionParams}
    (opened : ofFactory factory params = .ok start) (ran : (initial start).run moves = some system) :
    Follows (sceneAfter moves) system := by
  have went (moves : List (Move Listener)) (move : Move Listener) (now later : System Listener)
      (reached : (initial start).run moves = some now) (follows : Follows (sceneAfter moves) now)
      (stepped : now.step move = some later) : Follows (sceneAfter (moves ++ [move])) later := by
    have reachable : now.Reachable start := ⟨⟨factory, params, opened⟩, moves, reached⟩
    rw [sceneAfter_concat]
    exact follows.went reachable.sound reachable.wound stepped
  exact run_induction_on (follows_initial opened) went ran

theorem stops_cases (stopped : ∀ live, move.livens live = false) :
    move = .poll .disconnected ∨ move = .poll .shutDown ∨ ∃ i, move = .expire i := by
  cases move with
  | poll polled =>
    cases polled with
    | disconnected => exact .inl rfl
    | shutDown => exact .inr (.inl rfl)
    | _ => cases stopped true
  | expire i => exact .inr (.inr ⟨i, rfl⟩)
  | conclude i attempt =>
    cases attempt <;> cases stopped true
  | _ => cases stopped true

theorem stops_of_step (sound : system.Sound start) (wound : system.Wound)
    (stepped : system.step move = some next) (active : system.connection.polling = .active)
    (inactive : next.connection.polling ≠ .active) :
    move = .poll .disconnected ∨ move = .poll .shutDown ∨ ∃ i, move = .expire i := by
  cases polls_of_step wound.ended stepped with
  | keeps same _ => exact absurd (same.1.trans active) inactive
  | starts _ begun _ => exact absurd begun inactive
  | stops stopped _ _ => exact stops_cases stopped
  | closes idle _ _ => exact absurd active (sound.unpolled (sound.idle idle).1).1

theorem ended_of_step (sound : system.Sound start) (wound : system.Wound)
    (stepped : system.step move = some next) (ended : system.connection.polling = .ended) :
    next.connection.polling = .ended := by
  cases polls_of_step wound.ended stepped with
  | keeps same _ => exact same.1.trans ended
  | starts there _ _ =>
    have flying := sound.flying _ _ there
    have spent := wound.spent ended
    omega
  | stops _ _ gone => exact gone.1
  | closes _ gone _ => exact gone.1

theorem deliveries_of_ended (reachable : system.Reachable start)
    (ended : system.connection.polling = .ended) (later : List (Move Listener)) :
    system.deliveries later = [] := by
  induction later generalizing system with
  | nil => rfl
  | cons move later ih =>
    have silent : system.handed move = [] := by
      cases move with
      | poll polled =>
        simp only [handed, poll_of_inactive (show system.connection.polling ≠ .active by simp [ended])]
      | _ => rfl
    rw [deliveries, silent, List.nil_append]
    cases stepped : system.step move with
    | none => rfl
    | some next =>
      exact ih (reachable.step stepped)
        (ended_of_step reachable.sound reachable.wound stepped ended)

theorem poll_connected_unknown {connection : Connection Listener}
    (active : connection.polling = .active) :
    (connection.poll (.connected false)).1 = connection.inFeed
      { connection.feed with subscription := connection.feed.subscription.resubscribe.1 } := by
  unfold poll
  split
  · rfl
  · rename_i inactive
    exact absurd active inactive

theorem subscribes_again {connection : Connection Listener} {sessionPresent : Bool}
    {request : Request}
    (asked : .requested request ∈
      connection.requested (connection.poll (.connected sessionPresent)).1) :
    sessionPresent = false ∧ connection.polling = .active ∧
      0 < connection.feed.subscription.receivers ∧
      request = .subscribe connection.feed.subscription.topic := by
  by_cases active : connection.polling = .active
  · cases sessionPresent with
    | true =>
      have same : (connection.poll (.connected true)).1 = connection := by
        simp only [poll, active, if_true]
      rw [requested_of_same (by rw [same])] at asked
      cases asked
    | false =>
      rw [poll_connected_unknown active] at asked
      rcases connection.feed.subscription.resubscribe_cases with
        ⟨_, same⟩ | ⟨positive, record, same, _⟩ | ⟨_, _, record, same, _⟩
      · rw [same, requested_of_same (by rfl)] at asked
        cases asked
      · rw [same, requested_of_append (.subscribe connection.feed.subscription.topic) rfl] at asked
        simp only [List.mem_singleton, Deed.requested.injEq] at asked
        exact ⟨rfl, active, positive, asked⟩
      · rw [same, requested_of_same (by rfl)] at asked
        cases asked
  · rw [poll_of_inactive active, requested_of_same rfl] at asked
    cases asked

/-- What a listener is handed is what arrives while it is registered, each message once for each
    receiver that it is on. Failures and new connections to the broker do not change that; only a sent
    request to disconnect or the signal to stop ends the polling, and nothing is handed out then. -/
theorem listeners_hear_what_arrives [DecidableEq Listener] {factory : Factory}
    {params : ConnectionParams} {start : Connection Listener}
    (opened : ofFactory factory params = .ok start) (ran : (initial start).run moves = some system) :
    let scene := sceneAfter moves
    let connection := system.connection
    (scene.live = true ↔ connection.polling = .active) ∧
    (∀ topic payload, ∃ audience,
      (if scene.live then IsAudience scene.listening audience else audience = []) ∧
      system.handed (.poll (.publish topic payload)) =
        audience.map fun listener => (listener, decodePayload topic payload)) ∧
    (∀ move, system.handed move ≠ [] → ∃ topic payload, move = .poll (.publish topic payload)) ∧
    (∀ listener, messagesFor listener ((initial start).deliveries moves) =
      ({} : Scene Listener).heard connection.feed.created listener moves) ∧
    (∀ polled, polled ≠ .disconnected → polled ≠ .shutDown →
      (connection.poll polled).1.polling = connection.polling ∧
        (connection.poll polled).1.feed.listeners = connection.feed.listeners) ∧
    (∀ sessionPresent request,
      .requested request ∈ connection.requested (connection.poll (.connected sessionPresent)).1 →
      sessionPresent = false ∧ scene.live = true ∧ system.openAfter moves ≠ [] ∧
        request = .subscribe connection.feed.subscription.topic) ∧
    (∀ move next, system.step move = some next → connection.polling = .active →
      next.connection.polling ≠ .active →
      move = .poll .disconnected ∨ move = .poll .shutDown ∨ ∃ i, move = .expire i) ∧
    (connection.polling = .ended → ∀ later, system.deliveries later = []) := by
  have reachable : system.Reachable start := ⟨⟨factory, params, opened⟩, moves, ran⟩
  have follows := follows_of_run opened ran
  have tallied := tallied_of_run opened ran
  refine ⟨follows.live, follows.publish, ?_, ?_, ?_, ?_, ?_, ?_⟩
  · intro move hands
    by_contra other
    exact hands (handed_of_other other)
  · intro listener
    exact (follows_initial opened).heard ⟨⟨factory, params, opened⟩, [], rfl⟩ listener ran
  · intro polled stays goesOn
    obtain ⟨requests, feed⟩ := (Spares.poll system.connection polled).feed
    exact ⟨(samePolling_poll system.connection stays goesOn).1, by rw [feed]⟩
  · intro sessionPresent request asked
    obtain ⟨unknown, active, positive, subscribe⟩ := subscribes_again asked
    refine ⟨unknown, follows.live.mpr active, ?_, subscribe⟩
    rw [tallied.counted] at positive
    exact List.ne_nil_of_length_pos positive
  · intro move next stepped
    exact stops_of_step reachable.sound reachable.wound stepped
  · exact deliveries_of_ended reachable

def eventful : List (Move Nat) :=
  [.create, .go 0, .go 0, .poll (.publish "logs" [1]), .conclude 0 .accepted, .go 0, .create, .go 1,
    .go 1, .go 1, .setListener 0 7, .poll (.publish "logs" [2]), .setListener 1 7,
    .poll (.failed "reset"), .poll (.connected false), .poll (.publish "logs" [3]),
    .closeReceiver 0, .poll (.publish "logs" [4]), .poll .disconnected, .poll (.publish "logs" [5])]

theorem listeners_hear_what_arrives_eventful :
    ∃ (start : Connection Nat) (system : System Nat),
      (∃ factory params, ofFactory factory params = .ok start) ∧
      (initial start).run eventful = some system ∧ system.connection.polling = .ended ∧
      messagesFor 7 ((initial start).deliveries eventful) =
        [decodePayload "logs" [2], decodePayload "logs" [3], decodePayload "logs" [3],
          decodePayload "logs" [4]] ∧
      ∀ later, system.deliveries later = [] := by
  obtain ⟨start, system, ⟨factory, params, opened⟩, ran, created, ended⟩ :
      ∃ (start : Connection Nat) (system : System Nat),
        (∃ factory params, ofFactory factory params = .ok start) ∧
        (initial start).run eventful = some system ∧ system.connection.feed.created = 2 ∧
        system.connection.polling = .ended :=
    ⟨_, _, ⟨({} : Factory).bind "local" (.forHost "broker"), ⟨"local", "logs/#", none, none⟩, rfl⟩,
      rfl, rfl, rfl⟩
  obtain ⟨_, _, _, heard, _, _, _, silent⟩ := listeners_hear_what_arrives opened ran
  refine ⟨start, system, ⟨factory, params, opened⟩, ran, ended, ?_, silent ended⟩
  rw [heard 7, created]
  rfl

end System

end EventRelay.Mqtt.Connection
