import Mathlib.Data.List.Induction
import EventRelay.Proofs.Mqtt.Calls

namespace EventRelay.Mqtt.Connection

variable {Listener : Type}

def closedError (connection : Connection Listener) : ProviderError :=
  .connection ("connection '" ++ connection.binding ++ "' is closed")

theorem new_of_ofFactory {factory : Factory} {params : ConnectionParams}
    {start : Connection Listener} (opened : ofFactory factory params = .ok start) :
    ∃ binding options username seconds topic capacity, start =
      { binding := binding, options, username, connectTimeoutSecs := seconds,
        feed := { subscription := { topic := topic, requests := { capacity := capacity } } } } := by
  unfold ofFactory at opened
  split at opened
  · cases opened
  · cases opened
    exact ⟨_, _, _, _, _, _, rfl⟩

theorem attemptError?_eq_none_iff {connection : Connection Listener} {attempt : Attempt} :
    connection.attemptError? attempt = none ↔ attempt = .accepted := by
  cases attempt with
  | refused code =>
    simp only [attemptError?]
    split <;> simp
  | _ => simp [attemptError?]

section Requests

variable {found left : Connection Listener}

theorem requested_of_same (same : left.requests = found.requests) : found.requested left = [] := by
  simp [requested, same, RequestQueue.added_self]

theorem requested_of_append (request : Request)
    (same : left.requests = found.requests.append request) :
    found.requested left = [.requested request] := by
  simp [requested, same, RequestQueue.added_append]

theorem requested_of_waiting_le (shorter : left.requests.waiting.length ≤ found.requests.waiting.length) :
    found.requested left = [] := by
  simp [requested, RequestQueue.added, List.drop_eq_nil_of_le shorter]

theorem requested_endPolling (found : Connection Listener) : found.requested found.endPolling = [] :=
  requested_of_waiting_le (Nat.zero_le _)

theorem shutDown_cases (found : Connection Listener) :
    found.shutDown.1 = found ∨ found.polling = .active ∧ found.shutDown.1 = found.endPolling := by
  unfold shutDown
  split
  · rename_i active
    exact .inr ⟨active, rfl⟩
  · exact .inl rfl

theorem requested_shutDown (found : Connection Listener) : found.requested found.shutDown.1 = [] := by
  rcases found.shutDown_cases with same | ⟨_, ended⟩
  · rw [same]
    exact requested_of_same rfl
  · rw [ended]
    exact found.requested_endPolling

theorem requested_openReceiver (found : Connection Listener) :
    found.requested (found.inFeed found.feed.openReceiver.1) = [] ∨
      ∃ topic, found.requested (found.inFeed found.feed.openReceiver.1) =
        [.requested (.subscribe topic)] := by
  rcases found.feed.subscription.acquire_cases with ⟨_, same⟩ | ⟨_, same⟩ | ⟨e, same⟩
  · refine .inl (requested_of_same ?_)
    simp only [Feed.openReceiver, same, inFeed, requests, Feed.addReceiver]
  · refine .inr ⟨found.feed.subscription.topic, requested_of_append _ ?_⟩
    simp only [Feed.openReceiver, same, inFeed, requests, Feed.addReceiver]
  · refine .inl (requested_of_same ?_)
    simp only [Feed.openReceiver, same, inFeed, requests]

end Requests

/-- What else than the calls can do to a connection. Before there are receivers, that is nothing
    unless the broker is polled. -/
structure Elsewhere (found left : Connection Listener) : Prop where
  kin : ∃ polling feed, left = { found with polling, feed }
  cause : left = found ∨ found.polling = .active ∨ 0 < found.feed.created
  stays : Deed.requested .disconnect ∉ found.requested left

namespace Elsewhere

variable {found : Connection Listener}

theorem same (found : Connection Listener) : found.Elsewhere found where
  kin := ⟨_, _, rfl⟩
  cause := .inl rfl
  stays := by simp [requested_of_same]

theorem ended (active : found.polling = .active) : found.Elsewhere found.endPolling where
  kin := ⟨_, _, rfl⟩
  cause := .inr (.inl active)
  stays := by simp [requested_endPolling]

theorem shutDown (found : Connection Listener) : found.Elsewhere found.shutDown.1 := by
  rcases found.shutDown_cases with kept | ⟨active, left⟩
  · rw [kept]
    exact same found
  · rw [left]
    exact ended active

theorem resubscribed (active : found.polling = .active) :
    found.Elsewhere (found.inFeed
      { found.feed with subscription := found.feed.subscription.resubscribe.1 }) where
  kin := ⟨_, _, rfl⟩
  cause := .inr (.inl active)
  stays := by
    rcases found.feed.subscription.resubscribe_cases with
      ⟨_, same⟩ | ⟨_, record, same, _⟩ | ⟨_, _, record, same, _⟩
    · rw [requested_of_same (by simp only [same, inFeed, requests])]
      simp
    · rw [requested_of_append (.subscribe found.feed.subscription.topic)
        (by simp only [same, inFeed, requests])]
      simp
    · rw [requested_of_same (by simp only [same, inFeed, requests])]
      simp

theorem polled (found : Connection Listener) (polled : Polled) :
    found.Elsewhere (found.poll polled).1 := by
  unfold poll
  split
  · rename_i active
    cases polled with
    | connected sessionPresent =>
      cases sessionPresent with
      | true => exact same found
      | false => exact resubscribed active
    | disconnected => exact ended active
    | shutDown => exact shutDown found
    | _ => exact same found
  · exact same found

theorem taken (active : found.polling = .active) (count : Nat) :
    found.Elsewhere (found.inQueue (found.requests.take count).2) where
  kin := ⟨_, _, rfl⟩
  cause := .inr (.inl active)
  stays := by
    rw [requested_of_waiting_le (by simp [inQueue, inFeed, requests, RequestQueue.take])]
    simp

theorem awaits (active : found.polling = .active) (idle : Bool) :
    found.Elsewhere (found.inQueue { found.requests with idle }) where
  kin := ⟨_, _, rfl⟩
  cause := .inr (.inl active)
  stays := by
    rw [requested_of_waiting_le (by simp [inQueue, inFeed, requests])]
    simp

theorem listens {receiver : Nat} (there : receiver < found.feed.created) (listener : Listener) :
    found.Elsewhere (found.inFeed (found.feed.setListener receiver listener)) where
  kin := ⟨_, _, rfl⟩
  cause := .inr (.inr (by omega))
  stays := by
    rw [requested_of_same (by rfl)]
    simp

theorem receiverClosed {receiver : Nat} (there : receiver < found.feed.created) :
    found.Elsewhere (found.inFeed (found.feed.closeReceiver receiver).1) where
  kin := ⟨_, _, rfl⟩
  cause := .inr (.inr (by omega))
  stays := by
    unfold Feed.closeReceiver
    split
    · rw [requested_of_same (by rfl)]
      simp
    · rcases found.feed.subscription.release_cases with ⟨_, same⟩ | same | ⟨e, same⟩
      · rw [requested_of_same (by simp only [same, inFeed, requests])]
        simp
      · rw [requested_of_append (.unsubscribe found.feed.subscription.topic)
          (by simp only [same, inFeed, requests])]
        simp
      · rw [requested_of_same (by simp only [same, inFeed, requests])]
        simp

end Elsewhere

inductive System.Goes (system : System Listener) : System Listener → Prop
  | stays : Goes system system
  | begins (call : Call) (new : call = .create .enter ∨ call = .close .enter) :
    Goes system (system.calling call)
  | asks {i : Nat} {call asked : Call} (there : system.calls[i]? = some call)
      (points : call = .create .enter ∧
          asked = .create (.queued system.connection.lock.request.2) ∨
        call = .close .enter ∧ asked = .close (.queued system.connection.lock.request.2)) :
    Goes system (system.going i asked []
      { system.connection with lock := system.connection.lock.request.1 })
  | findsRunning {i t : Nat} (there : system.calls[i]? = some (.create (.queued t)))
      (turn : system.connection.lock.isHeldBy t = true) (found : system.connection.phase = .running) :
    Goes system (system.going i (.create .subscribe) []
      { system.connection with lock := system.connection.lock.release })
  | findsClosed {i t : Nat} (there : system.calls[i]? = some (.create (.queued t)))
      (turn : system.connection.lock.isHeldBy t = true) (found : system.connection.phase = .closed) :
    Goes system (system.going i (.create (.done (.error system.connection.closedError))) []
      { system.connection with lock := system.connection.lock.release })
  | findsIdle {i t : Nat} (there : system.calls[i]? = some (.create (.queued t)))
      (turn : system.connection.lock.isHeldBy t = true) (found : system.connection.phase = .idle) :
    Goes system (system.going i (.create (.connecting t)) [.attempting]
      { system.connection with phase := .closed })
  | fails {i t : Nat} {attempt : Attempt} {e : ProviderError}
      (there : system.calls[i]? = some (.create (.connecting t)))
      (error : system.connection.attemptError? attempt = some e) :
    Goes system (system.going i (.create (.done (.error e)))
      (system.connection.concludeDeeds attempt)
      { system.connection with lock := system.connection.lock.release, phase := .idle })
  | connects {i t : Nat} (there : system.calls[i]? = some (.create (.connecting t))) :
    Goes system (system.going i (.create .subscribe) [.attempted .accepted, .polling]
      { system.connection with
        lock := system.connection.lock.release, phase := .running, polling := .active })
  | opens {i : Nat} (there : system.calls[i]? = some (.create .subscribe)) :
    Goes system (system.going i (.create (.done system.connection.feed.openReceiver.2))
      (system.connection.requested
        (system.connection.inFeed system.connection.feed.openReceiver.1))
      (system.connection.inFeed system.connection.feed.openReceiver.1))
  | closesRunning {i t : Nat} (there : system.calls[i]? = some (.close (.queued t)))
      (turn : system.connection.lock.isHeldBy t = true) (found : system.connection.phase = .running) :
    Goes system (system.going i (.close .disconnect) [.closing .running]
      { system.connection with lock := system.connection.lock.release, phase := .closed })
  | closesIdle {i t : Nat} (there : system.calls[i]? = some (.close (.queued t)))
      (turn : system.connection.lock.isHeldBy t = true) (found : system.connection.phase = .idle) :
    Goes system (system.going i (.close (.done (.ok ()))) [.closing .idle]
      { system.connection with
        lock := system.connection.lock.release, phase := .closed }.endPolling)
  | closesClosed {i t : Nat} (there : system.calls[i]? = some (.close (.queued t)))
      (turn : system.connection.lock.isHeldBy t = true) (found : system.connection.phase = .closed) :
    Goes system (system.going i (.close (.done (.ok ()))) [.closing .closed]
      { system.connection with lock := system.connection.lock.release, phase := .closed })
  | disconnects {i : Nat} (there : system.calls[i]? = some (.close .disconnect)) :
    Goes system (system.going i (.close .grace) [.requested .disconnect]
      (system.connection.inQueue (system.connection.requests.append .disconnect)))
  | refused {i : Nat} {left : Connection Listener}
      (there : system.calls[i]? = some (.close .disconnect))
      (kept : system.connection.Elsewhere left) :
    Goes system (system.going i (.close (.done (.error (.close RequestQueue.refusal)))) [] left)
  | closed {i : Nat} {left : Connection Listener}
      (there : system.calls[i]? = some (.close .grace))
      (kept : system.connection.Elsewhere left) :
    Goes system (system.going i (.close (.done (.ok ()))) [] left)
  | elsewhere {left : Connection Listener} (other : system.connection.Elsewhere left) :
    Goes system (system.elsewhere left)

namespace System

variable {system next : System Listener}

theorem going_self {i : Nat} {call : Call} (there : system.calls[i]? = some call) :
    system.going i call [] system.connection = system := by
  obtain ⟨inside, same⟩ := List.getElem?_eq_some_iff.mp there
  simp [going, doing, ← same]

theorem goes_of_waiting {i : Nat} {call : Call} (there : system.calls[i]? = some call) :
    system.Goes (system.going i call ([] ++ system.connection.requested system.connection)
      system.connection) := by
  rw [requested_of_same rfl, List.append_nil, going_self there]
  exact .stays

section Turn

variable {i t : Nat} (turn : system.connection.lock.isHeldBy t = true)

include turn

theorem goStep_create_running (found : system.connection.phase = .running) :
    system.goStep i (.create (.queued t)) = system.going i (.create .subscribe) []
      { system.connection with lock := system.connection.lock.release } := by
  simp only [goStep, create, turn, found, createDeeds, if_true]
  rw [requested_of_same (by rfl), List.append_nil]

theorem goStep_create_closed (found : system.connection.phase = .closed) :
    system.goStep i (.create (.queued t)) =
      system.going i (.create (.done (.error system.connection.closedError))) []
        { system.connection with lock := system.connection.lock.release } := by
  simp only [goStep, create, turn, found, createDeeds, if_true]
  rw [requested_of_same (by rfl), List.append_nil, closedError]

theorem goStep_create_idle (found : system.connection.phase = .idle) :
    system.goStep i (.create (.queued t)) = system.going i (.create (.connecting t)) [.attempting]
      { system.connection with phase := .closed } := by
  simp only [goStep, create, turn, found, createDeeds, if_true]
  rw [requested_of_same (by rfl), List.append_nil]

theorem goStep_close_running (found : system.connection.phase = .running) :
    system.goStep i (.close (.queued t)) = system.going i (.close .disconnect) [.closing .running]
      { system.connection with lock := system.connection.lock.release, phase := .closed } := by
  simp only [goStep, close, turn, found, closeDeeds, if_true]
  rw [requested_of_same (by rfl), List.append_nil]

theorem goStep_close_idle (found : system.connection.phase = .idle) :
    system.goStep i (.close (.queued t)) = system.going i (.close (.done (.ok ()))) [.closing .idle]
      { system.connection with
        lock := system.connection.lock.release, phase := .closed }.endPolling := by
  simp only [goStep, close, turn, found, closeDeeds, if_true]
  rw [requested_of_waiting_le (Nat.zero_le _), List.append_nil]

theorem goStep_close_closed (found : system.connection.phase = .closed) :
    system.goStep i (.close (.queued t)) = system.going i (.close (.done (.ok ()))) [.closing .closed]
      { system.connection with lock := system.connection.lock.release, phase := .closed } := by
  simp only [goStep, close, turn, found, closeDeeds, if_true]
  rw [requested_of_same (by rfl), List.append_nil]

end Turn

theorem goes_create {i : Nat} {point : Create} (there : system.calls[i]? = some (.create point)) :
    system.Goes (system.goStep i (.create point)) := by
  cases point with
  | enter =>
    simp only [goStep, create, createDeeds]
    rw [requested_of_same (by rfl)]
    exact .asks there (.inl ⟨rfl, rfl⟩)
  | queued t =>
    cases turn : system.connection.lock.isHeldBy t with
    | false =>
      simp only [goStep, create, turn, Bool.false_eq_true, if_false]
      exact goes_of_waiting there
    | true =>
      cases found : system.connection.phase with
      | running => exact goStep_create_running turn found ▸ .findsRunning there turn found
      | closed => exact goStep_create_closed turn found ▸ .findsClosed there turn found
      | idle => exact goStep_create_idle turn found ▸ .findsIdle there turn found
  | connecting t => exact goes_of_waiting there
  | subscribe => exact .opens there
  | done result => exact goes_of_waiting there

theorem goes_close {i : Nat} {point : Close} (there : system.calls[i]? = some (.close point)) :
    system.Goes (system.goStep i (.close point)) := by
  cases point with
  | enter =>
    simp only [goStep, close, closeDeeds]
    rw [requested_of_same (by rfl)]
    exact .asks there (.inr ⟨rfl, rfl⟩)
  | queued t =>
    cases turn : system.connection.lock.isHeldBy t with
    | false =>
      simp only [goStep, close, turn, Bool.false_eq_true, if_false]
      exact goes_of_waiting there
    | true =>
      cases found : system.connection.phase with
      | running => exact goStep_close_running turn found ▸ .closesRunning there turn found
      | closed => exact goStep_close_closed turn found ▸ .closesClosed there turn found
      | idle => exact goStep_close_idle turn found ▸ .closesIdle there turn found
  | disconnect =>
    simp only [goStep, close]
    cases served : system.connection.requests.served with
    | false =>
      rw [requests] at served
      simp only [served, Bool.false_eq_true, if_false]
      rw [requested_shutDown]
      exact .refused there (.shutDown _)
    | true =>
      cases room : system.connection.requests.hasRoom with
      | false =>
        have full := RequestQueue.push?_of_full room .disconnect
        rw [requests] at served full
        simp only [served, full, if_true]
        exact goes_of_waiting there
      | true =>
        have pushed := RequestQueue.push?_of_hasRoom room .disconnect
        rw [requests] at served pushed
        simp only [served, pushed, if_true]
        rw [requested_of_append .disconnect (by rfl)]
        exact .disconnects there
  | grace =>
    simp only [goStep, close]
    split
    · exact goes_of_waiting there
    · rw [requested_of_same (by rfl)]
      exact .closed there (.same _)
  | done result => exact goes_of_waiting there

theorem connecting_of_conclude {i : Nat} {attempt : Attempt}
    (stepped : system.step (.conclude i attempt) = some next) :
    ∃ t, system.calls[i]? = some (.create (.connecting t)) := by
  simp only [step] at stepped
  split at stepped
  · rename_i t there
    exact ⟨t, there⟩
  · cases stepped

section Conclude

variable {i t : Nat} (there : system.calls[i]? = some (.create (.connecting t)))

include there

theorem step_conclude_error {attempt : Attempt} {e : ProviderError}
    (error : system.connection.attemptError? attempt = some e) :
    system.step (.conclude i attempt) = some (system.going i (.create (.done (.error e)))
      (system.connection.concludeDeeds attempt)
      { system.connection with lock := system.connection.lock.release, phase := .idle }) := by
  simp only [step, there, conclude, error]
  rw [requested_of_same (by rfl), List.append_nil]
  rfl

theorem step_conclude_accepted :
    system.step (.conclude i .accepted) =
      some (system.going i (.create .subscribe) [.attempted .accepted, .polling]
        { system.connection with
          lock := system.connection.lock.release, phase := .running, polling := .active }) := by
  simp only [step, there, conclude, attemptError?]
  rw [requested_of_same (by rfl)]
  rfl

theorem goes_conclude {attempt : Attempt} (stepped : system.step (.conclude i attempt) = some next) :
    system.Goes next := by
  cases error : system.connection.attemptError? attempt with
  | some e =>
    rw [step_conclude_error there error] at stepped
    cases stepped
    exact .fails there error
  | none =>
    cases attemptError?_eq_none_iff.mp error
    rw [step_conclude_accepted there] at stepped
    cases stepped
    exact .connects there

end Conclude

section Inversion

theorem of_step_expire {i : Nat} (stepped : system.step (.expire i) = some next) :
    system.calls[i]? = some (.close .grace) ∧
      next = system.going i (.close (.done (.ok ())))
        (system.connection.requested system.connection.shutDown.1) system.connection.shutDown.1 := by
  simp only [step] at stepped
  split at stepped
  · rename_i there
    cases stepped
    exact ⟨there, rfl⟩
  · cases stepped

theorem of_step_take {count : Nat} (stepped : system.step (.take count) = some next) :
    system.connection.polling = .active ∧ next = system.elsewhere
      (system.connection.inQueue (system.connection.requests.take count).2) := by
  simp only [step] at stepped
  split at stepped
  · rename_i active
    cases stepped
    exact ⟨active, rfl⟩
  · cases stepped

theorem of_step_await {idle : Bool} (stepped : system.step (.await idle) = some next) :
    system.connection.polling = .active ∧ next = system.elsewhere
      (system.connection.inQueue { system.connection.requests with idle }) := by
  simp only [step] at stepped
  split at stepped
  · rename_i active
    cases stepped
    exact ⟨active, rfl⟩
  · cases stepped

theorem of_step_setListener {receiver : Nat} {listener : Listener}
    (stepped : system.step (.setListener receiver listener) = some next) :
    receiver < system.connection.feed.created ∧ next = system.elsewhere
      (system.connection.inFeed (system.connection.feed.setListener receiver listener)) := by
  simp only [step] at stepped
  split at stepped
  · rename_i there
    cases stepped
    exact ⟨there, rfl⟩
  · cases stepped

theorem of_step_closeReceiver {receiver : Nat}
    (stepped : system.step (.closeReceiver receiver) = some next) :
    receiver < system.connection.feed.created ∧ next = system.elsewhere
      (system.connection.inFeed (system.connection.feed.closeReceiver receiver).1) := by
  simp only [step] at stepped
  split at stepped
  · rename_i there
    cases stepped
    exact ⟨there, rfl⟩
  · cases stepped

end Inversion

theorem goes_of_step {move : Move Listener} (stepped : system.step move = some next) :
    system.Goes next := by
  cases move with
  | create =>
    cases stepped
    exact .begins _ (.inl rfl)
  | close =>
    cases stepped
    exact .begins _ (.inr rfl)
  | go i =>
    simp only [step, Option.map_eq_some_iff] at stepped
    obtain ⟨call, there, rfl⟩ := stepped
    cases call with
    | create point => exact goes_create there
    | close point => exact goes_close there
  | conclude i attempt =>
    obtain ⟨t, there⟩ := connecting_of_conclude stepped
    exact goes_conclude there stepped
  | expire i =>
    obtain ⟨there, rfl⟩ := of_step_expire stepped
    rw [requested_shutDown]
    exact .closed there (.shutDown _)
  | poll polled =>
    cases stepped
    exact .elsewhere (.polled _ polled)
  | take count =>
    obtain ⟨active, rfl⟩ := of_step_take stepped
    exact .elsewhere (.taken active count)
  | await idle =>
    obtain ⟨active, rfl⟩ := of_step_await stepped
    exact .elsewhere (.awaits active idle)
  | setListener receiver listener =>
    obtain ⟨there, rfl⟩ := of_step_setListener stepped
    exact .elsewhere (.listens there listener)
  | closeReceiver receiver =>
    obtain ⟨there, rfl⟩ := of_step_closeReceiver stepped
    exact .elsewhere (.receiverClosed there)

theorem run_append {start : System Listener} {moves : List (Move Listener)}
    (ran : run start moves = some system) (later : List (Move Listener)) :
    run start (moves ++ later) = run system later := by
  induction moves generalizing start with
  | nil =>
    cases ran
    rfl
  | cons move moves ih =>
    simp only [run, List.cons_append] at ran ⊢
    split at ran
    · cases ran
    · rename_i next stepped
      exact ih ran

theorem run_single {move : Move Listener} (stepped : system.step move = some next) :
    run system [move] = some next := by
  simp only [run, stepped]

theorem run_induction {motive : System Listener → Prop}
    (went : ∀ system next, motive system → Goes system next → motive next)
    {moves : List (Move Listener)} {start : System Listener} (holds : motive start)
    (ran : run start moves = some system) : motive system := by
  induction moves generalizing start with
  | nil =>
    cases ran
    exact holds
  | cons move moves ih =>
    simp only [run] at ran
    split at ran
    · cases ran
    · rename_i next stepped
      exact ih (went start next holds (goes_of_step stepped)) ran

theorem run_concat {first : System Listener} {moves : List (Move Listener)} {move : Move Listener}
    (ran : first.run (moves ++ [move]) = some next) :
    ∃ system, first.run moves = some system ∧ system.step move = some next := by
  induction moves generalizing first with
  | nil =>
    simp only [List.nil_append, run] at ran
    split at ran
    · cases ran
    · rename_i left stepped
      exact ⟨first, rfl, ran ▸ stepped⟩
  | cons other moves ih =>
    simp only [List.cons_append, run] at ran ⊢
    split at ran
    · cases ran
    · exact ih ran

/-- What holds at first, and after each step if before it, holds after every run. It may depend on the
    moves that the run is of. -/
theorem run_induction_on {motive : List (Move Listener) → System Listener → Prop}
    {moves : List (Move Listener)} {first : System Listener} (holds : motive [] first)
    (went : ∀ moves move system next, first.run moves = some system → motive moves system →
      system.step move = some next → motive (moves ++ [move]) next)
    (ran : first.run moves = some system) : motive moves system := by
  induction moves using List.reverseRecOn generalizing system with
  | nil =>
    cases ran
    exact holds
  | append_singleton moves move ih =>
    obtain ⟨before, ranBefore, stepped⟩ := run_concat ran
    exact went moves move before system ranBefore (ih ranBefore) stepped

variable {start : Connection Listener}

theorem Reachable.run {moves : List (Move Listener)} (reachable : system.Reachable start)
    (ran : system.run moves = some next) : next.Reachable start := by
  obtain ⟨opened, before, reached⟩ := reachable
  exact ⟨opened, before ++ moves, by rw [run_append reached, ran]⟩

theorem Reachable.step {move : Move Listener} (reachable : system.Reachable start)
    (stepped : system.step move = some next) : next.Reachable start :=
  reachable.run (run_single stepped)

end System

end EventRelay.Mqtt.Connection
