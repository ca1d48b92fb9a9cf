import EventRelay.Proofs.Mqtt.Turns

namespace EventRelay.Mqtt

variable {Listener : Type}

theorem RequestQueue.served_push? {queue pushed : RequestQueue} {request : Request}
    (room : queue.push? request = some pushed) : pushed.served = queue.served := by
  unfold RequestQueue.push? at room
  split at room
  · cases room
    rfl
  · cases room

namespace Connection

def SamePolling (found left : Connection Listener) : Prop :=
  left.polling = found.polling ∧ left.requests.served = found.requests.served

/-- The polling has ended, and nobody takes requests. -/
def Gone (connection : Connection Listener) : Prop :=
  connection.polling = .ended ∧ connection.requests.served = false

def Move.livens (live : Bool) : Move Listener → Bool
  | .conclude _ .accepted => true
  | .poll .disconnected | .poll .shutDown | .expire _ => false
  | _ => live

section Polling

variable {found : Connection Listener}

theorem samePolling_refl (found : Connection Listener) : found.SamePolling found := ⟨rfl, rfl⟩

theorem samePolling_create (found : Connection Listener) (point : Create) :
    found.SamePolling (found.create point).1 := by
  cases point with
  | queued ticket =>
    simp only [create]
    split
    · split <;> exact samePolling_refl _
    · exact samePolling_refl _
  | subscribe =>
    rcases found.feed.subscription.acquire_cases with ⟨_, same⟩ | ⟨_, same⟩ | ⟨e, same⟩
    all_goals simp only [create, Feed.openReceiver, same]
    all_goals exact samePolling_refl _
  | _ => exact samePolling_refl _

theorem samePolling_closeReceiver (found : Connection Listener) (receiver : Nat) :
    found.SamePolling (found.inFeed (found.feed.closeReceiver receiver).1) := by
  unfold Feed.closeReceiver
  split
  · exact samePolling_refl _
  · rcases found.feed.subscription.release_cases with ⟨_, same⟩ | same | ⟨e, same⟩
    all_goals simp only [same]
    all_goals exact samePolling_refl _

theorem samePolling_resubscribe (found : Connection Listener) :
    found.SamePolling (found.inFeed
      { found.feed with subscription := found.feed.subscription.resubscribe.1 }) := by
  rcases found.feed.subscription.resubscribe_cases with
    ⟨_, same⟩ | ⟨_, record, same, _⟩ | ⟨_, _, record, same, _⟩
  all_goals rw [same]
  all_goals exact samePolling_refl _

theorem poll_of_inactive (inactive : found.polling ≠ .active) (polled : Polled) :
    found.poll polled = (found, {}) := by
  unfold poll
  split
  · rename_i active
    exact absurd active inactive
  · rfl

theorem samePolling_poll (found : Connection Listener) {polled : Polled}
    (stays : polled ≠ .disconnected) (goesOn : polled ≠ .shutDown) :
    found.SamePolling (found.poll polled).1 := by
  unfold poll
  split
  · cases polled with
    | connected sessionPresent =>
      cases sessionPresent with
      | true => exact samePolling_refl _
      | false => exact samePolling_resubscribe found
    | disconnected => exact absurd rfl stays
    | shutDown => exact absurd rfl goesOn
    | _ => exact samePolling_refl _
  · exact samePolling_refl _

theorem shutDown_gone (found : Connection Listener) :
    found.polling = .active ∧ found.shutDown.1.Gone ∨
      found.polling ≠ .active ∧ found.shutDown.1 = found := by
  unfold shutDown
  split
  · rename_i active
    exact .inl ⟨active, rfl, rfl⟩
  · rename_i other
    exact .inr ⟨other, rfl⟩

end Polling

namespace System

inductive Polls (system : System Listener) : Move Listener → System Listener → Prop
  | keeps {move : Move Listener} {next : System Listener}
      (same : system.connection.SamePolling next.connection)
      (live : ∀ live, move.livens live = live ∨
        move.livens live = false ∧ system.connection.polling ≠ .active) : Polls system move next
  | starts {i t : Nat} {next : System Listener}
      (there : system.calls[i]? = some (.create (.connecting t)))
      (active : next.connection.polling = .active)
      (served : next.connection.requests.served = system.connection.requests.served) :
    Polls system (.conclude i .accepted) next
  | stops {move : Move Listener} {next : System Listener} (stops : ∀ live, move.livens live = false)
      (active : system.connection.polling = .active) (gone : next.connection.Gone) :
    Polls system move next
  | closes {i : Nat} {next : System Listener} (idle : system.connection.phase = .idle)
      (gone : next.connection.Gone) (closing : 0 < next.count Deed.isClosing) :
    Polls system (.go i) next

variable {start : Connection Listener} {system next : System Listener} {move : Move Listener}
  {i : Nat}

theorem polls_of_same (same : system.connection.SamePolling next.connection)
    (live : ∀ live, move.livens live = live) : system.Polls move next :=
  .keeps same fun other => .inl (live other)

theorem polls_of_shutDown {left : Connection Listener} (stops : ∀ live, move.livens live = false)
    (shut : left = system.connection.shutDown.1) (there : next.connection = left) :
    system.Polls move next := by
  rw [shut] at there
  rcases system.connection.shutDown_gone with ⟨active, gone⟩ | ⟨inactive, same⟩
  · exact .stops stops active (there ▸ gone)
  · exact .keeps (by rw [there, same]; exact samePolling_refl _)
      fun live => .inr ⟨stops live, inactive⟩

theorem polls_close {point : Close} (there : system.calls[i]? = some (.close point))
    (ended : system.connection.requests.served = false → system.connection.polling = .ended) :
    system.Polls (.go i) (system.goStep i (.close point)) := by
  cases point with
  | queued t =>
    cases turn : system.connection.lock.isHeldBy t with
    | false =>
      simp only [goStep, close, turn, Bool.false_eq_true, if_false]
      exact polls_of_same (samePolling_refl _) fun _ => rfl
    | true =>
      cases phase : system.connection.phase with
      | idle =>
        rw [goStep_close_idle turn phase]
        refine .closes phase ⟨rfl, rfl⟩ ?_
        rw [count_going]
        exact Nat.succ_pos _
      | running =>
        rw [goStep_close_running turn phase]
        exact polls_of_same (samePolling_refl _) fun _ => rfl
      | closed =>
        rw [goStep_close_closed turn phase]
        exact polls_of_same (samePolling_refl _) fun _ => rfl
  | disconnect =>
    apply polls_of_same _ fun _ => rfl
    simp only [goStep, close]
    split
    · split
      · rename_i requests pushed
        exact ⟨rfl, RequestQueue.served_push? pushed⟩
      · exact samePolling_refl _
    · rename_i unserved
      have gone := ended (eq_false_of_ne_true unserved)
      rcases system.connection.shutDown_gone with ⟨active, _⟩ | ⟨_, same⟩
      · rw [gone] at active
        cases active
      · exact same.symm ▸ samePolling_refl _
  | grace =>
    apply polls_of_same _ fun _ => rfl
    simp only [goStep, close]
    split <;> exact samePolling_refl _
  | _ => exact polls_of_same (samePolling_refl _) fun _ => rfl

theorem polls_conclude {attempt : Attempt} {t : Nat}
    (there : system.calls[i]? = some (.create (.connecting t)))
    (stepped : system.step (.conclude i attempt) = some next) :
    system.Polls (.conclude i attempt) next := by
  cases error : system.connection.attemptError? attempt with
  | some e =>
    rw [step_conclude_error there error] at stepped
    cases stepped
    refine polls_of_same (samePolling_refl _) ?_
    intro live
    cases attempt with
    | accepted => cases error
    | _ => rfl
  | none =>
    cases attemptError?_eq_none_iff.mp error
    rw [step_conclude_accepted there] at stepped
    cases stepped
    exact .starts there rfl rfl

theorem polls_disconnected (system : System Listener) :
    system.Polls (.poll .disconnected) (system.elsewhere (system.connection.poll .disconnected).1) := by
  by_cases active : system.connection.polling = .active
  · refine .stops (fun _ => rfl) active ?_
    simp only [poll, active]
    exact ⟨rfl, rfl⟩
  · refine .keeps ?_ fun _ => .inr ⟨rfl, active⟩
    rw [poll_of_inactive active]
    exact samePolling_refl _

theorem polls_shutDown (system : System Listener) :
    system.Polls (.poll .shutDown) (system.elsewhere (system.connection.poll .shutDown).1) := by
  apply polls_of_shutDown (fun _ => rfl) _ rfl
  by_cases active : system.connection.polling = .active
  · simp only [poll, active]
    rfl
  · rw [poll_of_inactive active]
    rcases system.connection.shutDown_gone with ⟨other, _⟩ | ⟨_, same⟩
    · exact absurd other active
    · exact same.symm

theorem polls_of_step (ended : system.connection.requests.served = false →
      system.connection.polling = .ended)
    (stepped : system.step move = some next) : system.Polls move next := by
  cases move with
  | create | close =>
    cases stepped
    exact polls_of_same (samePolling_refl _) fun _ => rfl
  | go i =>
    simp only [step, Option.map_eq_some_iff] at stepped
    obtain ⟨call, there, rfl⟩ := stepped
    cases call with
    | create point => exact polls_of_same (samePolling_create _ point) fun _ => rfl
    | close point => exact polls_close there ended
  | conclude i attempt =>
    obtain ⟨t, there⟩ := connecting_of_conclude stepped
    exact polls_conclude there stepped
  | expire i =>
    obtain ⟨_, rfl⟩ := of_step_expire stepped
    exact polls_of_shutDown (fun _ => rfl) rfl rfl
  | poll polled =>
    cases stepped
    cases polled with
    | disconnected => exact polls_disconnected system
    | shutDown => exact polls_shutDown system
    | _ => exact polls_of_same (samePolling_poll _ (by simp) (by simp)) fun _ => rfl
  | take count =>
    obtain ⟨_, rfl⟩ := of_step_take stepped
    exact polls_of_same (samePolling_refl _) fun _ => rfl
  | await idle =>
    obtain ⟨_, rfl⟩ := of_step_await stepped
    exact polls_of_same (samePolling_refl _) fun _ => rfl
  | setListener receiver listener =>
    obtain ⟨_, rfl⟩ := of_step_setListener stepped
    exact polls_of_same (samePolling_refl _) fun _ => rfl
  | closeReceiver receiver =>
    obtain ⟨_, rfl⟩ := of_step_closeReceiver stepped
    exact polls_of_same (samePolling_closeReceiver _ receiver) fun _ => rfl

/-- Requests are taken until the polling ends, and that is once an attempt was accepted or a close took
    effect. -/
structure Wound (system : System Listener) : Prop where
  ended : system.connection.requests.served = false → system.connection.polling = .ended
  spent : system.connection.polling = .ended →
    0 < system.count Deed.isAccepted ∨ 0 < system.count Deed.isClosing

theorem Sound.accepted_of_active (sound : system.Sound start)
    (active : system.connection.polling = .active) : 0 < system.count Deed.isAccepted := by
  by_contra none
  exact (sound.unpolled (by omega)).1 active

theorem Wound.went (wound : system.Wound) (sound : system.Sound start)
    (stepped : system.step move = some next) : next.Wound := by
  have longer := (goes_of_step stepped).extends
  cases polls_of_step wound.ended stepped with
  | keeps same _ =>
    refine ⟨?_, ?_⟩
    · rw [same.1, same.2]
      exact wound.ended
    · rw [same.1]
      intro ended
      exact (wound.spent ended).imp (count_pos_of_extends · longer) (count_pos_of_extends · longer)
  | starts there active served =>
    have flying := sound.flying _ _ there
    refine ⟨?_, ?_⟩
    · rw [served]
      intro unserved
      have spent := wound.spent (wound.ended unserved)
      omega
    · rw [active]
      rintro ⟨⟩
  | stops _ active gone =>
    exact ⟨fun _ => gone.1,
      fun _ => .inl (count_pos_of_extends (sound.accepted_of_active active) longer)⟩
  | closes _ gone closing => exact ⟨fun _ => gone.1, fun _ => .inr closing⟩

theorem wound_initial {factory : Factory} {params : ConnectionParams}
    (opened : ofFactory factory params = .ok start) : (initial start).Wound := by
  obtain ⟨_, _, _, _, _, _, rfl⟩ := new_of_ofFactory opened
  exact ⟨by rintro ⟨⟩, by rintro ⟨⟩⟩

theorem Reachable.wound (reachable : system.Reachable start) : system.Wound := by
  obtain ⟨⟨factory, params, opened⟩, moves, ran⟩ := reachable
  have went (moves : List (Move Listener)) (move : Move Listener) (now later : System Listener)
      (reached : (initial start).run moves = some now) (wound : now.Wound)
      (stepped : now.step move = some later) : later.Wound :=
    wound.went (Reachable.sound ⟨⟨factory, params, opened⟩, moves, reached⟩) stepped
  exact run_induction_on (wound_initial opened) went ran

end System

end Connection

end EventRelay.Mqtt
