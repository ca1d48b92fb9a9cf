import EventRelay.Proofs.Mqtt.Attempts

namespace EventRelay.Mqtt.Connection

variable {Listener : Type}

def Call.isCreate : Call → Bool
  | .create _ => true
  | .close _ => false

namespace System

section

variable {start : Connection Listener} {system next before begun after : System Listener}
  {i j t : Nat} {call called : Call} {deeds : List Deed} {left : Connection Listener}
  {moves : List (Move Listener)}

theorem kind_going (there : system.calls[i]? = some call) (same : called.isCreate = call.isCreate)
    {other : Call} (present : system.calls[j]? = some other) :
    ∃ now : Call, (system.going i called deeds left).calls[j]? = some now ∧
      now.isCreate = other.isCreate := by
  obtain ⟨inside, _⟩ := List.getElem?_eq_some_iff.mp there
  by_cases apart : i = j
  · subst apart
    rw [there, Option.some.injEq] at present
    exact ⟨called, List.getElem?_set_self inside, present ▸ same⟩
  · exact ⟨other, (List.getElem?_set_ne apart).trans present, rfl⟩

theorem Goes.kind (went : system.Goes next) (present : system.calls[j]? = some call) :
    ∃ now : Call, next.calls[j]? = some now ∧ now.isCreate = call.isCreate := by
  cases went with
  | stays | elsewhere => exact ⟨call, present, rfl⟩
  | begins new =>
    obtain ⟨inside, _⟩ := List.getElem?_eq_some_iff.mp present
    exact ⟨call, (List.getElem?_append_left inside).trans present, rfl⟩
  | asks there points =>
    rcases points with ⟨rfl, rfl⟩ | ⟨rfl, rfl⟩
    · exact kind_going there (by rfl) present
    · exact kind_going there (by rfl) present
  | findsRunning there | findsClosed there | findsIdle there | fails there | connects there
  | opens there | closesRunning there | closesIdle there | closesClosed there
  | disconnects there | refused there | closed there => exact kind_going there (by rfl) present

theorem run_kind (ran : system.run moves = some next) (present : system.calls[j]? = some call) :
    ∃ now : Call, next.calls[j]? = some now ∧ now.isCreate = call.isCreate := by
  have went (now later : System Listener)
      (holds : ∃ other : Call, now.calls[j]? = some other ∧ other.isCreate = call.isCreate)
      (goes : now.Goes later) :
      ∃ other : Call, later.calls[j]? = some other ∧ other.isCreate = call.isCreate := by
    obtain ⟨other, there, same⟩ := holds
    obtain ⟨last, stands, kept⟩ := goes.kind there
    exact ⟨last, stands, kept.trans same⟩
  exact run_induction went ⟨call, present, rfl⟩ ran

theorem run_create {point : Create} (ran : system.run moves = some next)
    (present : system.calls[j]? = some (.create point)) :
    ∃ now, next.calls[j]? = some (.create now) := by
  obtain ⟨called, there, kept⟩ := run_kind ran present
  cases called with
  | create now => exact ⟨now, there⟩
  | close => cases kept

namespace Reachable

theorem failed_of_attempting (reachable : before.Reachable start)
    (flying : before.calls[i]? = some (.create (.connecting t)))
    (reached : after.Reachable start) (longer : before.history <+: after.history)
    (tries : (some before.calls.length, .attempting) ∈ after.history) :
    ∃ attempt e, (some i, .attempted attempt) ∈ after.history ∧
      start.attemptError? attempt = some e := by
  have new : (some before.calls.length, .attempting) ∉ before.history :=
    fun did => absurd (reachable.tried.numbered _ _ did) (Nat.lt_irrefl _)
  -- The attempt under way began before the newcomer's, so it has ended by then, and not well.
  obtain ⟨earlier, later, split⟩ := List.append_of_mem tries
  have first := prefix_of_split longer split new
  obtain ⟨none, concluded⟩ := reached.tried.alone _ _ _ split
  obtain ⟨attempt, did⟩ := concluded i (first.subset (reachable.tried.trying i t flying).1)
  have unaccepted : attempt ≠ .accepted := by
    rintro rfl
    cases (none _ did).1
  cases error : start.attemptError? attempt with
  | none => exact absurd (attemptError?_eq_none_iff.mp error) unaccepted
  | some e =>
    refine ⟨attempt, e, ?_, error⟩
    rw [split]
    exact List.mem_append_left _ did

theorem early_of_connecting (reachable : system.Reachable start) {u : Nat} {point : Create}
    (flying : system.calls[i]? = some (.create (.connecting u))) (apart : j ≠ i)
    (waits : (some j, .attempting) ∉ system.history)
    (there : system.calls[j]? = some (.create point)) :
    (Call.create point).isEarly = true := by
  have sound := reachable.sound
  obtain ⟨_, unaccepted, unclosed⟩ := sound.flying i u flying
  cases point with
  | enter => rfl
  | queued => rfl
  | connecting v => exact absurd (sound.inLine.same_of_connecting there flying).1 apart
  | subscribe =>
    have accepted := sound.requesting j _ there rfl
    omega
  | done result =>
    rcases reachable.tried.answered j result there with
      ⟨attempt, e, did, _⟩ | ⟨accepted, _⟩ | ⟨closing, _⟩
    · exact absurd (reachable.tried.begun _ ⟨attempt, did⟩) waits
    · omega
    · omega

/-- A call whose turn has come makes an attempt exactly if none was accepted and nobody has closed. -/
theorem attempts_iff_of_turn (reachable : system.Reachable start)
    (there : system.calls[j]? = some (.create (.queued t)))
    (turn : system.connection.lock.isHeldBy t = true) :
    ∃ next, system.step (.go j) = some next ∧ ((some j, .attempting) ∈ next.history ↔
      system.count Deed.isAccepted = 0 ∧ system.count Deed.isClosing = 0) := by
  have sound := reachable.sound
  have untried := reachable.tried.early j _ there rfl
  refine ⟨_, step_go there, ?_⟩
  cases found : system.connection.phase with
  | idle =>
    rw [goStep_create_idle turn found, mem_going]
    exact ⟨fun _ => sound.idle found, fun _ => .inr ⟨rfl, List.mem_singleton.mpr rfl⟩⟩
  | running =>
    have accepted := (sound.running found).1
    rw [goStep_create_running turn found, mem_going]
    constructor
    · rintro (did | ⟨_, ⟨⟩⟩)
      exact absurd did untried
    · rintro ⟨unaccepted, _⟩
      omega
  | closed =>
    have closing := sound.closing_of_turn there turn found
    rw [goStep_create_closed turn found, mem_going]
    constructor
    · rintro (did | ⟨_, ⟨⟩⟩)
      exact absurd did untried
    · rintro ⟨_, unclosed⟩
      omega

end Reachable

/-- Attempts are made one at a time, and a call that comes during one waits for its end and shares its
    success. Its failure is not shared: whoever waits makes an attempt of its own when its turn comes,
    unless another one was accepted or the connection closed meanwhile, and is only told how that one
    failed. -/
theorem waiters_try_for_themselves (reachable : before.Reachable start)
    (flying : before.calls[i]? = some (.create (.connecting t)))
    (begins : before.step .create = some begun) (ran : begun.run moves = some after) :
    (∀ u, after.calls[i]? = some (.create (.connecting u)) →
      (some before.calls.length, .attempting) ∉ after.history ∧
        ∃ call, after.calls[before.calls.length]? = some call ∧ call.isEarly = true) ∧
    ((some i, .attempted .accepted) ∈ after.history →
      (some before.calls.length, .attempting) ∉ after.history) ∧
    ((some before.calls.length, .attempting) ∈ after.history →
      ∃ attempt e, (some i, .attempted attempt) ∈ after.history ∧
        start.attemptError? attempt = some e) ∧
    (∀ u, after.calls[before.calls.length]? = some (.create (.queued u)) →
      after.connection.lock.isHeldBy u = true →
      ∃ next, after.step (.go before.calls.length) = some next ∧
        ((some before.calls.length, .attempting) ∈ next.history ↔
          after.count Deed.isAccepted = 0 ∧ after.count Deed.isClosing = 0)) ∧
    ∀ result, after.calls[before.calls.length]? = some (.create (.done result)) →
      after.Answered start before.calls.length result := by
  have reached := (reachable.step begins).run ran
  have longer := (goes_of_step begins).extends.trans (run_extends ran)
  cases begins
  have failed := reachable.failed_of_attempting flying reached longer
  have there : (before.calling (.create .enter)).calls[before.calls.length]? =
      some (.create .enter) := by
    simp [calling]
  obtain ⟨point, stands⟩ := run_create ran there
  refine ⟨?_, ?_, failed, ?_, reached.tried.answered _⟩
  · intro u flyingStill
    have waits : (some before.calls.length, .attempting) ∉ after.history := by
      intro tries
      obtain ⟨attempt, _, did, _⟩ := failed tries
      exact (reached.tried.trying i u flyingStill).2 ⟨attempt, did⟩
    have apart : before.calls.length ≠ i :=
      (Nat.ne_of_lt (List.getElem?_eq_some_iff.mp flying).1).symm
    exact ⟨waits, _, stands, reached.early_of_connecting flyingStill apart waits stands⟩
  · intro accepted tries
    obtain ⟨attempt, e, did, error⟩ := failed tries
    rw [reached.tried.single i _ _ did accepted] at error
    cases error
  · intro u queued turn
    exact reached.attempts_iff_of_turn queued turn

end

def firstTry : List (Move Unit) := [.create, .go 0, .go 0]

def secondTry : List (Move Unit) :=
  [.go 1, .conclude 0 .timedOut, .go 1, .conclude 1 .accepted, .go 1]

theorem secondTry_succeeds : ∃ (start : Connection Unit) (before begun after : System Unit),
    before.Reachable start ∧ before.calls.length = 1 ∧
      before.calls[0]? = some (.create (.connecting 0)) ∧ before.step .create = some begun ∧
      begun.run secondTry = some after ∧ after.calls[1]? = some (.create (.done (.ok 0))) ∧
      after.history = [(some 0, .attempting), (some 0, .attempted .timedOut), (some 1, .attempting),
        (some 1, .attempted .accepted), (some 1, .polling),
        (some 1, .requested (.subscribe "logs/#"))] :=
  ⟨_, _, _, _, ⟨⟨({} : Factory).bind "local" (.forHost "broker"), ⟨"local", "logs/#", none, none⟩, rfl⟩,
    firstTry, rfl⟩, rfl, rfl, rfl, rfl, rfl, rfl⟩

theorem waiters_try_for_themselves_timeout :
    ∃ (start : Connection Unit) (before begun after : System Unit),
      before.Reachable start ∧ before.calls[0]? = some (.create (.connecting 0)) ∧
      before.step .create = some begun ∧ begun.run secondTry = some after ∧
      (∃ attempt e, (some 0, .attempted attempt) ∈ after.history ∧
        start.attemptError? attempt = some e) ∧
      after.Answered start 1 (.ok 0) := by
  obtain ⟨start, before, begun, after, reachable, length, flying, begins, ran, result, history⟩ :=
    secondTry_succeeds
  obtain ⟨_, _, failed, _, answered⟩ := waiters_try_for_themselves reachable flying begins ran
  rw [length] at failed answered
  exact ⟨start, before, begun, after, reachable, flying, begins, ran, failed (by simp [history]),
    answered _ result⟩

/-- So a call can come during an attempt that fails, and make another one that succeeds. -/
theorem not_every_waiter_shares :
    ¬ ∀ (start : Connection Unit) (before begun after : System Unit) (i t : Nat)
      (moves : List (Move Unit)), before.Reachable start →
      before.calls[i]? = some (.create (.connecting t)) → before.step .create = some begun →
      begun.run moves = some after →
      (some before.calls.length, .attempting) ∉ after.history ∧
        ∀ attempt e result, (some i, .attempted attempt) ∈ after.history →
          start.attemptError? attempt = some e →
          after.calls[before.calls.length]? = some (.create (.done result)) → result = .error e := by
  intro shared
  obtain ⟨start, before, begun, after, reachable, length, flying, begins, ran, _, history⟩ :=
    secondTry_succeeds
  have waits := (shared start before begun after 0 0 secondTry reachable flying begins ran).1
  rw [length, history] at waits
  simp at waits

end System

end EventRelay.Mqtt.Connection
