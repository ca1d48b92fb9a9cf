import EventRelay.Proofs.Mqtt.Parting

namespace EventRelay.Mqtt.Connection

variable {Listener : Type}

theorem attemptError?_cases (connection : Connection Listener) (attempt : Attempt) :
    (attempt = .accepted ∧ connection.attemptError? attempt = none) ∨
      ((attempt = .refused 4 ∨ attempt = .refused 5) ∧
        connection.attemptError? attempt =
          some (.credentialsRejected (connection.username.getD ""))) ∨
      ((attempt ≠ .accepted ∧ attempt ≠ .refused 4 ∧ attempt ≠ .refused 5) ∧
        ∃ reason, connection.attemptError? attempt = some (.connection reason)) := by
  cases attempt with
  | accepted => exact .inl ⟨rfl, rfl⟩
  | refused code =>
    by_cases login : isBadLogin code = true
    · refine .inr (.inl ⟨?_, ?_⟩)
      · simpa [isBadLogin] using login
      · simp only [attemptError?, login, if_true]
    · refine .inr (.inr ⟨?_, _, if_neg login⟩)
      simpa [isBadLogin] using login
  | failed reason => exact .inr (.inr ⟨by simp, reason, rfl⟩)
  | timedOut => exact .inr (.inr ⟨by simp, _, rfl⟩)

def Create.IsLate (start : Connection Listener) (point : Create) : Prop :=
  point = .enter ∨ (∃ ticket, point = .queued ticket) ∨ point = .done (.error start.closedError)

namespace System

def Leads (system : System Listener) (move : Move Listener) (i : Nat) (call : Call) : Prop :=
  ∃ next, system.step move = some next ∧ next.calls[i]? = some call

section

variable {start : Connection Listener} {system next later : System Listener} {i j t : Nat}
  {call called : Call} {deeds : List Deed} {left : Connection Listener}
  {moves : List (Move Listener)}

theorem calls_going (there : system.calls[i]? = some call) :
    (system.going i called deeds left).calls[i]? = some called :=
  List.getElem?_set_self (List.getElem?_eq_some_iff.mp there).1

theorem leads_go {point : Call} (there : system.calls[i]? = some call)
    (goes : system.goStep i call = system.going i point deeds left) :
    system.Leads (.go i) i point :=
  ⟨_, (step_go there).trans (congrArg some goes), calls_going there⟩

namespace Sound

variable (sound : system.Sound start)

include sound

theorem phase_idle_of_turn (there : system.calls[j]? = some (.create (.queued t)))
    (turn : system.connection.lock.isHeldBy t = true)
    (unaccepted : system.count Deed.isAccepted = 0) (unclosed : system.count Deed.isClosing = 0) :
    system.connection.phase = .idle := by
  cases found : system.connection.phase with
  | idle => rfl
  | running =>
    have accepted := (sound.running found).1
    omega
  | closed =>
    have closing := sound.closing_of_turn there turn found
    omega

theorem leaves_untouched (there : system.calls[i]? = some (.create (.connecting t)))
    {attempt : Attempt} {e : ProviderError} (error : start.attemptError? attempt = some e) :
    ∃ next, system.step (.conclude i attempt) = some next ∧
      next.calls[i]? = some (.create (.done (.error e))) ∧ next.connection.phase = .idle ∧
      next.connection.feed = system.connection.feed ∧ system.connection.feed = start.feed := by
  rw [← sound.attemptError?_eq] at error
  obtain ⟨_, unaccepted, unclosed⟩ := sound.flying i t there
  exact ⟨_, step_conclude_error there error, calls_going there, rfl, rfl,
    sound.untouched unaccepted unclosed⟩

theorem late_of_goes (closing : 0 < system.count Deed.isClosing) {n : Nat}
    (late : ∀ j ≥ n, ∀ point, system.calls[j]? = some (.create point) → point.IsLate start)
    (went : system.Goes next) :
    ∀ j ≥ n, ∀ point, next.calls[j]? = some (.create point) → point.IsLate start := by
  obtain ⟨closed, nobody⟩ := sound.closed_of_closing closing
  -- Only the call that goes on can have got anywhere else.
  have moved {i : Nat} {called : Call} {deeds : List Deed} {left : Connection Listener}
      (fine : i ≥ n → ∀ point, called = .create point → point.IsLate start) :
      ∀ j ≥ n, ∀ point, (system.going i called deeds left).calls[j]? = some (.create point) →
        point.IsLate start := by
    intro j beyond point now
    rcases replaced_or_same now with ⟨rfl, this⟩ | ⟨_, before⟩
    · exact fine beyond point this.symm
    · exact late j beyond point before
  cases went with
  | stays => exact late
  | begins call new =>
    intro j beyond point now
    rcases last_or_same now with ⟨_, rfl⟩ | before
    · rcases new with new | new <;> cases new
      exact .inl rfl
    · exact late j beyond point before
  | asks there points =>
    rcases points with ⟨_, rfl⟩ | ⟨_, rfl⟩
    · refine moved ?_
      rintro _ _ ⟨⟩
      exact .inr (.inl ⟨_, rfl⟩)
    · exact moved (by rintro _ _ ⟨⟩)
  | findsRunning _ _ found => cases found.symm.trans closed
  | findsIdle _ _ found => cases found.symm.trans closed
  | findsClosed =>
    refine moved ?_
    rintro _ _ ⟨⟩
    exact .inr (.inr (by rw [sound.closedError_eq]))
  | fails there => exact absurd there (nobody _ _)
  | connects there => exact absurd there (nobody _ _)
  | opens there =>
    refine moved ?_
    intro beyond
    rcases late _ beyond _ there with this | ⟨_, this⟩ | this <;> cases this
  | closesRunning | closesIdle | closesClosed | disconnects | refused | closed =>
    exact moved (by rintro _ _ ⟨⟩)
  | elsewhere => exact late

theorem feed_of_late (closing : 0 < system.count Deed.isClosing) {point : Create}
    (there : system.calls[j]? = some (.create point)) (late : point.IsLate start)
    (stepped : system.step (.go j) = some next) :
    next.connection.feed = system.connection.feed := by
  rw [step_go there, Option.some.injEq] at stepped
  subst stepped
  rcases late with rfl | ⟨ticket, rfl⟩ | rfl
  · rfl
  · cases turn : system.connection.lock.isHeldBy ticket with
    | true => rw [goStep_create_closed turn (sound.closed_of_closing closing).1]; rfl
    | false =>
      simp only [goStep, create, turn, Bool.false_eq_true, if_false]
      rfl
  · rfl

end Sound

namespace Reachable

variable (reachable : system.Reachable start)

include reachable

theorem late_of_run (closing : 0 < system.count Deed.isClosing) (ran : system.run moves = some later) :
    ∀ j ≥ system.calls.length, ∀ point, later.calls[j]? = some (.create point) →
      point.IsLate start := by
  have went (now after : System Listener)
      (holds : now.Sound start ∧ 0 < now.count Deed.isClosing ∧
        ∀ j ≥ system.calls.length, ∀ point, now.calls[j]? = some (.create point) →
          point.IsLate start)
      (goes : now.Goes after) :
      after.Sound start ∧ 0 < after.count Deed.isClosing ∧
        ∀ j ≥ system.calls.length, ∀ point, after.calls[j]? = some (.create point) →
          point.IsLate start := by
    obtain ⟨sound, closed, late⟩ := holds
    exact ⟨sound.went goes, count_pos_of_extends closed goes.extends,
      sound.late_of_goes closed late goes⟩
  refine (run_induction went ⟨reachable.sound, closing, ?_⟩ ran).2.2
  intro j beyond point there
  exact absurd (List.getElem?_eq_some_iff.mp there).1 (Nat.not_lt.mpr beyond)

theorem refuses_queued (closing : 0 < system.count Deed.isClosing)
    (there : system.calls[j]? = some (.create (.queued t))) :
    ∃ moves after, system.run moves = some after ∧ (∀ move ∈ moves, ∃ k, move = .go k) ∧
      after.calls[j]? = some (.create (.done (.error start.closedError))) := by
  obtain ⟨moves, after, ran, _, alone, stands, turn⟩ :=
    reachable.turn_comes (fun _ => .timedOut) there rfl
  have sound := (reachable.run ran).sound
  have closed := sound.closed_of_closing (count_pos_of_extends closing (run_extends ran))
  obtain ⟨last, stepped, ended⟩ := leads_go stands (goStep_create_closed turn closed.1)
  refine ⟨moves ++ [.go j], last, ?_, ?_, ?_⟩
  · rw [run_append ran, run_single stepped]
  · intro move member
    rcases List.mem_append.mp member with member | member
    · exact alone closing move member
    · exact ⟨j, List.mem_singleton.mp member⟩
  · rw [ended, sound.closedError_eq]

theorem refuses_late (closing : 0 < system.count Deed.isClosing) {point : Create}
    (there : system.calls[j]? = some (.create point)) (late : point.IsLate start) :
    ∃ moves after, system.run moves = some after ∧ (∀ move ∈ moves, ∃ k, move = .go k) ∧
      after.calls[j]? = some (.create (.done (.error start.closedError))) := by
  rcases late with rfl | ⟨ticket, rfl⟩ | rfl
  · obtain ⟨asked, stepped, queued⟩ : system.Leads (.go j) j
        (.create (.queued system.connection.lock.request.2)) :=
      ⟨_, step_go there, calls_going there⟩
    have closingStill := count_pos_of_extends closing (goes_of_step stepped).extends
    obtain ⟨moves, after, ran, alone, ended⟩ :=
      (reachable.step stepped).refuses_queued closingStill queued
    refine ⟨.go j :: moves, after, ?_, ?_, ended⟩
    · simp only [System.run, stepped, ran]
    · intro move member
      rcases List.mem_cons.mp member with rfl | member
      · exact ⟨j, rfl⟩
      · exact alone move member
  · exact reachable.refuses_queued closing there
  · exact ⟨[], system, rfl, by simp, there⟩

theorem closing_of_returned {result : Except ProviderError Unit}
    (returned : system.calls[i]? = some (.close (.done result))) :
    0 < system.count Deed.isClosing := by
  have member : ∃ found, (some i, .closing found) ∈ system.history := by
    rcases reachable.parted.returned i result returned with running | ⟨_, found, did⟩
    · exact ⟨_, running⟩
    · exact ⟨found, did⟩
  obtain ⟨found, did⟩ := member
  exact List.countP_pos_iff.mpr ⟨_, did, rfl⟩

theorem count_disconnect_le_one : system.count Deed.isDisconnect ≤ 1 := by
  have told := reachable.parted.told
  have once := reachable.parted.once
  have accepted := reachable.sound.once
  omega

theorem running_of_disconnect {who : Option Nat}
    (did : (who, .requested .disconnect) ∈ system.history) :
    ∃ (i : Nat) (point : Close), who = some i ∧ system.calls[i]? = some (.close point) ∧
      (some i, .closing .running) ∈ system.history := by
  cases who with
  | none => exact absurd did reachable.parted.others
  | some i =>
    have inside := reachable.tried.numbered i _ did
    have there := List.getElem?_eq_getElem inside
    rcases reachable.parted.requested i _ _ there did with ⟨_, topic, ⟨⟩⟩ | ⟨close, _, running⟩
    cases call : system.calls[i] with
    | create point =>
      rw [call] at close
      cases close
    | close point => exact ⟨i, point, rfl, there.trans (congrArg some call), running⟩

theorem quiet_of_not_running {result : Except ProviderError Unit}
    (returned : system.calls[i]? = some (.close (.done result)))
    (other : (some i, .closing .running) ∉ system.history) :
    result = .ok () ∧ ∀ request, (some i, .requested request) ∉ system.history := by
  refine ⟨?_, ?_⟩
  · rcases reachable.parted.returned i result returned with running | ⟨fine, _⟩
    · exact absurd running other
    · exact fine
  · intro request did
    rcases reachable.parted.requested i _ request returned did with ⟨⟨⟩, _⟩ | ⟨_, _, running⟩
    exact other running

end Reachable

theorem leads_close_of_turn (there : system.calls[i]? = some (.close (.queued t)))
    (turn : system.connection.lock.isHeldBy t = true) (found : system.connection.phase ≠ .running) :
    system.Leads (.go i) i (.close (.done (.ok ()))) := by
  cases phase : system.connection.phase with
  | running => exact absurd phase found
  | idle => exact leads_go there (goStep_close_idle turn phase)
  | closed => exact leads_go there (goStep_close_closed turn phase)

/-- However calls to create receivers and to close overlap and attempts end: the polling is started
    once at most. A failed attempt leaves the connection idle and as it was opened, with an error about
    the credentials exactly if those were refused. Every call's turn comes; it makes a new attempt then
    unless one was accepted or a close took effect, and gets a receiver if its attempt is accepted and
    it can subscribe. Whoever comes after a close is refused and changes nothing, for ever. Only the
    close that found the connection running asks to be disconnected, once; every other close only
    returns. -/
theorem connects_once_until_closed (reachable : system.Reachable start) :
    system.count Deed.isPolling ≤ 1 ∧
    (∀ i t : Nat, system.calls[i]? = some (.create (.connecting t)) → ∀ attempt e,
      start.attemptError? attempt = some e → ∃ next, system.step (.conclude i attempt) = some next ∧
        next.calls[i]? = some (.create (.done (.error e))) ∧ next.connection.phase = .idle ∧
        next.connection.feed = system.connection.feed ∧ system.connection.feed = start.feed) ∧
    (∀ attempt, (attempt = .accepted ∧ start.attemptError? attempt = none) ∨
      ((attempt = .refused 4 ∨ attempt = .refused 5) ∧
        start.attemptError? attempt = some (.credentialsRejected (start.username.getD ""))) ∨
      ((attempt ≠ .accepted ∧ attempt ≠ .refused 4 ∧ attempt ≠ .refused 5) ∧
        ∃ reason, start.attemptError? attempt = some (.connection reason))) ∧
    (∀ (outcome : Nat → Attempt) (j t : Nat) (call : Call), system.calls[j]? = some call →
      call.ticket? = some t → ∃ moves after, system.run moves = some after ∧
        Unaided outcome moves ∧ after.calls[j]? = some call ∧
        after.connection.lock.isHeldBy t = true) ∧
    (∀ j t : Nat, system.calls[j]? = some (.create (.queued t)) →
      system.connection.lock.isHeldBy t = true → system.count Deed.isAccepted = 0 →
      system.count Deed.isClosing = 0 → system.Leads (.go j) j (.create (.connecting t))) ∧
    (∀ j t : Nat, system.calls[j]? = some (.create (.connecting t)) →
      system.Leads (.conclude j .accepted) j (.create .subscribe)) ∧
    (∀ j : Nat, system.calls[j]? = some (.create .subscribe) →
      (system.connection.feed.subscription.receivers = 0 →
        system.connection.requests.hasRoom = true) →
      system.Leads (.go j) j (.create (.done (.ok system.connection.feed.created)))) ∧
    (∀ (i : Nat) (closed : Except ProviderError Unit),
      system.calls[i]? = some (.close (.done closed)) → ∀ moves later,
      system.run moves = some later → ∀ j ≥ system.calls.length, ∀ point,
      later.calls[j]? = some (.create point) →
        (∀ result, point = .done result → result = .error start.closedError) ∧
        (∀ next, later.step (.go j) = some next →
          next.connection.feed = later.connection.feed) ∧
        (∀ attempt, later.step (.conclude j attempt) = none) ∧
        ∃ rest final, later.run rest = some final ∧ (∀ move ∈ rest, ∃ k, move = .go k) ∧
          final.calls[j]? = some (.create (.done (.error start.closedError)))) ∧
    system.count Deed.isDisconnect ≤ 1 ∧
    (∀ who, (who, .requested .disconnect) ∈ system.history → ∃ (i : Nat) (point : Close),
      who = some i ∧ system.calls[i]? = some (.close point) ∧
        (some i, .closing .running) ∈ system.history) ∧
    (∀ (i : Nat) (result : Except ProviderError Unit),
      system.calls[i]? = some (.close (.done result)) →
      (some i, .closing .running) ∉ system.history →
        result = .ok () ∧ ∀ request, (some i, .requested request) ∉ system.history) ∧
    ∀ i t : Nat, system.calls[i]? = some (.close (.queued t)) →
      system.connection.lock.isHeldBy t = true → system.connection.phase ≠ .running →
        system.Leads (.go i) i (.close (.done (.ok ()))) := by
  have sound := reachable.sound
  refine ⟨?_, ?_, start.attemptError?_cases, ?_, ?_, ?_, ?_, ?_, reachable.count_disconnect_le_one,
    ?_, ?_, ?_⟩
  · rw [sound.polled]
    exact sound.once
  · intro i t there attempt e error
    exact sound.leaves_untouched there error
  · intro outcome j t call there ticket
    obtain ⟨moves, after, ran, unaided, _, stands, turn⟩ :=
      reachable.turn_comes outcome there ticket
    exact ⟨moves, after, ran, unaided, stands, turn⟩
  · intro j t there turn unaccepted unclosed
    have idle := sound.phase_idle_of_turn there turn unaccepted unclosed
    exact leads_go there (goStep_create_idle turn idle)
  · intro j t there
    exact ⟨_, step_conclude_accepted there, calls_going there⟩
  · intro j there room
    have opened := Feed.openReceiver_of_room room
    rw [← opened]
    exact ⟨_, step_go there, calls_going there⟩
  · intro i closed returned moves later ran j beyond point there
    have closing := reachable.closing_of_returned returned
    have late := reachable.late_of_run closing ran j beyond point there
    have reached := reachable.run ran
    have closingStill := count_pos_of_extends closing (run_extends ran)
    refine ⟨?_, ?_, ?_, reached.refuses_late closingStill there late⟩
    · rintro result rfl
      rcases late with this | ⟨_, this⟩ | this
      · cases this
      · cases this
      · exact Create.done.inj this
    · intro next stepped
      exact reached.sound.feed_of_late closingStill there late stepped
    · intro attempt
      cases stepped : later.step (.conclude j attempt) with
      | none => rfl
      | some next =>
        obtain ⟨t, connecting⟩ := connecting_of_conclude stepped
        exact absurd connecting ((reached.sound.closed_of_closing closingStill).2 j t)
  · intro who did
    exact reachable.running_of_disconnect did
  · intro i result returned other
    exact reachable.quiet_of_not_running returned other
  · intro i t there turn found
    exact leads_close_of_turn there turn found

end

def closedTwice : List (Move Unit) :=
  [.create, .go 0, .go 0, .conclude 0 (.refused 5), .create, .go 1, .go 1, .conclude 1 .accepted,
    .go 1, .close, .close, .go 2, .go 3, .go 2, .go 3, .go 2, .take 2, .poll .disconnected, .go 2]

theorem connects_once_until_closed_twice : ∃ (start : Connection Unit) (system later : System Unit),
    system.Reachable start ∧
    system.calls = [.create (.done (.error (.credentialsRejected ""))), .create (.done (.ok 0)),
      .close (.done (.ok ())), .close (.done (.ok ()))] ∧
    system.history = [(some 0, .attempting), (some 0, .attempted (.refused 5)),
      (some 1, .attempting), (some 1, .attempted .accepted), (some 1, .polling),
      (some 1, .requested (.subscribe "logs/#")), (some 2, .closing .running),
      (some 3, .closing .closed), (some 2, .requested .disconnect)] ∧
    system.count Deed.isPolling ≤ 1 ∧ system.count Deed.isDisconnect ≤ 1 ∧
    (∀ request, (some 3, .requested request) ∉ system.history) ∧
    system.run [.create, .go 4] = some later ∧
    ∃ rest final, later.run rest = some final ∧
      final.calls[4]? = some (.create (.done (.error start.closedError))) := by
  obtain ⟨start, system, later, reachable, calls, history, ran, there⟩ :
      ∃ (start : Connection Unit) (system later : System Unit), system.Reachable start ∧
        system.calls = [.create (.done (.error (.credentialsRejected ""))),
          .create (.done (.ok 0)), .close (.done (.ok ())), .close (.done (.ok ()))] ∧
        system.history = [(some 0, .attempting), (some 0, .attempted (.refused 5)),
          (some 1, .attempting), (some 1, .attempted .accepted), (some 1, .polling),
          (some 1, .requested (.subscribe "logs/#")), (some 2, .closing .running),
          (some 3, .closing .closed), (some 2, .requested .disconnect)] ∧
        system.run [.create, .go 4] = some later ∧
        later.calls[4]? = some (.create (.queued 4)) :=
    ⟨_, _, _, ⟨⟨({} : Factory).bind "local" (.forHost "broker"), ⟨"local", "logs/#", none, none⟩,
      rfl⟩, closedTwice, rfl⟩, rfl, rfl, rfl, rfl⟩
  obtain ⟨polled, _, _, _, _, _, _, refused, disconnects, _, silent, _⟩ :=
    connects_once_until_closed reachable
  have closed : system.calls[3]? = some (.close (.done (.ok ()))) := by rw [calls]; rfl
  have beyond : 4 ≥ system.calls.length := by rw [calls]; exact Nat.le_refl 4
  obtain ⟨_, _, _, rest, final, ended, _, result⟩ := refused 3 _ closed _ later ran 4 beyond _ there
  exact ⟨start, system, later, reachable, calls, history, polled, disconnects,
    (silent 3 _ closed (by simp [history])).2, ran, rest, final, ended, result⟩

end System

end EventRelay.Mqtt.Connection
