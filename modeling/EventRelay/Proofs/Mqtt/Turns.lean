import EventRelay.Proofs.Mqtt.Phases

namespace EventRelay.Mqtt.Connection.System

variable {Listener : Type} {start : Connection Listener} {system next : System Listener}
  {i j t : Nat} {call : Call}

theorem Goes.extends (went : system.Goes next) : system.history <+: next.history := by
  cases went with
  | stays | begins => exact List.prefix_rfl
  | _ => exact List.prefix_append _ _

theorem run_extends {moves : List (Move Listener)} (ran : system.run moves = some next) :
    system.history <+: next.history := by
  have went (now later : System Listener) (before : system.history <+: now.history)
      (goes : now.Goes later) : system.history <+: later.history := before.trans goes.extends
  exact run_induction went List.prefix_rfl ran

theorem count_pos_of_extends {kind : Deed → Bool} (positive : 0 < system.count kind)
    (longer : system.history <+: next.history) : 0 < next.count kind :=
  Nat.lt_of_lt_of_le positive longer.sublist.countP_le

/-- A step of the call that holds the lock, after which it does not hold it any more. -/
def HandsOn (system : System Listener) (i : Nat) (move : Move Listener) : Prop :=
  ∃ called deeds left, system.step move = some (system.going i called deeds left) ∧
    left.lock = system.connection.lock.release

theorem handsOn_conclude (there : system.calls[i]? = some (.create (.connecting t)))
    (attempt : Attempt) : system.HandsOn i (.conclude i attempt) := by
  cases error : system.connection.attemptError? attempt with
  | some e => exact ⟨_, _, _, step_conclude_error there error, rfl⟩
  | none =>
    cases attemptError?_eq_none_iff.mp error
    exact ⟨_, _, _, step_conclude_accepted there, rfl⟩

theorem step_go (there : system.calls[i]? = some call) :
    system.step (.go i) = some (system.goStep i call) := by
  simp only [step, there, Option.map_some]

theorem handsOn_create (there : system.calls[i]? = some (.create (.queued t)))
    (turn : system.connection.lock.isHeldBy t = true) (found : system.connection.phase ≠ .idle) :
    system.HandsOn i (.go i) := by
  rw [HandsOn, step_go there]
  cases phase : system.connection.phase with
  | idle => exact absurd phase found
  | running => exact ⟨_, _, _, congrArg some (goStep_create_running turn phase), rfl⟩
  | closed => exact ⟨_, _, _, congrArg some (goStep_create_closed turn phase), rfl⟩

theorem handsOn_close (there : system.calls[i]? = some (.close (.queued t)))
    (turn : system.connection.lock.isHeldBy t = true) : system.HandsOn i (.go i) := by
  rw [HandsOn, step_go there]
  cases phase : system.connection.phase with
  | idle => exact ⟨_, _, _, congrArg some (goStep_close_idle turn phase), rfl⟩
  | running => exact ⟨_, _, _, congrArg some (goStep_close_running turn phase), rfl⟩
  | closed => exact ⟨_, _, _, congrArg some (goStep_close_closed turn phase), rfl⟩

/-- Moves of the calls alone, but for the ends of attempts, which are given. -/
def Unaided (outcome : Nat → Attempt) (moves : List (Move Listener)) : Prop :=
  ∀ move ∈ moves, ∃ k, move = .go k ∨ move = .conclude k (outcome k)

structure HandsOver (outcome : Nat → Attempt) (t : Nat) (system after : System Listener)
    (moves : List (Move Listener)) : Prop where
  ran : system.run moves = some after
  unaided : Unaided outcome moves
  lock : after.connection.lock = system.connection.lock.release
  others : ∀ (j : Nat) (other : Call), system.calls[j]? = some other → other.ticket? ≠ some t →
    after.calls[j]? = some other

section HandsOver

variable {outcome : Nat → Attempt}

theorem kept_of_going {other called : Call} {deeds : List Deed} {left : Connection Listener}
    (there : system.calls[i]? = some call) (ticket : call.ticket? = some t)
    (present : system.calls[j]? = some other) (unlike : other.ticket? ≠ some t) :
    (system.going i called deeds left).calls[j]? = some other := by
  have apart : i ≠ j := by
    rintro rfl
    rw [there, Option.some.injEq] at present
    exact unlike (present ▸ ticket)
  exact (List.getElem?_set_ne apart).trans present

theorem HandsOn.handsOver {move : Move Listener} (hands : system.HandsOn i move)
    (there : system.calls[i]? = some call) (ticket : call.ticket? = some t)
    (unaided : ∃ k, move = .go k ∨ move = .conclude k (outcome k)) :
    ∃ after, HandsOver outcome t system after [move] := by
  obtain ⟨called, deeds, left, stepped, lock⟩ := hands
  refine ⟨_, run_single stepped, ?_, lock, ?_⟩
  · intro other member
    exact List.mem_singleton.mp member ▸ unaided
  · intro j other present unlike
    exact kept_of_going there ticket present unlike

theorem handsOver_of_idle (there : system.calls[i]? = some (.create (.queued t)))
    (turn : system.connection.lock.isHeldBy t = true) (found : system.connection.phase = .idle) :
    ∃ after, HandsOver outcome t system after [.go i, .conclude i (outcome i)] := by
  let tried := system.going i (.create (.connecting t)) [.attempting]
    { system.connection with phase := .closed }
  have begun : system.step (.go i) = some tried := by
    rw [step_go there, goStep_create_idle turn found]
  obtain ⟨inside, _⟩ := List.getElem?_eq_some_iff.mp there
  have waits : tried.calls[i]? = some (.create (.connecting t)) := List.getElem?_set_self inside
  obtain ⟨after, handed⟩ : ∃ after, HandsOver outcome t tried after [.conclude i (outcome i)] :=
    (handsOn_conclude waits (outcome i)).handsOver waits rfl ⟨i, .inr rfl⟩
  refine ⟨after, ?_, ?_, handed.lock, ?_⟩
  · simp only [run, begun]
    exact handed.ran
  · intro move member
    rcases List.mem_cons.mp member with rfl | member
    · exact ⟨i, .inl rfl⟩
    · exact handed.unaided move member
  · intro j other present unlike
    exact handed.others j other (kept_of_going there rfl present unlike) unlike

end HandsOver

structure Shut (system : System Listener) : Prop where
  closed : system.connection.phase = .closed
  nobody : ∀ i t : Nat, system.calls[i]? ≠ some (.create (.connecting t))

theorem Sound.closed_of_closing (sound : system.Sound start)
    (closing : 0 < system.count Deed.isClosing) : system.Shut where
  closed := by
    cases phase : system.connection.phase with
    | closed => rfl
    | idle =>
      have unclosed := (sound.idle phase).2
      omega
    | running =>
      have unclosed := (sound.running phase).2
      omega
  nobody := by
    intro i t there
    have unclosed := (sound.flying i t there).2.2
    omega

namespace Shut

variable (shut : system.Shut)

include shut

theorem going {called : Call} {deeds : List Deed} {left : Connection Listener}
    (other : called.isConnecting = false) (closed : left.phase = .closed) :
    (system.going i called deeds left).Shut where
  closed := closed
  nobody := by
    intro j t there
    rcases replaced_or_same there with ⟨_, rfl⟩ | ⟨_, before⟩
    · cases other
    · exact shut.nobody j t before

theorem went (went : system.Goes next) : next.Shut := by
  have stays {found : Phase} (phase : system.connection.phase = found)
      (other : found ≠ .closed) : False := other (phase.symm.trans shut.closed)
  cases went with
  | stays => exact shut
  | begins call new =>
    refine ⟨shut.closed, ?_⟩
    intro i t there
    rcases last_or_same there with ⟨_, rfl⟩ | before
    · rcases new with new | new <;> cases new
    · exact shut.nobody i t before
  | asks there points =>
    rcases points with ⟨_, rfl⟩ | ⟨_, rfl⟩
    · exact shut.going rfl shut.closed
    · exact shut.going rfl shut.closed
  | findsRunning there turn found => exact (stays found (by decide)).elim
  | findsIdle there turn found => exact (stays found (by decide)).elim
  | fails there => exact absurd there (shut.nobody _ _)
  | connects there => exact absurd there (shut.nobody _ _)
  | findsClosed => exact shut.going rfl shut.closed
  | opens => exact shut.going rfl shut.closed
  | closesRunning => exact shut.going rfl rfl
  | closesIdle => exact shut.going rfl rfl
  | closesClosed => exact shut.going rfl rfl
  | disconnects => exact shut.going rfl shut.closed
  | refused there kept =>
    obtain ⟨polling, feed, rfl⟩ := kept.kin
    exact shut.going rfl shut.closed
  | closed there kept =>
    obtain ⟨polling, feed, rfl⟩ := kept.kin
    exact shut.going rfl shut.closed
  | elsewhere other =>
    obtain ⟨polling, feed, rfl⟩ := other.kin
    exact ⟨shut.closed, shut.nobody⟩

theorem run {moves : List (Move Listener)} (ran : system.run moves = some next) : next.Shut :=
  run_induction (fun _ _ shut went => shut.went went) shut ran

end Shut

namespace InLine

variable (inLine : system.InLine)

include inLine

theorem run {moves : List (Move Listener)} (ran : system.run moves = some next) : next.InLine :=
  run_induction (fun _ _ inLine went => inLine.went went) inLine ran

theorem exists_of_line (member : t ∈ system.connection.lock.line) :
    ∃ (i : Nat) (call : Call), system.calls[i]? = some call ∧ call.ticket? = some t := by
  have counted := inLine.counted t
  have positive : 0 < system.calls.countP (Call.has t) := by
    rw [counted]
    exact List.count_pos_iff.mpr member
  obtain ⟨call, inCalls, has⟩ := List.countP_pos_iff.mp positive
  obtain ⟨i, there⟩ := List.mem_iff_getElem?.mp inCalls
  exact ⟨i, call, there, of_decide_eq_true has⟩

theorem mem_line (there : system.calls[i]? = some call) (ticket : call.ticket? = some t) :
    t ∈ system.connection.lock.line := by
  have positive : 0 < system.calls.countP (Call.has t) :=
    List.countP_pos_iff.mpr ⟨call, List.mem_of_getElem? there, decide_eq_true ticket⟩
  rw [inLine.counted t] at positive
  exact List.count_pos_iff.mp positive

theorem hands_over (outcome : Nat → Attempt) (turn : system.connection.lock.isHeldBy t = true) :
    ∃ after moves, HandsOver outcome t system after moves ∧
      (system.Shut → ∀ move ∈ moves, ∃ k, move = .go k) := by
  have member : t ∈ system.connection.lock.line := by
    rw [Lock.line_of_held turn]
    exact List.mem_cons_self
  obtain ⟨i, call, there, ticket⟩ := inLine.exists_of_line member
  have alone (hands : system.HandsOn i (.go i)) : ∃ after moves,
      HandsOver outcome t system after moves ∧
        (system.Shut → ∀ move ∈ moves, ∃ k, move = .go k) := by
    obtain ⟨after, handed⟩ := hands.handsOver there ticket ⟨i, .inl rfl⟩
    exact ⟨after, _, handed, fun _ move member => ⟨i, List.mem_singleton.mp member⟩⟩
  cases call with
  | close point =>
    cases point with
    | queued u =>
      cases ticket
      exact alone (handsOn_close there turn)
    | _ => cases ticket
  | create point =>
    cases point with
    | queued u =>
      cases ticket
      by_cases found : system.connection.phase = .idle
      · obtain ⟨after, handed⟩ := handsOver_of_idle there turn found
        refine ⟨after, _, handed, fun shut => ?_⟩
        rw [shut.closed] at found
        cases found
      · exact alone (handsOn_create there turn found)
    | connecting u =>
      cases ticket
      obtain ⟨after, handed⟩ :=
        (handsOn_conclude there (outcome i)).handsOver there rfl ⟨i, .inr rfl⟩
      exact ⟨after, _, handed, fun shut => absurd there (shut.nobody i t)⟩
    | _ => cases ticket

end InLine

theorem Unaided.append {outcome : Nat → Attempt} {moves later : List (Move Listener)}
    (unaided : Unaided outcome moves) (unaidedToo : Unaided outcome later) :
    Unaided outcome (moves ++ later) := by
  intro move member
  rcases List.mem_append.mp member with member | member
  · exact unaided move member
  · exact unaidedToo move member

/-- However the attempts of those ahead end, a waiting call gets the lock. Once the connection is closed
    for good not even an attempt has to end for that. -/
theorem InLine.turn_comes (outcome : Nat → Attempt) (inLine : system.InLine)
    (there : system.calls[j]? = some call) (ticket : call.ticket? = some t) :
    ∃ moves after, system.run moves = some after ∧ Unaided outcome moves ∧
      (system.Shut → ∀ move ∈ moves, ∃ k, move = .go k) ∧
      after.calls[j]? = some call ∧ after.connection.lock.isHeldBy t = true := by
  obtain ⟨ahead, behind, line⟩ := List.append_of_mem (inLine.mem_line there ticket)
  -- By induction on those ahead: each of them hands the lock on.
  induction ahead generalizing system with
  | nil =>
    have held := inLine.orderly.held_of_line line
    exact ⟨[], system, rfl, by simp [Unaided], by simp, there, held⟩
  | cons h ahead ih =>
    have held := inLine.orderly.held_of_line line
    have behindHolder : call.ticket? ≠ some h := by
      intro same
      rw [ticket, Option.some.injEq] at same
      have few := inLine.orderly.count_le_one t
      rw [line, same] at few
      simp at few
    obtain ⟨next, first, handed, alone⟩ := inLine.hands_over outcome held
    have lineNext : next.connection.lock.line = ahead ++ t :: behind := by
      rw [Lock.line_of_held held] at line
      rw [handed.lock, Lock.line_release]
      exact (List.cons.inj line).2
    obtain ⟨rest, after, ran, unaided, aloneToo, waits, turn⟩ :=
      ih (inLine.run handed.ran) (handed.others j call there behindHolder) lineNext
    refine ⟨first ++ rest, after, ?_, handed.unaided.append unaided, ?_, waits, turn⟩
    · rw [run_append handed.ran, ran]
    · intro shut move member
      rcases List.mem_append.mp member with member | member
      · exact alone shut move member
      · exact aloneToo (shut.run handed.ran) move member

theorem Reachable.turn_comes (outcome : Nat → Attempt) (reachable : system.Reachable start)
    (there : system.calls[j]? = some call) (ticket : call.ticket? = some t) :
    ∃ moves after, system.run moves = some after ∧ Unaided outcome moves ∧
      (0 < system.count Deed.isClosing → ∀ move ∈ moves, ∃ k, move = .go k) ∧
      after.calls[j]? = some call ∧ after.connection.lock.isHeldBy t = true := by
  obtain ⟨moves, after, ran, unaided, alone, waits, turn⟩ :=
    reachable.sound.inLine.turn_comes outcome there ticket
  exact ⟨moves, after, ran, unaided,
    fun closing => alone (reachable.sound.closed_of_closing closing), waits, turn⟩

end EventRelay.Mqtt.Connection.System
