import EventRelay.Proofs.Listener.Lifetime

namespace EventRelay.Lifecycle.System

variable {Receiver Connection : Type} {config : ListenerConfig} {system : System Receiver Connection}

namespace Reachable

variable (reachable : system.Reachable config)
include reachable

theorem count_rises_one_le :
    system.count (Deed.rises 1) ≤
      system.count (Deed.movesTo .started) + system.count (Deed.rises 2) := by
  apply count_le_add
  rintro ⟨i, deed⟩ member rises
  cases deed with
  | moved before after =>
    have passed := reachable.upward i before after member
    cases before <;> cases after <;>
      simp_all [ListenerState.passes, ListenerState.rank, Deed.rises, Deed.movesTo]
  | _ => cases rises

theorem count_started (started : system.state = .started) :
    system.count (Deed.movesTo .started) = 1 := by
  have once := reachable.count_movesTo_le_one (show ListenerState.started ≠ .initialized by decide)
  have risen := reachable.count_rises_eq 1
  have beyond := reachable.count_rises_eq 2
  have bound := reachable.count_rises_one_le
  simp [started, ListenerState.rank] at risen beyond
  omega

theorem count_took_eq_zero (early : system.state.rank ≤ 2) : system.count Deed.isTook = 0 := by
  have stopping := reachable.count_stopping
  have moved : system.count (Deed.movesTo .stopping) = if 2 < system.state.rank then 1 else 0 :=
    reachable.count_movesTo_eq rfl (by decide)
  rw [if_neg (by omega)] at moved
  omega

/-- While the listener is started, its start has registered it, nobody has emptied the slot and
    nobody has begun to release the handle. -/
theorem counts_started (started : system.state = .started) :
    system.count Deed.registers = 1 ∧ system.count (Deed.takes fun _ => true) = 0 ∧
      system.count Deed.isRelease = 0 := by
  have moved := reachable.count_started started
  have took := reachable.count_took_eq_zero (by rw [started]; decide)
  have release := reachable.count_took
  have registers := reachable.count_registers
  have decided : system.count (Deed.movesTo .started) + system.count Deed.isReclaimed ≤
      system.count fun deed => deed.movesTo .started || deed.isReclaimed := by
    apply count_add_le
    · intro deed moves
      cases deed <;> first | rfl | cases moves
    · intro deed moves
      simp [moves]
    · intro deed reclaimed
      simp [reclaimed]
  have given : system.count Deed.registers ≤ system.count (Deed.sets fun _ => true) := by
    apply count_mono
    rintro ⟨i, deed⟩ _ registers
    cases deed <;> first | rfl | cases registers
  have sets := reachable.count_gives fun _ => true
  have once := reachable.count_gives_le_one fun _ => true
  have takes : system.count (Deed.takes fun _ => true) ≤
      system.count Deed.isReclaimed + system.count Deed.isTook := by
    apply count_le_add
    rintro ⟨i, deed⟩ _ takes
    cases deed <;> first | exact .inl rfl | exact .inr rfl | cases takes
  omega

theorem slot_started (started : system.state = .started) : ∃ receiver, system.slot = some receiver := by
  obtain ⟨registers, takes, _⟩ := reachable.counts_started started
  obtain ⟨⟨i, deed⟩, member, fits⟩ := mem_of_count_pos (registers ▸ Nat.one_pos)
  have sets : 0 < system.count (Deed.sets fun _ => true) := by
    refine count_pos_of_mem member ?_
    cases deed <;> first | rfl | cases fits
  rw [reachable.count_sets, takes] at sets
  cases slot : system.slot with
  | some receiver => exact ⟨receiver, rfl⟩
  | none => simp [slot] at sets

theorem given_of_slot [DecidableEq Receiver] {receiver : Receiver}
    (slot : system.slot = some receiver) :
    (∃ i, (i, .created (.ok receiver)) ∈ system.history) ∧
      ∃ i result, (i, .setListener receiver result) ∈ system.history := by
  have sets := reachable.count_sets fun other => other = receiver
  have gives := reachable.count_gives fun other => other = receiver
  have present : system.slot.any (fun other => other = receiver) = true := by simp [slot]
  rw [if_pos present] at sets
  refine ⟨?_, ?_⟩
  · obtain ⟨⟨i, deed⟩, member, fits⟩ := mem_of_count_pos
      (show 0 < system.count (Deed.gives fun other => other = receiver) by omega)
    cases deed with
    | created result =>
      cases result with
      | ok other =>
        simp only [Deed.gives, decide_eq_true_eq] at fits
        exact ⟨i, fits ▸ member⟩
      | error e => cases fits
    | _ => cases fits
  · obtain ⟨⟨i, deed⟩, member, fits⟩ := mem_of_count_pos
      (show 0 < system.count (Deed.sets fun other => other = receiver) by omega)
    cases deed with
    | setListener other result =>
      simp only [Deed.sets, decide_eq_true_eq] at fits
      exact ⟨i, result, fits ▸ member⟩
    | _ => cases fits

theorem count_sets_le_one (which : Receiver → Bool) : system.count (Deed.sets which) ≤ 1 := by
  have gives := reachable.count_gives which
  have once := reachable.count_gives_le_one which
  omega

theorem registered_of_started [DecidableEq Receiver] {receiver : Receiver}
    (started : system.state = .started) (slot : system.slot = some receiver) :
    ∃ i, (i, .setListener receiver (.ok ())) ∈ system.history := by
  obtain ⟨registers, _, _⟩ := reachable.counts_started started
  obtain ⟨⟨i, deed⟩, member, fits⟩ := mem_of_count_pos (registers ▸ Nat.one_pos)
  obtain ⟨_, j, result, set⟩ := reachable.given_of_slot slot
  have once := reachable.count_sets_le_one fun _ => true
  cases deed with
  | setListener other answer =>
    cases eq_of_count_le_one once member set rfl rfl
    cases result with
    | ok done => exact ⟨i, member⟩
    | error e => cases fits
  | _ => cases fits

theorem created_iff_of_slot [DecidableEq Receiver] {receiver : Receiver}
    (slot : system.slot = some receiver) (other : Receiver) :
    (∃ i, (i, .created (.ok other)) ∈ system.history) ↔ other = receiver := by
  obtain ⟨⟨i, created⟩, _⟩ := reachable.given_of_slot slot
  constructor
  · rintro ⟨j, member⟩
    have once := reachable.count_gives_le_one fun _ => true
    cases eq_of_count_le_one once member created rfl rfl
    rfl
  · rintro rfl
    exact ⟨i, created⟩

theorem released_of_stopped (stopped : system.state = .stopped) :
    system.common.handle.released = true ∧ ∃ i, (i, .released) ∈ system.history := by
  have moved : system.count (Deed.movesTo .stopped) = if 3 < system.state.rank then 1 else 0 :=
    reachable.count_movesTo_eq rfl (by decide)
  rw [if_pos (by rw [stopped]; decide)] at moved
  have released := reachable.count_released
  have release := reachable.count_release
  have once := reachable.count_release_le_one
  have marked := reachable.count_marked
  have inside : system.callsAt Call.atMark ≤ system.callsAt Call.isReleasing := by
    apply List.countP_mono_left
    intro call _ marking
    cases call <;> first | rfl | cases marking
  constructor
  · cases flag : system.common.handle.released with
    | true => rfl
    | false =>
      simp only [flag, Bool.false_eq_true, if_false] at marked
      omega
  · obtain ⟨⟨i, deed⟩, member, fits⟩ := mem_of_count_pos
      (show 0 < system.count Deed.isReleased by omega)
    cases deed with
    | released => exact ⟨i, member⟩
    | _ => cases fits

theorem count_closes_eq_zero [DecidableEq Receiver] {receiver : Receiver}
    (registering : 0 < system.callsAt (Call.hasReceiver fun other => other = receiver)) :
    system.count (Deed.closes fun other => other = receiver) = 0 := by
  have gives := reachable.count_gives fun other => other = receiver
  have once := reachable.count_gives_le_one fun other => other = receiver
  have sets := reachable.count_sets fun other => other = receiver
  have takes := reachable.count_takes fun other => other = receiver
  omega

end Reachable

theorem Reachable.closed_for_good [DecidableEq Receiver] (reachable : system.Reachable config) :
    system.history.Pairwise fun earlier later => ∀ receiver result,
      earlier.2 = .closeReceiver receiver → later.2 ≠ .setListener receiver result := by
  induction reachable using Reachable.induction with
  | new registry _ => exact .nil
  | called system call _ _ before _ => exact before
  | elsewhere system registry _ _ before => exact before
  | went system i call common next deeds reachable _ before present goes =>
    simp only [going, List.pairwise_append]
    refine ⟨before, ?_, ?_⟩
    · cases goes <;> simp
    · rintro ⟨j, earlier⟩ member ⟨k, later⟩ added receiver result rfl rfl
      have registering : 0 < system.callsAt (Call.hasReceiver fun other => other = receiver) := by
        refine callsAt_pos_of_getElem? present ?_
        cases goes <;> simp_all [Call.hasReceiver]
      have none := reachable.count_closes_eq_zero registering
      exact not_mem_of_count_eq_zero none (by simp [Deed.closes]) member

/-- Who has the receiver and the handle, in every state that calls can bring a listener to. -/
theorem receiver_custody [DecidableEq Receiver] (reachable : system.Reachable config) :
    (system.state = .started → ∃ receiver, system.slot = some receiver ∧
      (∀ other, (∃ i, (i, .created (.ok other)) ∈ system.history) ↔ other = receiver) ∧
      (∃ i, (i, .setListener receiver (.ok ())) ∈ system.history) ∧
      (∀ i, (i, .closeReceiver receiver) ∉ system.history) ∧
      system.common.handle.released = false) ∧
    (system.state = .stopped →
      system.common.handle.released = true ∧ ∃ i, (i, .released) ∈ system.history) ∧
    (∀ receiver, system.count (Deed.sets fun other => other = receiver) ≤ 1 ∧
      system.count (Deed.closes fun other => other = receiver) ≤ 1) ∧
    system.history.Pairwise fun earlier later => ∀ receiver result,
      earlier.2 = .closeReceiver receiver → later.2 ≠ .setListener receiver result := by
  refine ⟨?_, reachable.released_of_stopped, ?_, reachable.closed_for_good⟩
  · intro started
    obtain ⟨receiver, slot⟩ := reachable.slot_started started
    obtain ⟨_, takes, release⟩ := reachable.counts_started started
    refine ⟨receiver, slot, reachable.created_iff_of_slot slot,
      reachable.registered_of_started started slot, ?_, ?_⟩
    · intro i
      have closes := reachable.count_takes fun _ => true
      exact not_mem_of_count_eq_zero
        (show system.count (Deed.closes fun _ => true) = 0 by omega) rfl
    · have marked := reachable.count_marked
      cases flag : system.common.handle.released with
      | false => rfl
      | true =>
        simp only [flag, if_true] at marked
        omega
  · intro receiver
    have once := reachable.count_sets_le_one fun other => other = receiver
    have sets := reachable.count_sets fun other => other = receiver
    have takes := reachable.count_takes fun other => other = receiver
    omega

def startMoves (receiver : Nat) : List (Move Nat Nat) :=
  [.start, .prompt 0 .go, .prompt 0 .go, .prompt 0 (.receiver (.ok receiver)),
    .prompt 0 (.result (.ok ())), .prompt 0 .go]

def stopMoves : List (Move Nat Nat) :=
  [.stop, .prompt 1 .go, .prompt 1 .go, .prompt 1 .go, .prompt 1 .go,
    .prompt 1 (.result (.error (.connection "gone"))), .prompt 1 .go, .prompt 1 .go, .prompt 1 .go,
    .prompt 1 .go, .prompt 1 .go, .prompt 1 .go]

theorem receiver_custody_start_stop :
    ∃ started stopped : System Nat Nat,
      (initial {}).run ⟨"l", "f", "d", none, none⟩ (startMoves 7) = some started ∧
      (initial {}).run ⟨"l", "f", "d", none, none⟩ (startMoves 7 ++ stopMoves) = some stopped ∧
      started.state = .started ∧ stopped.state = .stopped ∧
      (∃ receiver, started.slot = some receiver ∧
        ∃ i, (i, .setListener receiver (.ok ())) ∈ started.history) ∧
      stopped.common.handle.released = true := by
  obtain ⟨started, ran, isStarted⟩ : ∃ started : System Nat Nat,
      (initial {}).run ⟨"l", "f", "d", none, none⟩ (startMoves 7) = some started ∧
      started.state = .started := ⟨_, rfl, rfl⟩
  obtain ⟨stopped, ranOn, isStopped⟩ : ∃ stopped : System Nat Nat,
      (initial {}).run ⟨"l", "f", "d", none, none⟩ (startMoves 7 ++ stopMoves) = some stopped ∧
      stopped.state = .stopped := ⟨_, rfl, rfl⟩
  refine ⟨started, stopped, ran, ranOn, isStarted, isStopped, ?_, ?_⟩
  · obtain ⟨receiver, slot, _, set, _⟩ := (receiver_custody ⟨{}, _, ran⟩).1 isStarted
    exact ⟨receiver, slot, set⟩
  · exact ((receiver_custody ⟨{}, _, ranOn⟩).2.1 isStopped).1

end EventRelay.Lifecycle.System
