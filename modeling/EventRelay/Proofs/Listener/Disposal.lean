import EventRelay.Proofs.Listener.Custody

namespace EventRelay.Lifecycle.System

variable {Receiver Connection : Type} {config : ListenerConfig} {system : System Receiver Connection}

/-- A stop found the slot empty, and only then a start was refused on this receiver. -/
def RefusedLate (system : System Receiver Connection) (receiver : Receiver) : Prop :=
  ∃ i j e, [(j, .took none), (i, .setListener receiver (.error e))].Sublist system.history

theorem RefusedLate.going {receiver : Receiver} (refused : system.RefusedLate receiver) (i : Nat)
    (common : Common Receiver Connection) (next : Call Receiver Connection)
    (deeds : List (Deed Receiver Connection)) :
    (system.going i common next deeds).RefusedLate receiver := by
  obtain ⟨i, j, e, ordered⟩ := refused
  exact ⟨i, j, e, ordered.trans (List.sublist_append_left _ _)⟩

theorem callsAt_eq_zero {point : Call Receiver Connection → Bool}
    (returned : ∀ call ∈ system.calls, call.hasReturned)
    (onTheWay : ∀ call : Call Receiver Connection, point call → call.hasReturned = false) :
    system.callsAt point = 0 := by
  apply List.countP_eq_zero.mpr
  intro call member there
  have done := returned call member
  rw [onTheWay call there] at done
  cases done

namespace Reachable

theorem rank_of_stopped (reachable : system.Reachable config) :
    ∀ call ∈ system.calls, call = .stop .done → 2 < system.state.rank := by
  induction reachable using Reachable.induction with
  | new registry _ => simp [initial]
  | called system call _ _ before isNew =>
    intro found member done
    rcases List.mem_append.mp member with member | member
    · exact before found member done
    · subst done
      rcases isNew with isNew | isNew <;> simp_all
  | elsewhere system registry _ _ before => exact before
  | went system i call common next deeds reachable after before present goes =>
    intro found member done
    have kept : system.state.rank ≤ (system.going i common next deeds).state.rank :=
      rank_le_of_sublist reachable after (List.sublist_append_left _ _)
    rcases List.mem_or_eq_of_mem_set member with member | rfl
    · have late := before found member done
      omega
    · subst done
      cases goes with
      | late found =>
        rcases found with found | found <;> simp [state, going, found, ListenerState.rank]
      | finished => simp [state, going, ListenerState.rank]

theorem tookNothing_of_hasReceiver (reachable : system.Reachable config)
    (registering : 0 < system.callsAt (Call.hasReceiver fun _ => true))
    (emptied : 0 < system.count Deed.isTook) : ∃ j, (j, .took none) ∈ system.history := by
  obtain ⟨⟨j, deed⟩, member, fits⟩ := mem_of_count_pos emptied
  cases deed with
  | took found =>
    cases found with
    | none => exact ⟨j, member⟩
    | some other =>
      have takes : 0 < system.count (Deed.takes fun _ => true) := count_pos_of_mem member rfl
      have gives := reachable.count_gives fun _ => true
      have once := reachable.count_gives_le_one fun _ => true
      have sets := reachable.count_sets fun _ => true
      omega
  | _ => cases fits

theorem undecided_or_refused (reachable : system.Reachable config) {receiver : Receiver} :
    system.slot = some receiver → 0 < system.count Deed.isTook →
      0 < system.callsAt Call.isUndecided ∨ system.RefusedLate receiver := by
  induction reachable using Reachable.induction with
  | new registry _ =>
    intro slot _
    cases slot
  | called system call _ _ before _ =>
    intro slot emptied
    rcases before slot emptied with undecided | refused
    · left
      simp only [callsAt, calling, List.countP_append] at undecided ⊢
      omega
    · exact .inr refused
  | elsewhere system registry _ _ before => exact before
  | went system i call common next deeds reachable _ before present goes =>
    intro slot emptied
    have points := callsAt_going present common next deeds Call.isUndecided
    generalize (system.going i common next deeds).callsAt Call.isUndecided = undecided at points ⊢
    rw [count_going] at emptied
    change common.lifecycle.slot = some receiver at slot
    cases goes with
    | registered other =>
      left
      simp only [Call.isUndecided, if_true, Bool.false_eq_true, if_false] at points
      omega
    | refused other e =>
      right
      cases slot
      have registering : 0 < system.callsAt (Call.hasReceiver fun _ => true) :=
        callsAt_pos_of_getElem? present rfl
      obtain ⟨j, took⟩ :=
        reachable.tookNothing_of_hasReceiver registering (by simpa [Deed.isTook] using emptied)
      exact ⟨i, j, e, (List.singleton_sublist.mpr took).append (.refl _)⟩
    | confirmed found =>
      have early : system.state.rank ≤ 2 := by rw [state, found]; decide
      have none := reachable.count_took_eq_zero early
      simp [none, Deed.isTook] at emptied
    | reclaimed | took => cases slot
    | leftAlone found | tookNothing found => rw [found] at slot; cases slot
    | _ =>
      have earlier : 0 < system.count Deed.isTook := by simpa [Deed.isTook] using emptied
      rcases before slot earlier with undecided | refused
      · left
        simp only [Call.isUndecided, Bool.false_eq_true, if_true, if_false] at points
        omega
      · exact .inr (refused.going ..)

variable (reachable : system.Reachable config)
include reachable

theorem count_took_pos (returned : ∀ call ∈ system.calls, call.hasReturned)
    (stop : ∃ call ∈ system.calls, call.isStop) : 0 < system.count Deed.isTook := by
  obtain ⟨call, member, isStop⟩ := stop
  have late : 2 < system.state.rank := by
    apply reachable.rank_of_stopped call member
    have done := returned call member
    cases call with
    | stop point => cases point <;> first | rfl | cases done
    | start point => cases isStop
    | _ => cases done
  have moved : system.count (Deed.movesTo .stopping) = if 2 < system.state.rank then 1 else 0 :=
    reachable.count_movesTo_eq rfl (by decide)
  rw [if_pos late] at moved
  have nobody : system.callsAt Call.atTake = 0 := by
    apply callsAt_eq_zero returned
    intro other taking
    cases other with
    | stop point => cases point <;> first | rfl | cases taking
    | _ => cases taking
  have stopping := reachable.count_stopping
  omega

theorem slot_of_refusedLate [DecidableEq Receiver] {receiver : Receiver}
    (refused : system.RefusedLate receiver) : system.slot = some receiver := by
  obtain ⟨i, j, e, ordered⟩ := refused
  have took := ordered.subset List.mem_cons_self
  have set := ordered.subset (List.mem_cons_of_mem _ List.mem_cons_self)
  have reclaims : system.count Deed.isReclaimed = 0 := by
    have registers := reachable.count_registers
    have fewer : system.count Deed.isReclaimed ≤
        system.count fun deed => deed.movesTo .started || deed.isReclaimed := by
      apply count_mono
      rintro entry _ reclaimed
      simp [reclaimed]
    have none : system.count Deed.registers = 0 := by
      apply List.countP_eq_zero.mpr
      rintro ⟨k, deed⟩ member registers
      have once := reachable.count_sets_le_one fun _ => true
      cases deed with
      | setListener other result =>
        cases eq_of_count_le_one once member set rfl rfl
        cases registers
      | _ => cases registers
    omega
  have takes : system.count (Deed.takes fun other => other = receiver) = 0 := by
    apply List.countP_eq_zero.mpr
    rintro ⟨k, deed⟩ member takes
    cases deed with
    | reclaimed found => exact not_mem_of_count_eq_zero reclaims rfl member
    | took found =>
      have moved := reachable.count_movesTo_le_one
        (show ListenerState.stopping ≠ .initialized by decide)
      have stopping := reachable.count_stopping
      have once : system.count Deed.isTook ≤ 1 := by omega
      cases eq_of_count_le_one once member took rfl rfl
      cases takes
    | _ => cases takes
  have sets := reachable.count_sets fun other => other = receiver
  have some := count_pos_of_mem set
    (show Deed.sets (fun other => other = receiver) (.setListener receiver (.error e)) by
      simp [Deed.sets])
  cases slot : system.slot with
  | none => simp [slot] at sets; omega
  | some other =>
    by_cases same : other = receiver
    · rw [same]
    · simp [slot, same] at sets
      omega

/-- When all calls have returned, whatever was created and not closed is still in the slot. -/
theorem closed_or_slot [DecidableEq Receiver] {i : Nat} {receiver : Receiver}
    (returned : ∀ call ∈ system.calls, call.hasReturned)
    (created : (i, .created (.ok receiver)) ∈ system.history) :
    (∃ j, (j, .closeReceiver receiver) ∈ system.history) ↔ system.slot ≠ some receiver := by
  have gives := reachable.count_gives fun other => other = receiver
  have once := reachable.count_gives_le_one fun other => other = receiver
  have sets := reachable.count_sets fun other => other = receiver
  have takes := reachable.count_takes fun other => other = receiver
  have given := count_pos_of_mem created
    (show Deed.gives (fun other => other = receiver) (.created (.ok receiver)) by simp [Deed.gives])
  have nobodyHas : system.callsAt (Call.hasReceiver fun other => other = receiver) = 0 := by
    apply callsAt_eq_zero returned
    intro call has
    cases call with
    | start point => cases point <;> first | rfl | cases has
    | _ => cases has
  have nobodyMust : system.callsAt (Call.mustClose fun other => other = receiver) = 0 := by
    apply callsAt_eq_zero returned
    intro call must
    cases call with
    | start point | stop point => cases point <;> first | rfl | cases must
    | _ => cases must
  constructor
  · rintro ⟨j, closed⟩ slot
    have closes := count_pos_of_mem closed
      (show Deed.closes (fun other => other = receiver) (.closeReceiver receiver) by simp [Deed.closes])
    have present : system.slot.any (fun other => other = receiver) = true := by simp [slot]
    rw [if_pos present] at sets
    omega
  · intro elsewhere
    have absent : ¬ system.slot.any (fun other => other = receiver) = true := by
      simpa [Option.any_eq_true] using elsewhere
    rw [if_neg absent] at sets
    obtain ⟨⟨j, deed⟩, member, fits⟩ := mem_of_count_pos
      (show 0 < system.count (Deed.closes fun other => other = receiver) by omega)
    cases deed with
    | closeReceiver other =>
      simp only [Deed.closes, decide_eq_true_eq] at fits
      exact ⟨j, fits ▸ member⟩
    | _ => cases fits

end Reachable

/-- When all calls have returned, a stop among them, exactly those receivers are not closed on which
    a start was refused after a stop had found the slot empty. -/
theorem receiver_closed_iff [DecidableEq Receiver] {i : Nat} {receiver : Receiver}
    (reachable : system.Reachable config) (returned : ∀ call ∈ system.calls, call.hasReturned)
    (stop : ∃ call ∈ system.calls, call.isStop)
    (created : (i, .created (.ok receiver)) ∈ system.history) :
    (∃ j, (j, .closeReceiver receiver) ∈ system.history) ↔ ¬ system.RefusedLate receiver := by
  rw [reachable.closed_or_slot returned created]
  constructor
  · intro elsewhere refused
    exact elsewhere (reachable.slot_of_refusedLate refused)
  · intro notRefused slot
    have emptied := reachable.count_took_pos returned stop
    rcases reachable.undecided_or_refused slot emptied with undecided | refused
    · have nobody : system.callsAt Call.isUndecided = 0 := by
        apply callsAt_eq_zero returned
        intro call there
        cases call with
        | start point => cases point <;> first | rfl | cases there
        | _ => cases there
      omega
    · exact notRefused refused

def overtakenMoves (registered : Except ProviderError Unit) : List (Move Nat Nat) :=
  [.start, .prompt 0 .go, .prompt 0 .go, .stop, .prompt 1 .go, .prompt 1 .go, .prompt 1 .go,
    .prompt 1 .go, .prompt 1 .go, .prompt 1 .go, .prompt 1 .go, .prompt 1 .go, .prompt 1 .go,
    .prompt 0 (.receiver (.ok 7)), .prompt 0 (.result registered)]

theorem receiver_closed_iff_overtaken :
    ∃ system : System Nat Nat,
      (initial {}).run ⟨"l", "f", "d", none, none⟩
        (overtakenMoves (.ok ()) ++ [.prompt 0 .go, .prompt 0 .go, .prompt 0 .go,
          .prompt 0 (.result (.ok ()))]) = some system ∧
      (∀ call ∈ system.calls, call.hasReturned) ∧ (∃ call ∈ system.calls, call.isStop) ∧
      (0, .created (.ok 7)) ∈ system.history ∧ ¬ system.RefusedLate 7 := by
  obtain ⟨system, ran, calls, history⟩ : ∃ system : System Nat Nat,
      (initial {}).run ⟨"l", "f", "d", none, none⟩
        (overtakenMoves (.ok ()) ++ [.prompt 0 .go, .prompt 0 .go, .prompt 0 .go,
          .prompt 0 (.result (.ok ()))]) = some system ∧
      system.calls = [.start (.done (.ok ())), .stop .done] ∧
      system.history = [(0, .moved .initialized .starting), (0, .createReceiver),
        (1, .moved .starting .stopping), (1, .took none), (1, .release), (1, .released),
        (1, .moved .stopping .stopped), (0, .created (.ok 7)), (0, .setListener 7 (.ok ())),
        (0, .reclaimed (some 7)), (0, .closeReceiver 7), (0, .receiverClosed 7 (.ok ()))] :=
    ⟨_, rfl, rfl, rfl⟩
  have returned : ∀ call ∈ system.calls, call.hasReturned := by simp [calls, Call.hasReturned]
  have stop : ∃ call ∈ system.calls, call.isStop := by simp [calls, Call.isStop, Call.isStart]
  have created : (0, .created (.ok 7)) ∈ system.history := by simp [history]
  have closed : (0, .closeReceiver 7) ∈ system.history := by simp [history]
  exact ⟨system, ran, returned, stop, created,
    (receiver_closed_iff ⟨{}, _, ran⟩ returned stop created).mp ⟨0, closed⟩⟩

/-- So a receiver can stay open for good, though its listener was stopped. -/
theorem not_every_receiver_closed :
    ¬ ∀ (config : ListenerConfig) (system : System Nat Nat), system.Reachable config →
      (∀ call ∈ system.calls, call.hasReturned) → (∃ call ∈ system.calls, call.isStop) →
      ∀ i receiver, (i, .created (.ok receiver)) ∈ system.history →
        ∃ j, (j, .closeReceiver receiver) ∈ system.history := by
  intro closed
  obtain ⟨system, ran, calls, history⟩ : ∃ system : System Nat Nat,
      (initial {}).run ⟨"l", "f", "d", none, none⟩
        (overtakenMoves (.error (.connection "no listener"))) = some system ∧
      system.calls =
        [.start (.done (.error (.notRegistered (.connection "no listener")))), .stop .done] ∧
      system.history = [(0, .moved .initialized .starting), (0, .createReceiver),
        (1, .moved .starting .stopping), (1, .took none), (1, .release), (1, .released),
        (1, .moved .stopping .stopped), (0, .created (.ok 7)),
        (0, .setListener 7 (.error (.connection "no listener")))] :=
    ⟨_, rfl, rfl, rfl⟩
  have returned : ∀ call ∈ system.calls, call.hasReturned := by simp [calls, Call.hasReturned]
  have stop : ∃ call ∈ system.calls, call.isStop := by simp [calls, Call.isStop, Call.isStart]
  obtain ⟨j, member⟩ := closed _ system ⟨{}, _, ran⟩ returned stop 0 7 (by simp [history])
  simp [history] at member

end EventRelay.Lifecycle.System
