import EventRelay.Proofs.Listener.Laws

namespace EventRelay

def ListenerState.passes : ListenerState → ListenerState → Bool
  | .initialized, .starting | .starting, .started | .stopping, .stopped => true
  | .initialized, .stopping | .starting, .stopping | .started, .stopping => true
  | _, _ => false

theorem ListenerState.passes_upward {before after : ListenerState} (moved : before.passes after) :
    before.rank < after.rank := by
  cases before <;> cases after <;> simp_all [passes, rank]

namespace Lifecycle.System

variable {Receiver Connection : Type} {config : ListenerConfig} {system : System Receiver Connection}

namespace Reachable

variable (reachable : system.Reachable config)
include reachable

theorem count_rises (n : Nat) :
    system.count (Deed.rises n) =
      (if n < system.state.rank then 1 else 0) + system.count (Deed.falls n) := by
  have law : (Law.level n).Holds system := Law.holds_of_balances
    (fun _ _ _ _ _ _ _ _ _ goes => Law.level_balances n goes) reachable
  have nobody : system.callsAt (fun _ => false) = 0 := by simp [callsAt]
  have counted : system.count (Deed.rises n) = system.callsAt (fun _ => false) +
      (if n < system.state.rank then 1 else 0) + system.count (Deed.falls n) := law
  rw [counted, nobody, Nat.zero_add]

theorem count_starting :
    system.count (Deed.movesTo .starting) = system.callsAt Call.atCreate + system.count Deed.asks := by
  have law := Law.holds_of_balances
    (fun _ _ _ _ _ _ _ _ _ goes => Law.claimed_balances goes) reachable
  simpa [Law.Holds, Law.claimed] using law

theorem count_asks :
    system.count Deed.asks = system.callsAt Call.isCreating + system.count Deed.isCreated := by
  have law := Law.holds_of_balances
    (fun _ _ _ _ _ _ _ _ _ goes => Law.asked_balances goes) reachable
  simpa [Law.Holds, Law.asked] using law

theorem count_gives (which : Receiver → Bool) :
    system.count (Deed.gives which) =
      system.callsAt (Call.hasReceiver which) + system.count (Deed.sets which) := by
  have law := Law.holds_of_balances
    (fun _ _ _ _ _ _ _ _ _ goes => Law.given_balances which goes) reachable
  simpa [Law.Holds, Law.given] using law

theorem count_takes (which : Receiver → Bool) :
    system.count (Deed.takes which) =
      system.callsAt (Call.mustClose which) + system.count (Deed.closes which) := by
  have law := Law.holds_of_balances
    (fun _ _ _ _ _ _ _ _ _ goes => Law.taken_balances which goes) reachable
  simpa [Law.Holds, Law.taken] using law

theorem count_registers :
    system.count Deed.registers = system.callsAt Call.isUndecided +
      system.count fun deed => deed.movesTo .started || deed.isReclaimed := by
  have law := Law.holds_of_balances
    (fun _ _ _ _ _ _ _ _ _ goes => Law.undecided_balances goes) reachable
  simpa [Law.Holds, Law.undecided] using law

theorem count_stopping :
    system.count (Deed.movesTo .stopping) = system.callsAt Call.atTake + system.count Deed.isTook := by
  have law := Law.holds_of_balances (fun system _ _ _ _ _ reachable _ present goes =>
    Law.stopping_balances (Reachable.trail reachable _ _ present).isAhead goes) reachable
  simpa [Law.Holds, Law.stopping] using law

theorem count_took :
    system.count Deed.isTook = system.callsAt Call.isClosing + system.count Deed.isRelease := by
  have law := Law.holds_of_balances
    (fun _ _ _ _ _ _ _ _ _ goes => Law.emptied_balances goes) reachable
  simpa [Law.Holds, Law.emptied] using law

theorem count_release :
    system.count Deed.isRelease =
      system.callsAt Call.isReleasing + system.count Deed.isReleased := by
  have law := Law.holds_of_balances
    (fun _ _ _ _ _ _ _ _ _ goes => Law.releasing_balances goes) reachable
  simpa [Law.Holds, Law.releasing] using law

theorem count_released :
    system.count Deed.isReleased =
      system.callsAt Call.atFinish + system.count (Deed.movesTo .stopped) := by
  have law := Law.holds_of_balances
    (fun _ _ _ _ _ _ _ _ _ goes => Law.finishing_balances goes) reachable
  simpa [Law.Holds, Law.finishing] using law

end Reachable

/-- All moves so far were ones that a listener's state can make. -/
def Upward (system : System Receiver Connection) : Prop :=
  ∀ i before after, (i, .moved before after) ∈ system.history → before.passes after

namespace Upward

variable (upward : system.Upward)
include upward

theorem count_falls (n : Nat) : system.count (Deed.falls n) = 0 := by
  simp only [System.count, List.countP_eq_zero]
  rintro ⟨i, deed⟩ member falls
  cases deed with
  | moved before after =>
    have higher := ListenerState.passes_upward (upward i before after member)
    simp only [Deed.falls, Bool.and_eq_true, decide_eq_true_eq] at falls
    omega
  | _ => cases falls

theorem count_movesTo_le {state : ListenerState} {n : Nat} (rank : state.rank = n + 1) :
    system.count (Deed.movesTo state) ≤ system.count (Deed.rises n) := by
  apply count_mono
  rintro ⟨i, deed⟩ member moves
  cases deed with
  | moved before after =>
    have higher := ListenerState.passes_upward (upward i before after member)
    simp only [Deed.movesTo, decide_eq_true_eq] at moves
    subst moves
    simp only [Deed.rises, Bool.and_eq_true, decide_eq_true_eq]
    omega
  | _ => cases moves

theorem count_rises_le {state : ListenerState} {n : Nat} (rank : state.rank = n + 1) (late : 2 ≤ n) :
    system.count (Deed.rises n) ≤ system.count (Deed.movesTo state) := by
  apply count_mono
  rintro ⟨i, deed⟩ member rises
  cases deed with
  | moved before after =>
    have passed := upward i before after member
    simp only [Deed.rises, Bool.and_eq_true, decide_eq_true_eq] at rises
    simp only [Deed.movesTo, decide_eq_true_eq]
    cases state <;> simp only [ListenerState.rank] at rank <;> first | omega | skip
    all_goals
      cases before <;> cases after <;> simp_all [ListenerState.passes, ListenerState.rank]
  | _ => cases rises

/-- Whoever is about to set the state to stopped finds it at stopping. -/
theorem state_at_finish (reachable : system.Reachable config)
    (finishing : 0 < system.callsAt Call.atFinish) : system.state = .stopping := by
  have stopping := reachable.count_stopping
  have took := reachable.count_took
  have release := reachable.count_release
  have released := reachable.count_released
  have once : system.count (Deed.movesTo .stopping) ≤ system.count (Deed.rises 2) :=
    upward.count_movesTo_le rfl
  have beyond := reachable.count_rises 2
  have last := reachable.count_rises 3
  have toStopped : system.count (Deed.rises 3) ≤ system.count (Deed.movesTo .stopped) :=
    upward.count_rises_le rfl (by decide)
  rw [upward.count_falls] at beyond last
  cases there : system.state with
  | stopping => rfl
  | initialized | starting | started | stopped =>
    exfalso
    simp [there, ListenerState.rank] at beyond last
    omega

end Upward

theorem Reachable.upward (reachable : system.Reachable config) : system.Upward := by
  induction reachable using Reachable.induction with
  | new registry _ => simp [Upward, initial]
  | called system call _ _ before _ => exact before
  | elsewhere system registry _ _ before => exact before
  | went system i call common next deeds reachable _ before present goes =>
    have fresh : ∀ first last, .moved first last ∈ deeds → first.passes last := by
      intro first last member
      cases goes with
      | stopping found _ =>
        have ahead := (reachable.trail i _ present).isAhead _ rfl
        simp only [List.mem_singleton, Deed.moved.injEq] at member
        obtain ⟨rfl, rfl⟩ := member
        cases first <;> simp_all [ListenerState.passes]
      | finished =>
        have there := before.state_at_finish reachable (callsAt_pos_of_getElem? present rfl)
        simp only [List.mem_singleton, Deed.moved.injEq] at member
        obtain ⟨rfl, rfl⟩ := member
        change system.state.passes .stopped
        rw [there]
        rfl
      | _ => simp_all [ListenerState.passes]
    intro j first last member
    simp only [going, List.mem_append, List.mem_map, Prod.mk.injEq] at member
    rcases member with member | ⟨deed, member, _, rfl⟩
    · exact before j first last member
    · exact fresh first last member

namespace Reachable

variable (reachable : system.Reachable config)
include reachable

theorem count_rises_eq (n : Nat) :
    system.count (Deed.rises n) = if n < system.state.rank then 1 else 0 := by
  rw [reachable.count_rises, reachable.upward.count_falls, Nat.add_zero]

theorem count_movesTo_le_one {state : ListenerState} (other : state ≠ .initialized) :
    system.count (Deed.movesTo state) ≤ 1 := by
  have beyond : ∃ n, state.rank = n + 1 := by
    cases state with
    | initialized => exact absurd rfl other
    | starting | started | stopping | stopped => exact ⟨_, rfl⟩
  obtain ⟨n, rank⟩ := beyond
  have bound := reachable.upward.count_movesTo_le rank
  rw [reachable.count_rises_eq] at bound
  split at bound <;> omega

theorem count_movesTo_eq {state : ListenerState} {n : Nat} (rank : state.rank = n + 1)
    (late : 2 ≤ n) :
    system.count (Deed.movesTo state) = if n < system.state.rank then 1 else 0 := by
  rw [← reachable.count_rises_eq]
  exact Nat.le_antisymm (reachable.upward.count_movesTo_le rank)
    (reachable.upward.count_rises_le rank late)

theorem count_asks_le_one : system.count Deed.asks ≤ 1 := by
  have starting := reachable.count_starting
  have once := reachable.count_movesTo_le_one (show ListenerState.starting ≠ .initialized by decide)
  omega

theorem count_gives_le_asks (which : Receiver → Bool) :
    system.count (Deed.gives which) ≤ system.count Deed.asks := by
  have asked := reachable.count_asks
  have created : system.count (Deed.gives which) ≤ system.count Deed.isCreated := by
    apply count_mono
    rintro ⟨i, deed⟩ _ gives
    cases deed <;> first | rfl | cases gives
  omega

theorem count_gives_le_one (which : Receiver → Bool) : system.count (Deed.gives which) ≤ 1 := by
  have bound := reachable.count_gives_le_asks which
  have once := reachable.count_asks_le_one
  omega

theorem slot_at_register (stored : (Law.stored fun _ : Receiver => true).Holds system)
    (registering : 0 < system.callsAt (Call.hasReceiver fun _ => true)) : system.slot = none := by
  have law : system.count (Deed.sets fun _ => true) = system.callsAt (fun _ => false) +
      (if system.slot.any (fun _ => true) then 1 else 0) + system.count (Deed.takes fun _ => true) :=
    stored
  have given := reachable.count_gives fun _ => true
  have once := reachable.count_gives_le_one fun _ => true
  cases there : system.slot with
  | none => rfl
  | some receiver =>
    simp only [there, Option.any_some, if_true] at law
    omega

theorem stored_all : (Law.stored fun _ : Receiver => true).Holds system :=
  Law.holds_of_balances (fun _ _ _ _ _ _ reachable before present goes =>
    Law.stored_balances _ (fun _ here =>
      reachable.slot_at_register before (callsAt_pos_of_getElem? present (here ▸ rfl))) goes)
    reachable

theorem count_sets (which : Receiver → Bool) :
    system.count (Deed.sets which) =
      (if system.slot.any which then 1 else 0) + system.count (Deed.takes which) := by
  have law : (Law.stored which).Holds system :=
    Law.holds_of_balances (fun _ _ _ _ _ _ reachable _ present goes =>
      Law.stored_balances _ (fun _ here =>
        reachable.slot_at_register reachable.stored_all
          (callsAt_pos_of_getElem? present (here ▸ rfl))) goes) reachable
  have nobody : system.callsAt (fun _ => false) = 0 := by simp [callsAt]
  have counted : system.count (Deed.sets which) = system.callsAt (fun _ => false) +
      (if system.slot.any which then 1 else 0) + system.count (Deed.takes which) := law
  rw [counted, nobody, Nat.zero_add]

theorem count_release_le_one : system.count Deed.isRelease ≤ 1 := by
  have once := reachable.count_movesTo_le_one (show ListenerState.stopping ≠ .initialized by decide)
  have stopping := reachable.count_stopping
  have took := reachable.count_took
  omega

theorem count_marked :
    system.count Deed.isRelease =
      system.callsAt Call.atMark + if system.common.handle.released then 1 else 0 := by
  have law : Law.marked.Holds system := by
    apply Law.holds_of_balances _ reachable
    intro system i call common next deeds reachable before present goes
    refine Law.marked_balances ?_ goes
    intro here
    subst here
    have marking : 0 < system.callsAt Call.atMark := callsAt_pos_of_getElem? present rfl
    have once := reachable.count_release_le_one
    have counted : system.count Deed.isRelease = system.callsAt Call.atMark +
        (if system.common.handle.released then 1 else 0) + system.count (fun _ => false) := before
    cases released : system.common.handle.released with
    | false => rfl
    | true =>
      rw [released, if_pos rfl] at counted
      omega
  have nothing : system.count (fun _ => false) = 0 := by simp [System.count]
  have counted : system.count Deed.isRelease = system.callsAt Call.atMark +
      (if system.common.handle.released then 1 else 0) + system.count (fun _ => false) := law
  rw [counted, nothing, Nat.add_zero]

end Reachable

theorem rank_le_of_sublist {later : System Receiver Connection} (reachable : system.Reachable config)
    (laterReachable : later.Reachable config) (kept : system.history.Sublist later.history) :
    system.state.rank ≤ later.state.rank := by
  apply Nat.le_of_not_lt
  intro lower
  have before := reachable.count_rises_eq later.state.rank
  have after := laterReachable.count_rises_eq later.state.rank
  rw [if_pos lower] at before
  rw [if_neg (Nat.lt_irrefl _)] at after
  have more : system.count (Deed.rises later.state.rank) ≤ later.count (Deed.rises later.state.rank) :=
    kept.countP_le
  omega

end Lifecycle.System

end EventRelay
