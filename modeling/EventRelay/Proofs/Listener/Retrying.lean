import EventRelay.Proofs.Listener.Disposal
import EventRelay.Proofs.Listener.Starts

namespace EventRelay

theorem ListenerState.rank_lt_of_ne {state current : ListenerState} (moved : state ≠ current)
    (behind : current.rank ≤ state.rank) : current.rank < state.rank := by
  cases state <;> cases current <;> simp_all [ListenerState.rank]

theorem ListenerState.two_lt_rank_iff {state : ListenerState} :
    2 < state.rank ↔ state = .stopping ∨ state = .stopped := by
  cases state <;> decide

namespace Lifecycle

variable {Receiver Connection : Type} {config : ListenerConfig}

/-- A stop that has neither moved the state nor found that another one has. -/
def Call.isTrying : Call Receiver Connection → Bool
  | .stop .read | .stop (.claim _) => true
  | _ => false

def Move.isOf (i : Nat) : Move Receiver Connection → Bool
  | .prompt j _ => j = i
  | _ => false

/-- The call is about to move the state to stopping, and the state is no longer what the call has read. -/
def Call.misses (state : ListenerState) : Call Receiver Connection → Bool
  | .stop (.claim current) => !(state.compareAndSet current .stopping).2
  | _ => false

/-- How many steps a call has taken, and how often it has failed to move the state, which is now as given.
    As long as it tries, it has failed no more often than the state it last saw has risen. -/
def Call.Tried (state : ListenerState) (steps failed : Nat) : Call Receiver Connection → Prop
  | .stop .read => steps = 2 * failed ∧ failed ≤ state.rank ∧ failed ≤ 3
  | .stop (.claim current) =>
    steps = 2 * failed + 1 ∧ failed ≤ current.rank ∧ current.rank ≤ state.rank ∧ current.rank ≤ 2
  | _ => failed ≤ 3

namespace Call

variable {common after : Common Receiver Connection} {call next : Call Receiver Connection}
  {deeds : List (Deed Receiver Connection)} {state later : ListenerState} {steps failed : Nat}

theorem Tried.risen (tried : call.Tried state steps failed) (risen : state.rank ≤ later.rank) :
    call.Tried later steps failed := by
  cases call with
  | stop point =>
    cases point with
    | read =>
      obtain ⟨even, low, few⟩ := tried
      exact ⟨even, Nat.le_trans low risen, few⟩
    | claim current =>
      obtain ⟨odd, low, behind, early⟩ := tried
      exact ⟨odd, low, Nat.le_trans behind risen, early⟩
    | _ => exact tried
  | _ => exact tried

theorem Tried.few (tried : call.Tried state steps failed) : failed ≤ 3 := by
  cases call with
  | stop point =>
    cases point with
    | read => exact tried.2.2
    | claim current =>
      obtain ⟨_, low, _, early⟩ := tried
      omega
    | _ => exact tried
  | _ => exact tried

theorem Tried.few_steps (tried : call.Tried state steps failed) (trying : call.isTrying) : steps ≤ 6 := by
  cases call with
  | stop point =>
    cases point with
    | read =>
      obtain ⟨even, _, few⟩ := tried
      omega
    | claim current =>
      obtain ⟨odd, low, _, early⟩ := tried
      omega
    | _ => cases trying
  | _ => cases trying

theorem Goes.tried (goes : Goes common call after next deeds)
    (tried : call.Tried common.lifecycle.state steps failed) :
    next.Tried after.lifecycle.state (steps + 1)
      (failed + if call.misses common.lifecycle.state then 1 else 0) := by
  cases goes with
  | read found =>
    obtain ⟨even, low, _⟩ := tried
    have early : common.lifecycle.state.rank ≤ 2 :=
      Nat.not_lt.mp fun late => (ListenerState.two_lt_rank_iff.mp late).elim found.1 found.2
    exact ⟨congrArg (· + 1) even, low, Nat.le_refl _, early⟩
  | @again current found =>
    obtain ⟨odd, low, behind, early⟩ := tried
    -- The state has only risen since it was read, so the next reading gives a higher one.
    have above := ListenerState.rank_lt_of_ne found behind
    have missed : (Call.stop (.claim current) : Call Receiver Connection).misses
        common.lifecycle.state = true := by
      simp [misses, ListenerState.compareAndSet, found]
    rw [missed, if_pos rfl]
    refine ⟨by omega, by omega, by omega⟩
  | stopping found | stoppingAgain found =>
    have few := tried.few
    simpa [Tried, misses, ListenerState.compareAndSet, found] using few
  | _ => exact tried.few

end Call

theorem Call.Goes.isStop_eq {common after : Common Receiver Connection}
    {call next : Call Receiver Connection} {deeds : List (Deed Receiver Connection)}
    (goes : Goes common call after next deeds) : next.isStop = call.isStop := by
  rw [isStop, isStop, goes.isStart_eq]

theorem Call.Trail.moved_or_idle {call : Call Receiver Connection}
    {deeds : List (Deed Receiver Connection)} (trail : call.Trail deeds) (isStop : call.isStop) :
    ((∃ before, .moved before .stopping ∈ deeds) ∧ call.isTrying = false) ∨
      deeds = [] ∧ (call.isTrying ∨ call = .stop .done) := by
  induction trail with
  | new isNew =>
    rcases isNew with rfl | rfl
    · cases isStop
    · exact .inr ⟨rfl, .inl rfl⟩
  | went before goes ih =>
    rw [goes.isStop_eq] at isStop
    have ahead := before.isAhead
    rcases ih isStop with ⟨⟨state, moved⟩, through⟩ | ⟨rfl, trying | rfl⟩
    · refine .inl ⟨⟨state, List.mem_append_left _ moved⟩, ?_⟩
      cases goes <;> first | rfl | cases through
    · cases goes with
      | late found => exact .inr ⟨rfl, .inr rfl⟩
      | read found => exact .inr ⟨rfl, .inl rfl⟩
      | stopping found other => exact .inl ⟨⟨_, List.mem_cons_self⟩, rfl⟩
      -- What a stop reads and goes on with is below stopping.
      | stoppingAgain found => exact absurd rfl (ahead _ rfl).1
      | again found => exact .inr ⟨rfl, .inl rfl⟩
      | _ => cases trying
    · cases goes

namespace System

variable {system next : System Receiver Connection} {i steps failed : Nat}

def misses (system : System Receiver Connection) (i : Nat) : Bool :=
  system.calls[i]?.any (·.misses system.state)

variable (config) in
def failures (i : Nat) (system : System Receiver Connection) : List (Move Receiver Connection) → Nat
  | [] => 0
  | move :: moves =>
    match system.step config move with
    | none => 0
    | some next => (if move.isOf i && system.misses i then 1 else 0) + failures i next moves

def Tried (system : System Receiver Connection) (i steps failed : Nat) : Prop :=
  match system.calls[i]? with
  | none => steps = 0 ∧ failed = 0
  | some call => call.Tried system.state steps failed

theorem tried_initial (registry : Registry Connection) :
    Tried (initial registry : System Receiver Connection) i 0 0 := ⟨rfl, rfl⟩

namespace Tried

variable (tried : system.Tried i steps failed)
include tried

theorem others (same : next.calls[i]? = system.calls[i]?)
    (risen : system.state.rank ≤ next.state.rank) : next.Tried i steps failed := by
  rw [Tried] at tried ⊢
  rw [same]
  cases there : system.calls[i]? with
  | none => simpa only [there] using tried
  | some call =>
    rw [there] at tried
    exact Call.Tried.risen tried risen

theorem calling {call : Call Receiver Connection} (isNew : call.IsNew) :
    (system.calling call).Tried i steps failed := by
  rw [Tried] at tried ⊢
  cases there : (system.calling call).calls[i]? with
  | none =>
    have outside : system.calls.length ≤ i := by
      have beyond := List.getElem?_eq_none_iff.mp there
      rw [System.calling, List.length_append] at beyond
      omega
    rwa [List.getElem?_eq_none outside] at tried
  | some found =>
    rcases last_or_same there with ⟨rfl, rfl⟩ | before
    · rw [List.getElem?_eq_none (Nat.le_refl _)] at tried
      obtain ⟨rfl, rfl⟩ := tried
      rcases isNew with rfl | rfl
      · exact Nat.zero_le 3
      · exact ⟨rfl, Nat.zero_le _, Nat.zero_le 3⟩
    · rwa [before] at tried

theorem going {call : Call Receiver Connection} (present : system.calls[i]? = some call)
    {common : Common Receiver Connection} {point : Call Receiver Connection}
    {deeds : List (Deed Receiver Connection)}
    (goes : Call.Goes system.common call common point deeds) :
    (system.going i common point deeds).Tried i (steps + 1)
      (failed + if system.misses i then 1 else 0) := by
  obtain ⟨inside, _⟩ := List.getElem?_eq_some_iff.mp present
  have there : (system.going i common point deeds).calls[i]? = some point :=
    List.getElem?_set_self inside
  rw [Tried, present] at tried
  rw [Tried, there, misses, present]
  exact goes.tried tried

theorem step (reachable : system.Reachable config) {move : Move Receiver Connection}
    (stepped : system.step config move = some next) :
    next.Tried i (steps + if move.isOf i then 1 else 0)
      (failed + if move.isOf i && system.misses i then 1 else 0) := by
  have risen : system.state.rank ≤ next.state.rank :=
    rank_le_of_sublist reachable (reachable.step stepped) (step_history stepped)
  cases move with
  | start =>
    cases stepped
    exact tried.calling (.inl rfl)
  | stop =>
    cases stepped
    exact tried.calling (.inr rfl)
  | elsewhere registry =>
    cases stepped
    exact tried.others rfl risen
  | prompt j prompt =>
    simp only [System.step] at stepped
    split at stepped
    · cases stepped
    · rename_i call present
      split at stepped
      · cases stepped
      · rename_i goes
        cases stepped
        by_cases own : j = i
        · subst own
          simpa [Move.isOf] using tried.going present (Call.goes_of_go goes)
        · simpa [Move.isOf, own] using tried.others (List.getElem?_set_ne own) risen

theorem run (reachable : system.Reachable config) {moves : List (Move Receiver Connection)}
    {later : System Receiver Connection} (ran : system.run config moves = some later) :
    later.Tried i (steps + moves.countP (·.isOf i)) (failed + failures config i system moves) := by
  induction moves generalizing system steps failed with
  | nil =>
    cases ran
    exact tried
  | cons move moves ih =>
    simp only [System.run] at ran
    split at ran
    · cases ran
    · rename_i next stepped
      have after := ih (tried.step reachable stepped) (reachable.step stepped) ran
      rw [failures, stepped, List.countP_cons, Nat.add_comm (moves.countP _), ← Nat.add_assoc,
        ← Nat.add_assoc]
      exact after

end Tried

theorem step_of_trying {call : Call Receiver Connection} (present : system.calls[i]? = some call)
    (trying : call.isTrying) : ∃ next, system.step config (.prompt i .go) = some next := by
  have goes : ∃ step, call.go config system.common .go = some step := by
    cases call with
    | stop point => cases point <;> first | exact ⟨_, rfl⟩ | cases trying
    | _ => cases trying
  obtain ⟨⟨common, point, deeds⟩, goes⟩ := goes
  refine ⟨system.going i common point deeds, ?_⟩
  simp only [step, present, goes]

/-- A stop fails to move the state three times at most in the course of a run, and while it tries it can
    always go on and has taken six steps at most. So it comes to an end of trying: it has then moved the
    state to stopping itself, which nobody does twice, or it has returned, having done nothing, with the
    state at stopping or stopped. -/
theorem stop_moves_or_returns {registry : Registry Connection} {moves : List (Move Receiver Connection)}
    {call : Call Receiver Connection} (ran : (initial registry).run config moves = some system)
    (present : system.calls[i]? = some call) (isStop : call.isStop) :
    failures config i (initial registry) moves ≤ 3 ∧
    (call.isTrying → moves.countP (·.isOf i) ≤ 6 ∧ system.deedsOf i = [] ∧
      ∃ next, system.step config (.prompt i .go) = some next) ∧
    (call.isTrying = false →
      (∃ before, (i, .moved before .stopping) ∈ system.history ∧
        system.count (Deed.movesTo .stopping) = 1) ∨
      call = .stop .done ∧ system.deedsOf i = [] ∧
        (system.state = .stopping ∨ system.state = .stopped)) := by
  have reachable : system.Reachable config := ⟨registry, moves, ran⟩
  have tried := (tried_initial registry).run ⟨registry, [], rfl⟩ ran (i := i)
  rw [Tried, present, Nat.zero_add, Nat.zero_add] at tried
  have outcome := (reachable.trail i call present).moved_or_idle isStop
  refine ⟨tried.few, fun trying => ?_, fun through => ?_⟩
  · rcases outcome with ⟨_, through⟩ | ⟨nothing, _⟩
    · rw [trying] at through
      cases through
    · exact ⟨tried.few_steps trying, nothing, step_of_trying present trying⟩
  · rcases outcome with ⟨⟨before, moved⟩, _⟩ | ⟨nothing, trying | rfl⟩
    · have member := mem_deedsOf.mp moved
      have once := reachable.count_movesTo_le_one
        (show ListenerState.stopping ≠ .initialized by decide)
      have some := count_pos_of_mem member (show Deed.movesTo .stopping (.moved before .stopping) by
        simp [Deed.movesTo])
      exact .inl ⟨before, member, by omega⟩
    · rw [trying] at through
      cases through
    · have late := reachable.rank_of_stopped _ (List.mem_of_getElem? present) rfl
      exact .inr ⟨rfl, nothing, ListenerState.two_lt_rank_iff.mp late⟩

def outrunMoves : List (Move Nat Nat) :=
  [.stop, .start, .stop, .prompt 0 .go, .prompt 1 .go, .prompt 0 .go, .prompt 0 .go, .prompt 1 .go,
    .prompt 1 (.receiver (.ok 7)), .prompt 1 (.result (.ok ())), .prompt 1 .go, .prompt 0 .go,
    .prompt 0 .go, .prompt 2 .go, .prompt 2 .go, .prompt 0 .go, .prompt 0 .go]

theorem stop_moves_or_returns_outrun :
    ∃ system : System Nat Nat,
      (initial {}).run ⟨"l", "f", "d", none, none⟩ outrunMoves = some system ∧
      failures ⟨"l", "f", "d", none, none⟩ 0 (initial {}) outrunMoves = 3 ∧
      system.calls[0]? = some (.stop .done) ∧ system.deedsOf 0 = [] ∧
      (system.state = .stopping ∨ system.state = .stopped) := by
  obtain ⟨system, ran, calls, history⟩ : ∃ system : System Nat Nat,
      (initial {}).run ⟨"l", "f", "d", none, none⟩ outrunMoves = some system ∧
      system.calls = [.stop .done, .start (.done (.ok ())), .stop .take] ∧
      system.history = [(1, .moved .initialized .starting), (1, .createReceiver),
        (1, .created (.ok 7)), (1, .setListener 7 (.ok ())), (1, .moved .starting .started),
        (2, .moved .started .stopping)] := ⟨_, rfl, rfl, rfl⟩
  have present : system.calls[0]? = some (.stop .done) := by rw [calls]; rfl
  refine ⟨system, ran, rfl, present, ?_⟩
  obtain ⟨_, _, through⟩ := stop_moves_or_returns ran present rfl
  rcases through rfl with ⟨before, moved, _⟩ | ⟨_, nothing, late⟩
  · simp [history] at moved
  · exact ⟨nothing, late⟩

end System

end Lifecycle

end EventRelay
