import EventRelay.Proofs.Listener.Calls

namespace EventRelay.Lifecycle

variable {Receiver Connection : Type} {config : ListenerConfig}

/-- The steps of calls, each with what it finds, what it leaves and what it does. -/
inductive Call.Goes : Common Receiver Connection → Call Receiver Connection →
    Common Receiver Connection → Call Receiver Connection → List (Deed Receiver Connection) → Prop
  | won {common} (found : common.lifecycle.state = .initialized) :
    Goes common (.start .claim) { common with lifecycle.state := .starting } (.start .create)
      [.moved .initialized .starting]
  | ignored {common} (found : common.lifecycle.state ≠ .initialized) :
    Goes common (.start .claim) common (.start (.done (.ok ()))) []
  | asked {common} : Goes common (.start .create) common .creating [.createReceiver]
  | given {common} (receiver : Receiver) :
    Goes common .creating common (.start (.register receiver)) [.created (.ok receiver)]
  | denied {common} (e : ProviderError) :
    Goes common .creating common (.start (.done (.error (.noReceiver e)))) [.created (.error e)]
  | registered {common} (receiver : Receiver) :
    Goes common (.start (.register receiver)) { common with lifecycle.slot := some receiver }
      (.start .confirm) [.setListener receiver (.ok ())]
  | refused {common} (receiver : Receiver) (e : ProviderError) :
    Goes common (.start (.register receiver)) { common with lifecycle.slot := some receiver }
      (.start (.done (.error (.notRegistered e)))) [.setListener receiver (.error e)]
  | confirmed {common} (found : common.lifecycle.state = .starting) :
    Goes common (.start .confirm) { common with lifecycle.state := .started }
      (.start (.done (.ok ()))) [.moved .starting .started]
  | overtaken {common} (found : common.lifecycle.state ≠ .starting) :
    Goes common (.start .confirm) common (.start .reclaim) []
  | reclaimed {common} {receiver : Receiver} (found : common.lifecycle.slot = some receiver) :
    Goes common (.start .reclaim) { common with lifecycle.slot := none }
      (.start (.discard receiver)) [.reclaimed (some receiver)]
  | leftAlone {common} (found : common.lifecycle.slot = none) :
    Goes common (.start .reclaim) common (.start (.done (.ok ()))) [.reclaimed none]
  | discarding {common} (receiver : Receiver) :
    Goes common (.start (.discard receiver)) common (.discarding receiver) [.closeReceiver receiver]
  | discarded {common} (receiver : Receiver) (result : Except ProviderError Unit) :
    Goes common (.discarding receiver) common (.start (.done (.ok ())))
      [.receiverClosed receiver result]
  | late {common} (found : common.lifecycle.state = .stopping ∨ common.lifecycle.state = .stopped) :
    Goes common (.stop .read) common (.stop .done) []
  | read {common} (found : common.lifecycle.state ≠ .stopping ∧ common.lifecycle.state ≠ .stopped) :
    Goes common (.stop .read) common (.stop (.claim common.lifecycle.state)) []
  | stopping {common} {current : ListenerState} (found : common.lifecycle.state = current)
      (other : current ≠ .stopping) :
    Goes common (.stop (.claim current)) { common with lifecycle.state := .stopping } (.stop .take)
      [.moved current .stopping]
  | stoppingAgain {common} (found : common.lifecycle.state = .stopping) :
    Goes common (.stop (.claim .stopping)) common (.stop .take) []
  | again {common} {current : ListenerState} (found : common.lifecycle.state ≠ current) :
    Goes common (.stop (.claim current)) common (.stop .read) []
  | took {common} {receiver : Receiver} (found : common.lifecycle.slot = some receiver) :
    Goes common (.stop .take) { common with lifecycle.slot := none } (.stop (.close receiver))
      [.took (some receiver)]
  | tookNothing {common} (found : common.lifecycle.slot = none) :
    Goes common (.stop .take) common (.stop .release) [.took none]
  | closing {common} (receiver : Receiver) :
    Goes common (.stop (.close receiver)) common (.closing receiver) [.closeReceiver receiver]
  | closed {common} (receiver : Receiver) (result : Except ProviderError Unit) :
    Goes common (.closing receiver) common (.stop .release) [.receiverClosed receiver result]
  | releasing {common} : Goes common (.stop .release) common (.releasing .mark) [.release]
  | marked {common} (found : common.handle.released = false) :
    Goes common (.releasing .mark) { common with handle.released := true } (.releasing .decrement) []
  | markedBefore {common} (found : common.handle.released = true) :
    Goes common (.releasing .mark) common (.releasing .done) []
  | decremented {common} (registry : Registry Connection) :
    Goes common (.releasing .decrement) { common with handle.registry := registry }
      (.releasing .remove) []
  | removed {common} (registry : Registry Connection) (connection : Connection) :
    Goes common (.releasing .remove) { common with handle.registry := registry }
      (.releasing (.close connection)) []
  | kept {common} (registry : Registry Connection) :
    Goes common (.releasing .remove) { common with handle.registry := registry }
      (.releasing .done) []
  | connectionClosed {common} (connection : Connection) (result : Except ProviderError Unit) :
    Goes common (.releasing (.close connection)) common (.releasing .done)
      [.connectionClosed connection result]
  | released {common} : Goes common (.releasing .done) common (.stop .finish) [.released]
  | finished {common} :
    Goes common (.stop .finish) { common with lifecycle.state := .stopped } (.stop .done)
      [.moved common.lifecycle.state .stopped]

def Call.GoesTo (common : Common Receiver Connection) (call : Call Receiver Connection)
    (step : Common Receiver Connection × Call Receiver Connection × List (Deed Receiver Connection)) :
    Prop :=
  Goes common call step.1 step.2.1 step.2.2

theorem Call.goes_claim (common : Common Receiver Connection) :
    GoesTo common (.start .claim) (ownStart config common .claim) := by
  by_cases found : common.lifecycle.state = .initialized
  · have step := Goes.won found
    simpa [GoesTo, ownStart, Lifecycle.start, ListenerState.compareAndSet, startDeeds, found] using step
  · have step := Goes.ignored found
    simpa [GoesTo, ownStart, Lifecycle.start, ListenerState.compareAndSet, startDeeds, found] using step

theorem Call.goes_confirm (common : Common Receiver Connection) :
    GoesTo common (.start .confirm) (ownStart config common .confirm) := by
  by_cases found : common.lifecycle.state = .starting
  · have step := Goes.confirmed found
    simpa [GoesTo, ownStart, Lifecycle.start, ListenerState.compareAndSet, startDeeds, found] using step
  · have step := Goes.overtaken found
    simpa [GoesTo, ownStart, Lifecycle.start, ListenerState.compareAndSet, startDeeds, found] using step

theorem Call.goes_reclaim (common : Common Receiver Connection) :
    GoesTo common (.start .reclaim) (ownStart config common .reclaim) := by
  cases found : common.lifecycle.slot with
  | some receiver =>
    have step := Goes.reclaimed found
    simpa [GoesTo, ownStart, Lifecycle.start, startDeeds, found] using step
  | none =>
    have step := Goes.leftAlone found
    simpa [GoesTo, ownStart, Lifecycle.start, startDeeds, found] using step

theorem Call.goes_read (common : Common Receiver Connection) :
    GoesTo common (.stop .read) (ownStop config common .read) := by
  cases found : common.lifecycle.state with
  | stopping | stopped =>
    have step := @Goes.late _ Connection common (by simp [found])
    simpa [GoesTo, ownStop, Lifecycle.stop, stopDeeds, found] using step
  | initialized | starting | started =>
    have step := @Goes.read _ Connection common (by simp [found])
    simpa [GoesTo, ownStop, Lifecycle.stop, stopDeeds, found] using step

theorem Call.goes_stopClaim (common : Common Receiver Connection) (current : ListenerState) :
    GoesTo common (.stop (.claim current)) (ownStop config common (.claim current)) := by
  by_cases found : common.lifecycle.state = current
  · by_cases same : current = .stopping
    · subst same
      have step := Goes.stoppingAgain found
      have kept : { common with lifecycle.state := .stopping } = common := by rw [← found]
      simpa [GoesTo, ownStop, Lifecycle.stop, ListenerState.compareAndSet, stopDeeds, found, kept]
        using step
    · have step := Goes.stopping found same
      simpa [GoesTo, ownStop, Lifecycle.stop, ListenerState.compareAndSet, stopDeeds, found, same]
        using step
  · have step := Goes.again found
    simpa [GoesTo, ownStop, Lifecycle.stop, ListenerState.compareAndSet, stopDeeds, found] using step

theorem Call.goes_take (common : Common Receiver Connection) :
    GoesTo common (.stop .take) (ownStop config common .take) := by
  cases found : common.lifecycle.slot with
  | some receiver =>
    have step := Goes.took found
    simpa [GoesTo, ownStop, Lifecycle.stop, stopDeeds, found] using step
  | none =>
    have step := Goes.tookNothing found
    simpa [GoesTo, ownStop, Lifecycle.stop, stopDeeds, found] using step

theorem Call.goes_mark (common : Common Receiver Connection) :
    GoesTo common (.releasing .mark) (ownRelease config common .mark) := by
  cases found : common.handle.released with
  | true =>
    have step := Goes.markedBefore found
    simpa [GoesTo, ownRelease, Registry.release, found] using step
  | false =>
    have step := Goes.marked found
    simpa [GoesTo, ownRelease, Registry.release, found] using step

theorem Call.goes_remove (common : Common Receiver Connection) :
    GoesTo common (.releasing .remove) (ownRelease config common .remove) := by
  cases found : common.handle.registry.removeUnused config.id with
  | mk registry closing =>
    cases closing with
    | some closing =>
      have step := @Goes.removed _ _ common registry closing.1
      simpa [GoesTo, ownRelease, Registry.release, found] using step
    | none =>
      have step := @Goes.kept _ _ common registry
      simpa [GoesTo, ownRelease, Registry.release, found] using step

theorem Call.goes_of_go {common after : Common Receiver Connection}
    {call next : Call Receiver Connection} {deeds : List (Deed Receiver Connection)}
    {prompt : Prompt Receiver} (h : call.go config common prompt = some (after, next, deeds)) :
    Goes common call after next deeds := by
  have goesTo : ∀ step, some step = some (after, next, deeds) → GoesTo common call step →
      Goes common call after next deeds := by
    intro step same goes
    cases same
    exact goes
  unfold go at h
  split at h
  · exact goesTo _ h (goes_claim common)
  · exact goesTo _ h .asked
  · rename_i result
    cases result with
    | ok receiver => exact goesTo _ h (.given receiver)
    | error e => exact goesTo _ h (.denied e)
  · rename_i receiver result
    cases result with
    | ok => exact goesTo _ h (.registered receiver)
    | error e => exact goesTo _ h (.refused receiver e)
  · exact goesTo _ h (goes_confirm common)
  · exact goesTo _ h (goes_reclaim common)
  · exact goesTo _ h (.discarding _)
  · exact goesTo _ h (.discarded _ _)
  · exact goesTo _ h (goes_read common)
  · exact goesTo _ h (goes_stopClaim common _)
  · exact goesTo _ h (goes_take common)
  · exact goesTo _ h (.closing _)
  · exact goesTo _ h (.closed _ _)
  · exact goesTo _ h .releasing
  · exact goesTo _ h (goes_mark common)
  · exact goesTo _ h (.decremented _)
  · exact goesTo _ h (goes_remove common)
  · exact goesTo _ h (.connectionClosed _ _)
  · exact goesTo _ h .released
  · exact goesTo _ h .finished
  · cases h

def Call.IsNew (call : Call Receiver Connection) : Prop := call = .start .claim ∨ call = .stop .read

namespace System

variable {system : System Receiver Connection}

theorem run_append (first second : List (Move Receiver Connection)) :
    system.run config (first ++ second) = (system.run config first).bind (·.run config second) := by
  induction first generalizing system with
  | nil => rfl
  | cons move moves ih =>
    simp only [List.cons_append, run]
    cases system.step config move with
    | none => rfl
    | some next => exact ih

theorem Reachable.run {final : System Receiver Connection} {moves : List (Move Receiver Connection)}
    (reachable : system.Reachable config) (ran : system.run config moves = some final) :
    final.Reachable config := by
  obtain ⟨registry, before, reached⟩ := reachable
  refine ⟨registry, before ++ moves, ?_⟩
  rw [run_append, reached]
  exact ran

theorem Reachable.step {next : System Receiver Connection} {move : Move Receiver Connection}
    (reachable : system.Reachable config) (stepped : system.step config move = some next) :
    next.Reachable config := by
  refine reachable.run (show system.run config [move] = some next from ?_)
  simp only [System.run, stepped]

/-- What holds of new listeners, and is kept when a call is made, when the registry changes
    elsewhere and when a call takes a step, holds wherever calls can lead. -/
theorem Reachable.induction
    {motive : (system : System Receiver Connection) → system.Reachable config → Prop}
    (new : ∀ registry reachable, motive (initial registry) reachable)
    (called : ∀ system call before after, motive system before → call.IsNew →
      motive (system.calling call) after)
    (elsewhere : ∀ system registry before after, motive system before →
      motive (system.inRegistry registry) after)
    (went : ∀ system i call common next deeds before after, motive system before →
      system.calls[i]? = some call → Call.Goes system.common call common next deeds →
      motive (system.going i common next deeds) after)
    (reachable : system.Reachable config) : motive system reachable := by
  have stepped : ∀ system move next before after, motive system before →
      System.step config system move = some next → motive next after := by
    intro system move next before after holds step
    cases move with
    | start =>
      cases step
      exact called _ _ before after holds (.inl rfl)
    | stop =>
      cases step
      exact called _ _ before after holds (.inr rfl)
    | elsewhere registry =>
      cases step
      exact elsewhere _ registry before after holds
    | prompt i prompt =>
      simp only [System.step] at step
      split at step
      · cases step
      · rename_i call present
        split at step
        · cases step
        · rename_i goes
          cases step
          exact went _ i call _ _ _ before after holds present (Call.goes_of_go goes)
  have ranFrom : ∀ moves start before, motive start before →
      System.run config start moves = some system → motive system reachable := by
    intro moves
    induction moves with
    | nil =>
      intro start before holds ran
      cases ran
      exact holds
    | cons move moves ih =>
      intro start before holds ran
      simp only [System.run] at ran
      split at ran
      · cases ran
      · rename_i next step
        have after := before.step step
        exact ih next after (stepped _ _ _ before after holds step) ran
  obtain ⟨registry, moves, ran⟩ := reachable
  have fresh : Reachable config (initial registry : System Receiver Connection) :=
    ⟨registry, [], rfl⟩
  exact ranFrom moves _ fresh (new registry fresh) ran

end System

/-- The deeds that can bring a call to a point, whatever the others do in between. -/
inductive Call.Trail : Call Receiver Connection → List (Deed Receiver Connection) → Prop
  | new {call} (isNew : call.IsNew) : Trail call []
  | went {common call after next deeds more} (before : Trail call deeds)
    (goes : Goes common call after next more) : Trail next (deeds ++ more)

namespace System

variable {system : System Receiver Connection}

def deedsOf (system : System Receiver Connection) (i : Nat) : List (Deed Receiver Connection) :=
  (system.history.filter fun entry => entry.1 = i).map (·.2)

theorem mem_deedsOf {i : Nat} {deed : Deed Receiver Connection} :
    deed ∈ system.deedsOf i ↔ (i, deed) ∈ system.history := by
  simp [deedsOf]

theorem deedsOf_going (common : Common Receiver Connection) (next : Call Receiver Connection)
    (deeds : List (Deed Receiver Connection)) (i j : Nat) :
    (system.going i common next deeds).deedsOf j =
      if i = j then system.deedsOf j ++ deeds else system.deedsOf j := by
  by_cases same : i = j <;> simp [deedsOf, going, List.filter_map, Function.comp_def, same]

theorem Reachable.doers (reachable : system.Reachable config) :
    ∀ entry ∈ system.history, entry.1 < system.calls.length := by
  induction reachable using Reachable.induction with
  | new registry _ => simp [initial]
  | called system call _ _ before _ =>
    intro entry member
    have inside := before entry member
    simp only [calling, List.length_append, List.length_singleton]
    omega
  | elsewhere system registry _ _ before => exact before
  | went system i call common next deeds _ _ before present _ =>
    intro entry member
    have inside : i < system.calls.length := (List.getElem?_eq_some_iff.mp present).1
    simp only [going, List.length_set, List.mem_append, List.mem_map] at member ⊢
    rcases member with member | ⟨deed, _, rfl⟩
    · exact before entry member
    · exact inside

theorem Reachable.trail (reachable : system.Reachable config) :
    ∀ (i : Nat) (call : Call Receiver Connection), system.calls[i]? = some call →
      call.Trail (system.deedsOf i) := by
  induction reachable using Reachable.induction with
  | new registry _ =>
    intro i call present
    simp [initial] at present
  | called system call reachable _ before isNew =>
    intro i found present
    rcases Nat.lt_or_ge i system.calls.length with inside | outside
    · rw [calling, List.getElem?_append_left inside] at present
      exact before i found present
    · have last : found = call := by
        rw [calling, List.getElem?_append_right outside] at present
        exact List.mem_singleton.mp (List.mem_of_getElem? present)
      have nothing : (system.calling call).deedsOf i = [] := by
        simp only [deedsOf, List.map_eq_nil_iff, List.filter_eq_nil_iff, decide_eq_true_eq]
        intro entry member same
        have inside := reachable.doers entry member
        omega
      rw [nothing, last]
      exact .new isNew
  | elsewhere system registry _ _ before => exact before
  | went system i call common next deeds _ _ before present goes =>
    intro j found there
    rw [deedsOf_going]
    rw [going, List.getElem?_set] at there
    split at there
    · rename_i same
      subst same
      have inside : i < system.calls.length := (List.getElem?_eq_some_iff.mp present).1
      simp only [inside, if_true, Option.some.injEq] at there
      subst there
      simpa using Call.Trail.went (before i call present) goes
    · rename_i other
      simpa [other] using before j found there

end System

end EventRelay.Lifecycle
