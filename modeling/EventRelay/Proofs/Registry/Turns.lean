import EventRelay.Proofs.Registry.Quiet

namespace EventRelay.Registry

inductive Operation
  | resolve (name : String) (params : ConnectionParams) (answer : Except ProviderError Unit)
  | release (holder : Nat)
  | drop (holder : Nat)
  | close (call : Nat)
  | answer (call : Nat) (result : Except ProviderError Unit)

def Operation.moves (i : Nat) : Operation → List Move
  | .resolve name params result => [.resolve name params result]
  | .release h => .release h :: List.replicate 3 (.go i)
  | .drop h => .drop h :: List.replicate 3 (.go i)
  | .close call => [.go call]
  | .answer call result => [Move.answer call result]

namespace System

def attempt (system : System) (move : Move) : System := (system.step move).getD system

def perform (system : System) (operation : Operation) : System :=
  (operation.moves system.calls.length).foldl attempt system

def performAll (operations : List Operation) : System := operations.foldl perform {}

def name? (system : System) : Operation → Option String
  | .resolve name _ _ => some name
  | .release h | .drop h => (system.holders[h]?).map Holder.name
  | .close _ | .answer _ _ => none

variable {start system : System} {h steps : Nat} {name : String}

theorem Reachable.performed (reachable : system.Reachable) (operation : Operation) :
    (system.perform operation).Reachable := by
  refine List.foldlRecOn _ attempt reachable ?_
  intro before reachable move _
  cases stepped : before.step move with
  | none => rwa [attempt, stepped, Option.getD_none]
  | some next =>
    rw [attempt, stepped, Option.getD_some]
    exact reachable.step stepped

/-- From `start` on nothing but a call on handle `h` went on, which has some steps left. -/
structure Under (start system : System) (h : Nat) (name : String) (steps : Nat) : Prop where
  calls : ∃ stage, system.calls = start.calls ++ [⟨h, stage⟩] ∧ stage.rank ≤ steps
  holder : ∃ holder, system.holders[h]? = some holder ∧ holder.name = name
  others : ∀ other, other ≠ name → system.registry.find? other = start.registry.find? other

theorem Under.releaseStep {holder : Holder} {point : Release Nat}
    (calls : system.calls = start.calls ++ [⟨h, .own point⟩])
    (has : system.holders[h]? = some holder)
    (others : ∀ other, other ≠ holder.name → system.registry.find? other = start.registry.find? other)
    (busy : 0 < (Stage.own point).rank) (rank : (Stage.own point).rank ≤ steps + 1) :
    Under start (system.releaseStep start.calls.length h holder point) h holder.name steps := by
  obtain ⟨inside, _⟩ := List.getElem?_eq_some_iff.mp has
  have less : (Stage.own (release holder.name ⟨system.registry, holder.released⟩ point).2.2).rank ≤
      steps := by
    rcases rank_release holder.name ⟨system.registry, holder.released⟩ busy with ended | less
    · rw [ended]
      exact Nat.zero_le steps
    · omega
  refine ⟨⟨_, ?_, less⟩, ⟨_, List.getElem?_set_self inside, rfl⟩, ?_⟩
  · simp [System.releaseStep, going, setHolder, calls]
  · intro other apart
    exact (find?_release ⟨system.registry, holder.released⟩ point apart).trans (others other apart)

theorem Under.go (under : Under start system h name (steps + 1)) :
    Under start (system.attempt (.go start.calls.length)) h name steps := by
  obtain ⟨⟨stage, calls, rank⟩, ⟨holder, has, rfl⟩, others⟩ := under
  have there : system.calls[start.calls.length]? = some ⟨h, stage⟩ := by
    rw [calls]
    exact List.getElem?_concat_length
  cases stage with
  | closing connection =>
    simp only [attempt, step, there, Option.getD_none]
    exact ⟨⟨_, calls, Nat.zero_le steps⟩, ⟨holder, has, rfl⟩, others⟩
  | own point =>
    cases point with
    | mark | decrement | remove =>
      simp only [attempt, step, there, has, Option.getD_some]
      exact .releaseStep calls has others (by simp [Stage.rank]) rank
    | close connection =>
      simp only [attempt, step, there, has, Option.getD_some]
      refine ⟨⟨.closing connection, ?_, Nat.zero_le steps⟩, ⟨holder, has, rfl⟩, others⟩
      simp [going, calls]
    | done =>
      simp only [attempt, step, there, has, Option.getD_none]
      exact ⟨⟨_, calls, Nat.zero_le steps⟩, ⟨holder, has, rfl⟩, others⟩

theorem Under.goAll (steps : Nat) {system : System} (under : Under start system h name steps) :
    Under start ((List.replicate steps (.go start.calls.length)).foldl attempt system) h name 0 := by
  induction steps generalizing system with
  | zero => exact under
  | succ steps ih => exact ih under.go

theorem goAll_of_stuck {i : Nat} (stuck : system.step (.go i) = none) (steps : Nat) :
    (List.replicate steps (.go i)).foldl attempt system = system := by
  have stays : system.attempt (.go i) = system := by
    rw [attempt, stuck, Option.getD_none]
  induction steps with
  | zero => rfl
  | succ steps ih => rw [List.replicate_succ, List.foldl_cons, stays, ih]

theorem perform_begin {operation : Operation} (call : operation = .release h ∨ operation = .drop h) :
    system.perform operation = system ∨ ∃ holder next, system.holders[h]? = some holder ∧
      system.perform operation = (List.replicate 3 (.go system.calls.length)).foldl attempt next ∧
      next.calls = system.calls ++ [⟨h, .own .mark⟩] ∧ next.registry = system.registry ∧
      ∃ now, next.holders[h]? = some now ∧ now.name = holder.name ∧ now.released = holder.released := by
  have refused : ∀ {begin : Move}, system.step begin = none →
      (begin :: List.replicate 3 (.go system.calls.length)).foldl attempt system = system := by
    intro begin none
    rw [List.foldl_cons, attempt, none, Option.getD_none]
    exact goAll_of_stuck (by simp [step]) 3
  have went : ∀ {begin : Move} {next : System}, system.step begin = some next →
      (begin :: List.replicate 3 (.go system.calls.length)).foldl attempt system =
        (List.replicate 3 (.go system.calls.length)).foldl attempt next := by
    intro begin next begun
    rw [List.foldl_cons, attempt, begun, Option.getD_some]
  cases has : system.holders[h]? with
  | none =>
    rcases call with rfl | rfl
    · exact .inl (refused (by simp only [step, has]))
    · exact .inl (refused (by simp only [step, has]))
  | some holder =>
    obtain ⟨inside, _⟩ := List.getElem?_eq_some_iff.mp has
    rcases call with rfl | rfl
    · cases dropped : holder.dropped with
      | true => exact .inl (refused (by simp [step, has, dropped]))
      | false =>
        refine .inr ⟨holder, system.calling h, rfl, went ?_, rfl, rfl, holder, has, rfl, rfl⟩
        simp [step, has, dropped]
    · cases busy : holder.dropped || system.isBorrowed h with
      | true => exact .inl (refused (by simp [step, has, busy]))
      | false =>
        refine .inr ⟨holder, (system.setHolder h { holder with dropped := true }).calling h, rfl, went ?_,
          rfl, rfl, _, List.getElem?_set_self inside, rfl, rfl⟩
        simp [step, has, busy]

theorem perform_call {operation : Operation} (call : operation = .release h ∨ operation = .drop h) :
    system.perform operation = system ∨ ∃ holder, system.holders[h]? = some holder ∧
      Under system (system.perform operation) h holder.name 0 := by
  rcases perform_begin call with same | ⟨holder, next, has, goes, calls, registry, now, there, named, _⟩
  · exact .inl same
  · have under : Under system next h holder.name 3 :=
      ⟨⟨_, calls, Nat.le_refl 3⟩, ⟨now, there, named⟩, fun _ _ => by rw [registry]⟩
    rw [goes]
    exact .inr ⟨holder, has, under.goAll 3⟩

theorem perform_again {operation : Operation} {holder : Holder}
    (call : operation = .release h ∨ operation = .drop h) (has : system.holders[h]? = some holder)
    (released : holder.released = true) : (system.perform operation).registry = system.registry := by
  rcases perform_begin call with same | ⟨other, next, had, goes, calls, registry, now, there, _, kept⟩
  · rw [same]
  · rw [has, Option.some.injEq] at had
    rw [← had, released] at kept
    have marks : next.calls[system.calls.length]? = some ⟨h, .own .mark⟩ := by
      rw [calls]
      exact List.getElem?_concat_length
    have ends : next.attempt (.go system.calls.length) = next.going system.calls.length h (.own .done) := by
      simp only [attempt, step, marks, there, Option.getD_some]
      rw [releaseStep_of_kept there (by simp) (by simp [Registry.release, kept]; exact ⟨rfl, rfl, rfl⟩)]
      rfl
    have stuck : (next.going system.calls.length h (.own .done)).step (.go system.calls.length) = none := by
      simp [step, going, calls, there]
    rw [goes, List.replicate_succ, List.foldl_cons, ends, goAll_of_stuck stuck]
    exact registry

theorem perform_resolve (system : System) (name : String) (params : ConnectionParams)
    (answer : Except ProviderError Unit) :
    system.perform (.resolve name params answer) = system.resolve name params answer := rfl

theorem resolve_calls (system : System) (name : String) (params : ConnectionParams)
    (answer : Except ProviderError Unit) : (system.resolve name params answer).calls = system.calls := by
  simp only [resolve]
  repeat' split
  all_goals rfl

theorem asked_resolve (system : System) (name : String) (params : ConnectionParams)
    (answer : Except ProviderError Unit) :
    (system.resolve name params answer).history.filterMap Deed.asked? =
      system.history.filterMap Deed.asked? ++
        if system.registry.contains name then [] else [(name, params)] := by
  cases found : system.registry.find? name with
  | some entry => simp [resolve, retain?, contains, found]
  | none =>
    cases answer with
    | error | ok => simp [resolve, retain?, contains, found, Deed.asked?]

theorem find?_resolve {other : String} (system : System) (params : ConnectionParams)
    (answer : Except ProviderError Unit) (apart : other ≠ name) :
    (system.resolve name params answer).registry.find? other = system.registry.find? other := by
  cases found : system.registry.find? name with
  | some entry => simp [resolve, retain?, found, find?_adjust, apart]
  | none =>
    cases answer with
    | error => simp [resolve, retain?, found]
    | ok => simp [resolve, retain?, found, find?_enter, apart]

theorem Quiet.perform_closing (quiet : system.Quiet) {i : Nat} {operation : Operation}
    (closing : operation = .close i ∨ ∃ result, operation = .answer i result) :
    system.perform operation = system ∨ ∃ h stage deeds, stage.rank = 0 ∧
      system.perform operation = system.going i h stage deeds := by
  have tried : ∀ move, (system.step move = none ∨ ∃ h stage deeds, stage.rank = 0 ∧
        system.step move = some (system.going i h stage deeds)) →
      system.attempt move = system ∨ ∃ h stage deeds, stage.rank = 0 ∧
        system.attempt move = system.going i h stage deeds := by
    intro move stepped
    rcases stepped with stuck | ⟨h, stage, deeds, rank, went⟩
    · exact .inl (by rw [attempt, stuck, Option.getD_none])
    · exact .inr ⟨h, stage, deeds, rank, by rw [attempt, went, Option.getD_some]⟩
  rcases closing with rfl | ⟨result, rfl⟩
  · refine tried (.go i) ?_
    simp only [step]
    split
    · rename_i h point there
      split
      · exact .inl rfl
      · cases point with
        | mark | decrement | remove => cases quiet _ (List.mem_of_getElem? there)
        | close connection => exact .inr ⟨_, _, _, rfl, rfl⟩
        | done => exact .inl rfl
    · exact .inl rfl
  · refine tried (.answer i result) ?_
    simp only [step]
    split
    · exact .inr ⟨_, _, _, rfl, rfl⟩
    · exact .inl rfl

theorem Quiet.find?_perform (quiet : system.Quiet) {operation : Operation}
    (other : system.name? operation ≠ some name) :
    (system.perform operation).registry.find? name = system.registry.find? name := by
  have called : ∀ h, operation = .release h ∨ operation = .drop h →
      (∀ holder, system.holders[h]? = some holder → holder.name ≠ name) →
      (system.perform operation).registry.find? name = system.registry.find? name := by
    intro h call apart
    rcases perform_call call with same | ⟨holder, has, under⟩
    · rw [same]
    · exact under.others name (apart holder has).symm
  have beyond : ∀ i, (operation = .close i ∨ ∃ result, operation = .answer i result) →
      (system.perform operation).registry.find? name = system.registry.find? name := by
    intro i closing
    rcases quiet.perform_closing closing with same | ⟨h, stage, deeds, _, same⟩
    · rw [same]
    · rw [same]
      rfl
  cases operation with
  | resolve asked params answer =>
    refine find?_resolve system params answer ?_
    rintro rfl
    exact other rfl
  | release h =>
    refine called h (.inl rfl) ?_
    rintro holder has rfl
    exact other (by rw [name?, has, Option.map_some])
  | drop h =>
    refine called h (.inr rfl) ?_
    rintro holder has rfl
    exact other (by rw [name?, has, Option.map_some])
  | close i => exact beyond i (.inl rfl)
  | answer i result => exact beyond i (.inr ⟨result, rfl⟩)

theorem Quiet.performed (quiet : system.Quiet) (operation : Operation) :
    (system.perform operation).Quiet := by
  have called : ∀ h, operation = .release h ∨ operation = .drop h → (system.perform operation).Quiet := by
    intro h call
    rcases perform_call call with same | ⟨holder, _, ⟨stage, calls, rank⟩, _, _⟩
    · rwa [same]
    · intro call member
      rw [calls] at member
      rcases List.mem_append.mp member with member | member
      · exact quiet call member
      · rw [List.mem_singleton.mp member]
        exact Nat.le_zero.mp rank
  have beyond : ∀ i, (operation = .close i ∨ ∃ result, operation = .answer i result) →
      (system.perform operation).Quiet := by
    intro i closing
    rcases quiet.perform_closing closing with same | ⟨h, stage, deeds, rank, same⟩
    · rwa [same]
    · rw [same]
      intro call member
      rcases List.mem_or_eq_of_mem_set member with member | rfl
      · exact quiet call member
      · exact rank
  cases operation with
  | resolve name params answer =>
    intro call member
    rw [perform_resolve, resolve_calls] at member
    exact quiet call member
  | release h => exact called h (.inl rfl)
  | drop h => exact called h (.inr rfl)
  | close i => exact beyond i (.inl rfl)
  | answer i result => exact beyond i (.inr ⟨result, rfl⟩)

theorem performAll_reachable (operations : List Operation) : (performAll operations).Reachable :=
  List.foldlRecOn operations perform ⟨[], rfl⟩ fun _ reachable operation _ => reachable.performed operation

theorem performAll_quiet (operations : List Operation) : (performAll operations).Quiet :=
  List.foldlRecOn operations perform (by simp [Quiet]) fun _ quiet operation _ => quiet.performed operation

/-- Between operations, a name is registered while a live handle of it is left. -/
theorem names_follow_live_handles (operations : List Operation) :
    let system := performAll operations
    (∀ name,
      (system.registry.contains name = true ↔ ∃ holder ∈ system.holders, holder.lives name = true) ∧
      system.registry.refCount name = system.holders.countP (Holder.lives name) ∧
      ∀ holder ∈ system.holders, holder.lives name = true →
        system.latest? name = some holder.connection) ∧
    (∀ name params answer,
      (system.perform (.resolve name params answer)).history.filterMap Deed.asked? =
        system.history.filterMap Deed.asked? ++
          if system.registry.contains name then [] else [(name, params)]) ∧
    (∀ name params e, system.registry.contains name = false →
      (system.perform (.resolve name params (.error e))).registry = system.registry) ∧
    (∀ (h : Nat) (holder : Holder), system.holders[h]? = some holder → holder.released = true →
      (system.perform (.release h)).registry = system.registry ∧
        (system.perform (.drop h)).registry = system.registry) ∧
    ∀ operation name, system.name? operation ≠ some name →
      (system.perform operation).registry.find? name = system.registry.find? name := by
  intro system
  have sound : system.Sound := (performAll_reachable operations).sound
  have quiet : system.Quiet := performAll_quiet operations
  refine ⟨?_, system.asked_resolve, ?_, ?_, ?_⟩
  · intro name
    refine ⟨sound.contains_iff_lives quiet name, sound.refCount_eq_lives quiet name, ?_⟩
    intro holder member lives
    exact sound.latest_of_lives quiet member lives
  · intro name params e absent
    have none : system.registry.find? name = none := by simpa [contains] using absent
    simp [perform_resolve, resolve, retain?, none]
  · intro h holder has released
    exact ⟨perform_again (.inl rfl) has released, perform_again (.inr rfl) has released⟩
  · intro operation name other
    exact quiet.find?_perform other

def turns : List Operation :=
  let params : ConnectionParams := ⟨"broker", "events", none, none⟩
  [.resolve "audit" params (.error (.unknownBinding "broker")), .resolve "audit" params (.ok ()),
    .resolve "audit" params (.ok ()), .release 0, .release 0, .resolve "trace" params (.ok ()),
    .drop 1, .close 2, .answer 2 (.error (.close "gone")), .resolve "audit" params (.ok ())]

theorem names_follow_live_handles_reopened :
    (performAll turns).registry.refCount "audit" = 1 ∧
    (performAll turns).latest? "audit" = some 2 ∧
    (∀ holder ∈ (performAll turns).holders, holder.lives "audit" = true → holder.connection = 2) ∧
    ((performAll turns).perform (.release 0)).registry = (performAll turns).registry ∧
    ((performAll turns).perform (.drop 3)).registry.find? "trace" =
      (performAll turns).registry.find? "trace" := by
  obtain ⟨names, _, _, again, others⟩ := names_follow_live_handles turns
  obtain ⟨_, counts, shares⟩ := names "audit"
  have latest : (performAll turns).latest? "audit" = some 2 := by decide
  refine ⟨?_, latest, ?_, ?_, others (.drop 3) "trace" (by decide)⟩
  · rw [counts]
    decide
  · intro holder member lives
    have shared := shares holder member lives
    rw [latest, Option.some.injEq] at shared
    exact shared.symm
  · exact (again 0 ⟨"audit", 0, true, true, false⟩ (by rfl) rfl).1

end System

end EventRelay.Registry
