import EventRelay.Proofs.Registry
import EventRelay.Proofs.Registry.Sharing

namespace EventRelay.Registry

inductive System.Goes (system : System) : System → Prop
  | retained {name : String} {entry : RegistryEntry Nat}
      (found : system.registry.find? name = some entry) :
    Goes system { system with
      registry := system.registry.adjust name (· + 1)
      holders := system.holders ++ [{ name, connection := entry.connection }] }
  | refused {name : String} (params : ConnectionParams) (e : ProviderError)
      (absent : system.registry.find? name = none) :
    Goes system { system with history := system.history ++ [.connected name params (.error e)] }
  | connected {name : String} (params : ConnectionParams)
      (absent : system.registry.find? name = none) :
    Goes system { system with
      registry := (system.registry.enter name params system.opened.length).1
      opened := system.opened ++ [name]
      holders := system.holders ++ [{ name, connection := system.opened.length }]
      history := system.history ++ [.connected name params (.ok system.opened.length)] }
  | releasing {h : Nat} {holder : Holder} (has : system.holders[h]? = some holder) :
    Goes system (system.calling h)
  | dropping {h : Nat} {holder : Holder} (has : system.holders[h]? = some holder) :
    Goes system ((system.setHolder h { holder with dropped := true }).calling h)
  | marked {i h : Nat} {holder : Holder} (there : system.calls[i]? = some ⟨h, .own .mark⟩)
      (has : system.holders[h]? = some holder) (found : holder.released = false) :
    Goes system
      ((system.setHolder h { holder with released := true }).going i h (.own .decrement))
  | markedBefore {i h : Nat} {holder : Holder} (there : system.calls[i]? = some ⟨h, .own .mark⟩)
      (has : system.holders[h]? = some holder) (found : holder.released = true) :
    Goes system (system.going i h (.own .done))
  | returned {i h : Nat} {holder : Holder} (there : system.calls[i]? = some ⟨h, .own .decrement⟩)
      (has : system.holders[h]? = some holder) :
    Goes system
      { (system.setHolder h { holder with returned := true }).going i h (.own .remove) with
        registry := system.registry.decrement holder.name }
  | removed {i h : Nat} {holder : Holder} {entry : RegistryEntry Nat} {left : Registry Nat}
      (there : system.calls[i]? = some ⟨h, .own .remove⟩) (has : system.holders[h]? = some holder)
      (found : system.registry.find? holder.name = some entry) (unused : entry.refs = 0)
      (answers : ∀ other, left.find? other =
        if other = holder.name then none else system.registry.find? other) :
    Goes system
      { system.going i h (.own (.close entry.connection)) with registry := left }
  | kept {i h : Nat} {holder : Holder} (there : system.calls[i]? = some ⟨h, .own .remove⟩)
      (has : system.holders[h]? = some holder)
      (used : ∀ entry, system.registry.find? holder.name = some entry → entry.refs ≠ 0) :
    Goes system (system.going i h (.own .done))
  | closing {i h connection : Nat} {holder : Holder}
      (there : system.calls[i]? = some ⟨h, .own (.close connection)⟩)
      (has : system.holders[h]? = some holder) :
    Goes system (system.going i h (.closing connection) [.closing connection])
  | closed {i h connection : Nat} (there : system.calls[i]? = some ⟨h, .closing connection⟩)
      (result : Except ProviderError Unit) :
    Goes system (system.going i h (.own .done) [.closed connection result])

namespace System

variable {system next : System}

theorem goes_resolve (system : System) (name : String) (params : ConnectionParams)
    (answer : Except ProviderError Unit) : system.Goes (system.resolve name params answer) := by
  cases found : system.registry.find? name with
  | some entry =>
    simp only [resolve, retain?, found]
    exact .retained found
  | none =>
    simp only [resolve, retain?, found]
    cases answer with
    | error e => exact .refused params e found
    | ok => exact .connected params found

theorem setHolder_self {h : Nat} {holder : Holder} (has : system.holders[h]? = some holder) :
    system.setHolder h holder = system := by
  obtain ⟨inside, same⟩ := List.getElem?_eq_some_iff.mp has
  simp [setHolder, ← same]

theorem releaseStep_of_kept {i h : Nat} {holder : Holder} {point next : Release Nat}
    {left : Registry Nat} {log : List LogRecord} (has : system.holders[h]? = some holder)
    (other : point ≠ .decrement)
    (goes : Registry.release holder.name ⟨system.registry, holder.released⟩ point =
      (⟨left, holder.released⟩, log, next)) :
    system.releaseStep i h holder point = { system.going i h (.own next) with registry := left } := by
  simp only [releaseStep, goes]
  cases point with
  | decrement => exact absurd rfl other
  | _ => simp only [setHolder_self has]

theorem goes_mark {i h : Nat} {holder : Holder} (there : system.calls[i]? = some ⟨h, .own .mark⟩)
    (has : system.holders[h]? = some holder) : system.Goes (system.releaseStep i h holder .mark) := by
  cases found : holder.released with
  | true =>
    rw [releaseStep_of_kept has (by simp) (by simp [Registry.release, found]; exact ⟨rfl, rfl, rfl⟩)]
    exact .markedBefore there has found
  | false =>
    simp only [releaseStep, Registry.release, found, Bool.false_eq_true, if_false]
    exact .marked there has found

theorem goes_remove {i h : Nat} {holder : Holder}
    (there : system.calls[i]? = some ⟨h, .own .remove⟩) (has : system.holders[h]? = some holder) :
    system.Goes (system.releaseStep i h holder .remove) := by
  cases found : system.registry.find? holder.name with
  | none =>
    have removed : system.registry.removeUnused holder.name = (system.registry, none) := by
      simp only [removeUnused, found]
    rw [releaseStep_of_kept has (by simp) (by simp only [Registry.release, removed]; rfl)]
    exact .kept there has (by simp [found])
  | some entry =>
    by_cases unused : entry.refs = 0
    · obtain ⟨left, record, removed, answers⟩ := removeUnused_of_unused found unused
      rw [releaseStep_of_kept has (by simp) (by simp only [Registry.release, removed]; rfl)]
      exact .removed there has found unused answers
    · have removed := removeUnused_of_used found unused
      rw [releaseStep_of_kept has (by simp) (by simp only [Registry.release, removed]; rfl)]
      refine .kept there has ?_
      intro other same
      rw [found, Option.some.injEq] at same
      exact same ▸ unused

theorem goes_of_step {move : Move} (stepped : system.step move = some next) : system.Goes next := by
  cases move with
  | resolve name params answer =>
    cases stepped
    exact goes_resolve system name params answer
  | release h =>
    simp only [step] at stepped
    split at stepped
    · cases stepped
    · rename_i holder has
      split at stepped
      · cases stepped
      · cases stepped
        exact .releasing has
  | drop h =>
    simp only [step] at stepped
    split at stepped
    · cases stepped
    · rename_i holder has
      split at stepped
      · cases stepped
      · cases stepped
        exact .dropping has
  | go i =>
    simp only [step] at stepped
    split at stepped
    · rename_i h point there
      split at stepped
      · cases stepped
      · rename_i holder has
        cases point with
        | mark =>
          cases stepped
          exact goes_mark there has
        | decrement =>
          cases stepped
          exact .returned there has
        | remove =>
          cases stepped
          exact goes_remove there has
        | close connection =>
          cases stepped
          exact .closing there has
        | done => cases stepped
    · cases stepped
  | answer i result =>
    simp only [step] at stepped
    split at stepped
    · rename_i h connection there
      cases stepped
      exact .closed there result
    · cases stepped

theorem run_append {start : System} {moves : List Move} (ran : run start moves = some system)
    (later : List Move) : run start (moves ++ later) = run system later := by
  induction moves generalizing start with
  | nil =>
    cases ran
    rfl
  | cons move moves ih =>
    simp only [run, List.cons_append] at ran ⊢
    split at ran
    · cases ran
    · rename_i next stepped
      exact ih ran

theorem Reachable.step {move : Move} (reachable : system.Reachable)
    (stepped : system.step move = some next) : next.Reachable := by
  obtain ⟨moves, ran⟩ := reachable
  refine ⟨moves ++ [move], ?_⟩
  rw [run_append ran, run, stepped]
  rfl

theorem Reachable.induction {motive : System → Prop} (new : motive {})
    (went : ∀ system next, motive system → Goes system next → motive next)
    (reachable : system.Reachable) : motive system := by
  obtain ⟨moves, ran⟩ := reachable
  have ranFrom : ∀ moves start, motive start → run start moves = some system → motive system := by
    intro moves
    induction moves with
    | nil =>
      intro start holds ran
      cases ran
      exact holds
    | cons move moves ih =>
      intro start holds ran
      simp only [run] at ran
      split at ran
      · cases ran
      · rename_i next stepped
        exact ih next (went start next holds (goes_of_step stepped)) ran
  exact ranFrom moves {} new ran

end System

end EventRelay.Registry
