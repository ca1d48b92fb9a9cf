import EventRelay.Registry

namespace EventRelay.Registry

variable {Connection : Type} {registry : Registry Connection} {entry : RegistryEntry Connection}
  {name : String}

theorem name_of_find? (found : registry.find? name = some entry) : entry.name = name := by
  simpa using List.find?_some found

theorem find?_adjust (registry : Registry Connection) (name other : String) (f : Nat → Nat) :
    (registry.adjust name f).find? other =
      if other = name then (registry.find? name).map fun entry => { entry with refs := f entry.refs }
      else registry.find? other := by
  have kept : ((fun entry : RegistryEntry Connection => entry.name == other) ∘ fun entry =>
      if entry.name = name then { entry with refs := f entry.refs } else entry) =
        fun entry => entry.name == other := by
    funext entry
    by_cases same : entry.name = name <;> simp [same]
  simp only [find?, adjust, List.find?_map, kept]
  by_cases same : other = name
  · subst same
    rw [if_pos rfl]
    apply Option.map_congr
    intro entry found
    rw [if_pos (name_of_find? found)]
  · rw [if_neg same]
    cases found : registry.entries.find? fun entry => entry.name == other with
    | none => rfl
    | some entry =>
      have named : entry.name = other := name_of_find? found
      have apart : entry.name ≠ name := fun there => same (named ▸ there)
      rw [Option.map_some, if_neg apart]

theorem find?_enter (registry : Registry Connection) (name other : String) (params : ConnectionParams)
    (connection : Connection) :
    (registry.enter name params connection).1.find? other =
      (registry.find? other).or (if other = name then some ⟨name, connection, 1⟩ else none) := by
  simp only [find?, enter, List.find?_append, List.find?_singleton]
  by_cases same : other = name
  · simp [same]
  · have apart : name ≠ other := fun there => same there.symm
    simp [same, apart]

theorem removeUnused_of_used (found : registry.find? name = some entry) (used : entry.refs ≠ 0) :
    registry.removeUnused name = (registry, none) := by
  simp only [removeUnused, found, used, if_false]

theorem removeUnused_of_unused (found : registry.find? name = some entry) (unused : entry.refs = 0) :
    ∃ left record, registry.removeUnused name = (left, some (entry.connection, record)) ∧
      ∀ other, left.find? other = if other = name then none else registry.find? other := by
  refine ⟨⟨registry.entries.filter fun entry => entry.name ≠ name⟩,
    ⟨.info, target, "Closing connection manager '" ++ name ++ "'"⟩, ?_, ?_⟩
  · simp only [removeUnused, found, unused, if_true]
  · intro other
    simp only [find?, List.find?_filter]
    by_cases same : other = name
    · rw [if_pos same, List.find?_eq_none]
      intro entry _
      simp [same]
    · rw [if_neg same]
      congr 1
      funext entry
      by_cases there : entry.name = other
      · simp [there, same]
      · simp [there]

theorem find?_removeUnused {other : String} (apart : other ≠ name) :
    (registry.removeUnused name).1.find? other = registry.find? other := by
  cases found : registry.find? name with
  | none => simp only [removeUnused, found]
  | some entry =>
    by_cases unused : entry.refs = 0
    · obtain ⟨left, record, removed, answers⟩ := removeUnused_of_unused found unused
      rw [removed, answers, if_neg apart]
    · rw [removeUnused_of_used found unused]

theorem find?_release {other : String} (held : Holding Connection) (point : Release Connection)
    (apart : other ≠ name) :
    (release name held point).1.registry.find? other = held.registry.find? other := by
  cases point with
  | mark =>
    simp only [release]
    split <;> rfl
  | decrement => rw [release, decrement, find?_adjust, if_neg apart]
  | remove =>
    have kept : (held.registry.removeUnused name).1.find? other = held.registry.find? other :=
      find?_removeUnused apart
    simp only [release]
    split
    all_goals
      rename_i removed
      rw [removed] at kept
      exact kept
  | close | done => rfl

/-- One reference is given back, and the last one takes the name and its connection with it. -/
theorem giveBack (found : registry.find? name = some entry) :
    ∃ left closing, (registry.decrement name).removeUnused name = (left, closing) ∧
      (∀ other, left.find? other =
        if other = name then
          if entry.refs ≤ 1 then none else some { entry with refs := entry.refs - 1 }
        else registry.find? other) ∧
      if entry.refs ≤ 1 then ∃ record, closing = some (entry.connection, record)
      else closing = none := by
  have decremented : ∀ other, (registry.decrement name).find? other =
      if other = name then some { entry with refs := entry.refs - 1 } else registry.find? other := by
    intro other
    rw [decrement, find?_adjust, found, Option.map_some]
  have there := decremented name
  rw [if_pos rfl] at there
  by_cases last : entry.refs ≤ 1
  · obtain ⟨left, record, removed, answers⟩ :=
      removeUnused_of_unused there (show entry.refs - 1 = 0 by omega)
    refine ⟨left, _, removed, ?_, ?_⟩
    · intro other
      rw [answers, decremented]
      by_cases same : other = name <;> simp [same, last]
    · rw [if_pos last]
      exact ⟨record, rfl⟩
  · have removed := removeUnused_of_used there (show entry.refs - 1 ≠ 0 by omega)
    refine ⟨_, _, removed, ?_, ?_⟩
    · intro other
      rw [decremented, if_neg last]
    · rw [if_neg last]

/-- What is found once a reference was given back was there before, the connection to be closed too. -/
theorem found_before {left : Registry Connection} {closing : Option (Connection × LogRecord)}
    (removed : (registry.decrement name).removeUnused name = (left, closing)) :
    (∀ other entry, left.find? other = some entry →
      ∃ old, registry.find? other = some old ∧ old.connection = entry.connection) ∧
    ∀ connection record, closing = some (connection, record) →
      ∃ old, registry.find? name = some old ∧ old.connection = connection := by
  cases found : registry.find? name with
  | none =>
    have same : ∀ other, (registry.decrement name).find? other = registry.find? other := by
      intro other
      rw [decrement, find?_adjust, found]
      by_cases named : other = name <;> simp [named, found]
    have missing := same name
    rw [found] at missing
    simp only [removeUnused, missing, Prod.mk.injEq] at removed
    obtain ⟨rfl, rfl⟩ := removed
    refine ⟨fun other entry there => ⟨entry, ?_, rfl⟩, nofun⟩
    rw [← same]
    exact there
  | some entry =>
    obtain ⟨after, last, gone, answers, closes⟩ := giveBack found
    rw [gone, Prod.mk.injEq] at removed
    obtain ⟨rfl, rfl⟩ := removed
    constructor
    · intro other now there
      rw [answers] at there
      by_cases named : other = name
      · rw [if_pos named] at there
        split at there
        · cases there
        · cases there
          exact ⟨entry, named ▸ found, rfl⟩
      · rw [if_neg named] at there
        exact ⟨now, there, rfl⟩
    · intro connection record closed
      split at closes
      · obtain ⟨_, same⟩ := closes
        rw [closed] at same
        cases same
        exact ⟨entry, rfl, rfl⟩
      · rw [closed] at closes
        cases closes

end EventRelay.Registry
