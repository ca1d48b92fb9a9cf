import EventRelay.Proofs.Basic
import EventRelay.Proofs.Registry.Steps

namespace EventRelay.Registry

/-- A handle of a name whose reference was not given back. -/
def Holder.owes (name : String) (holder : Holder) : Bool := holder.name = name && !holder.returned

def lies (registry : Registry Nat) (opened : List String) (connection : Nat) : Bool :=
  (opened[connection]?).any fun name =>
    (registry.find? name).any fun entry => entry.connection = connection

section

variable {registry left : Registry Nat} {opened : List String}

theorem lies_congr (same : ∀ name, (left.find? name).map RegistryEntry.connection =
      (registry.find? name).map RegistryEntry.connection) (connection : Nat) :
    lies left opened connection = lies registry opened connection := by
  have shown : ∀ found : Option (RegistryEntry Nat),
      (found.any fun entry => entry.connection = connection) =
        (found.map RegistryEntry.connection).any fun other => other = connection := by
    intro found
    cases found <;> rfl
  simp only [lies, shown, same]

theorem lies_adjust (registry : Registry Nat) (opened : List String) (name : String) (f : Nat → Nat)
    (connection : Nat) :
    lies (registry.adjust name f) opened connection = lies registry opened connection := by
  apply lies_congr
  intro other
  rw [find?_adjust]
  split
  · rename_i same
    rw [same, Option.map_map]
    rfl
  · rfl

theorem lies_enter {name : String} (absent : registry.find? name = none) (params : ConnectionParams)
    (connection : Nat) :
    lies (registry.enter name params opened.length).1 (opened ++ [name]) connection =
      (lies registry opened connection || decide (connection = opened.length)) := by
  rcases Nat.lt_trichotomy connection opened.length with before | rfl | after
  · have apart : opened.length ≠ connection := Nat.ne_of_gt before
    rw [lies, lies, List.getElem?_append_left before, List.getElem?_eq_getElem before]
    simp only [Option.any_some, find?_enter, decide_eq_false (Ne.symm apart), Bool.or_false]
    cases registry.find? opened[connection] with
    | some entry => rfl
    | none => split <;> simp [apart]
  · simp [lies, find?_enter, absent]
  · have outside : opened[connection]? = none := List.getElem?_eq_none (Nat.le_of_lt after)
    have beyond : (opened ++ [name])[connection]? = none := by
      apply List.getElem?_eq_none
      rw [List.length_append, List.length_singleton]
      exact after
    simp [lies, outside, beyond, Nat.ne_of_gt after]

theorem lies_remove {name : String} {entry : RegistryEntry Nat}
    (named : opened[entry.connection]? = some name) (found : registry.find? name = some entry)
    (answers : ∀ other, left.find? other = if other = name then none else registry.find? other)
    (connection : Nat) :
    (lies left opened connection).toNat + (if entry.connection = connection then 1 else 0) =
      (lies registry opened connection).toNat := by
  by_cases this : entry.connection = connection
  · subst this
    simp [lies, named, answers, found]
  · rw [if_neg this, Nat.add_zero, lies, lies]
    congr 2
    funext other
    rw [answers]
    split
    · rename_i same
      rw [same, found]
      simp [this]
    · rfl

end

namespace System

/-- Call `i` is about to remove a name if there is no reference left on it. -/
def Removes (system : System) (i : Nat) (name : String) : Prop :=
  ∃ (h : Nat) (holder : Holder), system.calls[i]? = some ⟨h, .own .remove⟩ ∧
    system.holders[h]? = some holder ∧ holder.name = name

def latest? (system : System) (name : String) : Option Nat :=
  (system.history.filterMap (Deed.opened? name)).getLast?

structure Sound (system : System) : Prop where
  begun : ∀ call ∈ system.calls, ∃ holder, system.holders[call.holder]? = some holder ∧
    (call.stage = .own .mark ∨ holder.released = true)
  dropped : ∀ h holder, system.holders[h]? = some holder → holder.dropped = true →
    ∃ call ∈ system.calls, call.holder = h
  marked : ∀ h holder, system.holders[h]? = some holder →
    holder.returned.toNat + system.calls.countP (Call.returns h) = holder.released.toNat
  held : ∀ holder ∈ system.holders, holder.returned = false →
    ∃ entry, system.registry.find? holder.name = some entry ∧ entry.connection = holder.connection
  counted : ∀ name entry, system.registry.find? name = some entry →
    entry.refs = system.holders.countP (Holder.owes name)
  unused : ∀ name entry, system.registry.find? name = some entry → entry.refs = 0 →
    ∃ i, system.Removes i name
  named : ∀ name entry, system.registry.find? name = some entry →
    system.opened[entry.connection]? = some name
  latest : ∀ name entry, system.registry.find? name = some entry →
    system.latest? name = some entry.connection
  kept : ∀ connection, (lies system.registry system.opened connection).toNat +
      system.calls.countP (Call.closes connection) +
      system.history.countP (Deed.isClosing connection) =
    if connection < system.opened.length then 1 else 0
  answered : ∀ connection, system.history.countP (Deed.isClosing connection) =
    system.calls.countP (Call.isClosing connection) +
      system.history.countP (Deed.isClosed connection)

theorem sound_new : Sound {} := by
  constructor <;> simp [find?, lies]

variable {system next : System}

theorem Goes.grows (goes : system.Goes next) {h : Nat} {holder : Holder}
    (has : system.holders[h]? = some holder) :
    ∃ now, next.holders[h]? = some now ∧ now.name = holder.name ∧
      (holder.released = true → now.released = true) := by
  have set : ∀ {k : Nat} {old changed : Holder}, system.holders[k]? = some old →
      changed.name = old.name → (old.released = true → changed.released = true) →
      ∃ now, (system.holders.set k changed)[h]? = some now ∧ now.name = holder.name ∧
        (holder.released = true → now.released = true) := by
    intro k old changed had name released
    rw [List.getElem?_set]
    by_cases same : k = h
    · subst same
      rw [had, Option.some.injEq] at has
      subst has
      obtain ⟨inside, _⟩ := List.getElem?_eq_some_iff.mp had
      exact ⟨changed, by simp [inside], name, released⟩
    · exact ⟨holder, by simp [same, has], rfl, id⟩
  cases goes with
  | retained found | connected params absent =>
    obtain ⟨inside, _⟩ := List.getElem?_eq_some_iff.mp has
    exact ⟨holder, (List.getElem?_append_left inside).trans has, rfl, id⟩
  | dropping had => exact set had rfl id
  | marked there had found => exact set had rfl fun _ => rfl
  | returned there had => exact set had rfl id
  | _ => exact ⟨holder, has, rfl, id⟩

theorem Goes.calls_on (goes : system.Goes next) {call : Call} (member : call ∈ system.calls) :
    ∃ now ∈ next.calls, now.holder = call.holder := by
  have set : ∀ {i h : Nat} {stage changed : Stage}, system.calls[i]? = some ⟨h, stage⟩ →
      ∃ now ∈ system.calls.set i ⟨h, changed⟩, now.holder = call.holder := by
    intro i h stage changed there
    obtain ⟨inside, same⟩ := List.getElem?_eq_some_iff.mp there
    obtain ⟨j, bound, rfl⟩ := List.mem_iff_getElem.mp member
    by_cases this : i = j
    · subst this
      exact ⟨_, List.mem_set inside _, by rw [same]⟩
    · refine ⟨system.calls[j], ?_, rfl⟩
      have kept : (system.calls.set i ⟨h, changed⟩)[j]? = some system.calls[j] := by
        simp [this, bound]
      exact List.mem_of_getElem? kept
  cases goes with
  | retained | refused | connected => exact ⟨call, member, rfl⟩
  | releasing has | dropping has => exact ⟨call, List.mem_append_left _ member, rfl⟩
  | marked there | markedBefore there | returned there | removed there | kept there | closing there
    | closed there => exact set there

theorem Goes.entry_cases (goes : system.Goes next) {name : String} {entry : RegistryEntry Nat}
    (found : next.registry.find? name = some entry) :
    (∃ before, system.registry.find? name = some before ∧ entry.connection = before.connection) ∨
    (entry.connection = system.opened.length ∧ next.opened = system.opened ++ [name] ∧
      ∃ params, next.history =
        system.history ++ [.connected name params (.ok system.opened.length)]) := by
  have adjusted : ∀ (other : String) (f : Nat → Nat),
      (system.registry.adjust other f).find? name = some entry →
        ∃ before, system.registry.find? name = some before ∧ entry.connection = before.connection := by
    intro other f found
    rw [find?_adjust] at found
    by_cases this : name = other
    · rw [if_pos this, Option.map_eq_some_iff, ← this] at found
      obtain ⟨before, present, rfl⟩ := found
      exact ⟨before, present, rfl⟩
    · rw [if_neg this] at found
      exact ⟨entry, found, rfl⟩
  cases goes with
  | retained | returned => exact .inl (adjusted _ _ found)
  | @connected other params absent =>
    rw [find?_enter] at found
    by_cases this : name = other
    · rw [this, absent, Option.none_or, if_pos rfl, Option.some.injEq] at found
      rw [← found, this]
      exact .inr ⟨rfl, rfl, params, rfl⟩
    · rw [if_neg this, Option.or_none] at found
      exact .inl ⟨entry, found, rfl⟩
  | removed there has present unused answers =>
    rw [answers] at found
    split at found
    · cases found
    · exact .inl ⟨entry, found, rfl⟩
  | _ => exact .inl ⟨entry, found, rfl⟩

theorem Goes.opened_kept (goes : system.Goes next) {connection : Nat} {name : String}
    (opened : system.opened[connection]? = some name) : next.opened[connection]? = some name := by
  cases goes with
  | connected =>
    obtain ⟨inside, _⟩ := List.getElem?_eq_some_iff.mp opened
    exact (List.getElem?_append_left inside).trans opened
  | _ => exact opened

theorem Goes.latest_kept (goes : system.Goes next) {name : String} {entry : RegistryEntry Nat}
    (found : system.registry.find? name = some entry) : next.latest? name = system.latest? name := by
  cases goes with
  | @connected other params absent =>
    have apart : other ≠ name := by
      rintro rfl
      rw [found] at absent
      cases absent
    simp [latest?, Deed.opened?, apart]
  | refused | closing | closed => simp [latest?, going, Deed.opened?]
  | _ => simp [latest?, going, calling, setHolder]

theorem Goes.removes (goes : system.Goes next) {i : Nat} {name : String}
    (removes : system.Removes i name) (same : next.calls[i]? = system.calls[i]?) :
    next.Removes i name := by
  obtain ⟨h, holder, there, has, named⟩ := removes
  obtain ⟨now, still, kept, _⟩ := goes.grows has
  exact ⟨h, now, same.trans there, still, kept.trans named⟩

theorem Removes.apart {i j k : Nat} {name : String} {stage : Stage} (removes : system.Removes j name)
    (there : system.calls[i]? = some ⟨k, stage⟩) (other : stage ≠ .own .remove) : i ≠ j := by
  obtain ⟨h, holder, present, _, _⟩ := removes
  rintro rfl
  rw [there, Option.some.injEq, Call.mk.injEq] at present
  exact other present.2

theorem Removes.name_eq {i h : Nat} {holder : Holder} {name : String} (removes : system.Removes i name)
    (there : system.calls[i]? = some ⟨h, .own .remove⟩) (has : system.holders[h]? = some holder) :
    holder.name = name := by
  obtain ⟨k, other, present, had, named⟩ := removes
  rw [there, Option.some.injEq, Call.mk.injEq] at present
  rw [← present.1, has, Option.some.injEq] at had
  exact had ▸ named

namespace Sound

variable (sound : system.Sound) (goes : system.Goes next)

include sound goes

theorem begun_step : ∀ call ∈ next.calls, ∃ holder, next.holders[call.holder]? = some holder ∧
    (call.stage = .own .mark ∨ holder.released = true) := by
  have old : ∀ call ∈ system.calls, ∃ holder, next.holders[call.holder]? = some holder ∧
      (call.stage = .own .mark ∨ holder.released = true) := by
    intro call member
    obtain ⟨holder, has, since⟩ := sound.begun call member
    obtain ⟨now, there, _, released⟩ := goes.grows has
    exact ⟨now, there, since.imp_right released⟩
  have began : ∀ {h : Nat} {holder : Holder}, system.holders[h]? = some holder →
      ∀ call ∈ system.calls ++ [⟨h, .own .mark⟩], ∃ holder, next.holders[call.holder]? = some holder ∧
        (call.stage = .own .mark ∨ holder.released = true) := by
    intro h holder has call member
    rcases List.mem_append.mp member with member | member
    · exact old call member
    · obtain ⟨now, there, _⟩ := goes.grows has
      rw [List.mem_singleton.mp member]
      exact ⟨now, there, .inl rfl⟩
  have went : ∀ {i h : Nat} {holder : Holder} {stage : Stage}, next.holders[h]? = some holder →
      holder.released = true → ∀ call ∈ system.calls.set i ⟨h, stage⟩,
        ∃ holder, next.holders[call.holder]? = some holder ∧
          (call.stage = .own .mark ∨ holder.released = true) := by
    intro i h holder stage has released call member
    rcases List.mem_or_eq_of_mem_set member with member | rfl
    · exact old call member
    · exact ⟨holder, has, .inr released⟩
  have since : ∀ {i h : Nat} {stage : Stage}, system.calls[i]? = some ⟨h, stage⟩ →
      stage ≠ .own .mark → ∃ holder, next.holders[h]? = some holder ∧ holder.released = true := by
    intro i h stage there late
    obtain ⟨holder, has, marked⟩ := old _ (List.mem_of_getElem? there)
    exact ⟨holder, has, marked.resolve_left late⟩
  cases goes with
  | retained | refused | connected => exact old
  | releasing has | dropping has => exact began has
  | marked there has found =>
    obtain ⟨inside, _⟩ := List.getElem?_eq_some_iff.mp has
    exact went (List.getElem?_set_self inside) rfl
  | markedBefore there has found => exact went has found
  | returned there | removed there | kept there | closing there | closed there =>
    obtain ⟨holder, has, released⟩ := since there (by simp)
    exact went has released

theorem dropped_step : ∀ h holder, next.holders[h]? = some holder → holder.dropped = true →
    ∃ call ∈ next.calls, call.holder = h := by
  have old : ∀ h holder, system.holders[h]? = some holder → holder.dropped = true →
      ∃ call ∈ next.calls, call.holder = h := by
    intro h holder has dropped
    obtain ⟨call, member, rfl⟩ := sound.dropped h holder has dropped
    exact goes.calls_on member
  cases goes with
  | retained | connected =>
    intro h holder has dropped
    rcases last_or_same has with ⟨_, rfl⟩ | has
    · cases dropped
    · exact old h holder has dropped
  | dropping has =>
    intro h holder there dropped
    rcases replaced_or_same there with ⟨rfl, _⟩ | ⟨_, there⟩
    · exact ⟨_, List.mem_append_right _ List.mem_cons_self, rfl⟩
    · exact old h holder there dropped
  | marked there had | returned there had =>
    intro h holder has dropped
    rcases replaced_or_same has with ⟨rfl, rfl⟩ | ⟨_, has⟩
    · exact old h _ had dropped
    · exact old h holder has dropped
  | _ => exact old

theorem marked_step : ∀ h holder, next.holders[h]? = some holder →
    holder.returned.toNat + next.calls.countP (Call.returns h) = holder.released.toNat := by
  have old := sound.marked
  have fresh : system.calls.countP (Call.returns system.holders.length) = 0 := by
    rw [List.countP_eq_zero]
    intro call member returns
    obtain ⟨holder, has, _⟩ := sound.begun call member
    obtain ⟨inside, _⟩ := List.getElem?_eq_some_iff.mp has
    have same : call.holder = system.holders.length := by
      unfold Call.returns at returns
      split at returns
      · simpa using returns
      · cases returns
    omega
  cases goes with
  | retained | connected =>
    intro h holder has
    rcases last_or_same has with ⟨rfl, rfl⟩ | has
    · simpa using fresh
    · exact old h holder has
  | refused => exact old
  | releasing =>
    intro h holder has
    simpa [calling, Call.returns] using old h holder has
  | dropping had =>
    intro h holder has
    rcases replaced_or_same has with ⟨rfl, rfl⟩ | ⟨_, has⟩
    · simpa [calling, setHolder, Call.returns] using old h _ had
    · simpa [calling, setHolder, Call.returns] using old h holder has
  | @marked i k before there had found =>
    intro h holder has
    have counts : (system.calls.set i ⟨k, .own .decrement⟩).countP (Call.returns h) =
        system.calls.countP (Call.returns h) + if k = h then 1 else 0 := by
      simpa [Call.returns] using countP_set_add there ⟨k, .own .decrement⟩ (Call.returns h)
    rcases replaced_or_same has with ⟨rfl, rfl⟩ | ⟨other, has⟩
    · have balance := old h before had
      rw [found, Bool.toNat_false] at balance
      simp only [going, setHolder, counts, if_true, Bool.toNat_true]
      omega
    · have balance := old h holder has
      simp only [going, setHolder, counts, if_neg (Ne.symm other)]
      omega
  | @returned i k before there had =>
    intro h holder has
    have counts : (system.calls.set i ⟨k, .own .remove⟩).countP (Call.returns h) +
        (if k = h then 1 else 0) = system.calls.countP (Call.returns h) := by
      simpa [Call.returns] using countP_set_add there ⟨k, .own .remove⟩ (Call.returns h)
    rcases replaced_or_same has with ⟨rfl, rfl⟩ | ⟨other, has⟩
    · have balance := old h before had
      have bound := Bool.toNat_le before.released
      rw [if_pos rfl] at counts
      simp only [going, setHolder, Bool.toNat_true]
      omega
    · have balance := old h holder has
      rw [if_neg (Ne.symm other)] at counts
      simp only [going, setHolder]
      omega
  | markedBefore there | removed there | kept there | closing there | closed there =>
    intro h holder has
    rw [← old h holder has]
    exact congrArg (holder.returned.toNat + ·) (countP_set_same there rfl)

omit goes in
theorem owes_of_returning {i h : Nat} {holder : Holder}
    (there : system.calls[i]? = some ⟨h, .own .decrement⟩) (has : system.holders[h]? = some holder) :
    holder.returned = false := by
  have waiting : 0 < system.calls.countP (Call.returns h) :=
    List.countP_pos_iff.mpr ⟨_, List.mem_of_getElem? there, by simp [Call.returns]⟩
  have balance := sound.marked h holder has
  have bound := Bool.toNat_le holder.released
  cases given : holder.returned with
  | false => rfl
  | true =>
    rw [given, Bool.toNat_true] at balance
    omega

theorem held_step : ∀ holder ∈ next.holders, holder.returned = false →
    ∃ entry, next.registry.find? holder.name = some entry ∧ entry.connection = holder.connection := by
  have old := sound.held
  have adjusted : ∀ (name : String) (f : Nat → Nat), ∀ holder ∈ system.holders,
      holder.returned = false → ∃ entry,
        (system.registry.adjust name f).find? holder.name = some entry ∧
          entry.connection = holder.connection := by
    intro name f holder member owes
    obtain ⟨entry, found, same⟩ := old holder member owes
    rw [find?_adjust]
    by_cases this : holder.name = name
    · rw [if_pos this, ← this, found]
      exact ⟨_, rfl, same⟩
    · rw [if_neg this]
      exact ⟨entry, found, same⟩
  cases goes with
  | @retained name entry found =>
    intro holder member owes
    rcases List.mem_append.mp member with member | member
    · exact adjusted _ _ holder member owes
    · rw [List.mem_singleton.mp member, find?_adjust, if_pos rfl, found]
      exact ⟨_, rfl, rfl⟩
  | @connected name params absent =>
    intro holder member owes
    rcases List.mem_append.mp member with member | member
    · obtain ⟨entry, found, same⟩ := old holder member owes
      exact ⟨entry, by rw [find?_enter, found, Option.some_or], same⟩
    · rw [List.mem_singleton.mp member, find?_enter, absent, Option.none_or, if_pos rfl]
      exact ⟨_, rfl, rfl⟩
  | dropping has | marked _ has =>
    intro holder member owes
    rcases List.mem_or_eq_of_mem_set member with member | rfl
    · exact old holder member owes
    · have before := old _ (List.mem_of_getElem? has)
      exact before owes
  | returned there has =>
    intro holder member owes
    rcases List.mem_or_eq_of_mem_set member with member | rfl
    · exact adjusted _ _ holder member owes
    · cases owes
  | @removed _ _ gone entry left there has found unused answers =>
    intro holder member owes
    obtain ⟨other, present, same⟩ := old holder member owes
    refine ⟨other, ?_, same⟩
    rw [answers]
    split
    · rename_i this
      -- An entry without references has no handle left that owes one.
      have counts := sound.counted gone.name entry found
      have positive : 0 < system.holders.countP (Holder.owes gone.name) :=
        List.countP_pos_iff.mpr ⟨holder, member, by simp [Holder.owes, this, owes]⟩
      omega
    · exact present
  | _ => exact old

omit goes in
theorem not_owes_of_absent {name : String} (absent : system.registry.find? name = none) :
    system.holders.countP (Holder.owes name) = 0 := by
  rw [List.countP_eq_zero]
  intro holder member owes
  rw [Holder.owes, Bool.and_eq_true, decide_eq_true_eq, Bool.not_eq_true'] at owes
  obtain ⟨entry, found, _⟩ := sound.held holder member owes.2
  rw [owes.1, absent] at found
  cases found

theorem counted_step : ∀ name entry, next.registry.find? name = some entry →
    entry.refs = next.holders.countP (Holder.owes name) := by
  have old := sound.counted
  cases goes with
  | @retained name entry found =>
    intro other now present
    rw [find?_adjust, found] at present
    rw [List.countP_append, List.countP_singleton]
    by_cases this : other = name
    · rw [if_pos this, Option.map_some, Option.some.injEq] at present
      simp [← present, old name entry found, Holder.owes, this]
    · rw [if_neg this] at present
      simp [old other now present, Holder.owes, Ne.symm this]
  | @connected name params absent =>
    intro other now present
    rw [find?_enter] at present
    rw [List.countP_append, List.countP_singleton]
    by_cases this : other = name
    · rw [this, absent, Option.none_or, if_pos rfl, Option.some.injEq] at present
      simp [← present, this, sound.not_owes_of_absent absent, Holder.owes]
    · rw [if_neg this, Option.or_none] at present
      simp [old other now present, Holder.owes, Ne.symm this]
  | dropping has | marked _ has =>
    intro name entry found
    rw [old name entry found]
    refine (countP_set_same has ?_).symm
    rfl
  | @returned i h holder there has =>
    intro name entry found
    have owes := sound.owes_of_returning there has
    have counts : (system.holders.set h { holder with returned := true }).countP (Holder.owes name) +
        (if holder.name = name then 1 else 0) = system.holders.countP (Holder.owes name) := by
      simpa [Holder.owes, owes] using
        countP_set_add has { holder with returned := true } (Holder.owes name)
    rw [decrement, find?_adjust] at found
    by_cases this : name = holder.name
    · rw [if_pos this, Option.map_eq_some_iff] at found
      obtain ⟨before, found, rfl⟩ := found
      have refs := old holder.name before found
      rw [← this] at refs
      rw [if_pos this.symm] at counts
      simp only [going, setHolder]
      omega
    · rw [if_neg this] at found
      rw [if_neg (Ne.symm this)] at counts
      rw [old name entry found]
      exact counts.symm
  | removed there has found unused answers =>
    intro name entry present
    rw [answers] at present
    split at present
    · cases present
    · exact old name entry present
  | _ => exact old

theorem unused_step : ∀ name entry, next.registry.find? name = some entry → entry.refs = 0 →
    ∃ i, next.Removes i name := by
  have old := sound.unused
  have stays := @Goes.removes system next goes
  cases goes with
  | @retained name entry found =>
    intro other now present unused
    rw [find?_adjust, found] at present
    by_cases this : other = name
    · rw [if_pos this, Option.map_some, Option.some.injEq] at present
      rw [← present] at unused
      cases unused
    · rw [if_neg this] at present
      obtain ⟨i, removes⟩ := old other now present unused
      exact ⟨i, stays removes rfl⟩
  | refused =>
    intro name entry found unused
    obtain ⟨i, removes⟩ := old name entry found unused
    exact ⟨i, stays removes rfl⟩
  | @connected name params absent =>
    intro other now present unused
    rw [find?_enter] at present
    by_cases this : other = name
    · rw [this, absent, Option.none_or, if_pos rfl, Option.some.injEq] at present
      rw [← present] at unused
      cases unused
    · rw [if_neg this, Option.or_none] at present
      obtain ⟨i, removes⟩ := old other now present unused
      exact ⟨i, stays removes rfl⟩
  | releasing | dropping =>
    intro name entry found unused
    obtain ⟨i, removes⟩ := old name entry found unused
    have inside : i < system.calls.length := by
      obtain ⟨h, holder, there, _⟩ := removes
      exact (List.getElem?_eq_some_iff.mp there).1
    exact ⟨i, stays removes (List.getElem?_append_left inside)⟩
  | marked there | markedBefore there | closing there | closed there =>
    intro name entry found unused
    obtain ⟨i, removes⟩ := old name entry found unused
    exact ⟨i, stays removes (List.getElem?_set_ne (removes.apart there (by simp)))⟩
  | @returned i h holder there has =>
    intro name entry found unused
    rw [decrement, find?_adjust] at found
    by_cases this : name = holder.name
    · obtain ⟨inside, _⟩ := List.getElem?_eq_some_iff.mp there
      obtain ⟨among, _⟩ := List.getElem?_eq_some_iff.mp has
      exact ⟨i, h, _, List.getElem?_set_self inside, List.getElem?_set_self among, this.symm⟩
    · rw [if_neg this] at found
      obtain ⟨j, removes⟩ := old name entry found unused
      exact ⟨j, stays removes (List.getElem?_set_ne (removes.apart there (by simp)))⟩
  | @removed i h holder entry left there has found unused answers =>
    intro name other present empty
    rw [answers] at present
    split at present
    · cases present
    · rename_i this
      obtain ⟨j, removes⟩ := old name other present empty
      have elsewhere : i ≠ j := by
        rintro rfl
        exact this (removes.name_eq there has).symm
      exact ⟨j, stays removes (List.getElem?_set_ne elsewhere)⟩
  | @kept i h holder there has used =>
    intro name entry found unused
    obtain ⟨j, removes⟩ := old name entry found unused
    have elsewhere : i ≠ j := by
      rintro rfl
      exact used entry ((removes.name_eq there has).symm ▸ found) unused
    exact ⟨j, stays removes (List.getElem?_set_ne elsewhere)⟩

theorem named_step : ∀ name entry, next.registry.find? name = some entry →
    next.opened[entry.connection]? = some name := by
  intro name entry found
  rcases goes.entry_cases found with ⟨before, present, same⟩ | ⟨same, opened, _⟩
  · rw [same]
    exact goes.opened_kept (sound.named name before present)
  · rw [same, opened]
    exact List.getElem?_concat_length

theorem latest_step : ∀ name entry, next.registry.find? name = some entry →
    next.latest? name = some entry.connection := by
  intro name entry found
  rcases goes.entry_cases found with ⟨before, present, same⟩ | ⟨same, _, params, history⟩
  · rw [same, goes.latest_kept present]
    exact sound.latest name before present
  · simp [latest?, history, Deed.opened?, same]

theorem kept_step : ∀ connection,
    (lies next.registry next.opened connection).toNat + next.calls.countP (Call.closes connection) +
        next.history.countP (Deed.isClosing connection) =
      if connection < next.opened.length then 1 else 0 := by
  have old := sound.kept
  cases goes with
  | retained =>
    intro connection
    rw [lies_adjust]
    exact old connection
  | refused =>
    intro connection
    simpa [Deed.isClosing] using old connection
  | connected params absent =>
    intro connection
    have before := old connection
    simp only [lies_enter absent, List.countP_append, List.countP_singleton, Deed.isClosing,
      List.length_append, List.length_singleton, Bool.false_eq_true, if_false]
    by_cases this : connection = system.opened.length
    · have nowhere : lies system.registry system.opened connection = false := by
        rw [if_neg (by omega)] at before
        exact Bool.toNat_eq_zero.mp (by omega)
      rw [if_neg (by omega), nowhere, Bool.toNat_false] at before
      rw [if_pos (by omega), nowhere, decide_eq_true this, Bool.or_true, Bool.toNat_true]
      omega
    · rw [decide_eq_false this, Bool.or_false]
      split at before <;> split <;> omega
  | releasing | dropping =>
    intro connection
    simp only [calling, setHolder, List.countP_append, List.countP_singleton, Call.closes]
    exact old connection
  | @returned i h holder there has =>
    intro connection
    have same : (system.calls.set i ⟨h, .own .remove⟩).countP (Call.closes connection) =
      system.calls.countP (Call.closes connection) := countP_set_same there rfl
    simp only [going, setHolder, decrement, lies_adjust, List.append_nil, same]
    exact old connection
  | @removed i h holder entry left there has found unused answers =>
    intro connection
    have before := old connection
    have counts : (system.calls.set i ⟨h, .own (.close entry.connection)⟩).countP
          (Call.closes connection) =
        system.calls.countP (Call.closes connection) +
          if entry.connection = connection then 1 else 0 := by
      simpa [Call.closes] using
        countP_set_add there ⟨h, .own (.close entry.connection)⟩ (Call.closes connection)
    have lay := lies_remove (sound.named holder.name entry found) found answers connection
    simp only [going, List.append_nil, counts]
    omega
  | @closing i h waited holder there has =>
    intro connection
    have counts : (system.calls.set i ⟨h, .closing waited⟩).countP (Call.closes connection) +
        (if waited = connection then 1 else 0) = system.calls.countP (Call.closes connection) := by
      simpa [Call.closes] using countP_set_add there ⟨h, .closing waited⟩ (Call.closes connection)
    refine Eq.trans ?_ (old connection)
    simp only [going, List.countP_append, List.countP_singleton, Deed.isClosing, decide_eq_true_eq]
    omega
  | marked there | markedBefore there | kept there | closed there =>
    intro connection
    refine Eq.trans ?_ (old connection)
    simp only [going, setHolder, List.countP_append, List.countP_singleton, List.countP_nil,
      Deed.isClosing, Bool.false_eq_true, if_false, Nat.add_zero]
    congr 2
    exact countP_set_same there (by rfl)

theorem answered_step : ∀ connection, next.history.countP (Deed.isClosing connection) =
    next.calls.countP (Call.isClosing connection) +
      next.history.countP (Deed.isClosed connection) := by
  have old := sound.answered
  cases goes with
  | retained => exact old
  | refused | connected =>
    intro connection
    simpa [Deed.isClosing, Deed.isClosed] using old connection
  | releasing | dropping =>
    intro connection
    simpa [calling, setHolder, Call.isClosing] using old connection
  | @closing i h waited holder there has =>
    intro connection
    have before := old connection
    have counts : (system.calls.set i ⟨h, .closing waited⟩).countP (Call.isClosing connection) =
        system.calls.countP (Call.isClosing connection) + if waited = connection then 1 else 0 := by
      simpa [Call.isClosing] using countP_set_add there ⟨h, .closing waited⟩ (Call.isClosing connection)
    simp only [going, counts, List.countP_append, List.countP_singleton, Deed.isClosing, Deed.isClosed,
      decide_eq_true_eq, Bool.false_eq_true, if_false]
    omega
  | @closed i h waited there result =>
    intro connection
    have before := old connection
    have counts : (system.calls.set i ⟨h, .own .done⟩).countP (Call.isClosing connection) +
        (if waited = connection then 1 else 0) = system.calls.countP (Call.isClosing connection) := by
      simpa [Call.isClosing] using countP_set_add there ⟨h, .own .done⟩ (Call.isClosing connection)
    simp only [going, List.countP_append, List.countP_singleton, Deed.isClosing, Deed.isClosed,
      decide_eq_true_eq, Bool.false_eq_true, if_false]
    omega
  | marked there | markedBefore there | returned there | removed there | kept there =>
    intro connection
    have before := old connection
    simp only [going, setHolder, List.append_nil, before]
    congr 1
    exact (countP_set_same there (by rfl)).symm

end Sound

theorem Sound.step (sound : system.Sound) (goes : system.Goes next) : next.Sound where
  begun := sound.begun_step goes
  dropped := sound.dropped_step goes
  marked := sound.marked_step goes
  held := sound.held_step goes
  counted := sound.counted_step goes
  unused := sound.unused_step goes
  named := sound.named_step goes
  latest := sound.latest_step goes
  kept := sound.kept_step goes
  answered := sound.answered_step goes

theorem Reachable.sound (reachable : system.Reachable) : system.Sound :=
  reachable.induction sound_new fun _ _ before goes => before.step goes

end System

end EventRelay.Registry
