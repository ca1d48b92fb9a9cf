import Mathlib.Data.List.Forall2

namespace EventRelay

variable {α : Type} {list : List α} {i j : Nat} {a b x : α}

theorem replaced_or_same (present : (list.set i a)[j]? = some x) :
    j = i ∧ x = a ∨ j ≠ i ∧ list[j]? = some x := by
  rw [List.getElem?_set] at present
  by_cases same : i = j
  · subst same
    rw [if_pos rfl] at present
    split at present
    · cases present
      exact .inl ⟨rfl, rfl⟩
    · cases present
  · rw [if_neg same] at present
    exact .inr ⟨fun there => same there.symm, present⟩

theorem last_or_same (present : (list ++ [a])[j]? = some x) :
    j = list.length ∧ x = a ∨ list[j]? = some x := by
  rw [List.getElem?_append] at present
  split at present
  · exact .inr present
  · rename_i outside
    obtain ⟨inside, rfl⟩ := List.getElem?_eq_some_iff.mp present
    rw [List.length_singleton] at inside
    have last : j - list.length = 0 := by omega
    refine .inl ⟨by omega, ?_⟩
    simp [last]

theorem split_of_append {more earlier later : List α}
    (same : list ++ more = earlier ++ x :: later) :
    (∃ rest, list = earlier ++ x :: rest) ∨
      ∃ before, more = before ++ x :: later ∧ earlier = list ++ before := by
  rcases List.append_eq_append_iff.mp same with ⟨before, first, second⟩ | ⟨rest, first, second⟩
  · exact .inr ⟨before, second, first⟩
  · cases rest with
    | nil => exact .inr ⟨[], second.symm, by rw [first, List.append_nil, List.append_nil]⟩
    | cons y rest =>
      cases second
      exact .inl ⟨rest, first⟩

theorem prefix_of_split {more earlier later : List α} (longer : list <+: more)
    (same : more = earlier ++ x :: later) (new : x ∉ list) : list <+: earlier := by
  obtain ⟨added, rfl⟩ := longer
  rcases split_of_append same with ⟨rest, rfl⟩ | ⟨before, _, rfl⟩
  · exact absurd (List.mem_append_right _ List.mem_cons_self) new
  · exact List.prefix_append _ _

theorem countP_set_add (present : list[i]? = some a) (b : α) (kind : α → Bool) :
    (list.set i b).countP kind + (if kind a then 1 else 0) =
      list.countP kind + if kind b then 1 else 0 := by
  obtain ⟨inside, same⟩ := List.getElem?_eq_some_iff.mp present
  have counted : kind a = true → 0 < list.countP kind :=
    fun fits => List.countP_pos_iff.mpr ⟨a, List.mem_of_getElem? present, fits⟩
  simp only [List.countP_set inside, same]
  by_cases fits : kind a = true
  · have positive := counted fits
    simp only [fits, if_true]
    omega
  · simp [fits]

theorem countP_set_same {kind : α → Bool} (present : list[i]? = some a) (same : kind b = kind a) :
    (list.set i b).countP kind = list.countP kind := by
  have counts := countP_set_add present b kind
  rw [same] at counts
  omega

theorem same_of_countP_le_one {kind : α → Bool} (few : list.countP kind ≤ 1)
    (first : list[i]? = some a) (second : list[j]? = some b) (fits : kind a = true)
    (fitsToo : kind b = true) : i = j := by
  induction list generalizing i j with
  | nil => cases first
  | cons x rest ih =>
    have inRest : ∀ {k : Nat} {c : α}, rest[k]? = some c → kind c = true → 0 < rest.countP kind :=
      fun there fits => List.countP_pos_iff.mpr ⟨_, List.mem_of_getElem? there, fits⟩
    rw [List.countP_cons] at few
    cases i with
    | zero =>
      cases j with
      | zero => rfl
      | succ j =>
        cases first
        have more := inRest second fitsToo
        rw [if_pos fits] at few
        omega
    | succ i =>
      cases j with
      | zero =>
        cases second
        have more := inRest first fits
        rw [if_pos fitsToo] at few
        omega
      | succ j => exact congrArg Nat.succ (ih (by omega) first second)

theorem set_of_present (present : list[i]? = some a) : list.set i a = list := by
  obtain ⟨inside, same⟩ := List.getElem?_eq_some_iff.mp present
  rw [← same, List.set_getElem_self]

theorem map_set_same {β : Type} {f : α → β} (present : list[i]? = some a) (same : f b = f a) :
    (list.set i b).map f = list.map f := by
  rw [List.map_set, same]
  exact set_of_present (by rw [List.getElem?_map, present, Option.map_some])

theorem map_modify_same {β : Type} {f : α → α} {g : α → β} (same : ∀ a, g (f a) = g a) :
    (list.modify i f).map g = list.map g := by
  apply List.ext_getElem?
  intro j
  rw [List.getElem?_map, List.getElem?_map, List.getElem?_modify]
  cases list[j]? with
  | none => rfl
  | some a =>
    by_cases here : i = j <;> simp [here, same]

theorem filterMap_set_same {β : Type} {f : α → Option β} (present : list[i]? = some a)
    (same : f b = f a) : (list.set i b).filterMap f = list.filterMap f := by
  induction list generalizing i with
  | nil => cases present
  | cons x rest ih =>
    cases i with
    | zero =>
      cases present
      simp only [List.set_cons_zero, List.filterMap_cons, same]
    | succ i =>
      have kept := ih (i := i) (by simpa using present)
      simp only [List.set_cons_succ, List.filterMap_cons, kept]

theorem filterMap_set_new {β : Type} {f : α → Option β} {new : β} (present : list[i]? = some a)
    (before : f a = none) (after : f b = some new) :
    ((list.set i b).filterMap f).Perm (new :: list.filterMap f) := by
  induction list generalizing i with
  | nil => cases present
  | cons x rest ih =>
    cases i with
    | zero =>
      cases present
      simp only [List.set_cons_zero, List.filterMap_cons, before, after]
      exact .refl _
    | succ i =>
      have added := ih (i := i) (by simpa using present)
      simp only [List.set_cons_succ, List.filterMap_cons]
      cases f x with
      | none => exact added
      | some y => exact (added.cons y).trans (.swap new y _)

/-- Entries under small numbers are those under each of these, taken together. -/
theorem perm_flatMap_filter {β : Type} {entries : List (Nat × β)} {n : Nat}
    (small : ∀ entry ∈ entries, entry.1 < n) :
    entries.Perm ((List.range n).flatMap fun key => entries.filter (·.1 = key)) := by
  induction n generalizing entries with
  | zero =>
    have none : entries = [] :=
      List.eq_nil_iff_forall_not_mem.mpr fun entry among => Nat.not_lt_zero _ (small entry among)
    rw [none]
    exact .refl _
  | succ n ih =>
    have smaller : ∀ entry ∈ entries.filter (·.1 ≠ n), entry.1 < n := by
      intro entry among
      obtain ⟨among, other⟩ := List.mem_filter.mp among
      have bound := small entry among
      have differs := of_decide_eq_true other
      omega
    have below := ih smaller
    have parts : ((List.range n).flatMap fun key => (entries.filter (·.1 ≠ n)).filter (·.1 = key)) =
        (List.range n).flatMap fun key => entries.filter (·.1 = key) := by
      rw [List.flatMap_def, List.flatMap_def]
      refine congrArg List.flatten (List.map_congr_left fun key among => ?_)
      rw [List.filter_filter]
      refine List.filter_congr fun entry _ => ?_
      have apart := List.mem_range.mp among
      simp only [← Bool.decide_and, decide_eq_decide]
      omega
    rw [parts] at below
    have split := List.filter_append_perm (fun entry : Nat × β => decide (entry.1 = n)) entries
    have others : (entries.filter fun entry => !decide (entry.1 = n)) = entries.filter (·.1 ≠ n) :=
      List.filter_congr fun entry _ => (decide_not ..).symm
    rw [others] at split
    rw [List.range_succ, List.flatMap_append, List.flatMap_singleton]
    exact (split.symm.trans List.perm_append_comm).trans (below.append_right _)

theorem mapM_eq_some_iff {β : Type} {f : α → Option β} {results : List β} :
    list.mapM f = some results ↔ List.Forall₂ (fun a b => f a = some b) list results := by
  induction list generalizing results with
  | nil => simp [eq_comm]
  | cons a list ih =>
    simp only [List.mapM_cons, List.forall₂_cons_left_iff, Option.bind_eq_bind,
      Option.bind_eq_some_iff, ← ih, Option.pure_def, Option.some.injEq]
    constructor
    · rintro ⟨b, first, others, rest, rfl⟩
      exact ⟨b, others, first, rest, rfl⟩
    · rintro ⟨b, others, first, rest, rfl⟩
      exact ⟨b, first, others, rest, rfl⟩

section Pairs

variable {β : Type} {related : α → β → Prop} {others : List β}

theorem mem_left_of_forall₂ (pairs : List.Forall₂ related list others) (among : a ∈ list) :
    ∃ b ∈ others, related a b := by
  induction pairs with
  | nil => cases among
  | cons first rest ih =>
    rcases List.mem_cons.mp among with rfl | among
    · exact ⟨_, List.mem_cons_self, first⟩
    · obtain ⟨b, amongToo, pair⟩ := ih among
      exact ⟨b, List.mem_cons_of_mem _ amongToo, pair⟩

theorem mem_right_of_forall₂ {b : β} (pairs : List.Forall₂ related list others) (among : b ∈ others) :
    ∃ a ∈ list, related a b :=
  mem_left_of_forall₂ pairs.flip among

theorem exists_forall₂ (each : ∀ a ∈ list, ∃ b, related a b) :
    ∃ others, List.Forall₂ related list others := by
  induction list with
  | nil => exact ⟨[], .nil⟩
  | cons a list ih =>
    obtain ⟨⟨b, first⟩, rest⟩ := List.forall_mem_cons.mp each
    obtain ⟨others, pairs⟩ := ih rest
    exact ⟨b :: others, .cons first pairs⟩

end Pairs

section Results

variable {ε β : Type} {result : Except ε α} {y : β}

theorem ok_bind (x : α) (f : α → Except ε β) : (Except.ok x >>= f) = f x := rfl

theorem error_bind (e : ε) (f : α → Except ε β) : (Except.error e >>= f) = .error e := rfl

theorem bind_eq_ok_iff {f : α → Except ε β} :
    (result >>= f) = .ok y ↔ ∃ x, result = .ok x ∧ f x = .ok y := by
  cases result with
  | error e => exact ⟨nofun, nofun⟩
  | ok x => simp [ok_bind]

theorem map_eq_ok_iff {f : α → β} : f <$> result = .ok y ↔ ∃ x, result = .ok x ∧ f x = y := by
  cases result with
  | error e => exact ⟨nofun, nofun⟩
  | ok x => simp [Functor.map, Except.map]

end Results

end EventRelay
