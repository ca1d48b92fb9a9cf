import EventRelay.Proofs.Json.RecordTrees

namespace EventRelay.Json

open Parse

/-- The members of an object in another order, some of unknown names left out and some added, whose trees
    `fit`. The trees of those that are kept are `alike`, and neither object repeats a name. -/
structure Rearranged (known : List String) (alike : String → Parse → Parse → Prop) (fits : Parse → Prop)
    (old new : List (Option String × Parse)) : Prop where
  once : (old.map (·.1)).Nodup
  onceStill : (new.map (·.1)).Nodup
  moved : ∃ kept dropped changed added, old.Perm (kept ++ dropped) ∧ new.Perm (changed ++ added) ∧
    List.Forall₂ (fun member other => ∃ name, member.1 = some name ∧ other.1 = some name ∧
      alike name member.2 other.2) kept changed ∧
    (∀ member ∈ dropped, ∃ name ∉ known, member.1 = some name) ∧
    ∀ member ∈ added, (∃ name ∉ known, member.1 = some name) ∧ fits member.2

/-- Under the names there are values that are alike, or no values. -/
structure Keeps (names : List String) (like : String → Json → Json → Prop)
    (old new : List (String × Json)) : Prop where
  once : (old.map (·.1)).Nodup
  onceStill : (new.map (·.1)).Nodup
  kept : ∀ name ∈ names, ∀ x, (name, x) ∈ old → ∃ y, (name, y) ∈ new ∧ like name x y
  noMore : ∀ name ∈ names, name ∈ new.map (·.1) → name ∈ old.map (·.1)

namespace Keeps

variable {names : List String} {like : String → Json → Json → Prop} {old new : List (String × Json)}

theorem inObject (keeps : Keeps names like old new) {entry : Entry} (among : entry.name ∈ names)
    (respects : ∀ x y, like entry.name x y → entry.written x → entry.written y)
    (inside : entry.InObject old) : entry.InObject new := by
  rcases inside with ⟨x, found, written⟩ | ⟨nothing, missing⟩
  · obtain ⟨y, there, alike⟩ := keeps.kept _ among x (mem_of_under found)
    exact .inl ⟨y, under_of_mem keeps.onceStill there, respects x y alike written⟩
  · refine .inr ⟨under_eq_nil_iff.mpr fun there => ?_, missing⟩
    exact under_eq_nil_iff.mp nothing (keeps.noMore _ among there)

end Keeps

namespace Rearranged

variable {known : List String} {alike : String → Parse → Parse → Prop} {fits : Parse → Prop}
  {old new : List (Option String × Parse)}

theorem kept_of_mem (rearranged : Rearranged known alike fits old new) {name : String}
    (named : name ∈ known) {tree : Parse} (among : (some name, tree) ∈ old) :
    ∃ other, (some name, other) ∈ new ∧ alike name tree other := by
  obtain ⟨kept, dropped, changed, added, before, after, pairs, unknown, _⟩ := rearranged.moved
  rcases List.mem_append.mp (before.mem_iff.mp among) with among | among
  · obtain ⟨⟨key, other⟩, there, key', same, rfl, like⟩ := mem_left_of_forall₂ pairs among
    cases same
    exact ⟨other, after.mem_iff.mpr (List.mem_append_left _ there), like⟩
  · obtain ⟨_, new, same⟩ := unknown _ among
    cases same
    exact absurd named new

theorem origin (rearranged : Rearranged known alike fits old new) {member : Option String × Parse}
    (among : member ∈ new) : ∃ name, member.1 = some name ∧
      ((∃ tree, (some name, tree) ∈ old ∧ alike name tree member.2) ∨
        name ∉ known ∧ fits member.2) := by
  obtain ⟨kept, dropped, changed, added, before, after, pairs, _, unknown⟩ := rearranged.moved
  rcases List.mem_append.mp (after.mem_iff.mp among) with among | among
  · obtain ⟨⟨_, tree⟩, there, name, rfl, same, like⟩ := mem_right_of_forall₂ pairs among
    exact ⟨name, same, .inl ⟨tree, before.mem_iff.mpr (List.mem_append_left _ there), like⟩⟩
  · obtain ⟨⟨name, new, same⟩, fit⟩ := unknown _ among
    exact ⟨name, same, .inr ⟨new, fit⟩⟩

variable {before after : String → Parse → Json → Prop} {like : String → Json → Json → Prop}

theorem exists_value (rearranged : Rearranged known alike fits old new)
    (carries : ∀ name tree other x, alike name tree other → before name tree x →
      ∃ y, after name other y ∧ like name x y)
    (fresh : ∀ name tree, name ∉ known → fits tree → ∃ y, after name tree y)
    {values : List (String × Json)} (pairs : List.Forall₂ (Matches before) old values)
    {member : Option String × Parse} (among : member ∈ new) :
    ∃ value : String × Json, Matches after member value ∧
      ∀ x, value.1 ∈ known → (value.1, x) ∈ values → like value.1 x value.2 := by
  obtain ⟨name, named, ⟨tree, there, same⟩ | ⟨unknown, fit⟩⟩ := rearranged.origin among
  · obtain ⟨⟨key, x⟩, held, keyNamed, fit⟩ := mem_left_of_forall₂ pairs there
    obtain rfl : name = key := Option.some.inj keyNamed
    obtain ⟨y, fitToo, still⟩ := carries _ _ _ _ same fit
    refine ⟨(name, y), ⟨named, fitToo⟩, fun z _ heldToo => ?_⟩
    have found := under_of_mem (nodup_of_matches pairs rearranged.once) held
    have foundToo := under_of_mem (nodup_of_matches pairs rearranged.once) heldToo
    obtain rfl : x = z := List.singleton_inj.mp (found.symm.trans foundToo)
    exact still
  · obtain ⟨y, fitToo⟩ := fresh name _ unknown fit
    exact ⟨(name, y), ⟨named, fitToo⟩, fun _ named _ => absurd named unknown⟩

theorem keeps (rearranged : Rearranged known alike fits old new)
    (carries : ∀ name tree other x, alike name tree other → before name tree x →
      ∃ y, after name other y ∧ like name x y)
    (fresh : ∀ name tree, name ∉ known → fits tree → ∃ y, after name tree y)
    {values : List (String × Json)} (pairs : List.Forall₂ (Matches before) old values) :
    ∃ others, List.Forall₂ (Matches after) new others ∧ Keeps known like values others := by
  obtain ⟨others, each⟩ := exists_forall₂ fun member among =>
    rearranged.exists_value carries fresh pairs among
  have pairsToo : List.Forall₂ (Matches after) new others := each.imp fun _ _ both => both.1
  refine ⟨others, pairsToo, nodup_of_matches pairs rearranged.once,
    nodup_of_matches pairsToo rearranged.onceStill, fun name named x held => ?_,
    fun name named there => ?_⟩
  · obtain ⟨⟨_, tree⟩, there, same, _⟩ := mem_right_of_forall₂ pairs held
    cases same
    obtain ⟨other, thereToo, _⟩ := rearranged.kept_of_mem named there
    obtain ⟨⟨key, y⟩, heldToo, ⟨same, _⟩, still⟩ := mem_left_of_forall₂ each thereToo
    cases same
    exact ⟨y, heldToo, still x named held⟩
  · rw [mem_names_of_matches pairsToo] at there
    obtain ⟨⟨_, other⟩, among, rfl⟩ := List.mem_map.mp there
    obtain ⟨key, same, ⟨tree, was, _⟩ | ⟨unknown, _⟩⟩ := rearranged.origin among
    · cases same
      exact (mem_names_of_matches pairs).mpr (List.mem_map.mpr ⟨_, was, rfl⟩)
    · cases same
      exact absurd named unknown

/-- The object has a value still, and whatever record of the known fields it was it still is. -/
theorem means (rearranged : Rearranged known alike fits old new) {levels : Nat}
    (carries : ∀ name tree other x, alike name tree other → tree.Means levels x →
      ∃ y, other.Means levels y ∧ like name x y)
    (fresh : ∀ tree, fits tree → ∃ y, tree.Means levels y) {x : Json}
    (means : (Parse.object old).Means (levels + 1) x) :
    ∃ y, (Parse.object new).Means (levels + 1) y ∧ ∀ entries : List Entry,
      (∀ entry ∈ entries, entry.name ∈ known ∧
        ∀ x y, like entry.name x y → entry.written x → entry.written y) →
      IsRecord entries x → IsRecord entries y := by
  obtain ⟨_, values, same, pairs, rfl⟩ := means_object.mp means
  cases same
  obtain ⟨others, pairsToo, keeps⟩ := rearranged.keeps carries (fun _ tree _ => fresh tree) pairs
  refine ⟨_, means_object.mpr ⟨levels, others, rfl, pairsToo, rfl⟩, fun entries respects form => ?_⟩
  rw [isRecord_ofMembers keeps.once] at form
  rw [isRecord_ofMembers keeps.onceStill]
  intro entry among
  obtain ⟨named, respects⟩ := respects entry among
  exact keeps.inObject named respects (form entry among)

end Rearranged

end EventRelay.Json
