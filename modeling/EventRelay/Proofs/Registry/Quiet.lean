import EventRelay.Proofs.Registry.Balance

namespace EventRelay.Registry

/-- How many steps are left at most until a release or a drop is done with the registry. -/
def Stage.rank : Stage → Nat
  | .own .mark => 3
  | .own .decrement => 2
  | .own .remove => 1
  | .own (.close _) | .own .done | .closing _ => 0

theorem rank_release (name : String) (held : Holding Nat) {point : Release Nat}
    (busy : 0 < (Stage.own point).rank) :
    (release name held point).2.2 = .done ∨
      (Stage.own (release name held point).2.2).rank + 1 = (Stage.own point).rank := by
  cases point with
  | mark =>
    simp only [release]
    split
    · exact .inl rfl
    · exact .inr rfl
  | decrement => exact .inr rfl
  | remove =>
    simp only [release]
    split
    · exact .inr rfl
    · exact .inl rfl
  | close | done => cases busy

def Holder.lives (name : String) (holder : Holder) : Bool := holder.name = name && holder.isLive

namespace System

/-- No release or drop has still to do with the registry. -/
def Quiet (system : System) : Prop := ∀ call ∈ system.calls, call.stage.rank = 0

variable {system : System}

namespace Sound

variable (sound : system.Sound) (quiet : system.Quiet)

include sound quiet

theorem returned_eq_released {holder : Holder} (member : holder ∈ system.holders) :
    holder.returned = holder.released := by
  obtain ⟨h, has⟩ := List.mem_iff_getElem?.mp member
  have settled : system.calls.countP (Call.returns h) = 0 := by
    rw [List.countP_eq_zero]
    rintro ⟨k, stage⟩ among returns
    have rank := quiet _ among
    unfold Call.returns at returns
    split at returns
    · rename_i same
      cases same
      cases rank
    · cases returns
  have balance := sound.marked h holder has
  rw [settled, Nat.add_zero] at balance
  revert balance
  cases holder.returned <;> cases holder.released <;> simp

theorem released_of_dropped {holder : Holder} (member : holder ∈ system.holders)
    (dropped : holder.dropped = true) : holder.released = true := by
  obtain ⟨h, has⟩ := List.mem_iff_getElem?.mp member
  obtain ⟨⟨_, stage⟩, among, rfl⟩ := sound.dropped h holder has dropped
  obtain ⟨now, there, since⟩ := sound.begun _ among
  rw [has, Option.some.injEq] at there
  rcases since with rfl | released
  · cases quiet _ among
  · exact there ▸ released

theorem lives_eq_owes {holder : Holder} (member : holder ∈ system.holders) (name : String) :
    holder.lives name = holder.owes name := by
  have same : holder.isLive = !holder.returned := by
    rw [Holder.isLive, sound.returned_eq_released quiet member]
    cases dropped : holder.dropped with
    | false => rw [Bool.not_false, Bool.and_true]
    | true => rw [sound.released_of_dropped quiet member dropped, Bool.not_true, Bool.false_and]
  rw [Holder.lives, Holder.owes, same]

theorem refCount_eq_lives (name : String) :
    system.registry.refCount name = system.holders.countP (Holder.lives name) := by
  have same : system.holders.countP (Holder.lives name) = system.holders.countP (Holder.owes name) := by
    apply List.countP_congr
    intro holder member
    rw [sound.lives_eq_owes quiet member]
  rw [same, refCount]
  cases found : system.registry.find? name with
  | none => exact (sound.not_owes_of_absent found).symm
  | some entry => exact sound.counted name entry found

theorem contains_iff_lives (name : String) :
    system.registry.contains name = true ↔ ∃ holder ∈ system.holders, holder.lives name = true := by
  rw [← List.countP_pos_iff, ← sound.refCount_eq_lives quiet]
  cases found : system.registry.find? name with
  | none => simp [contains, refCount, found]
  | some entry =>
    have used : entry.refs ≠ 0 := by
      intro unused
      obtain ⟨i, h, holder, there, _⟩ := sound.unused name entry found unused
      cases quiet _ (List.mem_of_getElem? there)
    simp [contains, refCount, found, Nat.pos_of_ne_zero used]

theorem latest_of_lives {name : String} {holder : Holder} (member : holder ∈ system.holders)
    (lives : holder.lives name = true) : system.latest? name = some holder.connection := by
  rw [sound.lives_eq_owes quiet member, Holder.owes, Bool.and_eq_true, decide_eq_true_eq,
    Bool.not_eq_true'] at lives
  obtain ⟨rfl, owes⟩ := lives
  obtain ⟨entry, found, same⟩ := sound.held holder member owes
  rw [sound.latest holder.name entry found, same]

end Sound

end System

end EventRelay.Registry
