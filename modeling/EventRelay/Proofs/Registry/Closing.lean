import EventRelay.Proofs.Registry.Quiet

namespace EventRelay.Registry

def Holder.uses (connection : Nat) (holder : Holder) : Bool :=
  holder.connection = connection && !holder.returned

theorem Call.eq_of_isDone {call : Call} (done : call.isDone = true) :
    call = ⟨call.holder, .own .done⟩ := by
  unfold isDone at done
  split at done
  · rename_i same
    exact congrArg (Call.mk call.holder) same
  · cases done

namespace System

/-- No call is under way, and there is no handle that was neither released nor dropped. -/
def Finished (system : System) : Prop :=
  (∀ call ∈ system.calls, call.isDone = true) ∧ ∀ holder ∈ system.holders, holder.isLive = false

instance (system : System) : Decidable system.Finished :=
  inferInstanceAs (Decidable (_ ∧ _))

variable {system : System}

theorem Finished.countP_eq_zero (finished : system.Finished) {kind : Call → Bool}
    (other : ∀ h, kind ⟨h, .own .done⟩ = false) : system.calls.countP kind = 0 := by
  rw [List.countP_eq_zero]
  intro call member fits
  rw [Call.eq_of_isDone (finished.1 call member), other] at fits
  cases fits

theorem Finished.quiet (finished : system.Finished) : system.Quiet := by
  intro call member
  rw [Call.eq_of_isDone (finished.1 call member)]
  rfl

namespace Sound

variable (sound : system.Sound)

include sound

theorem owes_iff_uses {name : String} {entry : RegistryEntry Nat} {holder : Holder}
    (found : system.registry.find? name = some entry) (member : holder ∈ system.holders) :
    holder.owes name = true ↔ holder.uses entry.connection = true := by
  simp only [Holder.owes, Holder.uses, Bool.and_eq_true, decide_eq_true_eq, Bool.not_eq_true']
  constructor
  · rintro ⟨rfl, owes⟩
    obtain ⟨other, present, same⟩ := sound.held holder member owes
    rw [found, Option.some.injEq] at present
    exact ⟨present ▸ same.symm, owes⟩
  · rintro ⟨connection, owes⟩
    obtain ⟨other, present, same⟩ := sound.held holder member owes
    have opened := sound.named holder.name other present
    rw [same, connection, sound.named name entry found, Option.some.injEq] at opened
    exact ⟨opened.symm, owes⟩

theorem refs_eq_uses {name : String} {entry : RegistryEntry Nat}
    (found : system.registry.find? name = some entry) :
    entry.refs = system.holders.countP (Holder.uses entry.connection) := by
  rw [sound.counted name entry found]
  exact List.countP_congr fun holder member => sound.owes_iff_uses found member

theorem refs_pos_of_returning {i h : Nat} (there : system.calls[i]? = some ⟨h, .own .decrement⟩) :
    ∃ holder entry, system.holders[h]? = some holder ∧ holder.returned = false ∧
      system.registry.find? holder.name = some entry ∧ entry.connection = holder.connection ∧
      0 < entry.refs := by
  obtain ⟨holder, has, _⟩ := sound.begun _ (List.mem_of_getElem? there)
  have owes := sound.owes_of_returning there has
  have member := List.mem_of_getElem? has
  obtain ⟨entry, found, same⟩ := sound.held holder member owes
  refine ⟨holder, entry, has, owes, found, same, ?_⟩
  rw [sound.counted holder.name entry found]
  exact List.countP_pos_iff.mpr ⟨holder, member, by simp [Holder.owes, owes]⟩

theorem closing_le_one (connection : Nat) :
    system.history.countP (Deed.isClosing connection) ≤ 1 := by
  have balance := sound.kept connection
  split at balance <;> omega

theorem lies_of_owes {holder : Holder} (member : holder ∈ system.holders)
    (owes : holder.returned = false) :
    lies system.registry system.opened holder.connection = true := by
  obtain ⟨entry, found, same⟩ := sound.held holder member owes
  have named := sound.named holder.name entry found
  rw [same] at named
  simp [lies, named, found, same]

theorem returned_of_closing {connection : Nat} (closing : Deed.closing connection ∈ system.history)
    {holder : Holder} (member : holder ∈ system.holders) (same : holder.connection = connection) :
    holder.returned = true := by
  have told : 0 < system.history.countP (Deed.isClosing connection) :=
    List.countP_pos_iff.mpr ⟨_, closing, by simp [Deed.isClosing]⟩
  have balance := sound.kept connection
  cases owes : holder.returned with
  | true => rfl
  | false =>
    -- Its connection still lies in the registry, so nobody can have been told to close it.
    have lying := sound.lies_of_owes member owes
    rw [same] at lying
    rw [lying, Bool.toNat_true] at balance
    split at balance <;> omega

theorem absent_of_finished (finished : system.Finished) (name : String) :
    system.registry.find? name = none := by
  cases found : system.registry.find? name with
  | none => rfl
  | some entry =>
    have there : system.registry.contains name = true := by simp [contains, found]
    obtain ⟨holder, member, lives⟩ := (sound.contains_iff_lives finished.quiet name).mp there
    rw [Holder.lives, finished.2 holder member, Bool.and_false] at lives
    cases lives

theorem closed_of_finished (finished : system.Finished) {connection : Nat}
    (opened : connection < system.opened.length) :
    system.history.countP (Deed.isClosing connection) = 1 ∧
      system.history.countP (Deed.isClosed connection) = 1 := by
  have elsewhere : lies system.registry system.opened connection = false := by
    simp [lies, sound.absent_of_finished finished]
  have closes : system.calls.countP (Call.closes connection) = 0 :=
    finished.countP_eq_zero fun _ => rfl
  have waits : system.calls.countP (Call.isClosing connection) = 0 :=
    finished.countP_eq_zero fun _ => rfl
  have balance := sound.kept connection
  have answers := sound.answered connection
  rw [elsewhere, closes, Bool.toNat_false, if_pos opened] at balance
  omega

end Sound

/-- Nothing that overlaps with a release or a drop makes it give back a reference that is not there,
    close a connection that is used, close it again or leave it open. -/
theorem closed_once_after_last_return (reachable : system.Reachable) :
    (∀ name entry, system.registry.find? name = some entry →
      entry.refs = system.holders.countP (Holder.owes name) ∧
        entry.refs = system.holders.countP (Holder.uses entry.connection)) ∧
    (∀ (i h : Nat), system.calls[i]? = some ⟨h, .own .decrement⟩ →
      ∃ (holder : Holder) (entry : RegistryEntry Nat), system.holders[h]? = some holder ∧
        holder.returned = false ∧ system.registry.find? holder.name = some entry ∧
        entry.connection = holder.connection ∧ 0 < entry.refs) ∧
    (∀ connection, Deed.closing connection ∈ system.history →
      ∀ holder ∈ system.holders, holder.connection = connection → holder.returned = true) ∧
    (∀ connection, system.history.countP (Deed.isClosing connection) ≤ 1) ∧
    (system.Finished →
      (∀ connection < system.opened.length,
        system.history.countP (Deed.isClosing connection) = 1 ∧
          system.history.countP (Deed.isClosed connection) = 1) ∧
      ∀ name, system.registry.find? name = none) := by
  have sound := reachable.sound
  refine ⟨?_, ?_, ?_, sound.closing_le_one, ?_⟩
  · intro name entry found
    exact ⟨sound.counted name entry found, sound.refs_eq_uses found⟩
  · intro i h there
    exact sound.refs_pos_of_returning there
  · intro connection closing holder member same
    exact sound.returned_of_closing closing member same
  · intro finished
    exact ⟨fun connection opened => sound.closed_of_finished finished opened,
      sound.absent_of_finished finished⟩

def reopening : List Move :=
  let params : ConnectionParams := ⟨"broker", "events", none, none⟩
  [.resolve "audit" params (.ok ()), .release 0, .go 0, .go 0, .resolve "audit" params (.ok ()), .go 0,
    .drop 1, .go 1, .go 1, .go 1, .go 1, .resolve "audit" params (.ok ()), .release 2, .go 2, .go 2,
    .go 2, .go 2, .answer 2 (.ok ()), .answer 1 (.error (.close "gone"))]

theorem closed_once_after_last_return_reopening : ∃ system, run {} reopening = some system ∧
    system.opened = ["audit", "audit"] ∧ system.Finished ∧
      (∀ connection < 2, system.history.countP (Deed.isClosing connection) = 1 ∧
        system.history.countP (Deed.isClosed connection) = 1) ∧
      ∀ name, system.registry.find? name = none := by
  obtain ⟨system, ran⟩ : ∃ system, run {} reopening = some system := by
    rw [← Option.isSome_iff_exists]
    decide
  have same : system = (run {} reopening).get (by decide) := by
    simp [ran]
  have opened : system.opened = ["audit", "audit"] := by
    rw [same]
    decide
  have finished : system.Finished := by
    rw [same]
    decide
  obtain ⟨_, _, _, _, ended⟩ := closed_once_after_last_return ⟨reopening, ran⟩
  obtain ⟨closed, absent⟩ := ended finished
  rw [opened] at closed
  exact ⟨system, ran, opened, finished, closed, absent⟩

end System

end EventRelay.Registry
