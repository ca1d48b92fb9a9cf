import EventRelay.Proofs.Listener.Steps
import EventRelay.Proofs.Relay.Sparing

namespace EventRelay

open Lifecycle (Call Common System)

namespace Lifecycle

variable {config : ListenerConfig} {system : System Nat Nat} {call next last : Call Nat Nat}
  {found left final : Lifecycle Nat} {i : Nat}

/-- Some moves bring call `i` to `next`, and the state and the slot to `left`. -/
def System.Brings (config : ListenerConfig) (system : System Nat Nat) (i : Nat) (next : Call Nat Nat)
    (left : Lifecycle Nat) : Prop :=
  ∃ moves later, system.run config moves = some later ∧ later.calls = system.calls.set i next ∧
    later.common.lifecycle = left

/-- A call gets there whatever the others do, and whatever has become of the handle. -/
def Call.Leads (config : ListenerConfig) (call : Call Nat Nat) (found : Lifecycle Nat)
    (next : Call Nat Nat) (left : Lifecycle Nat) : Prop :=
  ∀ (system : System Nat Nat) (i : Nat), system.calls[i]? = some call →
    system.common.lifecycle = found → system.Brings config i next left

namespace System.Brings

theorem single (prompt : Prompt Nat) {common : Common Nat Nat} {deeds : List (Deed Nat Nat)}
    (present : system.calls[i]? = some call)
    (goes : call.go config system.common prompt = some (common, next, deeds))
    (leaves : common.lifecycle = left) : system.Brings config i next left :=
  ⟨[.prompt i prompt], system.going i common next deeds, by simp [run, step, present, goes], rfl,
    leaves⟩

theorem further (present : system.calls[i]? = some call) (brings : system.Brings config i next left)
    (leads : next.Leads config left last final) : system.Brings config i last final := by
  obtain ⟨moves, middle, ran, calls, lifecycle⟩ := brings
  have inside := (List.getElem?_eq_some_iff.mp present).1
  have there : middle.calls[i]? = some next := by rw [calls, List.getElem?_set_self inside]
  obtain ⟨others, later, ranToo, callsToo, ends⟩ := leads middle i there lifecycle
  refine ⟨moves ++ others, later, ?_, ?_, ends⟩
  · rw [run_append, ran]
    exact ranToo
  · rw [callsToo, calls, List.set_set]

end System.Brings

namespace Call.Leads

theorem of_go (prompt : Prompt Nat) {deeds : List (Deed Nat Nat)}
    (goes : ∀ handle, ∃ kept,
      call.go config ⟨found, handle⟩ prompt = some (⟨left, kept⟩, next, deeds)) :
    call.Leads config found next left := by
  rintro ⟨⟨_, handle⟩, calls, history⟩ i present rfl
  obtain ⟨kept, goes⟩ := goes handle
  exact .single prompt present goes rfl

theorem trans (first : call.Leads config found next left) (second : next.Leads config left last final) :
    call.Leads config found last final :=
  fun system i present same => (first system i present same).further present second

/-- Nobody else holds on to the connection, if that is what the registry says. -/
theorem of_remove : (.releasing .remove : Call Nat Nat).Leads config found (.releasing .done) found := by
  intro system i present same
  obtain ⟨moves, later, ran, calls, lifecycle⟩ : (system.inRegistry {}).Brings config i
      (.releasing .done) found :=
    .single .go present rfl same
  exact ⟨.elsewhere {} :: moves, later, ran, calls, lifecycle⟩

theorem of_mark : (.releasing .mark : Call Nat Nat).Leads config found (.releasing .done) found := by
  have decrement : (.releasing .decrement : Call Nat Nat).Leads config found (.releasing .remove) found :=
    of_go .go fun _ => ⟨_, rfl⟩
  intro system i present same
  cases released : system.common.handle.released with
  | true =>
    have goes : (.releasing .mark : Call Nat Nat).go config system.common .go =
        some (system.common, .releasing .done, []) := by
      simp [go, ownRelease, Registry.release, released]
    exact .single .go present goes same
  | false =>
    have goes : (.releasing .mark : Call Nat Nat).go config system.common .go =
        some ({ system.common with handle.released := true }, .releasing .decrement, []) := by
      simp [go, ownRelease, Registry.release, released]
    have marked : system.Brings config i (.releasing .decrement) found :=
      .single .go present goes same
    exact marked.further present (decrement.trans of_remove)

theorem of_start {point after : Start Nat} {records : List LogRecord}
    (own : point = .claim ∨ point = .confirm ∨ point = .reclaim)
    (goes : found.start config point = (left, records, after)) :
    (.start point : Call Nat Nat).Leads config found (.start after) left := by
  rcases own with rfl | rfl | rfl
  all_goals exact of_go .go fun handle => ⟨handle, by simp only [go, ownStart, goes]; rfl⟩

theorem of_stop {point after : Stop Nat} {records : List LogRecord}
    (own : point = .read ∨ (∃ current, point = .claim current) ∨ point = .take ∨ point = .finish)
    (goes : found.stop config point = (left, records, after)) :
    (.stop point : Call Nat Nat).Leads config found (.stop after) left := by
  rcases own with rfl | ⟨current, rfl⟩ | rfl | rfl
  all_goals exact of_go .go fun handle => ⟨handle, by simp only [go, ownStop, goes]; rfl⟩

end Call.Leads

/-- How a call gets on, if there is one, and what becomes of the state and the slot. -/
inductive GetsOn (config : ListenerConfig) :
    Option (Call Nat Nat) → Lifecycle Nat → Option (Call Nat Nat) → Lifecycle Nat → Prop
  | stays {call : Option (Call Nat Nat)} {found : Lifecycle Nat} : GetsOn config call found call found
  | leaves {call : Option (Call Nat Nat)} {found : Lifecycle Nat} : GetsOn config call found none found
  | goes {call next : Call Nat Nat} {found left : Lifecycle Nat}
      (leads : call.Leads config found next left) : GetsOn config (some call) found (some next) left

theorem GetsOn.stays_or_goes {before after : Option (Call Nat Nat)}
    (getsOn : GetsOn config before found after left) :
    (left = found ∧ (after = before ∨ after = none)) ∨
      ∃ call next, before = some call ∧ after = some next ∧ call.Leads config found next left := by
  cases getsOn with
  | stays => exact .inl ⟨rfl, .inl rfl⟩
  | leaves => exact .inl ⟨rfl, .inr rfl⟩
  | goes leads => exact .inr ⟨_, _, rfl, rfl, leads⟩

end Lifecycle

/-- Where a call on listener `l` is that goes on by itself. -/
def Frame.call? (l : Nat) : Frame → Option (Call Nat Nat)
  | .start k point => if k = l then some (.start point) else none
  | .stop k point => if k = l then some (.stop point) else none
  | _ => none

/-- What a call on listener `l` waits for. The release of its handle is told when it is over. -/
def Frame.asked? (l : Nat) : Frame → Option (Call Nat Nat)
  | .start k .create => if k = l then some .creating else none
  | .start k (.discard receiver) => if k = l then some (.discarding receiver) else none
  | .stop k (.close receiver) => if k = l then some (.closing receiver) else none
  | .stop k .release => if k = l then some (.releasing .mark) else none
  | _ => none

def Task.call? (l : Nat) : Task → Option (Call Nat Nat)
  | .active none [frame] => frame.call? l
  | .active _ frames => frames.getLast?.bind (Frame.asked? l)
  | _ => none

/-- No call waits for a call on a listener. -/
def Task.IsNested : Task → Prop
  | .active _ frames => ∀ frame ∈ frames.dropLast, frame.isInner
  | _ => True

section Tasks

variable {l : Nat} {frame : Frame} {waiting : List Frame} {answer : Option Reply} {after : Task}

theorem Frame.call?_inner (inner : frame.isInner) : frame.call? l = none := by
  cases frame with
  | start | stop => cases inner
  | _ => rfl

theorem Frame.asked?_inner (inner : frame.isInner) : frame.asked? l = none := by
  cases frame with
  | start | stop => cases inner
  | _ => rfl

theorem Task.call?_cons (answer : Option Reply) (inner : frame.isInner) :
    (active answer (frame :: waiting)).call? l = waiting.getLast?.bind (Frame.asked? l) := by
  cases waiting with
  | nil => cases answer <;> simp [call?, Frame.call?_inner inner, Frame.asked?_inner inner]
  | cons second rest => cases answer <;> simp [call?, List.getLast?_cons_cons]

theorem Task.inner_of_nested {second : Frame}
    (nested : (active answer (frame :: second :: waiting)).IsNested) : frame.isInner :=
  nested frame List.mem_cons_self

theorem Task.nested_cons (inner : frame.isInner) (nested : (active answer waiting).IsNested)
    (other : Option Reply) : (active other (frame :: waiting)).IsNested := by
  cases waiting with
  | nil => simp [IsNested]
  | cons second rest =>
    intro x member
    rcases List.mem_cons.mp member with rfl | member
    · exact inner
    · exact nested x member

theorem Task.nested_tail (nested : (active answer (frame :: waiting)).IsNested) (other : Option Reply) :
    (active other waiting).IsNested := by
  cases waiting with
  | nil => simp [IsNested]
  | cons second rest => exact fun x member => nested x (List.mem_cons_of_mem _ member)

/-- What an inner call leaves of a task that waits for the call. -/
theorem Relay.Next.task_inner {outcome : Relay.Next} (inner : outcome.IsInner)
    (nested : (Task.active answer waiting).IsNested) (leaves : outcome.task? waiting = some after) :
    after.IsNested ∧ ∀ l, after.call? l = waiting.getLast?.bind (Frame.asked? l) := by
  cases outcome with
  | go frame =>
    cases leaves
    exact ⟨Task.nested_cons inner nested none, fun _ => Task.call?_cons none inner⟩
  | call frame callee =>
    cases leaves
    obtain ⟨below, above⟩ := inner
    have rest := Task.nested_cons below nested (some .finished)
    refine ⟨Task.nested_cons above rest none, fun l => ?_⟩
    rw [Task.call?_cons none above]
    exact Task.call?_cons (some .finished) below
  | reply reply =>
    cases leaves
    exact ⟨nested, fun _ => rfl⟩
  | wait => cases leaves

end Tasks

namespace Relay

open Lifecycle (GetsOn)

/-- What a step of a task leaves: its call has got on, if it is one on a listener, and no other has. -/
structure Advances (relay : Relay) (task : Task) (next : Relay) (after : Task) : Prop where
  nested : after.IsNested
  idle : ∀ l, task.call? l = none → after.call? l = none
  length : next.listeners.length = relay.listeners.length
  tasks : AddsCloses relay next
  listeners : ∀ l listener, relay.listeners[l]? = some listener →
    ∃ other, next.listeners[l]? = some other ∧ other.config = listener.config ∧
      GetsOn listener.config (task.call? l) listener.lifecycle (after.call? l) other.lifecycle

variable {relay next : Relay} {task after : Task} {l : Nat}

namespace Advances

theorem of_spares (spares : Spares relay next) (nested : after.IsNested)
    (calls : ∀ l, after.call? l = task.call? l ∨ after.call? l = none) :
    Advances relay task next after where
  nested := nested
  idle l none := by
    rcases calls l with same | gone
    · rw [same, none]
    · exact gone
  length := spares.length
  tasks := spares.tasks
  listeners l listener present := by
    obtain ⟨other, there, same⟩ := spares.listener present
    obtain ⟨config, lifecycle⟩ := Prod.mk.inj same
    refine ⟨other, there, config, ?_⟩
    rw [lifecycle]
    rcases calls l with same | gone
    · rw [same]
      exact .stays
    · rw [gone]
      exact .leaves

/-- The call that the task makes on listener `l` has got on. -/
theorem of_goes {call further : Call Nat Nat} (nested : after.IsNested)
    (here : task.call? l = some call) (there : after.call? l = some further)
    (apart : ∀ k, k ≠ l → after.call? k = none)
    (length : next.listeners.length = relay.listeners.length)
    (tasks : AddsCloses relay next)
    (listeners : ∀ k listener, relay.listeners[k]? = some listener →
      ∃ other, next.listeners[k]? = some other ∧ other.config = listener.config ∧
        if k = l then call.Leads listener.config listener.lifecycle further other.lifecycle
        else other.lifecycle = listener.lifecycle) :
    Advances relay task next after where
  nested := nested
  idle k none := by
    apply apart
    rintro rfl
    rw [here] at none
    cases none
  length := length
  tasks := tasks
  listeners k listener present := by
    obtain ⟨other, has, config, goes⟩ := listeners k listener present
    refine ⟨other, has, config, ?_⟩
    by_cases same : k = l
    · subst same
      rw [if_pos rfl] at goes
      rw [here, there]
      exact .goes goes
    · rw [if_neg same] at goes
      rw [apart k same, goes]
      exact .leaves

theorem of_set {listener : Listener} {lifecycle : Lifecycle Nat} {call further : Call Nat Nat}
    (present : relay.listeners[l]? = some listener)
    (spares : Spares (relay.setListener l { listener with lifecycle }) next) (nested : after.IsNested)
    (here : task.call? l = some call) (there : after.call? l = some further)
    (apart : ∀ k, k ≠ l → after.call? k = none)
    (leads : call.Leads listener.config listener.lifecycle further lifecycle) :
    Advances relay task next after := by
  apply of_goes nested here there apart (spares.length.trans (length_setListener _)) spares.tasks
  intro k old known
  by_cases same : k = l
  · subst same
    rw [present] at known
    cases known
    obtain ⟨other, has, standing⟩ := spares.listener (getElem?_setListener present _)
    obtain ⟨config, left⟩ := Prod.mk.inj standing
    refine ⟨other, has, config, ?_⟩
    rw [if_pos rfl, left]
    exact leads
  · have kept : (relay.setListener l { listener with lifecycle }).listeners[k]? = some old := by
      rw [setListener, List.getElem?_set_ne (Ne.symm same), known]
    obtain ⟨other, has, standing⟩ := spares.listener kept
    obtain ⟨config, left⟩ := Prod.mk.inj standing
    exact ⟨other, has, config, by rw [if_neg same, left]⟩

/-- The listener is as it was. -/
theorem of_same {call further : Call Nat Nat} (spares : Spares relay next) (nested : after.IsNested)
    (here : task.call? l = some call) (there : after.call? l = some further)
    (apart : ∀ k, k ≠ l → after.call? k = none)
    (leads : ∀ config found, call.Leads config found further found) :
    Advances relay task next after := by
  apply of_goes nested here there apart spares.length spares.tasks
  intro k old known
  obtain ⟨other, has, standing⟩ := spares.listener known
  obtain ⟨config, left⟩ := Prod.mk.inj standing
  refine ⟨other, has, config, ?_⟩
  rw [left]
  split
  · exact leads _ _
  · rfl

end Advances

theorem advances_replied {reply : Reply} (spares : Spares relay next)
    (leaves : (Next.reply reply).task? [] = some after) : Advances relay task next after := by
  cases leaves
  exact .of_spares spares (by simp [Task.IsNested]) fun _ => .inr rfl

theorem nested_single (frame : Frame) : (Task.active none [frame]).IsNested := by simp [Task.IsNested]

theorem nested_pair {callee : Frame} (inner : callee.isInner) (frame : Frame) :
    (Task.active none [callee, frame]).IsNested := by simp [Task.IsNested, inner]

theorem advances_start {point : Lifecycle.Start Nat}
    (leaves : (relay.step (.start l point)).2.task? [] = some after) :
    Advances relay (.active none [.start l point]) (relay.step (.start l point)).1 after := by
  have here : (Task.active none [.start l point]).call? l = some (.start point) := if_pos rfl
  cases present : relay.listeners[l]? with
  | none =>
    simp only [step, present] at leaves ⊢
    exact advances_replied (.refl relay) leaves
  | some listener =>
    have ownStep : point = .claim ∨ point = .confirm ∨ point = .reclaim →
        Advances relay (.active none [.start l point]) (relay.step (.start l point)).1 after := by
      intro own
      cases goes : listener.lifecycle.start listener.config point with
      | mk lifecycle others =>
        obtain ⟨records, following⟩ := others
        have stepped : relay.step (.start l point) =
            ((relay.setListener l { listener with lifecycle }).log records,
              .go (.start l following)) := by
          rcases own with rfl | rfl | rfl <;> simp only [step, present, goes]
        rw [stepped] at leaves ⊢
        cases leaves
        exact .of_set present (.log (.refl _) _) (nested_single _) here (if_pos rfl)
          (fun _ apart => if_neg apart.symm) (.of_start own goes)
    cases point with
    | claim => exact ownStep (.inl rfl)
    | confirm => exact ownStep (.inr (.inl rfl))
    | reclaim => exact ownStep (.inr (.inr rfl))
    | create =>
      cases has : relay.handles[listener.handle]? with
      | none =>
        simp only [step, present, has] at leaves ⊢
        exact advances_replied (.refl relay) leaves
      | some handle =>
        simp only [step, present, has] at leaves ⊢
        cases leaves
        exact .of_same (.refl relay) (nested_pair rfl _) here (if_pos rfl)
          (fun _ apart => if_neg apart.symm) fun _ _ => .of_go .go fun _ => ⟨_, rfl⟩
    | discard receiver =>
      simp only [step, present] at leaves ⊢
      cases leaves
      exact .of_same (.refl relay) (nested_pair rfl _) here (if_pos rfl)
        (fun _ apart => if_neg apart.symm) fun _ _ => .of_go .go fun _ => ⟨_, rfl⟩
    | register receiver =>
      have spares := @spares_register relay receiver (.dispatcher l)
      simp only [step, present] at leaves ⊢
      cases leaves
      exact .of_set present (spares.setBoth l _) (nested_single _) here (if_pos rfl)
        (fun _ apart => if_neg apart.symm) (.of_go (.result _) fun _ => ⟨_, rfl⟩)
    | done result =>
      simp only [step, present] at leaves ⊢
      exact advances_replied (.refl relay) leaves

theorem advances_stop {point : Lifecycle.Stop Nat}
    (leaves : (relay.step (.stop l point)).2.task? [] = some after) :
    Advances relay (.active none [.stop l point]) (relay.step (.stop l point)).1 after := by
  have here : (Task.active none [.stop l point]).call? l = some (.stop point) := if_pos rfl
  cases present : relay.listeners[l]? with
  | none =>
    simp only [step, present] at leaves ⊢
    exact advances_replied (.refl relay) leaves
  | some listener =>
    have ownStep : point = .read ∨ (∃ current, point = .claim current) ∨ point = .take ∨ point = .finish →
        Advances relay (.active none [.stop l point]) (relay.step (.stop l point)).1 after := by
      intro own
      cases goes : listener.lifecycle.stop listener.config point with
      | mk lifecycle others =>
        obtain ⟨records, following⟩ := others
        have stepped : relay.step (.stop l point) =
            ((relay.setListener l { listener with lifecycle }).log records,
              .go (.stop l following)) := by
          rcases own with rfl | ⟨current, rfl⟩ | rfl | rfl <;> simp only [step, present, goes]
        rw [stepped] at leaves ⊢
        cases leaves
        exact .of_set present (.log (.refl _) _) (nested_single _) here (if_pos rfl)
          (fun _ apart => if_neg apart.symm) (.of_stop own goes)
    cases point with
    | read => exact ownStep (.inl rfl)
    | claim current => exact ownStep (.inr (.inl ⟨current, rfl⟩))
    | take => exact ownStep (.inr (.inr (.inl rfl)))
    | finish => exact ownStep (.inr (.inr (.inr rfl)))
    | close receiver =>
      simp only [step, present] at leaves ⊢
      cases leaves
      exact .of_same (.refl relay) (nested_pair rfl _) here (if_pos rfl)
        (fun _ apart => if_neg apart.symm) fun _ _ => .of_go .go fun _ => ⟨_, rfl⟩
    | release =>
      simp only [step, present] at leaves ⊢
      cases leaves
      exact .of_same (.refl relay) (nested_pair rfl _) here (if_pos rfl)
        (fun _ apart => if_neg apart.symm) fun _ _ => .of_go .go fun _ => ⟨_, rfl⟩
    | done =>
      simp only [step, present] at leaves ⊢
      exact advances_replied (.refl relay) leaves

theorem advances_resume {frame : Frame} {reply : Reply} (outer : frame.isInner = false)
    (leaves : (relay.resume frame reply).2.task? [] = some after) :
    Advances relay (.active (some reply) [frame]) (relay.resume frame reply).1 after := by
  cases frame with
  | start l point =>
    cases point with
    | claim | register | confirm | reclaim | done => exact advances_replied (spares_resume _ _) leaves
    | create =>
      cases reply with
      | finished | started | closed => exact advances_replied (spares_resume _ _) leaves
      | receiver result =>
        cases leaves
        exact .of_same (.refl relay) (nested_single _) (if_pos rfl) (if_pos rfl)
          (fun _ apart => if_neg apart.symm) fun _ _ => .of_go (.receiver result) fun _ => ⟨_, rfl⟩
    | discard receiver =>
      cases reply with
      | finished | started | receiver => exact advances_replied (spares_resume _ _) leaves
      | closed result =>
        have spares := @spares_resume relay (.start l (.discard receiver)) (.closed result)
        cases present : relay.listeners[l]? with
        | none =>
          simp only [resume, present] at leaves ⊢
          exact advances_replied (.refl relay) leaves
        | some listener =>
          simp only [resume, present] at leaves spares ⊢
          cases leaves
          exact .of_same spares (nested_single _) (if_pos rfl) (if_pos rfl)
            (fun _ apart => if_neg apart.symm) fun _ _ => .of_go (.result result) fun _ => ⟨_, rfl⟩
  | stop l point =>
    cases point with
    | read | claim | take | finish | done => exact advances_replied (spares_resume _ _) leaves
    | close receiver =>
      cases reply with
      | finished | started | receiver => exact advances_replied (spares_resume _ _) leaves
      | closed result =>
        have spares := @spares_resume relay (.stop l (.close receiver)) (.closed result)
        cases present : relay.listeners[l]? with
        | none =>
          simp only [resume, present] at leaves ⊢
          exact advances_replied (.refl relay) leaves
        | some listener =>
          simp only [resume, present] at leaves spares ⊢
          cases leaves
          exact .of_same spares (nested_single _) (if_pos rfl) (if_pos rfl)
            (fun _ apart => if_neg apart.symm) fun _ _ => .of_go (.result result) fun _ => ⟨_, rfl⟩
    | release =>
      have released : relay.resume (.stop l .release) reply =
          (relay, .go (.stop l Lifecycle.released)) := by cases reply <;> rfl
      rw [released] at leaves ⊢
      cases leaves
      exact .of_same (.refl relay) (nested_single _) (if_pos rfl) (if_pos rfl)
        (fun _ apart => if_neg apart.symm) fun _ _ =>
          Call.Leads.of_mark.trans (.of_go .go fun _ => ⟨_, rfl⟩)
  | _ => cases outer

theorem advances_inner {frame : Frame} {waiting : List Frame} {answer : Option Reply}
    {outcome : Relay × Next} (inner : frame.isInner)
    (nested : (Task.active answer (frame :: waiting)).IsNested) (goes : Inner relay outcome)
    (leaves : outcome.2.task? waiting = some after) :
    Advances relay (.active answer (frame :: waiting)) outcome.1 after := by
  obtain ⟨still, calls⟩ := Next.task_inner goes.2 (Task.nested_tail nested answer) leaves
  exact .of_spares goes.1 still fun l => .inl ((calls l).trans (Task.call?_cons answer inner).symm)

theorem advances (nested : task.IsNested) (advanced : relay.advance? task = some (next, after)) :
    Advances relay task next after := by
  cases task with
  | finished | gone => cases advanced
  | active answer frames =>
    cases frames with
    | nil =>
      cases answer <;> cases advanced <;> exact .of_spares (.refl relay) trivial fun _ => .inr rfl
    | cons frame waiting =>
      -- Whoever is waited for is inner, so only the outermost call can be one on a listener.
      have place : frame.isInner = true ∨ frame.isInner = false ∧ waiting = [] := by
        cases inner : frame.isInner with
        | true => exact .inl rfl
        | false =>
          cases waiting with
          | nil => exact .inr ⟨rfl, rfl⟩
          | cons second rest => exact absurd (Task.inner_of_nested nested) (by simp [inner])
      cases answer with
      | none =>
        obtain ⟨left, leaves, same⟩ : ∃ left, (relay.step frame).2.task? waiting = some left ∧
            ((relay.step frame).1, left) = (next, after) := Option.map_eq_some_iff.mp advanced
        cases same
        rcases place with inner | ⟨outer, rfl⟩
        · exact advances_inner inner nested (inner_step inner) leaves
        · cases frame with
          | start l point => exact advances_start leaves
          | stop l point => exact advances_stop leaves
          | _ => cases outer
      | some reply =>
        obtain ⟨left, leaves, same⟩ : ∃ left, (relay.resume frame reply).2.task? waiting = some left ∧
            ((relay.resume frame reply).1, left) = (next, after) := Option.map_eq_some_iff.mp advanced
        cases same
        rcases place with inner | ⟨outer, rfl⟩
        · exact advances_inner inner nested (inner_resume inner reply) leaves
        · exact advances_resume outer leaves

end Relay

end EventRelay
