import EventRelay.Proofs.Relay.Enacting

namespace EventRelay.Relay

open Lifecycle (Call System)

/-- The call on listener `l` that task `t` makes, if it makes one. -/
def callOn (relay : Relay) (l t : Nat) : Option (Call Nat Nat) :=
  (relay.tasks[t]?).bind (Task.call? l)

/-- Each call that a task makes on listener `l` is one of the system's calls. -/
structure Places (relay : Relay) (l : Nat) (system : System Nat Nat) (place : Nat → Nat) : Prop where
  there : ∀ t call, relay.callOn l t = some call → system.calls[place t]? = some call
  apart : ∀ t u, (relay.callOn l t).isSome → (relay.callOn l u).isSome → place t = place u → t = u

/-- The system has the state and the slot of listener `l`, and all calls that are under way on it. -/
def Shows (relay : Relay) (l : Nat) (config : ListenerConfig) (system : System Nat Nat) : Prop :=
  (∃ listener, relay.listeners[l]? = some listener ∧
    listener.standing = (config, system.common.lifecycle)) ∧
  ∃ place, relay.Places l system place

/-- There are no calls on listeners that were not made. -/
structure Tidy (relay : Relay) : Prop where
  nested : ∀ task ∈ relay.tasks, task.IsNested
  known : ∀ task ∈ relay.tasks, ∀ l, relay.listeners.length ≤ l → task.call? l = none

/-- Calls have gone on by moves of their own, each listener's by those that its system can make. -/
structure Evolves (relay next : Relay) : Prop where
  tidy : next.Tidy
  length : relay.listeners.length ≤ next.listeners.length
  moves : ∀ l config system, relay.Shows l config system →
    ∃ moves later, system.run config moves = some later ∧ next.Shows l config later
  new : ∀ l listener, relay.listeners.length ≤ l → next.listeners[l]? = some listener →
    ∃ system, system.Reachable listener.config ∧ next.Shows l listener.config system

variable {relay next final : Relay} {l t : Nat} {config : ListenerConfig} {system : System Nat Nat}

theorem Shows.known (shows : relay.Shows l config system) : l < relay.listeners.length := by
  obtain ⟨⟨listener, present, _⟩, _⟩ := shows
  exact (List.getElem?_eq_some_iff.mp present).1

/-- The listener stands where it stood, and of its calls none has got on, though some may be gone. -/
theorem Shows.carry (shows : relay.Shows l config system)
    (listener : ∃ other, next.listeners[l]? = some other ∧
      other.standing = (config, system.common.lifecycle))
    (calls : ∀ u, next.callOn l u = relay.callOn l u ∨ next.callOn l u = none) :
    next.Shows l config system := by
  obtain ⟨_, place, places⟩ := shows
  have kept : ∀ {u call}, next.callOn l u = some call → relay.callOn l u = some call := by
    intro u call has
    rcases calls u with same | gone
    · rw [← same, has]
    · rw [gone] at has
      cases has
  refine ⟨listener, place, fun u call has => places.there u call (kept has), ?_⟩
  intro u v first second
  obtain ⟨call, first⟩ := Option.isSome_iff_exists.mp first
  obtain ⟨other, second⟩ := Option.isSome_iff_exists.mp second
  apply places.apart
  · simp [kept first]
  · simp [kept second]

/-- Moves of the call that task `t` makes bring it to where the task then is. -/
theorem Shows.goes {listener other : Listener} {call further : Call Nat Nat}
    (shows : relay.Shows l config system) (present : relay.listeners[l]? = some listener)
    (here : relay.callOn l t = some call) (there : next.listeners[l]? = some other)
    (same : other.config = listener.config)
    (leads : call.Leads listener.config listener.lifecycle further other.lifecycle)
    (calls : ∀ u, next.callOn l u = if u = t then some further else relay.callOn l u) :
    ∃ moves later, system.run config moves = some later ∧ next.Shows l config later := by
  obtain ⟨⟨old, known, standing⟩, place, places⟩ := shows
  rw [present, Option.some.injEq] at known
  subst known
  obtain ⟨rfl, found⟩ := Prod.mk.inj standing
  have mine := places.there t call here
  obtain ⟨moves, later, ran, became, left⟩ := leads system (place t) mine found.symm
  have before : ∀ {u}, (next.callOn l u).isSome → (relay.callOn l u).isSome := by
    intro u has
    by_cases now : u = t
    · rw [now, here]
      rfl
    · rwa [calls, if_neg now] at has
  refine ⟨moves, later, ran, ⟨other, there, by rw [left, ← same]; rfl⟩, place, ?_, ?_⟩
  · intro u x has
    rw [calls] at has
    rw [became]
    by_cases now : u = t
    · rw [if_pos now] at has
      rw [now, List.getElem?_set_self (List.getElem?_eq_some_iff.mp mine).1, has]
    · rw [if_neg now] at has
      have elsewhere : place t ≠ place u := by
        intro same
        exact now (places.apart t u (by simp [here]) (by simp [has]) same).symm
      rw [List.getElem?_set_ne elsewhere]
      exact places.there u x has
  · exact fun u v first second => places.apart u v (before first) (before second)

namespace Evolves

theorem refl (tidy : relay.Tidy) : Evolves relay relay where
  tidy := tidy
  length := Nat.le_refl _
  moves _ _ system shows := ⟨[], system, rfl, shows⟩
  new l listener outside present := by
    obtain ⟨inside, _⟩ := List.getElem?_eq_some_iff.mp present
    omega

theorem trans (first : Evolves relay next) (second : Evolves next final) : Evolves relay final where
  tidy := second.tidy
  length := Nat.le_trans first.length second.length
  moves l config system shows := by
    obtain ⟨moves, middle, ran, shows⟩ := first.moves l config system shows
    obtain ⟨others, later, ranToo, shows⟩ := second.moves l config middle shows
    refine ⟨moves ++ others, later, ?_, shows⟩
    rw [System.run_append, ran]
    exact ranToo
  new l listener outside present := by
    by_cases made : next.listeners.length ≤ l
    · exact second.new l listener made present
    · have there := List.getElem?_eq_getElem (Nat.lt_of_not_le made)
      obtain ⟨system, reachable, shows⟩ := first.new l _ outside there
      obtain ⟨moves, later, ran, shows⟩ := second.moves l _ system shows
      obtain ⟨⟨other, has, standing⟩, calls⟩ := shows
      rw [present, Option.some.injEq] at has
      subst has
      obtain ⟨config, _⟩ := Prod.mk.inj standing
      rw [config]
      exact ⟨later, reachable.run ran, ⟨_, present, standing⟩, calls⟩

/-- No listener is made. -/
theorem of_length (tidy : next.Tidy) (length : next.listeners.length = relay.listeners.length)
    (moves : ∀ l config system, relay.Shows l config system →
      ∃ moves later, system.run config moves = some later ∧ next.Shows l config later) :
    Evolves relay next where
  tidy := tidy
  length := Nat.le_of_eq length.symm
  moves := moves
  new l listener outside present := by
    obtain ⟨inside, _⟩ := List.getElem?_eq_some_iff.mp present
    omega

end Evolves

theorem callOn_closes (closes : AddsCloses relay next) (l u : Nat) :
    next.callOn l u = relay.callOn l u := by
  obtain ⟨added, tasks, closes⟩ := closes
  rw [callOn, callOn, tasks, List.getElem?_append]
  split
  · rfl
  · rename_i outside
    rw [List.getElem?_eq_none (Nat.le_of_not_lt outside)]
    cases there : added[u - relay.tasks.length]? with
    | none => rfl
    | some task =>
      obtain ⟨name, connection, rfl⟩ := closes task (List.mem_of_getElem? there)
      rfl

theorem callOn_onTask (inside : t < relay.tasks.length) (after : Task) (l u : Nat) :
    (relay.onTask t after).callOn l u = if u = t then after.call? l else relay.callOn l u := by
  rw [callOn, onTask, List.getElem?_set]
  by_cases same : t = u
  · subst same
    simp [inside]
  · rw [if_neg same, if_neg (Ne.symm same)]
    rfl

theorem Tidy.closes (tidy : relay.Tidy) (closes : AddsCloses relay next)
    (length : next.listeners.length = relay.listeners.length) : next.Tidy where
  nested task member := by
    rcases closes.mem member with member | ⟨name, connection, rfl⟩
    · exact tidy.nested task member
    · exact nested_single _
  known task member l outside := by
    rw [length] at outside
    rcases closes.mem member with member | ⟨name, connection, rfl⟩
    · exact tidy.known task member l outside
    · rfl

theorem Tidy.onTask {after : Task} (tidy : relay.Tidy) (nested : after.IsNested)
    (known : ∀ l, relay.listeners.length ≤ l → after.call? l = none) : (relay.onTask t after).Tidy where
  nested task member := by
    rcases List.mem_or_eq_of_mem_set member with member | rfl
    · exact tidy.nested task member
    · exact nested
  known task member := by
    rcases List.mem_or_eq_of_mem_set member with member | rfl
    · exact tidy.known task member
    · exact known

theorem evolves_spares (tidy : relay.Tidy) (spares : Spares relay next) : Evolves relay next := by
  apply Evolves.of_length (tidy.closes spares.tasks spares.length) spares.length
  intro l config system shows
  obtain ⟨listener, present, standing⟩ := shows.1
  obtain ⟨other, there, same⟩ := spares.listener present
  exact ⟨[], system, rfl, shows.carry ⟨other, there, same.trans standing⟩ fun u =>
    .inl (callOn_closes spares.tasks l u)⟩

/-- A step of a task moves no call, or the one that the task makes on a listener, to where it then is. -/
theorem evolves_advance {task after : Task} (tidy : relay.Tidy) (there : relay.tasks[t]? = some task)
    (advances : Advances relay task next after) : Evolves relay (next.onTask t after) := by
  obtain ⟨inside, _⟩ := List.getElem?_eq_some_iff.mp there
  have longer : t < next.tasks.length := Nat.lt_of_lt_of_le inside advances.tasks.length
  have member : task ∈ relay.tasks := List.mem_of_getElem? there
  have calls : ∀ l u, (next.onTask t after).callOn l u =
      if u = t then after.call? l else relay.callOn l u := by
    intro l u
    rw [callOn_onTask longer, callOn_closes advances.tasks]
  have tidied : (next.onTask t after).Tidy := by
    apply (tidy.closes advances.tasks advances.length).onTask advances.nested
    intro l outside
    rw [advances.length] at outside
    exact advances.idle l (tidy.known task member l outside)
  apply Evolves.of_length tidied advances.length
  intro l config system shows
  obtain ⟨listener, present, standing⟩ := shows.1
  obtain ⟨other, known, same, getsOn⟩ := advances.listeners l listener present
  have has : (next.onTask t after).listeners[l]? = some other := known
  have here : relay.callOn l t = task.call? l := by rw [callOn, there, Option.bind_some]
  rcases getsOn.stays_or_goes with ⟨left, now⟩ | ⟨call, further, is, becomes, leads⟩
  · refine ⟨[], system, rfl, shows.carry ⟨other, has, ?_⟩ fun u => ?_⟩
    · rw [← standing, Listener.standing, Listener.standing, same, left]
    · rw [calls]
      by_cases this : u = t
      · rw [if_pos this, this, here]
        exact now
      · exact .inl (if_neg this)
  · apply shows.goes present (here.trans is) has same leads
    intro u
    rw [calls, becomes]

theorem evolves_run (tidy : relay.Tidy) (t fuel : Nat) : Evolves relay (relay.run t fuel) := by
  induction fuel generalizing relay with
  | zero => exact .refl tidy
  | succ fuel ih =>
    rw [run]
    cases there : relay.tasks[t]? with
    | none => exact .refl tidy
    | some task =>
      rw [Option.bind_some]
      cases advanced : relay.advance? task with
      | none => exact .refl tidy
      | some outcome =>
        obtain ⟨next, after⟩ := outcome
        have nested := tidy.nested task (List.mem_of_getElem? there)
        have first := evolves_advance tidy there (advances nested advanced)
        exact first.trans (ih first.tidy)

theorem evolves_settle (tidy : relay.Tidy) (fuel : Nat) : Evolves relay (relay.settle fuel) := by
  induction fuel generalizing relay with
  | zero => exact .refl tidy
  | succ fuel ih =>
    rw [settle]
    split
    · rename_i t _
      have ran := evolves_run tidy t taskSteps
      have collected := ran.trans (evolves_spares ran.tidy (spares_collect true))
      exact collected.trans (ih collected.tidy)
    · have flushed := evolves_spares tidy spares_flushAll
      simp only
      split
      · exact flushed.trans (ih flushed.tidy)
      · exact flushed

theorem Evolves.rest (evolves : Evolves relay next) : Evolves relay next.rest :=
  evolves.trans (evolves_settle evolves.tidy _)

theorem Evolves.spares (evolves : Evolves relay next) (spares : Spares next final) :
    Evolves relay final :=
  evolves.trans (evolves_spares evolves.tidy spares)

/-- A call that begins, on a listener only if there is such a listener. -/
def IsCall (relay : Relay) (frame : Frame) : Prop :=
  frame.isInner ∨ ∃ l < relay.listeners.length, frame = .start l .claim ∨ frame = .stop l .read

theorem callOn_addTask (frame : Frame) (l u : Nat) : (relay.addTask frame).1.callOn l u =
    if u = relay.tasks.length then frame.call? l else relay.callOn l u := by
  rw [callOn, callOn, addTask, List.getElem?_append]
  by_cases new : u = relay.tasks.length
  · subst new
    simp [Task.call?]
  · rw [if_neg new]
    split
    · rfl
    · rename_i outside
      rw [List.getElem?_eq_none (by simp only [List.length_singleton]; omega),
        List.getElem?_eq_none (Nat.le_of_not_lt outside)]

theorem Shows.calling {frame : Frame} {call : Call Nat Nat} (shows : relay.Shows l config system)
    (is : frame.call? l = some call) : (relay.addTask frame).1.Shows l config (system.calling call) := by
  obtain ⟨listener, place, places⟩ := shows
  have old : ∀ {u x}, relay.callOn l u = some x → place u < system.calls.length :=
    fun has => (List.getElem?_eq_some_iff.mp (places.there _ _ has)).1
  refine ⟨listener, fun u => if u = relay.tasks.length then system.calls.length else place u, ?_, ?_⟩
  · intro u x has
    rw [callOn_addTask] at has
    by_cases new : u = relay.tasks.length
    · rw [if_pos new, is] at has
      rw [if_pos new, System.calling, List.getElem?_concat_length, has]
    · rw [if_neg new] at has
      rw [if_neg new, System.calling, List.getElem?_append_left (old has)]
      exact places.there u x has
  · intro u v first second same
    obtain ⟨x, first⟩ := Option.isSome_iff_exists.mp first
    obtain ⟨y, second⟩ := Option.isSome_iff_exists.mp second
    rw [callOn_addTask] at first second
    by_cases new : u = relay.tasks.length
    · by_cases newToo : v = relay.tasks.length
      · rw [new, newToo]
      · rw [if_neg newToo] at second
        rw [if_pos new, if_neg newToo] at same
        have small := old second
        omega
    · rw [if_neg new] at first
      by_cases newToo : v = relay.tasks.length
      · rw [if_neg new, if_pos newToo] at same
        have small := old first
        omega
      · rw [if_neg newToo] at second
        rw [if_neg new, if_neg newToo] at same
        exact places.apart u v (by simp [first]) (by simp [second]) same

theorem evolves_addTask {frame : Frame} (tidy : relay.Tidy) (begins : relay.IsCall frame) :
    Evolves relay (relay.addTask frame).1 := by
  have known : ∀ l, relay.listeners.length ≤ l → frame.call? l = none := by
    intro l outside
    rcases begins with inner | ⟨k, inside, rfl | rfl⟩
    · exact Frame.call?_inner inner
    · exact if_neg (by omega)
    · exact if_neg (by omega)
  have member : ∀ task ∈ (relay.addTask frame).1.tasks,
      task ∈ relay.tasks ∨ task = .active none [frame] := by
    intro task member
    simpa [addTask] using member
  have tidied : (relay.addTask frame).1.Tidy := by
    refine ⟨fun task among => ?_, fun task among l outside => ?_⟩
    · rcases member task among with among | rfl
      · exact tidy.nested task among
      · exact nested_single _
    · rcases member task among with among | rfl
      · exact tidy.known task among l outside
      · exact known l outside
  refine Evolves.of_length tidied rfl fun l config system shows => ?_
  cases is : frame.call? l with
  | none =>
    refine ⟨[], system, rfl, shows.carry shows.1 fun u => ?_⟩
    rw [callOn_addTask]
    by_cases new : u = relay.tasks.length
    · rw [if_pos new]
      exact .inr is
    · exact .inl (if_neg new)
  | some call =>
    have moved : ∃ move, system.step config move = some (system.calling call) := by
      rcases begins with inner | ⟨k, _, rfl | rfl⟩
      · rw [Frame.call?_inner inner] at is
        cases is
      · simp only [Frame.call?] at is
        split at is <;> cases is
        exact ⟨.start, rfl⟩
      · simp only [Frame.call?] at is
        split at is <;> cases is
        exact ⟨.stop, rfl⟩
    obtain ⟨move, moved⟩ := moved
    exact ⟨[move], system.calling call, by simp only [System.run, moved], shows.calling is⟩

theorem evolves_spawn {frame : Frame} (tidy : relay.Tidy) (begins : relay.IsCall frame) :
    Evolves relay (relay.spawn frame).1 := (evolves_addTask tidy begins).rest

theorem evolves_call {frame : Frame} (tidy : relay.Tidy) (begins : relay.IsCall frame) :
    Evolves relay (relay.call frame).1 := evolves_spawn tidy begins

theorem evolves_callAll {frames : List Frame} (tidy : relay.Tidy)
    (begin : ∀ frame ∈ frames, relay.IsCall frame) : Evolves relay (relay.callAll frames).1 := by
  have added : Evolves relay (frames.foldl (fun relay frame => (relay.addTask frame).1) relay) := by
    induction frames generalizing relay with
    | nil => exact .refl tidy
    | cons frame rest ih =>
      have first := evolves_addTask tidy (begin frame List.mem_cons_self)
      exact first.trans (ih first.tidy fun frame among => begin frame (List.mem_cons_of_mem _ among))
  exact added.rest

theorem evolves_cancel (tidy : relay.Tidy) (t : Nat) : Evolves relay (relay.cancel t) := by
  unfold cancel
  split
  · rename_i answer frames there
    have inside := (List.getElem?_eq_some_iff.mp there).1
    have abandoned : Spares relay (frames.foldl abandon relay) :=
      .foldl (fun _ frame => spares_abandon frame) frames relay
    have left := evolves_spares tidy abandoned
    have longer : t < (frames.foldl abandon relay).tasks.length :=
      Nat.lt_of_lt_of_le inside abandoned.tasks.length
    have gone : Evolves (frames.foldl abandon relay) ((frames.foldl abandon relay).onTask t .gone) := by
      refine Evolves.of_length (left.tidy.onTask trivial fun _ _ => rfl) rfl
        fun l config system shows => ?_
      refine ⟨[], system, rfl, shows.carry shows.1 fun u => ?_⟩
      rw [callOn_onTask longer]
      by_cases this : u = t
      · rw [if_pos this]
        exact .inr rfl
      · exact .inl (if_neg this)
    exact ((left.trans gone).spares (spares_collect true)).rest
  · exact .refl tidy

theorem evolves_letGo (tidy : relay.Tidy) (held : Held) (background : Bool) :
    Evolves relay (relay.letGo held background) := by
  have freed : Spares relay { relay with held := relay.held.erase held } := .of_eq rfl rfl
  exact ((evolves_spares tidy freed).spares (spares_collect background)).rest

/-- A listener is made, on which there are no calls yet. -/
theorem evolves_made {listener : Listener} (tidy : relay.Tidy) (new : listener.lifecycle = {})
    (held : List Held) :
    Evolves relay { relay with listeners := relay.listeners ++ [listener], held } where
  tidy := by
    refine ⟨tidy.nested, fun task member l outside => tidy.known task member l ?_⟩
    simp only [List.length_append] at outside
    omega
  length := by simp
  moves l config system shows := by
    obtain ⟨old, present, standing⟩ := shows.1
    refine ⟨[], system, rfl, shows.carry ⟨old, ?_, standing⟩ fun u => .inl rfl⟩
    exact (List.getElem?_append_left shows.known).trans present
  new l other outside present := by
    rcases last_or_same present with ⟨_, rfl⟩ | old
    · have nobody : ∀ u call, relay.callOn l u ≠ some call := by
        intro u call has
        obtain ⟨task, there, has⟩ := Option.bind_eq_some_iff.mp has
        rw [tidy.known task (List.mem_of_getElem? there) l outside] at has
        cases has
      refine ⟨.initial {}, ⟨{}, [], rfl⟩, ⟨_, present, ?_⟩, id, ?_, ?_⟩
      · rw [Listener.standing, new]
        rfl
      · exact fun u call has => absurd has (nobody u call)
      · intro u v has
        obtain ⟨call, has⟩ := Option.isSome_iff_exists.mp has
        exact absurd has (nobody u call)
    · obtain ⟨inside, _⟩ := List.getElem?_eq_some_iff.mp old
      omega

theorem evolves_listen {registry : Nat} {factory : Factory} {sink : Sink} {diagnostics : Option String}
    {result : Except ListenerError Nat} (tidy : relay.Tidy)
    (listened : relay.listen config registry factory sink diagnostics = (next, result)) :
    Evolves relay next ∧ ∀ l, result = .ok l → l < next.listeners.length := by
  have resolves := evolves_spares tidy (spares_resolve registry config.id config.params factory true)
  rw [listen] at listened
  cases resolved : relay.resolve registry config.id config.params factory true with | mk left handle =>
  rw [resolved] at listened resolves
  cases handle with
  | error e =>
    cases listened
    exact ⟨resolves, nofun⟩
  | ok h =>
    cases listened
    refine ⟨resolves.trans (evolves_made resolves.tidy rfl _), ?_⟩
    rintro l ⟨⟩
    simp

theorem evolves_handle {registry : Nat} {name : String} {params : ConnectionParams} {factory : Factory}
    {result : Except ProviderError Nat} (tidy : relay.Tidy)
    (handled : relay.handle registry name params factory = (next, result)) : Evolves relay next := by
  have resolves := evolves_spares tidy (spares_resolve registry name params factory false)
  rw [Relay.handle] at handled
  cases resolved : relay.resolve registry name params factory false with | mk left handle =>
  rw [resolved] at handled resolves
  cases handle with
  | error e =>
    cases handled
    exact resolves
  | ok h =>
    cases handled
    exact resolves.spares (.of_eq rfl rfl)

end EventRelay.Relay
