import EventRelay.Session
import EventRelay.Proofs.Listener.Starts
import EventRelay.Proofs.Relay.Fidelity

namespace EventRelay

namespace Lifecycle

/-- A stop between its move to stopping and its move to stopped. -/
def Call.disposes (call : Call Nat Nat) : Bool :=
  call.atTake || call.isClosing || call.isReleasing || call.atFinish

theorem System.callsAt_disposes (system : System Nat Nat) : system.callsAt Call.disposes =
    system.callsAt Call.atTake + system.callsAt Call.isClosing + system.callsAt Call.isReleasing +
      system.callsAt Call.atFinish := by
  unfold callsAt
  induction system.calls with
  | nil => rfl
  | cons call rest ih =>
    simp only [List.countP_cons, ih]
    have once : (if call.disposes then 1 else 0) = (if call.atTake then 1 else 0) +
        (if call.isClosing then 1 else 0) + (if call.isReleasing then 1 else 0) +
        (if call.atFinish then 1 else 0) := by
      cases call with
      | start point | stop point => cases point <;> rfl
      | _ => rfl
    omega

end Lifecycle

namespace Session

open Relay (Evolves Spares)

/-- Names of listeners stand for listeners that were made. -/
structure Sound (session : Session) : Prop where
  tidy : session.relay.Tidy
  named : ∀ entry ∈ session.listeners, entry.2 < session.relay.listeners.length

structure Continues (session next : Session) : Prop where
  evolves : Evolves session.relay next.relay
  named : ∀ entry ∈ next.listeners, entry.2 < next.relay.listeners.length

variable {session next final : Session}

theorem Continues.sound (continues : Continues session next) : next.Sound :=
  ⟨continues.evolves.tidy, continues.named⟩

theorem Continues.trans (first : Continues session next) (second : Continues next final) :
    Continues session final :=
  ⟨first.evolves.trans second.evolves, second.named⟩

theorem Continues.of_ok {result : Session × Answer} {answer : Answer}
    (continues : Continues session result.1)
    (returned : (.ok result : Except (List Thing) (Session × Answer)) = .ok (next, answer)) :
    Continues session next := by
  rw [Except.ok.inj returned] at continues
  exact continues

namespace Sound

variable (sound : session.Sound)
include sound

theorem goes (evolves : Evolves session.relay next.relay)
    (names : ∀ entry ∈ next.listeners, entry ∈ session.listeners) : Continues session next where
  evolves := evolves
  named entry among := Nat.lt_of_lt_of_le (sound.named entry (names entry among)) evolves.length

theorem spares (spares : Spares session.relay next.relay)
    (names : ∀ entry ∈ next.listeners, entry ∈ session.listeners) : Continues session next :=
  sound.goes (Relay.evolves_spares sound.tidy spares) names

theorem refl : Continues session session := ⟨.refl sound.tidy, sound.named⟩

theorem registry (name : String) : Continues session (session.registry name).1 := by
  unfold Session.registry
  split
  · exact sound.refl
  · exact sound.spares (.of_eq rfl rfl) fun _ => id

theorem found {name : String} {l : Nat} (found : find session.listeners .listener name = .ok l) :
    l < session.relay.listeners.length := by
  unfold find at found
  split at found
  · rename_i there
    cases found
    obtain ⟨before, after, same, _⟩ := List.lookup_eq_some_iff.mp there
    exact sound.named (name, l) (by simp [same])
  · cases found

theorem frame {operation : Operation} {frame : Frame} {config : ListenerConfig}
    (made : session.frame operation = .ok (frame, config)) : session.relay.IsCall frame := by
  cases operation with
  | start name =>
    obtain ⟨l, found, made⟩ := bind_eq_ok_iff.mp made
    cases made
    exact .inr ⟨l, sound.found found, .inl rfl⟩
  | stop name =>
    obtain ⟨l, found, made⟩ := bind_eq_ok_iff.mp made
    cases made
    exact .inr ⟨l, sound.found found, .inr rfl⟩
  | release | createReceiver | receiverOn | closeConnection | closeReceiver =>
    obtain ⟨_, _, made⟩ := bind_eq_ok_iff.mp made
    cases made
    exact .inl rfl

theorem letGo (held : Option Held) (background : Bool) :
    Continues session (session.letGo held background) := by
  cases held with
  | none => exact sound.refl
  | some held =>
    have left := Relay.evolves_letGo sound.tidy held background
    exact sound.goes left fun _ => id

theorem shut (name : String) : Continues session (session.shut name) := by
  unfold Session.shut
  split
  · refine sound.spares ?_ fun _ => id
    simp only
    split
    · rename_i present
      split
      · exact .setListener present rfl
      · exact .refl _
    · exact .refl _
  · exact sound.spares (.refl _) fun _ => id

theorem reads (sink : SinkChoice) (name : String) (listener : Option Nat) :
    Continues session (if sink = .channel then session.openChannel name listener else session) := by
  have shuts := sound.shut name
  split
  · exact shuts.trans (shuts.sound.spares (.refl _) fun _ => id)
  · exact sound.refl

theorem onBroker {name : String} {f : Memory.Broker Callback → Memory.Broker Callback} {answer : Answer}
    (done : session.onBroker name f = .ok (next, answer)) : Continues session next := by
  obtain ⟨i, _, done⟩ := bind_eq_ok_iff.mp done
  split at done
  · cases done
  · cases done
    exact sound.spares (.of_eq rfl rfl) fun _ => id

theorem onScript {name : String} {f : Script.Provider Callback → Script.Provider Callback}
    {answer : Answer} (done : session.onScript name f = .ok (next, answer)) : Continues session next := by
  obtain ⟨i, _, done⟩ := bind_eq_ok_iff.mp done
  split at done
  · cases done
  · cases done
    refine sound.goes (Relay.evolves_spares sound.tidy ?_).rest fun _ => id
    exact .of_eq rfl rfl

theorem register (receiver : Nat) (callback : Callback) :
    Continues session (session.register receiver callback).1 := by
  have spares := @Relay.spares_register session.relay receiver callback
  unfold Session.register
  cases registered : session.relay.register receiver callback with | mk relay result =>
  rw [registered] at spares
  exact sound.goes (Relay.evolves_spares sound.tidy spares).rest fun _ => id

theorem finish (operation : Operation) (config : ListenerConfig) (reply : Reply) :
    Continues session (session.finish operation config reply).1 := by
  unfold Session.finish
  split
  · exact sound.refl
  · exact sound.refl
  · exact sound.refl
  · exact sound.refl
  · split
    · exact sound.spares (.refl _) fun _ => id
    · exact sound.spares (.refl _) fun _ => id
    · exact sound.refl

theorem resolve {name key factory : String} {params : ConnectionParams} {registry : String}
    {answer : Answer}
    (stepped : session.step (.resolve name key factory params registry) = .ok (next, answer)) :
    Continues session next := by
  obtain ⟨factory, _, stepped⟩ := bind_eq_ok_iff.mp stepped
  have first := sound.registry registry
  cases named : session.registry registry with | mk middle i =>
  simp only [named] at first stepped
  split at stepped <;> rename_i handled
  · cases stepped
    exact first.trans (first.sound.goes (Relay.evolves_handle first.sound.tidy handled) fun _ => id)
  · rename_i relay h
    have went : Continues session { middle with relay, handles := middle.handles.put name h } :=
      first.trans (first.sound.goes (Relay.evolves_handle first.sound.tidy handled) fun _ => id)
    split at stepped <;> cases stepped
    · exact went.trans (went.sound.letGo (some _) true)
    · exact went

theorem listener {name factory : String} {config : ListenerConfig} {registry : String} {sink : SinkChoice}
    {diagnosticsLogged : Bool} {answer : Answer}
    (stepped : session.step (.listener name factory config registry sink diagnosticsLogged) =
      .ok (next, answer)) : Continues session next := by
  obtain ⟨factory, _, stepped⟩ := bind_eq_ok_iff.mp stepped
  have first := sound.registry registry
  cases named : session.registry registry with | mk middle i =>
  simp only [named] at first stepped
  split at stepped <;> rename_i listened
  · rename_i relay _
    obtain ⟨second, _⟩ := Relay.evolves_listen first.sound.tidy listened
    have went : Continues session { middle with relay } :=
      first.trans (first.sound.goes second fun _ => id)
    exact .of_ok (went.trans (went.sound.reads sink name none)) stepped
  · rename_i relay l
    obtain ⟨second, made⟩ := Relay.evolves_listen first.sound.tidy listened
    have known : ∀ entry ∈ middle.listeners.put name l, entry.2 < relay.listeners.length := by
      intro entry among
      rcases List.mem_cons.mp among with rfl | among
      · exact made l rfl
      · exact Nat.lt_of_lt_of_le (first.named entry (List.mem_of_mem_filter among)) second.length
    have went : Continues session { middle with relay, listeners := middle.listeners.put name l } :=
      first.trans ⟨second, known⟩
    have read := went.trans (went.sound.reads sink name (some l))
    split at stepped
    · exact .of_ok (read.trans (read.sound.letGo (some (.listener _)) true)) stepped
    · exact .of_ok read stepped

theorem call {operation : Operation} {answer : Answer}
    (stepped : session.step (.call operation) = .ok (next, answer)) : Continues session next := by
  obtain ⟨⟨frame, config⟩, made, stepped⟩ := bind_eq_ok_iff.mp stepped
  have called := Relay.evolves_call sound.tidy (sound.frame made)
  have went : Continues session { session with relay := (session.relay.call frame).1 } :=
    sound.goes called fun _ => id
  cases replied : session.relay.call frame with
  | mk relay reply =>
    simp only [replied] at stepped went
    cases reply with
    | none =>
      cases stepped
      exact went
    | some reply => exact went.trans (.of_ok (went.sound.finish ..) stepped)

theorem step {step : Step} {answer : Answer} (stepped : session.step step = .ok (next, answer)) :
    Continues session next := by
  cases step with
  | memory name cloneOf credentials =>
    cases cloneOf with
    | none =>
      cases stepped
      exact sound.spares (.of_eq rfl rfl) fun _ => id
    | some source =>
      obtain ⟨i, _, stepped⟩ := bind_eq_ok_iff.mp stepped
      split at stepped <;> cases stepped <;> exact sound.spares (.refl _) fun _ => id
  | publish broker destination message =>
    obtain ⟨i, _, stepped⟩ := bind_eq_ok_iff.mp stepped
    cases stepped
    exact sound.spares (Relay.spares_publish ..) fun _ => id
  | setUnavailable broker value => exact sound.onBroker stepped
  | setCloseFailure broker value => exact sound.onBroker stepped
  | counters broker destination =>
    obtain ⟨i, _, stepped⟩ := bind_eq_ok_iff.mp stepped
    split at stepped <;> cases stepped
    exact sound.refl
  | script name =>
    cases stepped
    exact sound.spares (.of_eq rfl rfl) fun _ => id
  | plan script call outcome => exact sound.onScript stepped
  | openGate script => exact sound.onScript stepped
  | deliver script message =>
    obtain ⟨i, _, stepped⟩ := bind_eq_ok_iff.mp stepped
    cases stepped
    exact sound.spares (Relay.spares_deliver ..) fun _ => id
  | mqttBroker name =>
    cases stepped
    exact sound.spares (.refl _) fun _ => id
  | mqttFactory name bindings =>
    obtain ⟨factory, _, stepped⟩ := bind_eq_ok_iff.mp stepped
    cases stepped
    exact sound.spares (.refl _) fun _ => id
  | publishMqtt broker topic payload =>
    obtain ⟨port, _, stepped⟩ := bind_eq_ok_iff.mp stepped
    split at stepped <;> cases stepped
    · exact sound.refl
    · exact sound.goes (Relay.evolves_spares sound.tidy (Relay.spares_poll ..)).rest fun _ => id
  | hasLink broker =>
    obtain ⟨port, _, stepped⟩ := bind_eq_ok_iff.mp stepped
    cases stepped
    exact sound.refl
  | prepare broker =>
    obtain ⟨port, _, stepped⟩ := bind_eq_ok_iff.mp stepped
    cases stepped
    exact sound.refl
  | connect name factory params =>
    obtain ⟨factory, _, stepped⟩ := bind_eq_ok_iff.mp stepped
    have spares := @Relay.spares_connect session.relay factory params
    split at stepped <;> rename_i connected <;> rw [connected] at spares <;> cases stepped
    · exact sound.spares spares fun _ => id
    · exact sound.spares spares fun _ => id
  | setListener receiver recorder =>
    obtain ⟨r, _, stepped⟩ := bind_eq_ok_iff.mp stepped
    exact .of_ok (sound.register ..) stepped
  | forward receiver listener =>
    simp only [Session.step] at stepped
    split at stepped
    · exact .of_ok (sound.register ..) stepped
    · cases stepped
  | resolve name key factory params registry => exact sound.resolve stepped
  | isReleased handle =>
    obtain ⟨h, _, stepped⟩ := bind_eq_ok_iff.mp stepped
    split at stepped <;> cases stepped
    exact sound.refl
  | refs registry key =>
    have found := sound.registry registry
    cases named : session.registry registry with | mk middle i =>
    simp only [Session.step, named] at found stepped
    split at stepped <;> cases stepped <;> exact found
  | cloneRegistry name source =>
    have found := sound.registry source
    cases named : session.registry source with | mk middle i =>
    simp only [Session.step, named] at found stepped
    cases stepped
    exact found.trans (found.sound.spares (.refl _) fun _ => id)
  | listener name factory config registry sink diagnosticsLogged => exact sound.listener stepped
  | state listener =>
    obtain ⟨l, _, stepped⟩ := bind_eq_ok_iff.mp stepped
    split at stepped <;> cases stepped
    exact sound.refl
  | onMessage listener message =>
    obtain ⟨l, _, stepped⟩ := bind_eq_ok_iff.mp stepped
    cases stepped
    exact sound.spares (Relay.spares_dispatch ..) fun _ => id
  | startMany listener count =>
    obtain ⟨l, found, stepped⟩ := bind_eq_ok_iff.mp stepped
    cases stepped
    refine sound.goes (Relay.evolves_callAll sound.tidy fun frame among => ?_) fun _ => id
    exact .inr ⟨l, sound.found found, .inl (List.eq_of_mem_replicate among)⟩
  | closeChannel listener =>
    cases stepped
    exact sound.shut listener
  | call operation => exact sound.call stepped
  | spawn task operation =>
    obtain ⟨⟨frame, config⟩, made, stepped⟩ := bind_eq_ok_iff.mp stepped
    cases stepped
    exact sound.goes (Relay.evolves_spawn sound.tidy (sound.frame made)) fun _ => id
  | join task =>
    obtain ⟨background, _, stepped⟩ := bind_eq_ok_iff.mp stepped
    split at stepped
    · cases stepped
      exact sound.refl
    · have went : Continues session { session with tasks := session.tasks.remove task } :=
        sound.spares (.refl _) fun _ => id
      exact went.trans (.of_ok (went.sound.finish ..) stepped)
  | cancel task =>
    obtain ⟨background, _, stepped⟩ := bind_eq_ok_iff.mp stepped
    cases stepped
    exact sound.goes (Relay.evolves_cancel sound.tidy _) fun _ => id
  | drop what name background =>
    cases what with
    | listener =>
      cases stepped
      have left := sound.letGo ((session.listeners.lookup name).map .listener) background
      exact left.trans (left.sound.spares (.refl _) fun entry among => List.mem_of_mem_filter among)
    | handle =>
      cases stepped
      have left := sound.letGo ((session.handles.lookup name).map .handle) background
      exact left.trans (left.sound.spares (.refl _) fun _ => id)
    | connection | receiver | task | factory | broker | script =>
      cases stepped
      exact sound.spares (.refl _) fun _ => id
  | pass =>
    cases stepped
    exact sound.refl

theorem perform (step : Step) : Continues session (session.perform step).1 := by
  unfold Session.perform
  split
  · exact sound.refl
  · rename_i next answer stepped
    have went := sound.step stepped
    refine went.trans (went.sound.spares ?_ fun _ => id)
    exact .of_eq rfl rfl

end Sound

def run (session : Session) (steps : List Step) : Session :=
  steps.foldl (fun session step => (session.perform step).1) session

theorem Sound.run (sound : session.Sound) (steps : List Step) : Continues session (session.run steps) := by
  induction steps generalizing session with
  | nil => exact sound.refl
  | cons step rest ih =>
    have first := sound.perform step
    exact first.trans (ih first.sound)

section Runs

/-- A session in which nothing was made. -/
def new (logger : Logger) (reach : Mqtt.Options → Mqtt.Attempt) : Session :=
  { relay := { logger, reach } }

theorem sound_new (logger : Logger) (reach : Mqtt.Options → Mqtt.Attempt) : (new logger reach).Sound where
  tidy := ⟨fun _ among => absurd among List.not_mem_nil, fun _ among => absurd among List.not_mem_nil⟩
  named _ among := absurd among List.not_mem_nil

variable {logger : Logger} {reach : Mqtt.Options → Mqtt.Attempt} {steps : List Step} {l : Nat}
  {listener : Listener} (present : ((new logger reach).run steps).relay.listeners[l]? = some listener)
include present

/-- Whatever is done, each listener is where calls going on in some order can bring it. -/
theorem listener_reachable : ∃ system, system.Reachable listener.config ∧
    ((new logger reach).run steps).relay.Shows l listener.config system :=
  ((sound_new logger reach).run steps).evolves.new l listener (Nat.zero_le l) present

theorem listener_goes_on (more : List Step) : ∃ system moves later,
    system.Reachable listener.config ∧
    ((new logger reach).run steps).relay.Shows l listener.config system ∧
    system.run listener.config moves = some later ∧
    ((new logger reach).run (steps ++ more)).relay.Shows l listener.config later := by
  obtain ⟨system, reachable, shows⟩ := listener_reachable present
  have went := ((sound_new logger reach).run steps).sound.run more
  obtain ⟨moves, later, ran, shown⟩ := went.evolves.moves l listener.config system shows
  refine ⟨system, moves, later, reachable, shows, ran, ?_⟩
  rw [run, List.foldl_append]
  exact shown

theorem state_never_back (more : List Step) : ∃ other,
    ((new logger reach).run (steps ++ more)).relay.listeners[l]? = some other ∧
    other.config = listener.config ∧
    listener.lifecycle.state.rank ≤ other.lifecycle.state.rank := by
  obtain ⟨system, moves, later, reachable, shows, ran, shown⟩ := listener_goes_on present more
  obtain ⟨old, there, standing⟩ := shows.1
  obtain ⟨other, remains, stands⟩ := shown.1
  rw [present, Option.some.injEq] at there
  subst there
  obtain ⟨_, before⟩ := Prod.mk.inj standing
  obtain ⟨same, after⟩ := Prod.mk.inj stands
  refine ⟨other, remains, same, ?_⟩
  rw [before, after]
  exact Lifecycle.System.rank_le_of_sublist reachable (reachable.run ran)
    (Lifecycle.System.run_history ran)

/-- If a system has at most one call at a point, so has the program at most one task. -/
theorem alone_at {point : Lifecycle.Call Nat Nat → Bool} {t u : Nat} {call other : Lifecycle.Call Nat Nat}
    (once : ∀ system : Lifecycle.System Nat Nat, system.Reachable listener.config →
      system.callsAt point ≤ 1)
    (first : ((new logger reach).run steps).relay.callOn l t = some call) (here : point call)
    (second : ((new logger reach).run steps).relay.callOn l u = some other) (there : point other) :
    t = u := by
  obtain ⟨system, reachable, _, place, places⟩ := listener_reachable present
  apply places.apart t u
  · rw [first]
    rfl
  · rw [second]
    rfl
  · exact same_of_countP_le_one (once system reachable) (places.there t call first)
      (places.there u other second) here there

theorem creates_alone {t u : Nat}
    (first : ((new logger reach).run steps).relay.callOn l t = some .creating)
    (second : ((new logger reach).run steps).relay.callOn l u = some .creating) : t = u := by
  have once : ∀ system : Lifecycle.System Nat Nat, system.Reachable listener.config →
      system.callsAt Lifecycle.Call.isCreating ≤ 1 := by
    intro system reachable
    have asked := reachable.count_asks
    have few := reachable.count_asks_le_one
    omega
  exact alone_at present once first rfl second rfl

theorem disposes_alone {t u : Nat} {call other : Lifecycle.Call Nat Nat}
    (first : ((new logger reach).run steps).relay.callOn l t = some call) (here : call.disposes)
    (second : ((new logger reach).run steps).relay.callOn l u = some other) (there : other.disposes) :
    t = u := by
  refine alone_at present (fun system reachable => ?_) first here second there
  have once := reachable.count_movesTo_le_one (show ListenerState.stopping ≠ .initialized by decide)
  have stopping := reachable.count_stopping
  have took := reachable.count_took
  have release := reachable.count_release
  have released := reachable.count_released
  rw [Lifecycle.System.callsAt_disposes]
  omega

end Runs

end Session

end EventRelay
