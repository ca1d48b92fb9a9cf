import EventRelay.Proofs.Message.Reading
import EventRelay.Proofs.Relay.Segments

namespace EventRelay

namespace CarriedObject

variable {carried : CarriedObject}

theorem event_some_iff {event : Event} : carried.event = .ok (some event) ↔
    carried.typeName = Event.typeName ∧ event.HasForm carried.value := by
  unfold CarriedObject.event event?
  by_cases tagged : carried.typeName = Event.typeName
  · rw [if_pos tagged, ← Event.ofJson_iff]
    cases Event.decoder.ofJson carried.value <;>
      simp [Except.mapError, tagged, Functor.map, Except.map]
  · simp [Except.mapError, tagged]

theorem event_none_iff : carried.event = .ok none ↔ carried.typeName ≠ Event.typeName := by
  unfold CarriedObject.event event?
  by_cases tagged : carried.typeName = Event.typeName
  · rw [if_pos tagged]
    cases Event.decoder.ofJson carried.value <;>
      simp [Except.mapError, tagged, Functor.map, Except.map]
  · simp [Except.mapError, tagged]

end CarriedObject

namespace Message

/-- The message is of kind `object`, and its body is a form of the carried object. -/
def Carries (message : Message) (carried : CarriedObject) : Prop :=
  message.kind = .object ∧ carried.HasForm message.body

variable {message : Message}

theorem carried_iff {carried : CarriedObject} :
    message.carried = .ok carried ↔ message.Carries carried := by
  unfold Message.carried Carries
  by_cases object : message.kind = .object
  · rw [if_pos object, ← CarriedObject.ofJson_iff]
    cases CarriedObject.decoder.ofJson message.body <;> simp [Except.mapError, object]
  · simp [object]

/-- The message is of kind `object`, but its body is no carried object, or one that is tagged as an event
    and holds none. -/
def IsBroken (message : Message) : Prop :=
  message.kind = .object ∧ ((∀ carried : CarriedObject, ¬ carried.HasForm message.body) ∨
    ∃ carried : CarriedObject, carried.HasForm message.body ∧ carried.typeName = Event.typeName ∧
      ∀ event : Event, ¬ event.HasForm carried.value)

/-- The message is of another kind, or carries an object of another type. -/
def IsForeign (message : Message) : Prop :=
  message.kind ≠ .object ∨
    ∃ carried, message.Carries carried ∧ carried.typeName ≠ Event.typeName

/-- The message carries the event. -/
def Bears (message : Message) (event : Event) : Prop :=
  ∃ carried, message.Carries carried ∧ carried.typeName = Event.typeName ∧
    event.HasForm carried.value

theorem broken_or_foreign_or_bears (message : Message) :
    message.IsBroken ∨ message.IsForeign ∨ ∃ event, message.Bears event := by
  by_cases object : message.kind = .object
  · by_cases readable : ∃ carried : CarriedObject, carried.HasForm message.body
    · obtain ⟨carried, form⟩ := readable
      by_cases tagged : carried.typeName = Event.typeName
      · by_cases event : ∃ event : Event, event.HasForm carried.value
        · obtain ⟨event, holds⟩ := event
          exact .inr (.inr ⟨event, carried, ⟨object, form⟩, tagged, holds⟩)
        · exact .inl ⟨object, .inr ⟨carried, form, tagged, not_exists.mp event⟩⟩
      · exact .inr (.inl (.inr ⟨carried, ⟨object, form⟩, tagged⟩))
    · exact .inl ⟨object, .inl (not_exists.mp readable)⟩
  · exact .inr (.inl (.inl object))

section Effects

theorem effect_of_carries {carried : CarriedObject} (carries : message.Carries carried) :
    message.effect =
      match carried.event with
      | .ok (some event) => .accept event
      | .ok none =>
        .diagnose (.warning ("Expected object message to carry " ++ Event.typeName
          ++ ", got type " ++ carried.typeName ++ " instead"))
      | .error e => .diagnose (.failure e) := by
  have read := carried_iff.mpr carries
  cases value : carried.event with
  | error e => simp only [effect, carries.1, read, value, ne_eq, not_true, if_false]
  | ok event? =>
    cases event? <;> simp only [effect, carries.1, read, value, ne_eq, not_true, if_false]

theorem effect_of_bears {event : Event} (bears : message.Bears event) :
    message.effect = .accept event := by
  obtain ⟨carried, carries, tagged, form⟩ := bears
  rw [effect_of_carries carries, CarriedObject.event_some_iff.mpr ⟨tagged, form⟩]

theorem effect_of_isForeign (foreign : message.IsForeign) :
    ∃ text, message.effect = .diagnose (.warning text) := by
  rcases foreign with kind | ⟨carried, carries, other⟩
  · exact ⟨message.unhandled, if_pos kind⟩
  · rw [effect_of_carries carries, CarriedObject.event_none_iff.mpr other]
    exact ⟨_, rfl⟩

theorem effect_of_isBroken (broken : message.IsBroken) :
    ∃ e, message.effect = .diagnose (.failure e) := by
  obtain ⟨object, none | ⟨carried, form, tagged, none⟩⟩ := broken
  · cases body : message.carried with
    | error e =>
      refine ⟨e, ?_⟩
      rw [effect, if_neg (not_not_intro object), body]
    | ok carried => exact absurd (carried_iff.mp body).2 (none carried)
  · rw [effect_of_carries ⟨object, form⟩]
    cases value : carried.event with
    | error e => exact ⟨e, rfl⟩
    | ok found =>
      cases found with
      | none => exact absurd tagged (CarriedObject.event_none_iff.mp value)
      | some event => exact absurd (CarriedObject.event_some_iff.mp value).2 (none event)

end Effects

/-- The three outcomes and what leads to each of them. As an effect is only one of these, no message is of
    two of the three forms. -/
theorem effect_iff (message : Message) :
    (∀ event, message.effect = .accept event ↔ message.Bears event) ∧
    ((∃ text, message.effect = .diagnose (.warning text)) ↔ message.IsForeign) ∧
    ((∃ e, message.effect = .diagnose (.failure e)) ↔ message.IsBroken) := by
  refine ⟨fun event => ⟨fun accepts => ?_, effect_of_bears⟩,
    ⟨fun ⟨text, warns⟩ => ?_, effect_of_isForeign⟩, ⟨fun ⟨e, fails⟩ => ?_, effect_of_isBroken⟩⟩
  all_goals rcases message.broken_or_foreign_or_bears with broken | foreign | ⟨other, bears⟩
  · obtain ⟨e, fails⟩ := effect_of_isBroken broken
    cases fails.symm.trans accepts
  · obtain ⟨text, warns⟩ := effect_of_isForeign foreign
    cases warns.symm.trans accepts
  · cases (effect_of_bears bears).symm.trans accepts
    exact bears
  · obtain ⟨e, fails⟩ := effect_of_isBroken broken
    cases fails.symm.trans warns
  · exact foreign
  · cases (effect_of_bears bears).symm.trans warns
  · exact broken
  · obtain ⟨text, warns⟩ := effect_of_isForeign foreign
    cases warns.symm.trans fails
  · cases (effect_of_bears bears).symm.trans fails

end Message

inductive Happening
  | handed (message : Message)
  | brought (lifecycle : Lifecycle Nat)

namespace Happening

def message? : Happening → Option Message
  | handed message => some message
  | brought _ => none

def lifecycle (before : Lifecycle Nat) : Happening → Lifecycle Nat
  | handed _ => before
  | brought lifecycle => lifecycle

end Happening

def Listener.shown (listener : Listener) (logger : Logger) : Effect → List Occurrence
  | .accept event =>
    match listener.sink with
    | .record label | .channel label true => [.accepted label event]
    | .log sink => (sink.accept logger event).map .logged
    | .channel _ false =>
      (logger.write ⟨.debug, "logbus_listener::sink", "Event channel closed, dropping event"⟩).map
        .logged
  | .diagnose diagnostic =>
    match listener.diagnostics with
    | some label => [.diagnosed label diagnostic]
    | none => (logger.write (diagnostic.record listener.config.id)).map .logged

def Effect.mark (events diagnostics : String) : Effect → Occurrence
  | .accept event => .accepted events event
  | .diagnose diagnostic => .diagnosed diagnostics diagnostic

namespace Relay

variable {relay : Relay} {i : Nat} {listener : Listener}

def showing (relay : Relay) (occurrences : List Occurrence) : Relay :=
  { relay with history := occurrences.reverse ++ relay.history }

theorem showing_showing (relay : Relay) (earlier later : List Occurrence) :
    (relay.showing earlier).showing later = relay.showing (earlier ++ later) := by
  simp [showing]

theorem accept_eq (relay : Relay) (listener : Listener) (event : Event) :
    relay.accept listener.sink event = relay.showing (listener.shown relay.logger (.accept event)) := by
  unfold accept Listener.shown
  cases listener.sink with
  | record label => rfl
  | log sink => exact relay.foldl_note _
  | channel label isOpen =>
    cases isOpen with
    | true => rfl
    | false =>
      simp only [log_eq, logged, List.flatMap_singleton]
      rfl

theorem dispatch_eq (there : relay.listeners[i]? = some listener) (message : Message) :
    relay.dispatch i message = relay.showing (listener.shown relay.logger message.effect) := by
  simp only [dispatch, there]
  cases message.effect with
  | accept event => exact relay.accept_eq listener event
  | diagnose diagnostic =>
    simp only [Listener.shown]
    cases listener.diagnostics with
    | some label => rfl
    | none =>
      simp only [log_eq, logged, List.flatMap_singleton]
      rfl

def undergo (i : Nat) (relay : Relay) : Happening → Relay
  | .handed message => relay.dispatch i message
  | .brought lifecycle =>
    match relay.listeners[i]? with
    | some listener => relay.setListener i { listener with lifecycle }
    | none => relay

theorem undergo_brought (there : relay.listeners[i]? = some listener) (lifecycle : Lifecycle Nat) :
    relay.undergo i (.brought lifecycle) = relay.setListener i { listener with lifecycle } := by
  simp only [undergo, there]

theorem foldl_undergo (there : relay.listeners[i]? = some listener) (happenings : List Happening) :
    happenings.foldl (undergo i) relay =
      (relay.setListener i
        { listener with lifecycle := happenings.foldl Happening.lifecycle listener.lifecycle }).showing
      ((happenings.filterMap Happening.message?).flatMap fun message =>
        listener.shown relay.logger message.effect) := by
  induction happenings generalizing relay listener with
  | nil => exact (relay.setListener_self there).symm
  | cons happening rest ih =>
    cases happening with
    | handed message =>
      have now : (relay.showing (listener.shown relay.logger message.effect)).listeners[i]? =
          some listener := there
      rw [List.foldl_cons, undergo, dispatch_eq there, ih now]
      exact showing_showing (relay.setListener i _) _ _
    | brought lifecycle =>
      obtain ⟨inside, _⟩ := List.getElem?_eq_some_iff.mp there
      have now : (relay.setListener i { listener with lifecycle }).listeners[i]? =
          some { listener with lifecycle } := List.getElem?_set_self inside
      rw [List.foldl_cons, undergo_brought there, ih now, setListener_setListener]
      rfl

end Relay

/-- Whatever messages a listener is handed, and in whatever state it is each time: each of them causes one
    effect, in order, that goes by the message alone. An event goes to the sink exactly where the message
    carries it; a warning follows exactly where the message is of another kind or carries an object of
    another type; and a failure exactly where the body is no carried object, or one that is tagged as an
    event and holds none. Nothing else in the relay changes. -/
theorem each_message_has_its_effect {relay : Relay} {i : Nat} {listener : Listener}
    (there : relay.listeners[i]? = some listener) (happenings : List Happening) :
    happenings.foldl (Relay.undergo i) relay =
      (relay.setListener i
        { listener with lifecycle := happenings.foldl Happening.lifecycle listener.lifecycle }).showing
      ((happenings.filterMap Happening.message?).flatMap fun message =>
        listener.shown relay.logger message.effect) ∧
    (∀ events diagnostics, listener.sink = .record events → listener.diagnostics = some diagnostics →
      ∀ logger effect, listener.shown logger effect = [effect.mark events diagnostics]) ∧
    ∀ message : Message,
      (∀ event, message.effect = .accept event ↔ message.Bears event) ∧
      ((∃ text, message.effect = .diagnose (.warning text)) ↔ message.IsForeign) ∧
      ((∃ e, message.effect = .diagnose (.failure e)) ↔ message.IsBroken) := by
  refine ⟨Relay.foldl_undergo there happenings, ?_, Message.effect_iff⟩
  intro events diagnostics sink recorded logger effect
  cases effect with
  | accept event => simp only [Listener.shown, sink, Effect.mark]
  | diagnose diagnostic => simp only [Listener.shown, recorded, Effect.mark]

def mixed : List Happening :=
  [.handed ((Message.ofText "hello").withType "note"),
    .brought { state := .started, slot := some 0 },
    .handed (.ofObject (.object
      [("type", .string "Invoice"), ("value", .object [("total", .natural 10)])])),
    .handed (.ofObject (.array [.natural 1, .natural 2, .natural 3])),
    .handed (.ofObject (.object
      [("type", .string "LoggableEvent"), ("value", .object [("level", .string "INFO")])])),
    .brought { state := .stopped },
    .handed (.ofObject (.array
      [.string "LoggableEvent", .array [.string "still alive", .object [("WARN", .null)]]]))]

theorem each_message_has_its_effect_mixed :
    (∃ listener, recording.listeners[0]? = some listener ∧ listener.sink = .record "events" ∧
      listener.diagnostics = some "diagnostics") ∧
    (mixed.foldl (Relay.undergo 0) recording).history.reverse =
      [.diagnosed "diagnostics"
          (.warning "Received message of kind text and type note which cannot be handled"),
        .diagnosed "diagnostics"
          (.warning "Expected object message to carry LoggableEvent, got type Invoice instead"),
        .diagnosed "diagnostics"
          (.failure (.unreadable (.wrongType (.number (.natural 1)) "a string"))),
        .diagnosed "diagnostics" (.failure (.unreadable (.missingField "text"))),
        .accepted "events" ⟨"still alive", .warn, none, none, none⟩] ∧
    (mixed.foldl (Relay.undergo 0) recording).listeners.map (·.lifecycle) = [⟨.stopped, none⟩] := by
  obtain ⟨listener, there, sink, recorded, same⟩ : ∃ listener, recording.listeners[0]? = some listener ∧
      listener.sink = .record "events" ∧ listener.diagnostics = some "diagnostics" ∧
      recording.listeners = [listener] := ⟨_, rfl, rfl, rfl, rfl⟩
  obtain ⟨final, shown, _⟩ := each_message_has_its_effect there mixed
  have marks := shown "events" "diagnostics" sink recorded
  refine ⟨⟨listener, there, sink, recorded⟩, ?_, ?_⟩
  · simp only [final, marks, Relay.showing]
    rfl
  · rw [final]
    simp only [Relay.showing, Relay.setListener, same]
    rfl

end EventRelay
