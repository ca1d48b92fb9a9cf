import EventRelay.Proofs.Message.Handling

namespace EventRelay

namespace Level

def upTo : Level → List Level
  | error => [error]
  | warn => [error, warn]
  | info => [error, warn, info]
  | debug => [error, warn, info, debug]
  | trace => [error, warn, info, debug, trace]

theorem mem_upTo_iff (level most : Level) : level ∈ most.upTo ↔ level.verbosity ≤ most.verbosity := by
  cases level <;> cases most <;> decide

theorem within_eq (level : Level) (bound : Option Level) :
    level.within bound = bound.any (level ∈ ·.upTo) := by
  cases bound with
  | none => rfl
  | some most => simp only [within, Option.any_some, mem_upTo_iff]

end Level

namespace Event

/-- What the log says of an event: the thread in brackets, if there is one, and the text. -/
def entry (event : Event) (defaultTarget : String) : LogRecord where
  level := event.level
  target := event.logger.getD defaultTarget
  text := (event.thread.map fun thread => "[" ++ thread ++ "] ").getD "" ++ event.text

/-- Whether both the bound and the filter let an event through. -/
def isWanted (event : Event) (defaultTarget : String) (bound : Option Level)
    (enabled : String → Level → Bool) : Bool :=
  bound.any (event.level ∈ ·.upTo) && enabled (event.logger.getD defaultTarget) event.level

end Event

section Sink

variable (sink : LogSink) (event : Event)

theorem LogSink.record_eq : sink.record event = event.entry sink.defaultTarget := by
  obtain ⟨text, level, logger, thread, timestamp⟩ := event
  cases thread with
  | none =>
    have bare : "" ++ text = text := String.empty_append
    simp only [record, target, Event.entry, Option.map_none, Option.getD_none, bare]
  | some thread => rfl

theorem LogSink.accept_eq (bound : Option Level) (enabled : String → Level → Bool) :
    sink.accept ⟨bound, enabled, fun _ => true⟩ event =
      if event.isWanted sink.defaultTarget bound enabled then [event.entry sink.defaultTarget]
      else [] := by
  have target : sink.target event = event.logger.getD sink.defaultTarget := rfl
  have level : (event.entry sink.defaultTarget).level = event.level := rfl
  simp only [accept, Logger.wants, Logger.write, sink.record_eq, target, level, Level.within_eq,
    Bool.and_true, Event.isWanted]
  -- The bound is asked for once more when the record is written, and answers as before.
  by_cases within : bound.any (event.level ∈ ·.upTo) = true <;> simp [within]

end Sink

namespace Relay

variable {bound : Option Level} {enabled : String → Level → Bool} {relay : Relay}

def entries (defaultTarget : String) (bound : Option Level) (enabled : String → Level → Bool)
    (events : List Event) : List Occurrence :=
  ((events.filter (·.isWanted defaultTarget bound enabled)).map (·.entry defaultTarget)).map .logged

theorem entries_cons (defaultTarget : String) (event : Event) (events : List Event) :
    entries defaultTarget bound enabled (event :: events) =
      (if event.isWanted defaultTarget bound enabled then [.logged (event.entry defaultTarget)] else [])
        ++ entries defaultTarget bound enabled events := by
  rw [entries, List.filter_cons]
  split <;> rfl

theorem accept_log (logger : relay.logger = ⟨bound, enabled, fun _ => true⟩) (defaultTarget : String)
    (event : Event) :
    relay.accept (.log ⟨defaultTarget⟩) event =
      relay.showing (if event.isWanted defaultTarget bound enabled then
        [.logged (event.entry defaultTarget)] else []) := by
  have noted := relay.foldl_note (LogSink.accept ⟨defaultTarget⟩ relay.logger event)
  have written : LogSink.accept ⟨defaultTarget⟩ relay.logger event =
      if event.isWanted defaultTarget bound enabled then [event.entry defaultTarget] else [] := by
    rw [logger, LogSink.accept_eq]
  rw [accept, noted, written, showing]
  split <;> rfl

theorem foldl_accept_log (logger : relay.logger = ⟨bound, enabled, fun _ => true⟩)
    (defaultTarget : String) (events : List Event) :
    events.foldl (fun relay event => relay.accept (.log ⟨defaultTarget⟩) event) relay =
      relay.showing (entries defaultTarget bound enabled events) := by
  induction events generalizing relay with
  | nil => rfl
  | cons event events ih =>
    have later (records : List Occurrence) := @ih (relay.showing records) logger
    rw [List.foldl_cons, accept_log logger, later, showing_showing, entries_cons]

end Relay

/-- Of the events that a sink is handed, the log has one record each, in order, for those that are within
    the bound and that the filter wants under their target, and it has nothing of the others. What it has
    of a further event goes by that event alone, whichever came before. -/
theorem log_has_wanted_events (defaultTarget : String) (bound : Option Level)
    (enabled : String → Level → Bool) (relay : Relay) (events : List Event) :
    let logging : Relay := { relay with logger := ⟨bound, enabled, fun _ => true⟩ }
    let after : Relay :=
      events.foldl (fun relay event => relay.accept (.log ⟨defaultTarget⟩) event) logging
    after = logging.showing (((events.filter (·.isWanted defaultTarget bound enabled)).map
      (·.entry defaultTarget)).map .logged) ∧
    ∀ event : Event, after.accept (.log ⟨defaultTarget⟩) event =
      after.showing (if event.isWanted defaultTarget bound enabled then
        [.logged (event.entry defaultTarget)] else []) := by
  intro logging after
  have whole : after = logging.showing (Relay.entries defaultTarget bound enabled events) :=
    Relay.foldl_accept_log rfl defaultTarget events
  have logger : after.logger = ⟨bound, enabled, fun _ => true⟩ := by
    rw [whole]
    rfl
  exact ⟨whole, Relay.accept_log logger defaultTarget⟩

end EventRelay
