import EventRelay.Json.Basic
import EventRelay.Log

namespace EventRelay

structure Event where
  text : String
  level : Level := .standard
  logger : Option String := none
  thread : Option String := none
  timestampMillis : Option UInt64 := none
deriving DecidableEq, Repr

namespace Event

def typeName : String := "LoggableEvent"

def fields : List Json.Field :=
  [.required "text" .string,
   .defaulted "level" Level.decoder .standard,
   .defaulted "logger" (.optional .string) none,
   .defaulted "thread" (.optional .string) none,
   .defaulted "timestamp_millis" (.optional (.unsigned "u64" (1 <<< 64 - 1))) none]

abbrev shape : Json.Shape := ⟨typeName, fields⟩

def ofValues : Json.Values fields → Event
  | (text, level, logger, thread, timestamp, ()) =>
    ⟨text, level, logger, thread, timestamp.map Nat.toUInt64⟩

def decoder : Json.Decoder Event := shape.decoder ofValues

def members (event : Event) : List (String × Json) :=
  [("text", .string event.text), ("level", .string event.level.name)]
    ++ (event.logger.map fun s => ("logger", Json.string s)).toList
    ++ (event.thread.map fun s => ("thread", Json.string s)).toList
    ++ (event.timestampMillis.map fun n => ("timestamp_millis", Json.natural n)).toList

def toJson (event : Event) : Json := .ofMembers event.members

def encode (event : Event) : Octets :=
  Json.encodeObject (event.members.map fun member => (member.1, member.2.encode))

end Event

structure LogSink where
  defaultTarget : String := "logbus::remote"

namespace LogSink

def target (sink : LogSink) (event : Event) : String := event.logger.getD sink.defaultTarget

def record (sink : LogSink) (event : Event) : LogRecord :=
  let text :=
    match event.thread with
    | some thread => "[" ++ thread ++ "] " ++ event.text
    | none => event.text
  ⟨event.level, sink.target event, text⟩

def accept (sink : LogSink) (logger : Logger) (event : Event) : List LogRecord :=
  if logger.wants (sink.target event) event.level then logger.write (sink.record event) else []

end LogSink

end EventRelay
