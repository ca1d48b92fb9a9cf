import EventRelay.Log.Filter
import EventRelay.Relay.Tasks
import EventRelay.Server.Config
import EventRelay.Text.Unstyled

namespace EventRelay.Server

def binding : String := "broker"

def record (text : String) : LogRecord := ⟨.info, "log_server", text⟩

def filterVariable : String := "RUST_LOG"

def standardFilter : String := "info"

def settings (config : ServerConfig) : Mqtt.Settings :=
  { Mqtt.Settings.forHost config.host with
    port := config.port.toUInt16
    clientId := config.clientId }

/-- The listener goes by the client's name. Credentials count only as a pair. -/
def listenerConfig (config : ServerConfig) : ListenerConfig :=
  match config.username, config.password with
  | some username, some password =>
    ⟨config.clientId, binding, config.topic, some username, some password⟩
  | _, _ => ⟨config.clientId, binding, config.topic, none, none⟩

def relay (logger : Logger) (reach : Mqtt.Options → Mqtt.Attempt) : Relay :=
  { logger, reach, registries := [{}] }

def start (relay : Relay) (config : ServerConfig) : Relay × Except ListenerError Nat :=
  let announced := relay.log [record ("Starting log server (broker=" ++ config.host ++ ":"
    ++ toString config.port ++ ", topic=" ++ config.topic ++ ")")]
  let factory := Factory.mqtt (Mqtt.Factory.bind {} binding (settings config))
  match announced.listen (listenerConfig config) 0 factory (.log {}) none with
  | (relay, .error e) => (relay, .error e)
  | (relay, .ok l) =>
    match relay.call (.start l .claim) with
    | (relay, some (.started (.error e))) => (relay.letGo (.listener l) true, .error e)
    | (relay, _) => (relay, .ok l)

def stop (relay : Relay) (listener : Nat) : Relay :=
  ((relay.log [record "Shutdown signal received"]).call (.stop listener .read)).1

/-- A record as it is written, behind the time: its level, its target if it has one, and its text,
    of which all lines but the first are indented. Control sequences of terminals are left out. -/
def written (record : LogRecord) : String :=
  let target := if record.target.isEmpty then "" else " " ++ record.target
  unstyled (padded 5 record.level.name ++ target ++ "] "
    ++ "\n    ".intercalate (record.text.splitOn "\n") ++ "\n")
where
  padded (width : Nat) (s : String) : String :=
    s ++ String.ofList (List.replicate (width - s.length) ' ')

def warning (fault : FilterFault) : String :=
  "warning: " ++ fault.message ++ ", ignoring it\n"

def labelled (label : String) (text : String) : List String :=
  match text.splitOn "\n" with
  | [] => [label]
  | first :: rest =>
    (label ++ first) :: rest.map (String.ofList (List.replicate label.length ' ') ++ ·)

def errorLines : List String → List String
  | [] => []
  | message :: causes =>
    ("Error: " ++ message).splitOn "\n"
      ++ match causes with
        | [] => []
        | [cause] => "" :: "Caused by:" :: labelled "    " cause
        | causes =>
          "" :: "Caused by:" :: causes.zipIdx.flatMap fun (cause, i) =>
            labelled (padded 5 (toString i) ++ ": ") cause
where
  padded (width : Nat) (s : String) : String :=
    String.ofList (List.replicate (width - s.length) ' ') ++ s

structure Report where
  faults : List FilterFault
  log : List LogRecord
  error : List String

def Report.code (report : Report) : UInt8 := if report.error.isEmpty then 0 else 1

def run (reach : Mqtt.Options → Mqtt.Attempt) (unique : String)
    (lookup : String → Option String) : Report :=
  match LogFilter.read ((lookup filterVariable).getD standardFilter) with
  | (filter, faults) =>
    match ServerConfig.ofLookup unique lookup with
    | .error e => ⟨faults, [], e.chain⟩
    | .ok config =>
      match start (relay filter.logger reach) config with
      | (relay, .error e) => ⟨faults, records relay, e.chain (listenerConfig config)⟩
      | (relay, .ok l) => ⟨faults, records (stop relay l), []⟩
where
  records (relay : Relay) : List LogRecord :=
    relay.takeHistory.2.filterMap fun
      | .logged record => some record
      | _ => none

end EventRelay.Server
