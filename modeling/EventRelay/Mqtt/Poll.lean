import EventRelay.Mqtt.Connection

namespace EventRelay.Mqtt

def decodePayload (topic : String) (payload : Octets) : Message :=
  match Message.decode payload with
  | .ok message => message
  | .error _ => (Message.ofOctets payload).withType topic

def payloadRecord? (topic : String) (payload : Octets) : Option LogRecord :=
  match Message.decode payload with
  | .ok _ => none
  | .error fault =>
    some ⟨.debug, "logbus_provider_mqtt::codec",
      "Payload on topic '" ++ topic ++ "' is not an envelope: " ++ fault.message⟩

def encodeEvent (event : Event) : Octets := (Message.ofEvent event).encode

inductive Polled
  | publish (topic : String) (payload : Octets)
  | connected (sessionPresent : Bool)
  | disconnected
  | other
  | failed (reason : String)
  | shutDown
deriving Repr

structure Polling.Outcome (Listener : Type) where
  log : List LogRecord := []
  handed : List (Listener × Message) := []

namespace Connection

variable {Listener : Type}

/-- Takes in what a poll brought. Once the polling has ended, nothing is. -/
def poll (connection : Connection Listener) (polled : Polled) :
    Connection Listener × Polling.Outcome Listener :=
  match connection.polling with
  | .active =>
    match polled with
    | .publish topic payload =>
      (connection,
        { log := (payloadRecord? topic payload).toList
          handed := connection.feed.audience.map fun l => (l, decodePayload topic payload) })
    | .connected sessionPresent =>
      if sessionPresent then (connection, {})
      else
        match connection.feed.subscription.resubscribe with
        | (subscription, log) =>
          ({ connection with feed := { connection.feed with subscription } }, { log })
    | .disconnected =>
      (connection.endPolling, { log := [connection.record .info "Disconnected"] })
    | .other => (connection, {})
    | .failed reason =>
      (connection, { log := [connection.record .error ("MQTT connection error: " ++ reason)] })
    | .shutDown =>
      match connection.shutDown with
      | (connection, log) => (connection, { log })
  | _ => (connection, {})

end Connection

end EventRelay.Mqtt
