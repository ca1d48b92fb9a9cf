import EventRelay.Relay.Holding

namespace EventRelay.Relay

def connect (relay : Relay) (factory : Factory) (params : ConnectionParams) :
    Relay × Except ProviderError Nat :=
  match factory with
  | .memory i required =>
    match relay.brokers[i]? with
    | none => (relay, .error (.unknownBinding params.factory))
    | some broker =>
      match broker.connect required params with
      | (broker, c) =>
        match (relay.setBroker i broker).addConnection (.memory i c) with
        | (relay, connection) => (relay, .ok connection)
  | .script i =>
    match relay.scripts[i]? with
    | none => (relay, .error (.unknownBinding params.factory))
    | some script =>
      let called := relay.note (.called i (Script.connectText params))
      match script.next .connect with
      | (script, outcome) =>
        match outcome.error with
        | some e => (called.setScript i script, .error e)
        | none =>
          match (called.setScript i script).addConnection (.script i) with
          | (relay, connection) => (relay, .ok connection)
  | .mqtt factory =>
    match Mqtt.Connection.ofFactory factory params with
    | .error e => (relay, .error e)
    | .ok c =>
      match { relay with mqtt := relay.mqtt ++ [c] }.addConnection (.mqtt relay.mqtt.length) with
      | (relay, connection) => (relay, .ok connection)

def addHandle (relay : Relay) (handle : Handle) : Relay × Nat :=
  ({ relay with handles := relay.handles ++ [handle] }, relay.handles.length)

def resolve (relay : Relay) (registry : Nat) (name : String) (params : ConnectionParams)
    (factory : Factory) (owned : Bool) : Relay × Except ProviderError Nat :=
  match relay.registries[registry]? with
  | none => (relay, .error (.unknownBinding name))
  | some entries =>
    match entries.retain? name with
    | some (entries, connection, record) =>
      let retained := { relay with registries := relay.registries.set registry entries }
      match (retained.log [record]).addHandle { name, registry, connection, owned } with
      | (relay, handle) => (relay, .ok handle)
    | none =>
      match relay.connect factory params with
      | (relay, .error e) => (relay, .error e)
      | (relay, .ok connection) =>
        match entries.enter name params connection with
        | (entries, record) =>
          let entered := { relay with registries := relay.registries.set registry entries }
          match (entered.log [record]).addHandle { name, registry, connection, owned } with
          | (relay, handle) => (relay, .ok handle)

def place (relay : Relay) (receiver : Nat) (callback : Callback) :
    Relay × Except ProviderError Unit :=
  match relay.receivers[receiver]? with
  | some (.memory i r) =>
    match relay.brokers[i]? with
    | some broker => (relay.setBroker i (broker.setListener r callback), .ok ())
    | none => (relay, .ok ())
  | some (.script i) =>
    match relay.scripts[i]? with
    | some script =>
      match script.setListener callback with
      | (script, result) =>
        ((relay.note (.called i Script.Call.setListener.name)).setScript i script, result)
    | none => (relay, .ok ())
  | some (.mqtt i r) =>
    match relay.mqtt[i]? with
    | some c => (relay.setMqtt i { c with feed := c.feed.setListener r callback }, .ok ())
    | none => (relay, .ok ())
  | none => (relay, .ok ())

/-- Registers a callback on a receiver. What only the one before it kept alive is dropped. -/
def register (relay : Relay) (receiver : Nat) (callback : Callback) :
    Relay × Except ProviderError Unit :=
  match relay.place receiver callback with
  | (relay, result) => (relay.collect true, result)

inductive Next
  | go (frame : Frame)
  | call (frame callee : Frame)
  | reply (reply : Reply)
  | wait

def finishScripted (relay : Relay) (provider : Nat) (call : Script.Call)
    (outcome : Script.Outcome) : Relay × Next :=
  match call, outcome.result with
  | .createReceiver, .ok () =>
    match relay.addReceiver (.script provider) with
    | (relay, receiver) => (relay, .reply (.receiver (.ok receiver)))
  | .createReceiver, .error e => (relay, .reply (.receiver (.error e)))
  | _, result => (relay, .reply (.closed result))

def callScripted (relay : Relay) (provider : Nat) (call : Script.Call) : Relay × Next :=
  match relay.scripts[provider]? with
  | none => (relay, .reply .finished)
  | some script =>
    let called := relay.note (.called provider call.name)
    match script.next call with
    | (script, outcome) =>
      if outcome.gated then
        match script.gate.arrive with
        | (gate, ticket) =>
          (called.setScript provider { script with gate }, .go (.gated provider ticket call outcome))
      else (called.setScript provider script).finishScripted provider call outcome

def step (relay : Relay) : Frame → Relay × Next
  | .start l point =>
    match relay.listeners[l]? with
    | none => (relay, .reply .finished)
    | some listener =>
      match point with
      | .create =>
        match relay.handles[listener.handle]? with
        | some handle => (relay, .call (.start l .create) (.createReceiver handle.connection))
        | none => (relay, .reply .finished)
      | .register receiver =>
        match relay.register receiver (.dispatcher l) with
        | (relay, result) =>
          match listener.lifecycle.registered receiver result with
          | (lifecycle, point) =>
            (relay.setListener l { listener with lifecycle }, .go (.start l point))
      | .discard receiver => (relay, .call (.start l (.discard receiver)) (.closeReceiver receiver))
      | .done result => (relay, .reply (.started result))
      | point =>
        match listener.lifecycle.start listener.config point with
        | (lifecycle, log, point) =>
          ((relay.setListener l { listener with lifecycle }).log log, .go (.start l point))
  | .stop l point =>
    match relay.listeners[l]? with
    | none => (relay, .reply .finished)
    | some listener =>
      match point with
      | .close receiver => (relay, .call (.stop l (.close receiver)) (.closeReceiver receiver))
      | .release => (relay, .call (.stop l .release) (.release listener.handle .mark))
      | .done => (relay, .reply .finished)
      | point =>
        match listener.lifecycle.stop listener.config point with
        | (lifecycle, log, point) =>
          ((relay.setListener l { listener with lifecycle }).log log, .go (.stop l point))
  | .release h point =>
    match point with
    | .close connection => (relay, .call (.release h point) (.closeConnection connection))
    | .done => (relay, .reply .finished)
    | point =>
      match relay.releaseHandle h point with
      | (relay, point) => (relay, .go (.release h point))
  | .closeShared name connection =>
    (relay, .call (.closeShared name connection) (.closeConnection connection))
  | .createReceiver connection =>
    match relay.connections[connection]? with
    | some (.memory i c) =>
      match relay.brokers[i]? with
      | none => (relay, .reply .finished)
      | some broker =>
        match broker.createReceiver c with
        | (broker, .ok r) =>
          match (relay.setBroker i broker).addReceiver (.memory i r) with
          | (relay, receiver) => (relay, .reply (.receiver (.ok receiver)))
        | (broker, .error e) => (relay.setBroker i broker, .reply (.receiver (.error e)))
    | some (.script i) => relay.callScripted i .createReceiver
    | some (.mqtt i) => (relay, .go (.createMqtt i .enter))
    | none => (relay, .reply .finished)
  | .receiverOn h =>
    match relay.handles[h]? with
    | some handle => (relay, .call (.receiverOn h) (.createReceiver handle.connection))
    | none => (relay, .reply .finished)
  | .closeReceiver receiver =>
    match relay.receivers[receiver]? with
    | some (.memory i r) =>
      match relay.brokers[i]? with
      | none => (relay, .reply .finished)
      | some broker =>
        match broker.closeReceiver r with
        | (broker, record, result) =>
          (((relay.setBroker i broker).collect true).log [record], .reply (.closed result))
    | some (.script i) => relay.callScripted i .closeReceiver
    | some (.mqtt i r) =>
      match relay.mqtt[i]? with
      | none => (relay, .reply .finished)
      | some c =>
        match c.feed.closeReceiver r with
        | (feed, log, result) =>
          (((relay.setMqtt i { c with feed }).collect true).log log, .reply (.closed result))
    | none => (relay, .reply .finished)
  | .closeConnection connection =>
    match relay.connections[connection]? with
    | some (.memory i c) =>
      match relay.brokers[i]? with
      | none => (relay, .reply .finished)
      | some broker =>
        (relay.setBroker i (broker.closeConnection c), .reply (.closed (.ok ())))
    | some (.script i) => relay.callScripted i .close
    | some (.mqtt i) => (relay, .go (.closeMqtt i .enter))
    | none => (relay, .reply .finished)
  | .gated i ticket call outcome =>
    match relay.scripts[i]? with
    | none => (relay, .reply .finished)
    | some script =>
      if script.gate.isPassed ticket then
        (relay.setScript i { script with gate := script.gate.leave ticket }).finishScripted
          i call outcome
      else (relay, .wait)
  | .createMqtt i point =>
    match relay.mqtt[i]? with
    | none => (relay, .reply .finished)
    | some c =>
      match point with
      | .done (.ok r) =>
        match relay.addReceiver (.mqtt i r) with
        | (relay, receiver) => (relay, .reply (.receiver (.ok receiver)))
      | .done (.error e) => (relay, .reply (.receiver (.error e)))
      | .connecting _ =>
        match c.conclude (relay.reach c.options) with
        | (c, log, point) => ((relay.setMqtt i c).log log, .go (.createMqtt i point))
      | .queued ticket =>
        if c.lock.isHeldBy ticket then
          match c.create point with
          | (c, point) => (relay.setMqtt i c, .go (.createMqtt i point))
        else (relay, .wait)
      | point =>
        match c.create point with
        | (c, point) => (relay.setMqtt i c, .go (.createMqtt i point))
  | .closeMqtt i point =>
    match relay.mqtt[i]? with
    | none => (relay, .reply .finished)
    | some c =>
      match c.close point with
      | (left, log, next) =>
        match point, next with
        | .done result, _ => (relay, .reply (.closed result))
        | .queued _, .queued _ => (relay, .wait)
        | .disconnect, .disconnect => (relay, .wait)
        | .grace, .grace => (relay, .wait)
        | _, next => ((relay.setMqtt i left).log log, .go (.closeMqtt i next))

/-- How a call goes on when the one that it waited for has answered. -/
def resume (relay : Relay) (frame : Frame) (reply : Reply) : Relay × Next :=
  match frame, reply with
  | .start l .create, .receiver result => (relay, .go (.start l (Lifecycle.created result)))
  | .start l (.discard _), .closed result =>
    match relay.listeners[l]? with
    | none => (relay, .reply .finished)
    | some listener =>
      match Lifecycle.discarded listener.config result with
      | (log, point) => (relay.log log, .go (.start l point))
  | .stop l (.close _), .closed result =>
    match relay.listeners[l]? with
    | none => (relay, .reply .finished)
    | some listener =>
      match Lifecycle.closed listener.config result with
      | (log, point) => (relay.log log, .go (.stop l point))
  | .stop l .release, _ => (relay, .go (.stop l Lifecycle.released))
  | .release h (.close _), .closed result =>
    match relay.handles[h]? with
    | none => (relay, .reply .finished)
    | some handle =>
      (relay.log (Registry.closeRecords handle.name result), .go (.release h .done))
  | .closeShared name _, .closed result =>
    (relay.log (Registry.closeRecords name result), .reply .finished)
  | _, reply => (relay, .reply reply)

def abandon (relay : Relay) : Frame → Relay
  | .gated i ticket _ _ =>
    match relay.scripts[i]? with
    | some script => relay.setScript i { script with gate := script.gate.forsake ticket }
    | none => relay
  | .createMqtt i point =>
    match relay.mqtt[i]? with
    | some c => relay.setMqtt i (c.abandonCreate point)
    | none => relay
  | .closeMqtt i point =>
    match relay.mqtt[i]? with
    | some c => relay.setMqtt i (c.abandonClose point)
    | none => relay
  | _ => relay

end EventRelay.Relay
