import EventRelay.Relay.Tasks

namespace EventRelay

inductive Thing
  | listener
  | handle
  | connection
  | receiver
  | task
  | factory
  | broker
  | script
deriving DecidableEq, Repr

namespace Thing

def name : Thing → String
  | listener => "listener"
  | handle => "handle"
  | connection => "connection"
  | receiver => "receiver"
  | task => "task"
  | factory => "factory"
  | broker => "broker"
  | script => "script"

def all : List Thing :=
  [listener, handle, connection, receiver, task, factory, broker, script]

def anyOf (things : List Thing) : String := " or ".intercalate (things.map Thing.name)

def ofName? (name : String) : Option Thing := all.find? fun thing => thing.name == name

end Thing

/-- What is made by name, each name standing for the latest thing of its sort. -/
abbrev Names (α : Type) := List (String × α)

def Names.put {α : Type} (names : Names α) (name : String) (x : α) : Names α :=
  (name, x) :: names.filter (·.1 ≠ name)

def Names.remove {α : Type} (names : Names α) (name : String) : Names α :=
  names.filter (·.1 ≠ name)

inductive Operation
  | start (listener : String)
  | stop (listener : String)
  | release (handle : String)
  | createReceiver (connection receiver : String)
  | receiverOn (handle receiver : String)
  | closeConnection (connection : String)
  | closeReceiver (receiver : String)
deriving Repr

inductive SinkChoice
  | record
  | log
  | channel
deriving DecidableEq, Repr

inductive Step
  | memory (name : String) (cloneOf : Option String) (credentials : Option (String × String))
  | publish (broker destination : String) (message : Message)
  | setUnavailable (broker : String) (value : Bool)
  | setCloseFailure (broker : String) (value : Bool)
  | counters (broker destination : String)
  | script (name : String)
  | plan (script : String) (call : Script.Call) (outcome : Script.Outcome)
  | openGate (script : String)
  | deliver (script : String) (message : Message)
  | mqttBroker (name : String)
  | mqttFactory (name : String) (bindings : List (String × Option String × Mqtt.Settings))
  | publishMqtt (broker topic : String) (payload : Octets)
  | hasLink (broker : String)
  | prepare (broker : String)
  | connect (name factory : String) (params : ConnectionParams)
  | setListener (receiver recorder : String)
  | forward (receiver listener : String)
  | resolve (name key factory : String) (params : ConnectionParams) (registry : String)
  | isReleased (handle : String)
  | refs (registry key : String)
  | cloneRegistry (name source : String)
  | listener (name factory : String) (config : ListenerConfig) (registry : String)
      (sink : SinkChoice) (diagnosticsLogged : Bool)
  | state (listener : String)
  | onMessage (listener : String) (message : Message)
  | startMany (listener : String) (count : Nat)
  | closeChannel (listener : String)
  | call (operation : Operation)
  | spawn (task : String) (operation : Operation)
  | join (task : String)
  | cancel (task : String)
  | drop (what : Thing) (name : String) (background : Bool)
  | pass

inductive Answer
  | nothing
  | flag (value : Bool)
  | count (value : Nat)
  | counters (opened closed created receivers : Nat)
  | refs (contained : Bool) (count : Nat)
  | state (state : ListenerState)
  | made (id : String) (state : ListenerState)
  | handle (name : String) (released : Bool)
  | result (result : Except ProviderError Unit)
  | started (config : ListenerConfig) (result : Except ListenerError Unit)
  | pending
  | missing (what : List Thing)

structure Background where
  task : Nat
  operation : Operation
  config : ListenerConfig

structure Session where
  relay : Relay
  brokers : Names Nat := []
  scripts : Names Nat := []
  factories : Names Factory := []
  mqttBrokers : Names UInt16 := []
  connections : Names Nat := []
  receivers : Names Nat := []
  registries : Names Nat := []
  handles : Names Nat := []
  listeners : Names Nat := []
  channels : Names (Option Nat) := []
  tasks : Names Background := []

namespace Session

def commonRegistry : String := "global"

def find {α : Type} (names : Names α) (what : Thing) (name : String) : Except (List Thing) α :=
  match names.lookup name with
  | some x => .ok x
  | none => .error [what]

/-- The registry of a name, which comes to be when it is first named. -/
def registry (session : Session) (name : String) : Session × Nat :=
  match session.registries.lookup name with
  | some i => (session, i)
  | none =>
    let i := session.relay.registries.length
    ({ session with
        relay := { session.relay with registries := session.relay.registries ++ [{}] }
        registries := session.registries.put name i }, i)

def configOf (session : Session) (l : Nat) : ListenerConfig :=
  match session.relay.listeners[l]? with
  | some listener => listener.config
  | none => ⟨"", "", "", none, none⟩

def frame (session : Session) : Operation → Except (List Thing) (Frame × ListenerConfig)
  | .start name => do
    let l ← find session.listeners .listener name
    return (.start l .claim, session.configOf l)
  | .stop name => do
    let l ← find session.listeners .listener name
    return (.stop l .read, session.configOf l)
  | .release name => do
    return (.release (← find session.handles .handle name) .mark, session.configOf 0)
  | .createReceiver name _ => do
    return (.createReceiver (← find session.connections .connection name), session.configOf 0)
  | .receiverOn name _ => do
    return (.receiverOn (← find session.handles .handle name), session.configOf 0)
  | .closeConnection name => do
    return (.closeConnection (← find session.connections .connection name), session.configOf 0)
  | .closeReceiver name => do
    return (.closeReceiver (← find session.receivers .receiver name), session.configOf 0)

def finish (session : Session) (operation : Operation) (config : ListenerConfig) :
    Reply → Session × Answer
  | .finished => (session, .nothing)
  | .started result => (session, .started config result)
  | .closed result => (session, .result result)
  | .receiver (.error e) => (session, .result (.error e))
  | .receiver (.ok r) =>
    match operation with
    | .createReceiver _ name | .receiverOn _ name =>
      ({ session with receivers := session.receivers.put name r }, .result (.ok ()))
    | _ => (session, .result (.ok ()))

def onBroker (session : Session) (name : String)
    (f : Memory.Broker Callback → Memory.Broker Callback) : Except (List Thing) (Session × Answer) := do
  let i ← find session.brokers .broker name
  match session.relay.brokers[i]? with
  | none => .error [.broker]
  | some broker => return ({ session with relay := session.relay.setBroker i (f broker) }, .nothing)

def onScript (session : Session) (name : String)
    (f : Script.Provider Callback → Script.Provider Callback) : Except (List Thing) (Session × Answer) := do
  let i ← find session.scripts .script name
  match session.relay.scripts[i]? with
  | none => .error [.script]
  | some script =>
    return ({ session with relay := (session.relay.setScript i (f script)).rest }, .nothing)

def brokerHost : String := "127.0.0.1"

def firstPort : Nat := 49152

def link? (session : Session) (port : UInt16) : Option Nat :=
  (List.range session.relay.mqtt.length).reverse.find? fun i =>
    match session.relay.mqtt[i]? with
    | some c => c.polling == .active && c.options.host == brokerHost && c.options.port == port
    | none => false

def bindingSettings (session : Session) (broker : Option String) (settings : Mqtt.Settings) :
    Except (List Thing) Mqtt.Settings :=
  match broker with
  | none => .ok settings
  | some name => do
    return { settings with host := brokerHost, port := ← find session.mqttBrokers .broker name }

def register (session : Session) (receiver : Nat) (callback : Callback) : Session × Answer :=
  match session.relay.register receiver callback with
  | (relay, result) => ({ session with relay := relay.rest }, .result result)

def letGo (session : Session) (held : Option Held) (background : Bool) : Session :=
  match held with
  | some held => { session with relay := session.relay.letGo held background }
  | none => session

def shut (session : Session) (name : String) : Session :=
  match session.channels.lookup name with
  | some (some l) =>
    let relay :=
      match session.relay.listeners[l]? with
      | some listener =>
        match listener.sink with
        | .channel label _ =>
          session.relay.setListener l { listener with sink := .channel label false }
        | _ => session.relay
      | none => session.relay
    { session with relay, channels := session.channels.remove name }
  | _ => { session with channels := session.channels.remove name }

def openChannel (session : Session) (name : String) (listener : Option Nat) : Session :=
  { session.shut name with channels := (session.shut name).channels.put name listener }

def step (session : Session) : Step → Except (List Thing) (Session × Answer)
  | .memory name cloneOf credentials => do
    let i := session.relay.brokers.length
    let (i, relay, required) ←
      match cloneOf with
      | none => pure (i, { session.relay with brokers := session.relay.brokers ++ [{}] }, none)
      | some source => do
        let i ← find session.brokers .broker source
        match session.factories.lookup source with
        | some (.memory _ required) => pure (i, session.relay, required)
        | _ => pure (i, session.relay, none)
    let factory := Factory.memory i (credentials <|> required)
    return ({ session with
        relay
        brokers := session.brokers.put name i
        factories := session.factories.put name factory }, .nothing)
  | .publish broker destination message => do
    let i ← find session.brokers .broker broker
    match session.relay.publish i destination message with
    | (relay, count) => return ({ session with relay }, .count count)
  | .setUnavailable broker value =>
    session.onBroker broker fun broker => { broker with unavailable := value }
  | .setCloseFailure broker value =>
    session.onBroker broker fun broker => { broker with failClose := value }
  | .counters broker destination => do
    let i ← find session.brokers .broker broker
    match session.relay.brokers[i]? with
    | none => .error [.broker]
    | some broker =>
      return (session,
        .counters broker.opened broker.closed broker.created (broker.audience destination).length)
  | .script name => do
    let i := session.relay.scripts.length
    return ({ session with
        relay := { session.relay with scripts := session.relay.scripts ++ [{}] }
        scripts := session.scripts.put name i
        factories := session.factories.put name (.script i) }, .nothing)
  | .plan script call outcome => session.onScript script fun script => script.plan call outcome
  | .openGate script =>
    session.onScript script fun script => { script with gate := script.gate.openOnce }
  | .deliver script message => do
    let i ← find session.scripts .script script
    match session.relay.deliver i message with
    | (relay, count) => return ({ session with relay }, .count count)
  | .mqttBroker name =>
    let port := (firstPort + session.mqttBrokers.length).toUInt16
    return ({ session with mqttBrokers := session.mqttBrokers.put name port }, .nothing)
  | .mqttFactory name bindings => do
    let factory ← bindings.foldlM (fun (factory : Mqtt.Factory) (binding, broker, settings) => do
      return factory.bind binding (← session.bindingSettings broker settings)) {}
    return ({ session with factories := session.factories.put name (.mqtt factory) }, .nothing)
  | .publishMqtt broker topic payload => do
    let port ← find session.mqttBrokers .broker broker
    match session.link? port with
    | none => return (session, .flag false)
    | some i =>
      return ({ session with relay := (session.relay.poll i (.publish topic payload)).rest },
        .flag true)
  | .hasLink broker => do
    let port ← find session.mqttBrokers .broker broker
    return (session, .flag (session.link? port).isSome)
  | .prepare broker => do
    let _ ← find session.mqttBrokers .broker broker
    return (session, .nothing)
  | .connect name factory params => do
    let factory ← find session.factories .factory factory
    match session.relay.connect factory params with
    | (relay, .ok c) =>
      return ({ session with relay, connections := session.connections.put name c },
        .result (.ok ()))
    | (relay, .error e) => return ({ session with relay }, .result (.error e))
  | .setListener receiver recorder => do
    let r ← find session.receivers .receiver receiver
    return session.register r (.recorder recorder)
  | .forward receiver listener => do
    match session.receivers.lookup receiver, session.listeners.lookup listener with
    | some r, some l => return session.register r (.forward l)
    | _, _ => .error [.receiver, .listener]
  | .resolve name key factory params registry => do
    let factory ← find session.factories .factory factory
    match session.registry registry with
    | (session, i) =>
      match session.relay.handle i key params factory with
      | (relay, .error e) => return ({ session with relay }, .result (.error e))
      | (relay, .ok h) =>
        let named := { session with relay, handles := session.handles.put name h }
        match session.handles.lookup name with
        | some old =>
          return ({ named with relay := named.relay.letGo (.handle old) true }, .handle key false)
        | none => return (named, .handle key false)
  | .isReleased handle => do
    let h ← find session.handles .handle handle
    match session.relay.handles[h]? with
    | some handle => return (session, .flag handle.released)
    | none => .error [.handle]
  | .refs registry key =>
    match session.registry registry with
    | (session, i) =>
      match session.relay.registries[i]? with
      | some registry => return (session, .refs (registry.contains key) (registry.refCount key))
      | none => return (session, .refs false 0)
  | .cloneRegistry name source =>
    match session.registry source with
    | (session, i) =>
      return ({ session with registries := session.registries.put name i }, .nothing)
  | .listener name factory config registry sink diagnosticsLogged => do
    let factory ← find session.factories .factory factory
    match session.registry registry with
    | (session, i) =>
      let read (session : Session) (listener : Option Nat) :=
        if sink = .channel then session.openChannel name listener else session
      let destination : Sink :=
        match sink with
        | .record => .record name
        | .log => .log {}
        | .channel => .channel name true
      let diagnostics := if diagnosticsLogged then none else some name
      match session.relay.listen config i factory destination diagnostics with
      | (relay, .error e) =>
        return (read { session with relay } none, .started config (.error e))
      | (relay, .ok l) =>
        let named := read { session with relay, listeners := session.listeners.put name l } (some l)
        let answer := Answer.made config.id .initialized
        match session.listeners.lookup name with
        | some old =>
          return ({ named with relay := named.relay.letGo (.listener old) true }, answer)
        | none => return (named, answer)
  | .state listener => do
    let l ← find session.listeners .listener listener
    match session.relay.listeners[l]? with
    | some listener => return (session, .state listener.lifecycle.state)
    | none => .error [.listener]
  | .onMessage listener message => do
    let l ← find session.listeners .listener listener
    return ({ session with relay := session.relay.dispatch l message }, .nothing)
  | .startMany listener count => do
    let l ← find session.listeners .listener listener
    match session.relay.callAll (List.replicate count (.start l .claim)) with
    | (relay, replies) =>
      let succeeded := replies.filter fun
        | .started (.ok ()) => true
        | _ => false
      return ({ session with relay }, .count succeeded.length)
  | .closeChannel listener =>
    return (session.shut listener, .flag (session.channels.lookup listener).isSome)
  | .call operation => do
    let (frame, config) ← session.frame operation
    match session.relay.call frame with
    | (relay, some reply) => return { session with relay }.finish operation config reply
    | (relay, none) => return ({ session with relay }, .pending)
  | .spawn task operation => do
    let (frame, config) ← session.frame operation
    match session.relay.spawn frame with
    | (relay, t) =>
      return ({ session with relay, tasks := session.tasks.put task ⟨t, operation, config⟩ },
        .nothing)
  | .join task => do
    let background ← find session.tasks .task task
    match session.relay.reply? background.task with
    | none => return (session, .pending)
    | some reply =>
      return { session with tasks := session.tasks.remove task }.finish background.operation
        background.config reply
  | .cancel task => do
    let background ← find session.tasks .task task
    return ({ session with
        relay := session.relay.cancel background.task
        tasks := session.tasks.remove task }, .nothing)
  | .drop what name background =>
    match what with
    | .listener =>
      let left := session.letGo ((session.listeners.lookup name).map .listener) background
      return ({ left with listeners := left.listeners.remove name }, .nothing)
    | .handle =>
      let left := session.letGo ((session.handles.lookup name).map .handle) background
      return ({ left with handles := left.handles.remove name }, .nothing)
    | .connection =>
      return ({ session with connections := session.connections.remove name }, .nothing)
    | .receiver => return ({ session with receivers := session.receivers.remove name }, .nothing)
    | _ => return (session, .nothing)
  | .pass => return (session, .nothing)

def perform (session : Session) (next : Step) : Session × Answer × List Occurrence :=
  match session.step next with
  | .error what => (session, .missing what, [])
  | .ok (session, answer) =>
    match session.relay.takeHistory with
    | (relay, history) => ({ session with relay }, answer, history)

end Session

end EventRelay
