import EventRelay.Provider

namespace EventRelay.Mqtt

structure Settings where
  host : String
  port : UInt16
  clientId : String
  username : Option String
  password : Option String
  keepAliveSecs : UInt64
  capacity : UInt64
  connectTimeoutSecs : UInt64
deriving DecidableEq, Repr

structure Options where
  host : String
  port : UInt16
  clientId : String
  keepAliveSecs : UInt64
  credentials : Option (String × String)
deriving DecidableEq, Repr

namespace Settings

def forHost (host : String) : Settings where
  host
  port := 1883
  clientId := "logbus-" ++ host
  username := none
  password := none
  keepAliveSecs := 30
  capacity := 100
  connectTimeoutSecs := 10

def usernameFor (settings : Settings) (params : ConnectionParams) : Option String :=
  params.username <|> settings.username

def credentialsFor (settings : Settings) (params : ConnectionParams) : Option (String × String) :=
  match settings.usernameFor params, params.password <|> settings.password with
  | some username, some password => some (username, password)
  | _, _ => none

def options (settings : Settings) (params : ConnectionParams) : Options where
  host := settings.host
  port := settings.port
  clientId := settings.clientId
  keepAliveSecs := settings.keepAliveSecs
  credentials := settings.credentialsFor params

def fields : List Json.Field :=
  [.required "broker_host" .string,
   .required "port" (.unsigned "u16" (1 <<< 16 - 1)),
   .required "client_id" .string,
   .optional "username" .string,
   .optional "password" .string,
   .required "keep_alive_secs" (.unsigned "u64" (1 <<< 64 - 1)),
   .required "capacity" (.unsigned "usize" (1 <<< 64 - 1)),
   .required "connect_timeout_secs" (.unsigned "u64" (1 <<< 64 - 1))]

abbrev shape : Json.Shape := ⟨"MqttBrokerConfig", fields⟩

def ofValues : Json.Values fields → Settings
  | (host, port, clientId, username, password, keepAlive, capacity, connectTimeout, ()) =>
    ⟨host, port.toUInt16, clientId, username, password, keepAlive.toUInt64, capacity.toUInt64,
      connectTimeout.toUInt64⟩

def decoder : Json.Decoder Settings := shape.decoder ofValues

end Settings

end EventRelay.Mqtt
