import EventRelay.Event

namespace EventRelay

inductive MessageKind
  | object
  | text
  | bytes
  | map
  | stream
deriving DecidableEq, Repr

namespace MessageKind

def all : List MessageKind := [object, text, bytes, map, stream]

def name : MessageKind → String
  | object => "object"
  | text => "text"
  | bytes => "bytes"
  | map => "map"
  | stream => "stream"

def decoder : Json.Decoder MessageKind := .choice (all.map fun kind => (kind.name, kind))

end MessageKind

structure CarriedObject where
  typeName : String
  value : Json

namespace CarriedObject

def fields : List Json.Field :=
  [.required "type" .string, .defaulted "value" .json .null]

abbrev shape : Json.Shape := ⟨"CarriedObject", fields⟩

def ofValues : Json.Values fields → CarriedObject
  | (typeName, value, ()) => ⟨typeName, value⟩

def decoder : Json.Decoder CarriedObject := shape.decoder ofValues

def members (carried : CarriedObject) : List (String × Json) :=
  [("type", .string carried.typeName), ("value", carried.value)]

def toJson (carried : CarriedObject) : Json := .ofMembers carried.members

def encode (carried : CarriedObject) : Octets :=
  Json.encodeObject (carried.members.map fun member => (member.1, member.2.encode))

def ofEvent (event : Event) : CarriedObject := ⟨Event.typeName, event.toJson⟩

def event? (carried : CarriedObject) : Except Json.Fault (Option Event) :=
  if carried.typeName = Event.typeName then some <$> Event.decoder.ofJson carried.value
  else .ok none

def same (a b : CarriedObject) : Bool := a.typeName == b.typeName && a.value.same b.value

end CarriedObject

structure Message where
  kind : MessageKind
  type : Option String
  body : Json

namespace Message

def fields : List Json.Field :=
  [.required "kind" MessageKind.decoder,
   .defaulted "type" (.optional .string) none,
   .defaulted "body" .json .null]

abbrev shape : Json.Shape := ⟨"InboundMessage", fields⟩

def ofValues : Json.Values fields → Message
  | (kind, type, body, ()) => ⟨kind, type, body⟩

def decoder : Json.Decoder Message := shape.decoder ofValues

def decode (payload : Octets) : Except Json.Fault Message := decoder.decode payload

def encode (message : Message) : Octets :=
  Json.encodeObject
    ([("kind", Json.encodeString message.kind.name)]
      ++ (message.type.map fun s => ("type", Json.encodeString s)).toList
      ++ [("body", message.body.encode)])

def ofObject (body : Json) : Message := ⟨.object, none, body⟩

def ofEvent (event : Event) : Message := ofObject (CarriedObject.ofEvent event).toJson

def ofText (text : String) : Message := ⟨.text, none, .string text⟩

/-- The message that holds raw octets, as a list of numbers. -/
def ofOctets (bytes : Octets) : Message :=
  ⟨.bytes, none, .array (bytes.map fun b => .natural b.toUInt64)⟩

def withType (message : Message) (type : String) : Message := { message with type := some type }

def same (a b : Message) : Bool := a.kind == b.kind && a.type == b.type && a.body.same b.body

end Message

end EventRelay
