import EventRelay.Json.Decoder

namespace EventRelay.Json

structure Field where
  name : String
  Value : Type
  decoder : Decoder Value
  whenMissing : Option Value
  whenShort : Option Value

namespace Field

def required (name : String) {α : Type} (decoder : Decoder α) : Field :=
  ⟨name, α, decoder, none, none⟩

def defaulted (name : String) {α : Type} (decoder : Decoder α) (value : α) : Field :=
  ⟨name, α, decoder, some value, some value⟩

/-- A field that an object may lack, but not a list. -/
def optional (name : String) {α : Type} (decoder : Decoder α) : Field :=
  ⟨name, Option α, decoder.optional, some none, none⟩

end Field

abbrev Slots : List Field → Type
  | [] => Unit
  | f :: fields => Option f.Value × Slots fields

abbrev Values : List Field → Type
  | [] => Unit
  | f :: fields => f.Value × Values fields

namespace Slots

def empty : (fields : List Field) → Slots fields
  | [] => ()
  | _ :: fields => (none, empty fields)

def values : (fields : List Field) → Slots fields → Except Fault (Values fields)
  | [], () => .ok ()
  | f :: fields, (slot, slots) => do
    match slot <|> f.whenMissing with
    | some x => return (x, ← values fields slots)
    | none => .error (.missingField f.name)

def readMember (levels : Nat) (key : String) :
    (fields : List Field) → Slots fields → Octets → Except Fault (Slots fields × Octets)
  | [], (), bytes => do return ((), ← skip (← passColon bytes))
  | f :: fields, (slot, slots), bytes =>
    if f.name = key then
      match slot with
      | some _ => .error (.duplicateField key)
      | none => do
        let (x, bytes) ← f.decoder.read levels (← passColon bytes)
        return ((some x, slots), bytes)
    else do
      let (slots, bytes) ← readMember levels key fields slots bytes
      return ((slot, slots), bytes)

def putMember (key : String) (value : Json) :
    (fields : List Field) → Slots fields → Except Fault (Slots fields)
  | [], () => .ok ()
  | f :: fields, (slot, slots) =>
    if f.name = key then
      match slot with
      | some _ => .error (.duplicateField key)
      | none => do return (some (← f.decoder.ofJson value), slots)
    else do return (slot, ← putMember key value fields slots)

def putMembers (fields : List Field) :
    List (String × Json) → Slots fields → Except Fault (Slots fields)
  | [], slots => .ok slots
  | (key, value) :: rest, slots => do putMembers fields rest (← putMember key value fields slots)

end Slots

structure Shape where
  name : String
  fields : List Field

namespace Shape

def expectation (shape : Shape) : String := "struct " ++ shape.name

def tooShort (shape : Shape) (length : Nat) : Fault :=
  .wrongLength length
    (shape.expectation ++ " with " ++ toString shape.fields.length ++ " elements")

def readItems (shape : Shape) (levels : Nat) :
    (index : Nat) → (fields : List Field) → Octets → Except Fault (Values fields × Octets)
  | _, [], bytes => .ok ((), bytes)
  | index, f :: fields, bytes => do
    match ← nextItem (index == 0) bytes with
    | some bytes =>
      let (x, bytes) ← f.decoder.read levels bytes
      let (xs, bytes) ← readItems shape levels (index + 1) fields bytes
      return ((x, xs), bytes)
    | none =>
      match f.whenShort with
      | some x =>
        let (xs, bytes) ← readItems shape levels (index + 1) fields bytes
        return ((x, xs), bytes)
      | none => .error (shape.tooShort index)

def takeItems (shape : Shape) (length : Nat) :
    (index : Nat) → (fields : List Field) → List Json → Except Fault (Values fields)
  | _, [], [] => .ok ()
  | _, [], _ :: _ => .error (.wrongLength length "fewer elements in array")
  | index, f :: fields, item :: items => do
    let x ← f.decoder.ofJson item
    return (x, ← takeItems shape length (index + 1) fields items)
  | index, f :: fields, [] => do
    match f.whenShort with
    | some x => return (x, ← takeItems shape length (index + 1) fields [])
    | none => .error (shape.tooShort index)

def read (shape : Shape) (levels : Nat) (bytes : Octets) :
    Except Fault (Values shape.fields × Octets) :=
  match skipBlanks bytes with
  | [] => .error .valueCutShort
  | b :: rest =>
    if b = Octet.openBracket then
      match levels with
      | 0 => .error .tooDeep
      | levels + 1 => do
        let (xs, rest) ← shape.readItems levels 0 shape.fields rest
        return (xs, ← closeList rest)
    else if b = Octet.openBrace then
      match levels with
      | 0 => .error .tooDeep
      | levels + 1 => do
        let member key slots bytes := Slots.readMember levels key shape.fields slots bytes
        let (slots, rest) ←
          readMembers member (rest.length + 1) true (Slots.empty shape.fields) rest
        let xs ← slots.values
        return (xs, ← closeObject rest)
    else .error (mismatch shape.expectation b rest)

def ofJson (shape : Shape) : Json → Except Fault (Values shape.fields)
  | .array items => shape.takeItems items.length 0 shape.fields items
  | .object members => do
    let slots ← Slots.putMembers shape.fields members (Slots.empty shape.fields)
    slots.values
  | x => .error (.wrongType (.ofJson x) shape.expectation)

def decoder {α : Type} (shape : Shape) (make : Values shape.fields → α) : Decoder α where
  read levels bytes := do
    let (xs, rest) ← shape.read levels bytes
    return (make xs, rest)
  ofJson x := make <$> shape.ofJson x

end Shape

end EventRelay.Json
