import EventRelay.Json.Skip

namespace EventRelay.Json

structure Decoder (α : Type) where
  read : Nat → Octets → Except Fault (α × Octets)
  ofJson : Json → Except Fault α

def Decoder.decode {α : Type} (decoder : Decoder α) (bytes : Octets) : Except Fault α := do
  let (x, rest) ← decoder.read maxDepth bytes
  endOfText rest
  return x

def Found.ofJson : Json → Found
  | .null => .null
  | .bool b => .bool b
  | .number n => .number n
  | .string s => .string s
  | .array _ => .sequence
  | .object _ => .map

/-- What a text that starts with the octet `b` holds where something else was expected: a container
    is known by its bracket, anything else is read first. -/
def mismatch (expected : String) (b : UInt8) (rest : Octets) : Fault :=
  if b = Octet.openBracket then .wrongType .sequence expected
  else if b = Octet.openBrace then .wrongType .map expected
  else
    match readScalar b rest with
    | .ok (found, _) => .wrongType (.ofJson found) expected
    | .error fault => fault

def Decoder.json : Decoder Json where
  read := readValue
  ofJson := .ok

def readStringAs (expected : String) (bytes : Octets) : Except Fault (String × Octets) :=
  match skipBlanks bytes with
  | [] => .error .valueCutShort
  | b :: rest => if b = Octet.quote then readString rest else .error (mismatch expected b rest)

def Decoder.string : Decoder String where
  read _ bytes := readStringAs "a string" bytes
  ofJson
    | .string s => .ok s
    | x => .error (.wrongType (.ofJson x) "a string")

def unsignedOfNumber (expected : String) (limit : Nat) (n : Number) : Except Fault Nat :=
  match n with
  | .natural m =>
    if m.toNat ≤ limit then .ok m.toNat else .error (.wrongValue (.number n) expected)
  | .negative _ => .error (.wrongValue (.number n) expected)
  | .binary _ => .error (.wrongType (.number n) expected)

def Decoder.unsigned (expected : String) (limit : Nat) : Decoder Nat where
  read _ bytes :=
    match skipBlanks bytes with
    | [] => .error .valueCutShort
    | b :: rest =>
      if startsNumber b then do
        let (n, rest) ← readNumber (b :: rest)
        return (← unsignedOfNumber expected limit n, rest)
      else .error (mismatch expected b rest)
  ofJson
    | .number n => unsignedOfNumber expected limit n
    | x => .error (.wrongType (.ofJson x) expected)

def Decoder.optional {α : Type} (decoder : Decoder α) : Decoder (Option α) where
  read levels bytes :=
    match skipBlanks bytes with
    | [] => .error .valueCutShort
    | b :: rest =>
      if b = 0x6e then do return (none, ← word (octets "ull") rest)
      else do
        let (x, rest) ← decoder.read levels (b :: rest)
        return (some x, rest)
  ofJson
    | .null => .ok none
    | x => some <$> decoder.ofJson x

def named {α : Type} (choices : List (String × α)) (name : String) : Except Fault α :=
  match choices.lookup name with
  | some x => .ok x
  | none => .error (.unknownName name (choices.map (·.1)))

def passNull (bytes : Octets) : Except Fault Octets :=
  match skipBlanks bytes with
  | [] => .error .valueCutShort
  | b :: rest =>
    if b = 0x6e then word (octets "ull") rest else .error (mismatch "unit" b rest)

def Decoder.choice {α : Type} (choices : List (String × α)) : Decoder α where
  read levels bytes :=
    match skipBlanks bytes with
    | [] => .error .valueCutShort
    | b :: rest =>
      if b = Octet.quote then do
        let (name, rest) ← readString rest
        return (← named choices name, rest)
      else if b = Octet.openBrace then
        if levels = 0 then .error .tooDeep
        else do
          let (name, rest) ← readStringAs "variant identifier" rest
          let x ← named choices name
          match skipBlanks (← passNull (← passColon rest)) with
          | [] => .error .objectCutShort
          | b :: rest => if b = Octet.closeBrace then .ok (x, rest) else .error .expectedValue
      else .error .expectedValue
  ofJson
    | .string name => named choices name
    | .object [(name, x)] => do
      let choice ← named choices name
      match x with
      | .null => return choice
      | x => .error (.wrongType (.ofJson x) "unit")
    | .object _ => .error (.wrongValue .map "map with a single key")
    | x => .error (.wrongType (.ofJson x) "string or map")

end EventRelay.Json
