import EventRelay.Json.Reader

namespace EventRelay.Json

def skipEscape : Octets → Except Fault Octets
  | [] => .error .stringCutShort
  | b :: rest =>
    if (escapedOctet? b).isSome then .ok rest
    else if b = 0x75 then do
      let (_, rest) ← hexQuad rest
      return rest
    else .error .invalidEscape

def skipString : Nat → Octets → Except Fault Octets
  | 0, _ => .error .stringCutShort
  | _ + 1, [] => .error .stringCutShort
  | fuel + 1, b :: rest =>
    if b = Octet.quote then .ok rest
    else if b = Octet.backslash then do skipString fuel (← skipEscape rest)
    else if b < 0x20 then .error .controlCharacter
    else skipString fuel rest

def dropDigits (bytes : Octets) : Octets := (spanDigits bytes).2

def skipDigits : Octets → Except Fault Octets
  | [] => .error .invalidNumber
  | b :: rest => if (digit? b).isSome then .ok (dropDigits rest) else .error .invalidNumber

def skipExponent : Octets → Except Fault Octets
  | b :: rest =>
    if b = 0x65 ∨ b = 0x45 then
      match rest with
      | s :: more => if s = Octet.plus ∨ s = Octet.minus then skipDigits more else skipDigits rest
      | [] => .error .invalidNumber
    else .ok (b :: rest)
  | [] => .ok []

def skipFraction : Octets → Except Fault Octets
  | b :: rest =>
    if b = Octet.point then do skipExponent (← skipDigits rest)
    else skipExponent (b :: rest)
  | [] => .ok []

def skipMagnitude : Octets → Except Fault Octets
  | [] => .error .invalidNumber
  | b :: rest =>
    match digit? b with
    | none => .error .invalidNumber
    | some 0 =>
      match rest with
      | c :: _ => if (digit? c).isSome then .error .invalidNumber else skipFraction rest
      | [] => .ok []
    | some _ => skipFraction (dropDigits rest)

def skipScalar (b : UInt8) (rest : Octets) : Except Fault Octets :=
  if b = 0x6e then word (octets "ull") rest
  else if b = 0x74 then word (octets "rue") rest
  else if b = 0x66 then word (octets "alse") rest
  else if b = Octet.quote then skipString (rest.length + 1) rest
  else if b = Octet.minus then skipMagnitude rest
  else if (digit? b).isSome then skipMagnitude (b :: rest)
  else .error .expectedValue

def skipKey (bytes : Octets) : Except Fault Octets :=
  match skipBlanks bytes with
  | [] => .error .objectCutShort
  | b :: rest =>
    if b = Octet.quote then do passColon (← skipString (rest.length + 1) rest)
    else .error .keyNotString

mutual

/-- Passes the value at the front. The first argument bounds the length of what is passed. -/
def skipValue : Nat → Octets → Except Fault Octets
  | 0, _ => .error .valueCutShort
  | fuel + 1, bytes =>
    match skipBlanks bytes with
    | [] => .error .valueCutShort
    | b :: rest =>
      if b = Octet.openBracket then skipItems fuel true rest
      else if b = Octet.openBrace then skipMembers fuel true rest
      else skipScalar b rest

def skipItems : Nat → Bool → Octets → Except Fault Octets
  | 0, _, _ => .error .listCutShort
  | fuel + 1, first, bytes =>
    match skipBlanks bytes with
    | [] => .error .listCutShort
    | b :: rest =>
      if b = Octet.closeBracket then .ok rest
      else if first then do skipItems fuel false (← skipValue fuel (b :: rest))
      else if b = Octet.comma then do skipItems fuel false (← skipValue fuel rest)
      else .error .expectedCommaOrBracket

def skipMembers : Nat → Bool → Octets → Except Fault Octets
  | 0, _, _ => .error .objectCutShort
  | fuel + 1, first, bytes =>
    match skipBlanks bytes with
    | [] => .error .objectCutShort
    | b :: rest =>
      if b = Octet.closeBrace then .ok rest
      else if first then do
        skipMembers fuel false (← skipValue fuel (← skipKey (b :: rest)))
      else if b = Octet.comma then do
        skipMembers fuel false (← skipValue fuel (← skipKey rest))
      else .error .expectedCommaOrBrace

end

def skip (bytes : Octets) : Except Fault Octets := skipValue (2 * bytes.length + 1) bytes

end EventRelay.Json
