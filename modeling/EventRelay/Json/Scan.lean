import EventRelay.Json.Fault

namespace EventRelay.Json

def isBlank (b : UInt8) : Bool := b = 0x20 || b = 0x09 || b = 0x0a || b = 0x0d

def skipBlanks (bytes : Octets) : Octets := bytes.dropWhile isBlank

def word : Octets → Octets → Except Fault Octets
  | [], bytes => .ok bytes
  | _ :: _, [] => .error .valueCutShort
  | letter :: letters, b :: bytes =>
    if b = letter then word letters bytes else .error .expectedWord

def hexQuad : Octets → Except Fault (Nat × Octets)
  | a :: b :: c :: d :: rest =>
    match hexDigit? a, hexDigit? b, hexDigit? c, hexDigit? d with
    | some a, some b, some c, some d => .ok (((a * 16 + b) * 16 + c) * 16 + d, rest)
    | _, _, _, _ => .error .invalidEscape
  | _ => .error .stringCutShort

def isLeadingSurrogate (n : Nat) : Bool := 0xd800 ≤ n && n < 0xdc00

def isTrailingSurrogate (n : Nat) : Bool := 0xdc00 ≤ n && n < 0xe000

/-- The character whose code point follows `\u`; one outside the basic plane is written as a pair
    of surrogates. -/
def escapedChar (bytes : Octets) : Except Fault (Char × Octets) := do
  let (n, rest) ← hexQuad bytes
  if isTrailingSurrogate n then
    .error .loneSurrogate
  else if isLeadingSurrogate n then
    match rest with
    | [] => .error .stringCutShort
    | b :: rest =>
      if b ≠ Octet.backslash then .error .surrogateCutShort
      else
        match rest with
        | [] => .error .stringCutShort
        | b :: rest =>
          if b ≠ 0x75 then .error .surrogateCutShort
          else
            let (m, rest) ← hexQuad rest
            if isTrailingSurrogate m then
              .ok (Char.ofNat (0x10000 + (n - 0xd800) * 0x400 + (m - 0xdc00)), rest)
            else
              .error .loneSurrogate
  else
    .ok (Char.ofNat n, rest)

def escapedOctet? (b : UInt8) : Option UInt8 :=
  if b = Octet.quote ∨ b = Octet.backslash ∨ b = Octet.slash then some b
  else if b = 0x62 then some 0x08
  else if b = 0x66 then some 0x0c
  else if b = 0x6e then some 0x0a
  else if b = 0x72 then some 0x0d
  else if b = 0x74 then some 0x09
  else none

def escaped : Octets → Except Fault (Octets × Octets)
  | [] => .error .stringCutShort
  | b :: rest =>
    match escapedOctet? b with
    | some octet => .ok ([octet], rest)
    | none =>
      if b = 0x75 then do
        let (c, rest) ← escapedChar rest
        return (octets c.toString, rest)
      else .error .invalidEscape

/-- The octets of a string up to its closing quote, escapes resolved. The first argument bounds
    the length of what is read. -/
def stringOctets : Nat → Octets → Except Fault (Octets × Octets)
  | 0, _ => .error .stringCutShort
  | _ + 1, [] => .error .stringCutShort
  | fuel + 1, b :: rest =>
    if b = Octet.quote then .ok ([], rest)
    else if b = Octet.backslash then do
      let (front, rest) ← escaped rest
      let (more, rest) ← stringOctets fuel rest
      return (front ++ more, rest)
    else if b < 0x20 then .error .controlCharacter
    else do
      let (more, rest) ← stringOctets fuel rest
      return (b :: more, rest)

def readString (bytes : Octets) : Except Fault (String × Octets) := do
  let (content, rest) ← stringOctets (bytes.length + 1) bytes
  match content.text? with
  | some s => return (s, rest)
  | none => .error .invalidUnicode

end EventRelay.Json
