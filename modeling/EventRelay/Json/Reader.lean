import EventRelay.Json.Basic
import EventRelay.Json.Numeral

namespace EventRelay.Json

/-- How deep the values of a document nest at most. -/
def maxDepth : Nat := 127

def nextItem (first : Bool) (bytes : Octets) : Except Fault (Option Octets) :=
  match skipBlanks bytes with
  | [] => .error .listCutShort
  | b :: rest =>
    if b = Octet.closeBracket then .ok none
    else if first then .ok (some (b :: rest))
    else if b = Octet.comma then
      match skipBlanks rest with
      | [] => .error .valueCutShort
      | b :: rest => if b = Octet.closeBracket then .error .trailingComma else .ok (some (b :: rest))
    else .error .expectedCommaOrBracket

def nextKey (first : Bool) (bytes : Octets) : Except Fault (Option (String × Octets)) :=
  match skipBlanks bytes with
  | [] => .error .objectCutShort
  | b :: rest =>
    if b = Octet.closeBrace then .ok none
    else if first then
      if b = Octet.quote then some <$> readString rest else .error .keyNotString
    else if b = Octet.comma then
      match skipBlanks rest with
      | [] => .error .valueCutShort
      | b :: rest =>
        if b = Octet.quote then some <$> readString rest
        else if b = Octet.closeBrace then .error .trailingComma
        else .error .keyNotString
    else .error .expectedCommaOrBrace

def passColon (bytes : Octets) : Except Fault Octets :=
  match skipBlanks bytes with
  | [] => .error .objectCutShort
  | b :: rest => if b = Octet.colon then .ok rest else .error .expectedColon

def closeList (bytes : Octets) : Except Fault Octets :=
  match skipBlanks bytes with
  | [] => .error .listCutShort
  | b :: rest =>
    if b = Octet.closeBracket then .ok rest
    else if b = Octet.comma ∧ (skipBlanks rest).head? = some Octet.closeBracket then
      .error .trailingComma
    else .error .trailingCharacters

def closeObject (bytes : Octets) : Except Fault Octets :=
  match skipBlanks bytes with
  | [] => .error .objectCutShort
  | b :: rest =>
    if b = Octet.closeBrace then .ok rest
    else if b = Octet.comma then .error .trailingComma
    else .error .trailingCharacters

/-- The items of a list up to its closing bracket. The first argument bounds their number. -/
def readItems {α : Type} (item : Octets → Except Fault (α × Octets)) :
    Nat → Bool → Octets → Except Fault (List α × Octets)
  | 0, _, _ => .error .listCutShort
  | fuel + 1, first, bytes => do
    match ← nextItem first bytes with
    | none => return ([], bytes)
    | some bytes =>
      let (x, bytes) ← item bytes
      let (xs, bytes) ← readItems item fuel false bytes
      return (x :: xs, bytes)

def readMembers {σ : Type} (member : String → σ → Octets → Except Fault (σ × Octets)) :
    Nat → Bool → σ → Octets → Except Fault (σ × Octets)
  | 0, _, _, _ => .error .objectCutShort
  | fuel + 1, first, known, bytes => do
    match ← nextKey first bytes with
    | none => return (known, bytes)
    | some (key, bytes) =>
      let (known, bytes) ← member key known bytes
      readMembers member fuel false known bytes

def startsNumber (b : UInt8) : Bool := b = Octet.minus || (digit? b).isSome

def readScalar (b : UInt8) (rest : Octets) : Except Fault (Json × Octets) :=
  if b = 0x6e then do return (.null, ← word (octets "ull") rest)
  else if b = 0x74 then do return (.bool true, ← word (octets "rue") rest)
  else if b = 0x66 then do return (.bool false, ← word (octets "alse") rest)
  else if b = Octet.quote then do
    let (s, rest) ← readString rest
    return (.string s, rest)
  else if startsNumber b then do
    let (n, rest) ← readNumber (b :: rest)
    return (.number n, rest)
  else .error .expectedValue

/-- The value at the front, which nests no deeper than the given number of levels. -/
def readValue : Nat → Octets → Except Fault (Json × Octets)
  | levels, bytes =>
    match skipBlanks bytes with
    | [] => .error .valueCutShort
    | b :: rest =>
      if b = Octet.openBracket then
        match levels with
        | 0 => .error .tooDeep
        | levels + 1 => do
          let (xs, rest) ← readItems (readValue levels) (rest.length + 1) true rest
          return (.array xs, ← closeList rest)
      else if b = Octet.openBrace then
        match levels with
        | 0 => .error .tooDeep
        | levels + 1 => do
          let member key (known : List (String × Json)) bytes := do
            let (x, bytes) ← readValue levels (← passColon bytes)
            return (insert key x known, bytes)
          let (known, rest) ← readMembers member (rest.length + 1) true [] rest
          return (.object known, ← closeObject rest)
      else readScalar b rest

def endOfText (bytes : Octets) : Except Fault Unit :=
  match skipBlanks bytes with
  | [] => .ok ()
  | _ :: _ => .error .trailingCharacters

def decode (bytes : Octets) : Except Fault Json := do
  let (x, rest) ← readValue maxDepth bytes
  endOfText rest
  return x

end EventRelay.Json
