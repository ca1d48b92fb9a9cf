import EventRelay.Json.Scan

namespace EventRelay.Json

def maxSignificand : Nat := 1 <<< 64 - 1

/-- Digits taken while the number that they write fits in 64 bits: the number, how many digits were
    taken, and what is left. -/
def significand (n taken : Nat) : Octets → Nat × Nat × Octets
  | [] => (n, taken, [])
  | b :: rest =>
    match digit? b with
    | none => (n, taken, b :: rest)
    | some d =>
      if n * 10 + d ≤ maxSignificand then significand (n * 10 + d) (taken + 1) rest
      else (n, taken, b :: rest)

def powerOfTen (k : Nat) : Binary64 := .nearest (Nat.pow 10 k) 1 0

def scaleDown (x : Binary64) (k : Nat) : Binary64 :=
  if k ≤ 308 then x.div (powerOfTen k)
  else if x.isZero then x
  else scaleDown (x.div (powerOfTen 308)) (k - 308)
termination_by k

def scaled (significand : Nat) (exponent : Int) : Except Fault Binary64 :=
  let x := Binary64.ofNat significand
  if exponent < 0 then .ok (scaleDown x exponent.natAbs)
  else if exponent ≤ 308 then
    let y := x.mul (powerOfTen exponent.toNat)
    if y.isFinite then .ok y else .error .numberOutOfRange
  else if x.isZero then .ok x
  else .error .numberOutOfRange

/-- The largest exponent that is told apart from an endless one. -/
def maxExponent : Nat := 1 <<< 31 - 1

def exponentDigits (n : Nat) : Octets → Option Nat × Octets
  | [] => (some n, [])
  | b :: rest =>
    match digit? b with
    | none => (some n, b :: rest)
    | some d =>
      if n * 10 + d ≤ maxExponent then exponentDigits (n * 10 + d) rest
      else (none, rest)

def exponentPart (significand : Nat) (exponent : Int) (bytes : Octets) : Except Fault (Binary64 × Octets) :=
  let signed :=
    match bytes with
    | b :: rest => if b = Octet.plus then (false, rest) else if b = Octet.minus then (true, rest)
      else (false, b :: rest)
    | [] => (false, [])
  match signed.2 with
  | [] => .error .valueCutShort
  | b :: rest =>
    match digit? b with
    | none => .error .invalidNumber
    | some d =>
      match exponentDigits d rest with
      | (some e, rest) => do
        let x ← scaled significand (if signed.1 then exponent - e else exponent + e)
        return (x, rest)
      | (none, rest) =>
        if significand ≠ 0 ∧ signed.1 = false then .error .numberOutOfRange
        else .ok (.zero false, (spanDigits rest).2)

def exponentOrEnd (significand : Nat) (exponent : Int) : Octets → Except Fault (Binary64 × Octets)
  | b :: rest =>
    if b = 0x65 ∨ b = 0x45 then exponentPart significand exponent rest
    else do
      let x ← scaled significand exponent
      return (x, b :: rest)
  | [] => do
    let x ← scaled significand exponent
    return (x, [])

def fractionPart (n : Nat) (exponent : Int) (bytes : Octets) : Except Fault (Binary64 × Octets) :=
  match significand n 0 bytes with
  | (m, taken, rest) =>
    match rest with
    | [] => if taken = 0 then .error .valueCutShort else exponentOrEnd m (exponent - taken) []
    | b :: more =>
      if (digit? b).isSome then exponentOrEnd m (exponent - taken) (spanDigits rest).2
      else if taken = 0 then .error .invalidNumber
      else exponentOrEnd m (exponent - taken) (b :: more)

inductive Magnitude
  | exact (n : Nat)
  | rounded (x : Binary64)

def afterInteger (n : Nat) (bytes : Octets) : Except Fault (Magnitude × Octets) :=
  match bytes with
  | [] => .ok (.exact n, [])
  | b :: rest =>
    if b = Octet.point then do
      let (x, rest) ← fractionPart n 0 rest
      return (.rounded x, rest)
    else if b = 0x65 ∨ b = 0x45 then do
      let (x, rest) ← exponentPart n 0 rest
      return (.rounded x, rest)
    else .ok (.exact n, b :: rest)

/-- An integer that does not fit in 64 bits: each further digit counts as a power of ten. -/
def longInteger (n : Nat) (bytes : Octets) : Except Fault (Binary64 × Octets) :=
  match spanDigits bytes with
  | (dropped, rest) =>
    match rest with
    | b :: more =>
      if b = Octet.point then fractionPart n dropped.length more
      else exponentOrEnd n dropped.length (b :: more)
    | [] => exponentOrEnd n dropped.length []

def readMagnitude : Octets → Except Fault (Magnitude × Octets)
  | [] => .error .valueCutShort
  | b :: rest =>
    match digit? b with
    | none => .error .invalidNumber
    | some 0 =>
      match rest with
      | c :: _ => if (digit? c).isSome then .error .invalidNumber else afterInteger 0 rest
      | [] => afterInteger 0 rest
    | some d =>
      match significand d 0 rest with
      | (n, _, more) =>
        match more with
        | c :: _ =>
          if (digit? c).isSome then do
            let (x, rest) ← longInteger n more
            return (.rounded x, rest)
          else afterInteger n more
        | [] => afterInteger n more

/-- A number from its sign and magnitude. There is no negative integer zero, and none below
    `-2 ^ 63`. -/
def Number.ofMagnitude (negative : Bool) : Magnitude → Number
  | .rounded x => .binary (x.withSign negative)
  | .exact n =>
    if negative then
      if h : 0 < n ∧ n ≤ 1 <<< 63 then .negative ⟨n - 1, by omega⟩
      else .binary ((Binary64.ofNat n).withSign true)
    else .natural n.toUInt64

def readNumber : Octets → Except Fault (Number × Octets)
  | [] => .error .valueCutShort
  | b :: rest => do
    let (m, left) ← readMagnitude (if b = Octet.minus then rest else b :: rest)
    return (.ofMagnitude (b = Octet.minus) m, left)

end EventRelay.Json
