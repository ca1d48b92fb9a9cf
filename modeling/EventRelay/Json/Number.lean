import EventRelay.Octets

namespace EventRelay

/-- A binary64 number by its bits: a sign, eleven bits of exponent, fifty-two of fraction. -/
structure Binary64 where
  bits : UInt64
deriving DecidableEq, Repr

def roundQuotient (numerator denominator : Nat) : Nat :=
  let quotient := numerator / denominator
  let twice := 2 * (numerator % denominator)
  if twice < denominator then quotient
  else if denominator < twice then quotient + 1
  else quotient + quotient % 2

/-- The exponent of the power of two that is at most the quotient, but more than half of it. -/
def quotientLog2 (numerator denominator : Nat) : Int :=
  let guess : Int := (numerator.log2 : Int) - denominator.log2
  let reaches : Bool :=
    if 0 ≤ guess then denominator <<< guess.toNat ≤ numerator
    else denominator ≤ numerator <<< (-guess).toNat
  if reaches then guess else guess - 1

namespace Binary64

def signBit : Nat := 1 <<< 63

def infinityBits : Nat := 0x7ff * 1 <<< 52

def zero (negative : Bool) : Binary64 := ⟨if negative then signBit.toUInt64 else 0⟩

def negative (x : Binary64) : Bool := signBit ≤ x.bits.toNat

def magnitudeBits (x : Binary64) : Nat := x.bits.toNat % signBit

def isZero (x : Binary64) : Bool := x.magnitudeBits == 0

def isFinite (x : Binary64) : Bool := x.magnitudeBits < infinityBits

def withSign (x : Binary64) (negative : Bool) : Binary64 :=
  ⟨(x.magnitudeBits + if negative then signBit else 0).toUInt64⟩

def significand (x : Binary64) : Nat :=
  let fraction := x.magnitudeBits % 1 <<< 52
  if x.magnitudeBits < 1 <<< 52 then fraction else fraction + 1 <<< 52

def exponent (x : Binary64) : Int :=
  max (x.magnitudeBits / 1 <<< 52 : Nat) 1 - 1075

/-- The number nearest to `numerator / denominator * 2 ^ scale`, a half going to the even
    significand; infinity where the quotient is too large. -/
def nearest (numerator denominator : Nat) (scale : Int) : Binary64 :=
  if numerator = 0 then zero false
  else
    let unit := max (quotientLog2 numerator denominator + scale - 52) (-1074)
    let shift := scale - unit
    let units :=
      if 0 ≤ shift then roundQuotient (numerator <<< shift.toNat) denominator
      else roundQuotient numerator (denominator <<< (-shift).toNat)
    let bits := (unit + 1074).toNat * 1 <<< 52 + units
    ⟨(min bits infinityBits).toUInt64⟩

def ofNat (n : Nat) : Binary64 := nearest n 1 0

def mul (x y : Binary64) : Binary64 :=
  nearest (x.significand * y.significand) 1 (x.exponent + y.exponent)

def div (x y : Binary64) : Binary64 :=
  nearest x.significand y.significand (x.exponent - y.exponent)

def same (x y : Binary64) : Bool := x == y || (x.isZero && y.isZero)

structure Decimal where
  digits : Nat
  power : Int
deriving DecidableEq, Repr

structure Interval where
  low : Nat
  middle : Nat
  high : Nat
  denominator : Nat
  closed : Bool

/-- The interval of the reals that round to a number. Below a power of two its lower half is
    half as wide. -/
def interval (x : Binary64) : Interval :=
  let m := x.significand
  let below := if m = 1 <<< 52 ∧ x.exponent ≠ -1074 then 1 else 2
  let up := (x.exponent - 2).toNat
  let down := (2 - x.exponent).toNat
  { low := (4 * m - below) <<< up
    middle := (4 * m) <<< up
    high := (4 * m + 2) <<< up
    denominator := 1 <<< down
    closed := m % 2 == 0 }

def Interval.contains (i : Interval) (d : Decimal) : Bool :=
  let value := d.digits * Nat.pow 10 d.power.toNat * i.denominator
  let scale := Nat.pow 10 (-d.power).toNat
  if i.closed then i.low * scale ≤ value && value ≤ i.high * scale
  else i.low * scale < value && value < i.high * scale

def Interval.magnitude (i : Interval) : Int :=
  if i.denominator ≤ i.middle then
    ((Nat.toDigits 10 (i.middle / i.denominator)).length : Int) - 1
  else
    -((Nat.toDigits 10 ((i.denominator - 1) / i.middle)).length : Int)

def Interval.onGrid (i : Interval) (count : Nat) : Option Decimal :=
  let power := i.magnitude - count + 1
  let numerator := i.middle * Nat.pow 10 (-power).toNat
  let denominator := i.denominator * Nat.pow 10 power.toNat
  let below : Decimal := ⟨numerator / denominator, power⟩
  let above : Decimal := ⟨numerator / denominator + 1, power⟩
  match i.contains below, i.contains above with
  | true, true => some ⟨roundQuotient numerator denominator, power⟩
  | true, false => some below
  | false, true => some above
  | false, false => none

/-- The shortest decimal that reads back as the magnitude, the nearest one of them. -/
def shortest (x : Binary64) : Decimal :=
  let i := x.interval
  ((List.range 17).findSome? fun count => i.onGrid (count + 1)).getD ⟨0, 0⟩

def Decimal.trim (d : Decimal) : Decimal :=
  go d.digits d
where
  go : Nat → Decimal → Decimal
    | 0, d => d
    | fuel + 1, d => if d.digits ≠ 0 ∧ d.digits % 10 = 0 then go fuel ⟨d.digits / 10, d.power + 1⟩ else d

/-- Where positional notation ends: for exponents of the leading digit from -5 to 15 the digits are
    written out, with at least one after the point; elsewhere one digit stands before the point. -/
def Decimal.text (d : Decimal) : String :=
  let digits := toString d.digits
  let exponent := digits.length + d.power - 1
  if 0 ≤ d.power ∧ exponent ≤ 15 then
    digits ++ zeros d.power.toNat ++ ".0"
  else if 0 ≤ exponent ∧ exponent ≤ 15 then
    let whole := (exponent + 1).toNat
    String.ofList (digits.toList.take whole) ++ "." ++ String.ofList (digits.toList.drop whole)
  else if -5 ≤ exponent ∧ exponent < 0 then
    "0." ++ zeros (-exponent - 1).toNat ++ digits
  else
    let fraction := digits.toList.drop 1
    String.ofList (digits.toList.take 1) ++ (if fraction = [] then "" else "." ++ String.ofList fraction)
      ++ (if exponent < 0 then "e-" else "e+") ++ toString exponent.natAbs
where
  zeros (n : Nat) : String := String.ofList (List.replicate n '0')

def text (x : Binary64) : String :=
  (if x.negative then "-" else "") ++ if x.isZero then "0.0" else x.shortest.trim.text

end Binary64

end EventRelay

namespace EventRelay.Json

inductive Number
  | natural (n : UInt64)
  /-- The integer `-(m + 1)`. -/
  | negative (m : Fin (1 <<< 63))
  | binary (x : Binary64)
deriving DecidableEq, Repr

namespace Number

def isInteger : Number → Bool
  | .binary _ => false
  | _ => true

/-- Equality of values. An integer is never equal to a binary64 number. -/
def same : Number → Number → Bool
  | .binary x, .binary y => x.same y
  | m, n => m == n

def text : Number → String
  | .natural n => toString n.toNat
  | .negative m => "-" ++ toString (m.val + 1)
  | .binary x => x.text

end Number

end EventRelay.Json
