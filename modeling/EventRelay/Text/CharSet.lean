namespace EventRelay

/-- A set of characters: first and last number of its runs, in order, with room between them. -/
structure CharSet where
  runs : List (Nat × Nat) := []
deriving DecidableEq, Repr, Inhabited

namespace CharSet

/-- The number of a character: its code point less the code points below it that are none. -/
def number (c : Char) : Nat := if c.toNat < 0xd800 then c.toNat else c.toNat - 0x800

def codePoint (n : Nat) : Nat := if n < 0xd800 then n else n + 0x800

def last : Nat := number (Char.ofNat 0x10ffff)

/-- A run and the runs behind it, in the order of their beginnings, joined where there is no room
    between them. -/
def join (run : Nat × Nat) : List (Nat × Nat) → List (Nat × Nat)
  | [] => [run]
  | next :: rest =>
    if next.1 ≤ run.2 + 1 then join (run.1, max run.2 next.2) rest else run :: join next rest

def ofRuns (runs : List (Nat × Nat)) : CharSet :=
  match runs.mergeSort fun a b => a.1 ≤ b.1 with
  | [] => {}
  | run :: rest => ⟨join run rest⟩

def range (first last : Char) : CharSet := ofRuns [(number first, number last)]

def one (c : Char) : CharSet := range c c

def ofRanges (ranges : List (Char × Char)) : CharSet :=
  ofRuns (ranges.map fun (first, last) => (number first, number last))

def contains (set : CharSet) (c : Char) : Bool :=
  set.runs.any fun (first, last) => first ≤ number c && number c ≤ last

def isEmpty (set : CharSet) : Bool := set.runs.isEmpty

def union (a b : CharSet) : CharSet := ofRuns (a.runs ++ b.runs)

def gaps (start : Nat) : List (Nat × Nat) → List (Nat × Nat)
  | [] => if start ≤ last then [(start, last)] else []
  | (first, last) :: rest =>
    if start < first then (start, first - 1) :: gaps (last + 1) rest else gaps (last + 1) rest

def complement (set : CharSet) : CharSet := ⟨gaps 0 set.runs⟩

def intersection (a b : CharSet) : CharSet := (a.complement.union b.complement).complement

def difference (a b : CharSet) : CharSet := a.intersection b.complement

def any : CharSet := complement {}

def isAscii (set : CharSet) : Bool := set.runs.all fun run => run.2 < 0x80

def only? (set : CharSet) : Option Char :=
  match set.runs with
  | [(first, last)] => if first = last then some (Char.ofNat (codePoint first)) else none
  | _ => none

def lowerAscii : CharSet := range 'a' 'z'

def upperAscii : CharSet := range 'A' 'Z'

def shift (set : CharSet) (f : Nat → Nat) : CharSet :=
  ofRuns (set.runs.map fun (first, last) => (f first, f last))

def foldAscii (set : CharSet) : CharSet :=
  (set.union ((set.intersection lowerAscii).shift (· - 0x20))).union
    ((set.intersection upperAscii).shift (· + 0x20))

end CharSet

end EventRelay

namespace EventRelay.Pattern

abbrev OctetRange := UInt8 × UInt8

/-- Where two numbers lie in different blocks of a width, the last number before the place where the
    numbers between them part: behind the first block, or before the last one, if it is not whole. -/
def cutAtBlock? (first last width : Nat) : Option Nat :=
  if first / width = last / width then none
  else if first % width ≠ 0 then some ((first / width + 1) * width - 1)
  else if last % width ≠ width - 1 then some (last / width * width - 1)
  else none

/-- The last code point before the place where a run of them parts, because those on both sides do not
    have octets in the same ranges. -/
def cut? (first last : Nat) : Option Nat :=
  match [0x7f, 0x7ff, 0xffff].find? fun most => first ≤ most ∧ most < last with
  | some most => some most
  | none =>
    if last ≤ 0x7f then none else [1 <<< 6, 1 <<< 12, 1 <<< 18].findSome? (cutAtBlock? first last)

def octetsAt (codePoint : Nat) : List UInt8 := String.utf8EncodeChar (Char.ofNat codePoint)

def encodeRun : Nat → Nat → Nat → List (List OctetRange)
  | 0, _, _ => []
  | fuel + 1, first, last =>
    match cut? first last with
    | some before => encodeRun fuel first before ++ encodeRun fuel (before + 1) last
    | none => [(octetsAt first).zip (octetsAt last)]

/-- How often a run of code points can be cut on the way to a range: three times for the number of
    octets, and twice for each octet but the first. -/
def mostCuts : Nat := 9

def codePointRuns : Nat × Nat → List (Nat × Nat)
  | (first, last) =>
    if first < 0xd800 ∧ 0xd800 ≤ last then [(first, 0xd7ff), (0xe000, CharSet.codePoint last)]
    else [(CharSet.codePoint first, CharSet.codePoint last)]

def encodings (set : CharSet) : List (List OctetRange) :=
  (set.runs.flatMap codePointRuns).flatMap fun (first, last) => encodeRun (mostCuts + 1) first last

end EventRelay.Pattern
