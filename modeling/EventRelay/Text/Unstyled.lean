import EventRelay.Octets

namespace EventRelay

inductive Escape
  | ground
  | begun
  | intermediate
  | parameters
  | deviceHeader
  | deviceData
  | command
  | string
deriving DecidableEq, Repr

namespace Escape

def escapeOctet : UInt8 := 0x1b

def breaksOff (b : UInt8) : Bool := b == 0x18 || b == 0x1a

def next (place : Escape) (b : UInt8) : Escape :=
  if b = escapeOctet then begun
  else if breaksOff b then ground
  else
    match place with
    | ground => ground
    | begun =>
      if 0x20 ≤ b ∧ b ≤ 0x2f then intermediate
      else if b = 0x5b then parameters
      else if b = 0x5d then command
      else if b = 0x50 then deviceHeader
      else if b = 0x58 ∨ b = 0x5e ∨ b = 0x5f then string
      else if 0x30 ≤ b ∧ b ≤ 0x7e then ground
      else begun
    | intermediate => if 0x30 ≤ b ∧ b ≤ 0x7e then ground else intermediate
    | parameters => if 0x40 ≤ b ∧ b ≤ 0x7e then ground else parameters
    | deviceHeader => if 0x40 ≤ b ∧ b ≤ 0x7e then deviceData else deviceHeader
    | deviceData => if b = 0x9c then ground else deviceData
    | command => if b = 0x07 then ground else command
    | string => if b = 0x9c then ground else string

def isSpacing (b : UInt8) : Bool := b == 0x09 || b == 0x0a || b == 0x0c || b == 0x0d

def isText (b : UInt8) : Bool := 0x20 ≤ b && b ≠ 0x7f

/-- Whether the octet is shown where a sequence is being skipped. White space shows through a
    sequence that has no string in it. -/
def shows (place : Escape) (b : UInt8) : Bool :=
  match place with
  | ground => isSpacing b || (isText b && (b < 0x80 || 0xc2 ≤ b))
  | begun | intermediate | parameters => isSpacing b
  | _ => false

/-- The octets that are shown. What is shown in the midst of a sequence goes on until a control,
    which takes up the sequence again. -/
def shown : (showing : Bool) → (place : Escape) → Octets → Octets
  | _, _, [] => []
  | true, place, b :: rest =>
    if isSpacing b || isText b then b :: shown true (if b < 0x80 then place else ground) rest
    else shown false (place.next b) rest
  | false, place, b :: rest =>
    if place.shows b then b :: shown true place rest else shown false (place.next b) rest

end Escape

def unstyled (text : String) : String := (Escape.shown false .ground (octets text)).text

end EventRelay
