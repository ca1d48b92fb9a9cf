namespace EventRelay

abbrev Octets := List UInt8

def octets (text : String) : Octets := text.toUTF8.data.toList

namespace Octets

def text? (bytes : Octets) : Option String := String.fromUTF8? ⟨bytes.toArray⟩

def text (bytes : Octets) : String := bytes.text?.getD ""

theorem text?_octets (s : String) : text? (octets s) = some s := by
  have h : (⟨(octets s).toArray⟩ : ByteArray) = s.toByteArray := by simp [octets]
  simp only [text?, h, String.fromUTF8?, s.isValidUTF8, dite_true]
  rfl

theorem text_octets (s : String) : text (octets s) = s := by
  simp [text, text?_octets]

end Octets

namespace Octet

abbrev quote : UInt8 := 0x22
abbrev plus : UInt8 := 0x2b
abbrev comma : UInt8 := 0x2c
abbrev minus : UInt8 := 0x2d
abbrev point : UInt8 := 0x2e
abbrev slash : UInt8 := 0x2f
abbrev zero : UInt8 := 0x30
abbrev colon : UInt8 := 0x3a
abbrev openBracket : UInt8 := 0x5b
abbrev backslash : UInt8 := 0x5c
abbrev closeBracket : UInt8 := 0x5d
abbrev openBrace : UInt8 := 0x7b
abbrev closeBrace : UInt8 := 0x7d

end Octet

def digit? (b : UInt8) : Option Nat :=
  if 0x30 ≤ b ∧ b ≤ 0x39 then some (b.toNat - 0x30) else none

def hexDigit? (b : UInt8) : Option Nat :=
  if 0x30 ≤ b ∧ b ≤ 0x39 then some (b.toNat - 0x30)
  else if 0x61 ≤ b ∧ b ≤ 0x66 then some (b.toNat - 0x61 + 10)
  else if 0x41 ≤ b ∧ b ≤ 0x46 then some (b.toNat - 0x41 + 10)
  else none

def spanDigits : Octets → List Nat × Octets
  | [] => ([], [])
  | b :: rest =>
    match digit? b with
    | some d => ((d :: (spanDigits rest).1), (spanDigits rest).2)
    | none => ([], b :: rest)

end EventRelay
