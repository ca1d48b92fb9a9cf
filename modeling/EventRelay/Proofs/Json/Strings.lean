import EventRelay.Json.Basic
import EventRelay.Json.Scan
import EventRelay.Proofs.Basic

namespace EventRelay.Json

theorem skipBlanks_cons {b : UInt8} (visible : isBlank b = false) (rest : Octets) :
    skipBlanks (b :: rest) = b :: rest := by
  simp [skipBlanks, visible]

theorem octets_ofList (chars : List Char) :
    octets (String.ofList chars) = chars.flatMap String.utf8EncodeChar := by
  have bytes : (String.ofList chars).toUTF8 = chars.utf8Encode := String.toByteArray_ofList
  rw [octets, bytes, List.utf8Encode]
  simp

theorem octets_append (s t : String) : octets (s ++ t) = octets s ++ octets t := by
  simp [octets]

theorem octets_ofNat : ∀ n < 32, octets (Char.ofNat n).toString = [n.toUInt8] := by decide

theorem hexDigit?_hexDigit : ∀ n < 16, hexDigit? (hexDigit n) = some n := by decide

theorem escapedChar_control {b : UInt8} (control : b.toNat < 32) (rest : Octets) :
    escapedChar (0x30 :: 0x30 :: hexDigit (b.toNat / 16) :: hexDigit (b.toNat % 16) :: rest) =
      .ok (Char.ofNat b.toNat, rest) := by
  have zero : hexDigit? 0x30 = some 0 := by decide
  have high := hexDigit?_hexDigit (b.toNat / 16) (by omega)
  have low := hexDigit?_hexDigit (b.toNat % 16) (by omega)
  have whole : ((0 * 16 + 0) * 16 + b.toNat / 16) * 16 + b.toNat % 16 = b.toNat := by omega
  -- A control character stands alone; it is no half of a surrogate pair.
  have leading : isLeadingSurrogate b.toNat = false := by
    simp [isLeadingSurrogate]
    omega
  have trailing : isTrailingSurrogate b.toNat = false := by
    simp [isTrailingSurrogate]
    omega
  simp only [escapedChar, hexQuad, zero, high, low, whole, ok_bind, leading, trailing]
  rfl

/-- In its written form an octet is itself, or a backslash and what is read back behind one. -/
theorem escape_cases (b : UInt8) :
    (escape b = [b] ∧ b ≠ Octet.quote ∧ b ≠ Octet.backslash ∧ ¬ b < 0x20) ∨
      ∃ tail, escape b = Octet.backslash :: tail ∧
        ∀ rest, escaped (tail ++ rest) = .ok ([b], rest) := by
  by_cases plain : b ≠ Octet.quote ∧ b ≠ Octet.backslash ∧ 0x20 ≤ b
  · obtain ⟨quote, backslash, shown⟩ := plain
    refine .inl ⟨?_, quote, backslash, UInt8.not_lt.mpr shown⟩
    simp only [escape, quote, backslash, shown, if_false, if_true]
  right
  by_cases lettered : b ∈ [Octet.quote, Octet.backslash, 0x08, 0x09, 0x0a, 0x0c, 0x0d]
  · simp only [List.mem_cons, List.not_mem_nil, or_false] at lettered
    rcases lettered with rfl | rfl | rfl | rfl | rfl | rfl | rfl
    all_goals exact ⟨_, rfl, fun rest => rfl⟩
  · simp only [List.mem_cons, List.not_mem_nil, or_false, not_or] at lettered
    obtain ⟨quote, backslash, back, tab, line, form, carriage⟩ := lettered
    have hidden : ¬ 0x20 ≤ b := fun shown => plain ⟨quote, backslash, shown⟩
    have control : b.toNat < 32 := UInt8.lt_iff_toNat_lt.mp (UInt8.not_le.mp hidden)
    refine ⟨[0x75, 0x30, 0x30, hexDigit (b.toNat / 16), hexDigit (b.toNat % 16)], ?_, ?_⟩
    · simp only [escape, quote, backslash, hidden, back, tab, line, form, carriage, if_false]
    · intro rest
      have letter : escapedOctet? 0x75 = none := by decide
      have same : octets (Char.ofNat b.toNat).toString = [b] := by
        simpa using octets_ofNat b.toNat control
      simp only [List.cons_append, List.nil_append, escaped, letter, if_true,
        escapedChar_control control, ok_bind, same]
      rfl

theorem stringOctets_escape (b : UInt8) (fuel : Nat) (rest : Octets) :
    stringOctets (fuel + 1) (escape b ++ rest) =
      (stringOctets fuel rest).map fun read => (b :: read.1, read.2) := by
  rcases escape_cases b with ⟨same, quote, backslash, shown⟩ | ⟨tail, same, read⟩
  · rw [same, List.singleton_append, stringOctets, if_neg quote, if_neg backslash, if_neg shown]
    cases stringOctets fuel rest <;> rfl
  · have quote : Octet.backslash ≠ Octet.quote := by decide
    rw [same, List.cons_append, stringOctets, if_neg quote, if_pos rfl, read rest, ok_bind]
    dsimp only
    cases stringOctets fuel rest <;> rfl

theorem stringOctets_flatMap (content rest : Octets) {fuel : Nat} (enough : content.length < fuel) :
    stringOctets fuel (content.flatMap escape ++ Octet.quote :: rest) = .ok (content, rest) := by
  induction content generalizing fuel with
  | nil =>
    obtain ⟨fuel, rfl⟩ := Nat.exists_eq_add_one_of_ne_zero (Nat.ne_zero_of_lt enough)
    rfl
  | cons b content ih =>
    obtain ⟨fuel, rfl⟩ := Nat.exists_eq_add_one_of_ne_zero (Nat.ne_zero_of_lt enough)
    have read := ih (Nat.lt_of_succ_lt_succ enough)
    rw [List.flatMap_cons, List.append_assoc, stringOctets_escape, read]
    rfl

theorem length_le_flatMap (content : Octets) :
    content.length ≤ (content.flatMap escape).length := by
  induction content with
  | nil => exact Nat.le_refl 0
  | cons b content ih =>
    have positive : 0 < (escape b).length := by
      rcases escape_cases b with ⟨same, _⟩ | ⟨tail, same, _⟩ <;> simp [same]
    rw [List.flatMap_cons, List.length_append, List.length_cons]
    omega

theorem encodeString_eq (s : String) (rest : Octets) :
    encodeString s ++ rest =
      Octet.quote :: ((octets s).flatMap escape ++ Octet.quote :: rest) := by
  simp [encodeString]

theorem readString_flatMap (s : String) (rest : Octets) :
    readString ((octets s).flatMap escape ++ Octet.quote :: rest) = .ok (s, rest) := by
  have bounded := length_le_flatMap (octets s)
  have enough : (octets s).length <
      ((octets s).flatMap escape ++ Octet.quote :: rest).length + 1 := by
    rw [List.length_append]
    omega
  have read := stringOctets_flatMap (octets s) rest enough
  simp only [readString, read, ok_bind, Octets.text?_octets]
  rfl

end EventRelay.Json
