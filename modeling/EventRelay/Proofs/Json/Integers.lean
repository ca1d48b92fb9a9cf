import EventRelay.Json.Numeral
import EventRelay.Proofs.Json.Strings

namespace EventRelay.Json

def digitOctet (c : Char) : UInt8 := c.toNat.toUInt8

def digitValue (c : Char) : Nat := c.toNat - '0'.toNat

/-- The text ends, or goes on with something that belongs to no numeral. -/
def EndsNumeral (rest : Octets) : Prop :=
  ∀ b ∈ rest.head?, digit? b = none ∧ b ≠ Octet.point ∧ b ≠ 0x65 ∧ b ≠ 0x45

theorem isDigit_bounds {c : Char} (digit : c.isDigit = true) : 48 ≤ c.toNat ∧ c.toNat ≤ 57 := by
  rw [Char.isDigit_iff_toNat] at digit
  exact digit

theorem digit?_digitOctet {c : Char} (digit : c.isDigit = true) :
    digit? (digitOctet c) = some (digitValue c) := by
  obtain ⟨low, high⟩ := isDigit_bounds digit
  have same : (digitOctet c).toNat = c.toNat := by
    simp [digitOctet]
    omega
  have inside : 0x30 ≤ digitOctet c ∧ digitOctet c ≤ 0x39 := by
    simp only [UInt8.le_iff_toNat_le, same]
    exact ⟨low, high⟩
  rw [digit?, if_pos inside, same]
  rfl

theorem utf8EncodeChar_digit {c : Char} (digit : c.isDigit = true) :
    String.utf8EncodeChar c = [digitOctet c] := by
  obtain ⟨low, high⟩ := isDigit_bounds digit
  have ascii : c.val.toNat ≤ 127 := by
    have same : c.val.toNat = c.toNat := rfl
    omega
  rw [String.utf8EncodeChar.eq_1, if_pos ascii]
  rfl

theorem isDigit_toDigits (n : Nat) : ∀ c ∈ Nat.toDigits 10 n, c.isDigit = true :=
  fun _ member => Nat.isDigit_of_mem_toDigits (by decide) (by decide) member

theorem octets_digits {digits : List Char} (decimal : ∀ c ∈ digits, c.isDigit = true) :
    octets (String.ofList digits) = digits.map digitOctet := by
  rw [octets_ofList]
  induction digits with
  | nil => rfl
  | cons c digits ih =>
    rw [List.flatMap_cons, utf8EncodeChar_digit (decimal c List.mem_cons_self),
      ih fun d member => decimal d (List.mem_cons_of_mem c member)]
    rfl

theorem octets_toString (n : Nat) : octets (toString n) = (Nat.toDigits 10 n).map digitOctet := by
  rw [Nat.toString_eq_ofList_toDigits, octets_digits (isDigit_toDigits n)]

theorem le_ofDigitChars (digits : List Char) (n : Nat) : n ≤ Nat.ofDigitChars 10 digits n := by
  have positive : 0 < 10 ^ digits.length := Nat.pow_pos (by decide)
  have raised : n ≤ 10 ^ digits.length * n := Nat.le_mul_of_pos_left n positive
  rw [Nat.ofDigitChars_eq_ofDigitChars_zero]
  omega

theorem significand_digits {digits : List Char} (decimal : ∀ c ∈ digits, c.isDigit = true)
    {rest : Octets} (ends : EndsNumeral rest) {n : Nat} (taken : Nat)
    (fits : Nat.ofDigitChars 10 digits n ≤ maxSignificand) :
    significand n taken (digits.map digitOctet ++ rest) =
      (Nat.ofDigitChars 10 digits n, taken + digits.length, rest) := by
  induction digits generalizing n taken with
  | nil =>
    rw [List.map_nil, List.nil_append, Nat.ofDigitChars_nil]
    cases rest with
    | nil => rfl
    | cons b rest =>
      obtain ⟨other, _⟩ := ends b rfl
      simp [significand, other]
  | cons c digits ih =>
    have read := digit?_digitOctet (decimal c List.mem_cons_self)
    have next : n * 10 + digitValue c = 10 * n + (c.toNat - '0'.toNat) := by
      rw [digitValue, Nat.mul_comm]
    rw [Nat.ofDigitChars_cons, ← next] at fits
    have small : n * 10 + digitValue c ≤ maxSignificand := 
      Nat.le_trans (le_ofDigitChars digits _) fits
    rw [List.map_cons, List.cons_append, significand]
    simp only [read, if_pos small]
    rw [ih (fun d member => decimal d (List.mem_cons_of_mem c member)) (taken + 1) fits,
      Nat.ofDigitChars_cons, next, List.length_cons, Nat.add_assoc, Nat.add_comm 1]

theorem digitValue_pos {n : Nat} (positive : 0 < n) {c : Char} {digits : List Char}
    (written : Nat.toDigits 10 n = c :: digits) : 0 < digitValue c := by
  induction n using Nat.strongRecOn generalizing c digits with
  | ind n ih =>
    by_cases small : n < 10
    · have single : ∀ n < 10, 0 < n → 0 < digitValue n.digitChar := by decide
      rw [Nat.toDigits_of_lt_base small] at written
      cases written
      exact single n small positive
    · obtain ⟨d, front, same⟩ := List.exists_cons_of_ne_nil (@Nat.toDigits_ne_nil (n / 10) 10)
      rw [Nat.toDigits_of_base_le (by decide) (by omega), same, List.cons_append] at written
      cases written
      exact ih (n / 10) (by omega) (by omega) same

theorem afterInteger_ends (n : Nat) {rest : Octets} (ends : EndsNumeral rest) :
    afterInteger n rest = .ok (.exact n, rest) := by
  cases rest with
  | nil => rfl
  | cons b rest =>
    obtain ⟨_, point, small, capital⟩ := ends b rfl
    simp [afterInteger, point, small, capital]

theorem readMagnitude_zero {rest : Octets} (ends : EndsNumeral rest) :
    readMagnitude (Octet.zero :: rest) = .ok (.exact 0, rest) := by
  have zero : digit? Octet.zero = some 0 := by decide
  have after := afterInteger_ends 0 ends
  cases rest with
  | nil => simp only [readMagnitude, zero, after]
  | cons b rest =>
    obtain ⟨other, _⟩ := ends b rfl
    simp only [readMagnitude, zero, other, after, Option.isSome_none, Bool.false_eq_true, if_false]

theorem readMagnitude_toDigits {n : Nat} (fits : n ≤ maxSignificand) {rest : Octets}
    (ends : EndsNumeral rest) :
    readMagnitude ((Nat.toDigits 10 n).map digitOctet ++ rest) = .ok (.exact n, rest) := by
  rcases Nat.eq_zero_or_pos n with rfl | positive
  · exact readMagnitude_zero ends
  obtain ⟨c, digits, written⟩ := List.exists_cons_of_ne_nil (@Nat.toDigits_ne_nil n 10)
  have decimal := isDigit_toDigits n
  rw [written] at decimal
  have whole : Nat.ofDigitChars 10 digits (digitValue c) = n := by
    have back := @Nat.ofDigitChars_ten_toDigits n
    rw [written, Nat.ofDigitChars_cons, Nat.mul_zero, Nat.zero_add] at back
    exact back
  have read := digit?_digitOctet (decimal c List.mem_cons_self)
  have taken := significand_digits (fun d member => decimal d (List.mem_cons_of_mem c member)) ends 0
    (whole.symm ▸ fits)
  obtain ⟨d, same⟩ := Nat.exists_eq_add_one_of_ne_zero (Nat.ne_of_gt (digitValue_pos positive written))
  rw [same] at read taken whole
  have after := afterInteger_ends n ends
  simp only [written, List.map_cons, List.cons_append, readMagnitude, read, taken, whole]
  cases rest with
  | nil => exact after
  | cons b rest =>
    obtain ⟨other, _⟩ := ends b rfl
    simpa only [other, Option.isSome_none, Bool.false_eq_true, if_false] using after

theorem ofMagnitude_natural (m : UInt64) :
    Number.ofMagnitude false (.exact m.toNat) = .natural m := by
  simp [Number.ofMagnitude]

theorem ofMagnitude_negative (m : Fin (1 <<< 63)) :
    Number.ofMagnitude true (.exact (m.val + 1)) = .negative m := by
  have inside : 0 < m.val + 1 ∧ m.val + 1 ≤ 1 <<< 63 := ⟨Nat.succ_pos _, m.isLt⟩
  simp only [Number.ofMagnitude, if_true, dif_pos inside, Nat.add_sub_cancel]

theorem readNumber_toDigits {n : Nat} (fits : n ≤ maxSignificand) {rest : Octets}
    (ends : EndsNumeral rest) :
    readNumber ((Nat.toDigits 10 n).map digitOctet ++ rest) =
      .ok (.ofMagnitude false (.exact n), rest) := by
  obtain ⟨c, digits, written⟩ := List.exists_cons_of_ne_nil (@Nat.toDigits_ne_nil n 10)
  have read := readMagnitude_toDigits fits ends
  rw [written, List.map_cons, List.cons_append] at read ⊢
  have digit := digit?_digitOctet (isDigit_toDigits n c (written ▸ List.mem_cons_self))
  have unsigned : digitOctet c ≠ Octet.minus := by
    intro same
    rw [same] at digit
    cases digit
  simp only [readNumber, unsigned, if_false, read, ok_bind, decide_false]
  rfl

theorem text_front {n : Number} (integer : n.isInteger = true) :
    ∃ b tail, octets n.text = b :: tail ∧ (b = Octet.minus ∨ (digit? b).isSome = true) := by
  cases n with
  | natural m =>
    obtain ⟨c, digits, written⟩ := List.exists_cons_of_ne_nil (@Nat.toDigits_ne_nil m.toNat 10)
    have digit := digit?_digitOctet (isDigit_toDigits m.toNat c (written ▸ List.mem_cons_self))
    refine ⟨digitOctet c, digits.map digitOctet, ?_, .inr (by rw [digit]; rfl)⟩
    rw [Number.text, octets_toString, written, List.map_cons]
  | negative m =>
    have sign : octets "-" = [Octet.minus] := by decide
    refine ⟨Octet.minus, octets (toString (m.val + 1)), ?_, .inl rfl⟩
    rw [Number.text, octets_append, sign, List.singleton_append]
  | binary x => cases integer

theorem readNumber_text {n : Number} (integer : n.isInteger = true) {rest : Octets}
    (ends : EndsNumeral rest) : readNumber (octets n.text ++ rest) = .ok (n, rest) := by
  cases n with
  | natural m =>
    have fits : m.toNat ≤ maxSignificand := Nat.le_of_lt_succ m.toNat_lt
    rw [Number.text, octets_toString, readNumber_toDigits fits ends, ofMagnitude_natural]
  | negative m =>
    have fits : m.val + 1 ≤ maxSignificand := by
      have small := m.isLt
      simp only [maxSignificand, Nat.reduceShiftLeft] at small ⊢
      omega
    have sign : octets "-" = [Octet.minus] := by decide
    have read := readMagnitude_toDigits fits ends
    rw [Number.text, octets_append, sign, octets_toString, List.append_assoc, List.singleton_append,
      readNumber, if_pos rfl, read, ok_bind]
    simp only [decide_true, ofMagnitude_negative]
    rfl
  | binary x => cases integer

end EventRelay.Json
