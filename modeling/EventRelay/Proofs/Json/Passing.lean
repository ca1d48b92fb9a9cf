import Mathlib.Data.List.Infix
import EventRelay.Json.Skip
import EventRelay.Proofs.Json.Records
import EventRelay.Proofs.Json.Values

namespace EventRelay.Json

variable {bytes rest : Octets}

section Strings

theorem hexQuad_suffix {n : Nat} (read : hexQuad bytes = .ok (n, rest)) : rest <:+ bytes := by
  unfold hexQuad at read
  split at read
  · split at read
    · cases read
      exact ⟨[_, _, _, _], rfl⟩
    · cases read
  · cases read

theorem skipEscape_suffix (passed : skipEscape bytes = .ok rest) : rest <:+ bytes := by
  unfold skipEscape at passed
  split at passed
  · cases passed
  · rename_i b behind
    split at passed
    · cases passed
      exact List.suffix_cons b rest
    · split at passed
      · obtain ⟨⟨n, left⟩, quad, same⟩ := bind_eq_ok_iff.mp passed
        cases same
        exact (hexQuad_suffix quad).trans (List.suffix_cons b behind)
      · cases passed

theorem skipString_suffix {fuel : Nat} (passed : skipString fuel bytes = .ok rest) :
    rest <:+ bytes := by
  induction fuel generalizing bytes with
  | zero => cases passed
  | succ fuel ih =>
    cases bytes with
    | nil => cases passed
    | cons b behind =>
      have further : behind <:+ b :: behind := List.suffix_cons b behind
      rw [skipString] at passed
      split at passed
      · cases passed
        exact further
      · split at passed
        · obtain ⟨left, escape, passed⟩ := bind_eq_ok_iff.mp passed
          exact ((ih passed).trans (skipEscape_suffix escape)).trans further
        · split at passed
          · cases passed
          · exact (ih passed).trans further

theorem hexQuad_of_escapedChar {c : Char} (read : escapedChar bytes = .ok (c, rest)) :
    ∃ n left, hexQuad bytes = .ok (n, left) ∧
      (left = rest ∨ ∃ m more, left = Octet.backslash :: 0x75 :: more ∧
        hexQuad more = .ok (m, rest)) := by
  obtain ⟨⟨n, left⟩, quad, read⟩ := bind_eq_ok_iff.mp read
  refine ⟨n, left, quad, ?_⟩
  dsimp only at read
  split at read
  · cases read
  split at read
  · split at read
    · cases read
    split at read
    · cases read
    rename_i backslash
    split at read
    · cases read
    split at read
    · cases read
    rename_i letter
    obtain ⟨⟨m, last⟩, second, read⟩ := bind_eq_ok_iff.mp read
    dsimp only at read
    split at read
    · obtain ⟨_, rfl⟩ := Prod.mk.inj (Except.ok.inj read)
      exact .inr ⟨m, _, by rw [not_not.mp backslash, not_not.mp letter], second⟩
    · cases read
  · obtain ⟨_, rfl⟩ := Prod.mk.inj (Except.ok.inj read)
    exact .inl rfl

theorem skipEscape_letter (bytes : Octets) :
    skipEscape (0x75 :: bytes) = (hexQuad bytes >>= fun read => .ok read.2) := rfl

theorem skipEscape_of_escaped {front : Octets} (read : escaped bytes = .ok (front, rest)) :
    ∃ left, skipEscape bytes = .ok left ∧
      (left = rest ∨ ∃ more, left = Octet.backslash :: more ∧ skipEscape more = .ok rest) := by
  unfold escaped at read
  split at read
  · cases read
  rename_i b behind
  split at read
  · rename_i octet known
    cases read
    exact ⟨rest, by rw [skipEscape, known]; rfl, .inl rfl⟩
  split at read
  · rename_i letter
    subst letter
    obtain ⟨⟨c, last⟩, char, same⟩ := bind_eq_ok_iff.mp read
    cases same
    obtain ⟨n, left, quad, halves⟩ := hexQuad_of_escapedChar char
    refine ⟨left, by rw [skipEscape_letter, quad]; rfl, ?_⟩
    rcases halves with same | ⟨m, more, same, second⟩
    · exact .inl same
    · exact .inr ⟨_, same, by rw [skipEscape_letter, second]; rfl⟩
  · cases read

theorem skipString_of_escaped {front left : Octets} {n : Nat}
    (read : escaped bytes = .ok (front, left)) (enough : bytes.length < n)
    (further : ∀ m, left.length < m → skipString m left = .ok rest) :
    (skipEscape bytes >>= skipString n) = .ok rest := by
  obtain ⟨behind, passed, halves⟩ := skipEscape_of_escaped read
  have shorter := (skipEscape_suffix passed).length_le
  rw [passed, ok_bind]
  rcases halves with rfl | ⟨second, rfl, again⟩
  · exact further n (Nat.lt_of_le_of_lt shorter enough)
  · have shorterStill := (skipEscape_suffix again).length_le
    rw [List.length_cons] at shorter
    obtain ⟨n, rfl⟩ : ∃ k, n = k + 1 := ⟨n - 1, by omega⟩
    rw [skipString, if_neg (by decide), if_pos rfl, again, ok_bind]
    exact further n (by omega)

theorem skipString_of_stringOctets {fuel n : Nat} {content : Octets}
    (read : stringOctets fuel bytes = .ok (content, rest)) (enough : bytes.length < n) :
    skipString n bytes = .ok rest := by
  induction fuel generalizing bytes content n with
  | zero => cases read
  | succ fuel ih =>
    cases bytes with
    | nil => cases read
    | cons b behind =>
      obtain ⟨n, rfl⟩ := Nat.exists_eq_add_one_of_ne_zero (Nat.ne_zero_of_lt enough)
      have inside : behind.length < n := Nat.lt_of_succ_lt_succ enough
      rw [stringOctets] at read
      rw [skipString]
      split at read
      · rename_i quote
        cases read
        rw [if_pos quote]
      rename_i quote
      rw [if_neg quote]
      split at read
      · rename_i backslash
        obtain ⟨⟨front, left⟩, escape, read⟩ := bind_eq_ok_iff.mp read
        obtain ⟨⟨more, last⟩, further, same⟩ := bind_eq_ok_iff.mp read
        cases same
        rw [if_pos backslash]
        exact skipString_of_escaped escape inside fun m enough => ih further enough
      rename_i backslash
      rw [if_neg backslash]
      split at read
      · cases read
      rename_i control
      obtain ⟨⟨more, last⟩, further, same⟩ := bind_eq_ok_iff.mp read
      cases same
      rw [if_neg control]
      exact ih further inside

theorem skipString_of_readString {s : String} (read : readString bytes = .ok (s, rest)) :
    skipString (bytes.length + 1) bytes = .ok rest := by
  obtain ⟨⟨content, left⟩, content?, read⟩ := bind_eq_ok_iff.mp read
  dsimp only at read
  split at read
  · cases read
    exact skipString_of_stringOctets content? (Nat.lt_succ_self _)
  · cases read

end Strings

section Numerals

theorem spanDigits_cons (b : UInt8) (bytes : Octets) :
    dropDigits (b :: bytes) = if (digit? b).isSome then dropDigits bytes else b :: bytes := by
  unfold dropDigits
  rw [spanDigits]
  cases digit? b <;> rfl

theorem dropDigits_suffix (bytes : Octets) : dropDigits bytes <:+ bytes := by
  induction bytes with
  | nil => exact List.suffix_refl []
  | cons b bytes ih =>
    rw [spanDigits_cons]
    split
    · exact ih.trans (List.suffix_cons b bytes)
    · exact List.suffix_refl _

theorem dropDigits_of_not_digit {b : UInt8} (other : (digit? b).isSome = false) (bytes : Octets) :
    dropDigits (b :: bytes) = b :: bytes := by
  rw [spanDigits_cons, other]
  rfl

theorem dropDigits_of_digit {b : UInt8} (digit : (digit? b).isSome = true) (bytes : Octets) :
    dropDigits (b :: bytes) = dropDigits bytes := by
  rw [spanDigits_cons, digit]
  rfl

theorem dropDigits_of_significand {n taken m count : Nat}
    (read : significand n taken bytes = (m, count, rest)) : dropDigits bytes = dropDigits rest := by
  induction bytes generalizing n taken with
  | nil =>
    cases read
    rfl
  | cons b bytes ih =>
    rw [significand] at read
    split at read
    · cases read
      rfl
    · rename_i d digit
      split at read
      · rw [dropDigits_of_digit (by rw [digit]; rfl)]
        exact ih read
      · cases read
        rfl

theorem dropDigits_of_exponentDigits {n : Nat} {e : Option Nat}
    (read : exponentDigits n bytes = (e, rest)) :
    dropDigits bytes = dropDigits rest ∧ (e ≠ none → dropDigits rest = rest) := by
  induction bytes generalizing n with
  | nil =>
    cases read
    exact ⟨rfl, fun _ => rfl⟩
  | cons b bytes ih =>
    rw [exponentDigits] at read
    split at read
    · rename_i other
      cases read
      exact ⟨rfl, fun _ => dropDigits_of_not_digit (by rw [other]; rfl) bytes⟩
    · rename_i d digit
      have dropped := dropDigits_of_digit (by rw [digit]; rfl) bytes
      split at read
      · rw [dropped]
        exact ih read
      · cases read
        exact ⟨dropped, nofun⟩

theorem skipDigits_cons (b : UInt8) (bytes : Octets) :
    skipDigits (b :: bytes) =
      if (digit? b).isSome then .ok (dropDigits bytes) else .error .invalidNumber := rfl

section Exponents

variable {n : Nat} {e : Int} {x : Binary64}

theorem skipDigits_of_exponent {first : UInt8} {more : Octets} {digits : Option Nat × Octets}
    {d : Nat} (digit : digit? first = some d) (read : exponentDigits d more = digits)
    (left : digits.1 ≠ none ∧ rest = digits.2 ∨ rest = dropDigits digits.2) :
    skipDigits (first :: more) = .ok rest := by
  obtain ⟨dropped, whole⟩ := dropDigits_of_exponentDigits (show _ = (digits.1, digits.2) from read)
  rw [skipDigits_cons, digit, Option.isSome_some, if_pos rfl, dropped]
  rcases left with ⟨some, rfl⟩ | rfl
  · rw [whole some]
  · rfl

theorem skipExponent_marked {b : UInt8} (mark : b = 0x65 ∨ b = 0x45) {s : UInt8} {more : Octets} :
    skipExponent (b :: s :: more) =
      if s = Octet.plus ∨ s = Octet.minus then skipDigits more else skipDigits (s :: more) := by
  simp only [skipExponent, if_pos mark]

theorem skipExponent_of_exponentPart {b : UInt8} (mark : b = 0x65 ∨ b = 0x45)
    (read : exponentPart n e bytes = .ok (x, rest)) : skipExponent (b :: bytes) = .ok rest := by
  unfold exponentPart at read
  extract_lets signed at read
  have passed : skipDigits signed.2 = .ok rest := by
    split at read
    · cases read
    rename_i first more tail
    rw [tail]
    split at read
    · cases read
    rename_i d digit
    split at read
    · rename_i digits
      obtain ⟨_, _, same⟩ := bind_eq_ok_iff.mp read
      cases same
      exact skipDigits_of_exponent digit digits (.inl ⟨nofun, rfl⟩)
    · rename_i digits
      split at read
      · cases read
      · cases read
        exact skipDigits_of_exponent digit digits (.inr rfl)
  cases bytes with
  | nil => cases passed
  | cons s more =>
    rw [skipExponent_marked mark, ← passed]
    dsimp only [signed]
    by_cases plus : s = Octet.plus
    · simp only [plus, true_or, if_true]
    · by_cases minus : s = Octet.minus
      · rw [if_pos (.inr minus), if_neg plus, if_pos minus]
      · rw [if_neg (not_or.mpr ⟨plus, minus⟩), if_neg plus, if_neg minus]

theorem skipExponent_unmarked {b : UInt8} (other : ¬ (b = 0x65 ∨ b = 0x45)) (bytes : Octets) :
    skipExponent (b :: bytes) = .ok (b :: bytes) := by
  simp only [skipExponent, if_neg other]

theorem skipExponent_of_exponentOrEnd (read : exponentOrEnd n e bytes = .ok (x, rest)) :
    skipExponent bytes = .ok rest := by
  unfold exponentOrEnd at read
  split at read
  · split at read
    · rename_i mark
      exact skipExponent_of_exponentPart mark read
    · rename_i other
      obtain ⟨_, _, same⟩ := bind_eq_ok_iff.mp read
      cases same
      exact skipExponent_unmarked other _
  · obtain ⟨_, _, same⟩ := bind_eq_ok_iff.mp read
    cases same
    rfl

theorem skipDigits_eq {b : UInt8} (digit : (digit? b).isSome = true) (bytes : Octets) :
    skipDigits (b :: bytes) = .ok (dropDigits (b :: bytes)) := by
  rw [skipDigits_cons, if_pos digit, dropDigits_of_digit digit]

theorem skipDigits_of_significand {taken m count : Nat}
    (read : significand n taken bytes = (m, count, rest)) :
    count = taken ∧ rest = bytes ∨ skipDigits bytes = .ok (dropDigits rest) := by
  cases bytes with
  | nil =>
    cases read
    exact .inl ⟨rfl, rfl⟩
  | cons b bytes =>
    have dropped := dropDigits_of_significand read
    rw [significand] at read
    split at read
    · cases read
      exact .inl ⟨rfl, rfl⟩
    · rename_i d digit
      exact .inr (by rw [skipDigits_eq (by rw [digit]; rfl), dropped])

theorem skipExponent_of_fractionPart (read : fractionPart n e bytes = .ok (x, rest)) :
    (skipDigits bytes >>= skipExponent) = .ok rest := by
  unfold fractionPart at read
  split at read
  rename_i m taken left taking
  have digits := skipDigits_of_significand taking
  clear taking
  split at read
  · split at read
    · cases read
    · rename_i some
      rw [digits.resolve_left fun none => some none.1, ok_bind]
      exact skipExponent_of_exponentOrEnd read
  · rename_i b more
    split at read
    -- Digits that no longer fit are dropped by both.
    · rename_i digit
      have passed : skipDigits bytes = .ok (dropDigits (b :: more)) := by
        rcases digits with ⟨_, rfl⟩ | passed
        · exact skipDigits_eq digit more
        · exact passed
      rw [passed, ok_bind]
      exact skipExponent_of_exponentOrEnd read
    · rename_i other
      split at read
      · cases read
      · rename_i some
        have stops := dropDigits_of_not_digit (Bool.eq_false_iff.mpr other) more
        rw [digits.resolve_left fun none => some none.1, stops, ok_bind]
        exact skipExponent_of_exponentOrEnd read

theorem skipFraction_point (bytes : Octets) :
    skipFraction (Octet.point :: bytes) = (skipDigits bytes >>= skipExponent) := rfl

theorem skipFraction_other {b : UInt8} (other : b ≠ Octet.point) (bytes : Octets) :
    skipFraction (b :: bytes) = skipExponent (b :: bytes) := by
  simp only [skipFraction, if_neg other]

theorem skipFraction_of_afterInteger {m : Magnitude} (read : afterInteger n bytes = .ok (m, rest)) :
    skipFraction bytes = .ok rest := by
  unfold afterInteger at read
  split at read
  · cases read
    rfl
  · split at read
    · rename_i point
      subst point
      obtain ⟨⟨y, left⟩, fraction, same⟩ := bind_eq_ok_iff.mp read
      cases same
      rw [skipFraction_point]
      exact skipExponent_of_fractionPart fraction
    · rename_i other
      rw [skipFraction_other other]
      split at read
      · rename_i mark
        obtain ⟨⟨y, left⟩, exponent, same⟩ := bind_eq_ok_iff.mp read
        cases same
        exact skipExponent_of_exponentPart mark exponent
      · rename_i unmarked
        cases read
        exact skipExponent_unmarked unmarked _

theorem skipFraction_of_longInteger (read : longInteger n bytes = .ok (x, rest)) :
    skipFraction (dropDigits bytes) = .ok rest := by
  unfold longInteger at read
  split at read
  rename_i dropped left digits
  have same : dropDigits bytes = left := congrArg Prod.snd digits
  rw [same]
  split at read
  · split at read
    · rename_i point
      subst point
      rw [skipFraction_point]
      exact skipExponent_of_fractionPart read
    · rename_i other
      rw [skipFraction_other other]
      exact skipExponent_of_exponentOrEnd read
  · exact skipExponent_of_exponentOrEnd read

theorem skipMagnitude_positive {b : UInt8} {d : Nat} (digit : digit? b = some d) (positive : d ≠ 0)
    (bytes : Octets) : skipMagnitude (b :: bytes) = skipFraction (dropDigits bytes) := by
  obtain ⟨d, rfl⟩ := Nat.exists_eq_add_one_of_ne_zero positive
  simp only [skipMagnitude, digit]

theorem skipMagnitude_of_readMagnitude {m : Magnitude} (read : readMagnitude bytes = .ok (m, rest)) :
    skipMagnitude bytes = .ok rest := by
  unfold readMagnitude at read
  split at read
  · cases read
  rename_i b behind
  split at read
  · cases read
  -- A zero at the front stands alone.
  · rename_i zero
    simp only [skipMagnitude, zero]
    split at read
    · split at read
      · cases read
      · rename_i other
        simp only [if_neg other]
        exact skipFraction_of_afterInteger read
    · exact skipFraction_of_afterInteger read
  · rename_i d positive digit
    split at read
    rename_i k taken left taking
    have dropped := dropDigits_of_significand taking
    clear taking
    rw [skipMagnitude_positive digit positive, dropped]
    split at read
    · split at read
      · obtain ⟨⟨y, last⟩, long, same⟩ := bind_eq_ok_iff.mp read
        cases same
        exact skipFraction_of_longInteger long
      · rename_i other
        rw [dropDigits_of_not_digit (Bool.eq_false_iff.mpr other)]
        exact skipFraction_of_afterInteger read
    · exact skipFraction_of_afterInteger read

end Exponents

end Numerals

theorem skipScalar_number {b : UInt8} (starts : startsNumber b = true) (bytes : Octets) :
    skipScalar b bytes = skipMagnitude (if b = Octet.minus then bytes else b :: bytes) := by
  have other : ∀ c, startsNumber c = false → b ≠ c := fun c differs => ne_of_startsNumber starts differs
  have words : b ≠ 0x6e ∧ b ≠ 0x74 ∧ b ≠ 0x66 ∧ b ≠ Octet.quote :=
    ⟨other _ (by decide), other _ (by decide), other _ (by decide), other _ (by decide)⟩
  obtain ⟨null, true, false, quote⟩ := words
  rw [skipScalar, if_neg null, if_neg true, if_neg false, if_neg quote]
  split
  · rfl
  · rename_i unsigned
    rw [startsNumber, Bool.or_eq_true, decide_eq_true_eq] at starts
    rw [if_pos (starts.resolve_left unsigned)]

/-- A scalar is passed over to where reading it ends. -/
theorem skipScalar_of_readScalar {b : UInt8} {x : Json} (read : readScalar b bytes = .ok (x, rest)) :
    skipScalar b bytes = .ok rest := by
  unfold readScalar at read
  split at read
  · rename_i null
    obtain ⟨left, passed, same⟩ := bind_eq_ok_iff.mp read
    cases same
    rw [skipScalar, if_pos null, passed]
  rename_i null
  split at read
  · rename_i true
    obtain ⟨left, passed, same⟩ := bind_eq_ok_iff.mp read
    cases same
    rw [skipScalar, if_neg null, if_pos true, passed]
  rename_i true
  split at read
  · rename_i false
    obtain ⟨left, passed, same⟩ := bind_eq_ok_iff.mp read
    cases same
    rw [skipScalar, if_neg null, if_neg true, if_pos false, passed]
  rename_i false
  split at read
  · rename_i quote
    obtain ⟨⟨s, left⟩, string, same⟩ := bind_eq_ok_iff.mp read
    cases same
    rw [skipScalar, if_neg null, if_neg true, if_neg false, if_pos quote]
    exact skipString_of_readString string
  split at read
  · rename_i starts
    obtain ⟨⟨n, left⟩, number, same⟩ := bind_eq_ok_iff.mp read
    cases same
    obtain ⟨⟨m, last⟩, magnitude, same⟩ := bind_eq_ok_iff.mp number
    cases same
    rw [skipScalar_number starts]
    exact skipMagnitude_of_readMagnitude magnitude
  · cases read

section Suffixes

theorem word_suffix {letters : Octets} (passed : word letters bytes = .ok rest) : rest <:+ bytes := by
  induction letters generalizing bytes with
  | nil =>
    cases passed
    exact List.suffix_refl _
  | cons letter letters ih =>
    cases bytes with
    | nil => cases passed
    | cons b behind =>
      rw [word] at passed
      split at passed
      · exact (ih passed).trans (List.suffix_cons b behind)
      · cases passed

theorem skipDigits_suffix (passed : skipDigits bytes = .ok rest) : rest <:+ bytes := by
  unfold skipDigits at passed
  split at passed
  · cases passed
  · split at passed
    · cases passed
      exact (dropDigits_suffix _).trans (List.suffix_cons _ _)
    · cases passed

theorem skipExponent_suffix (passed : skipExponent bytes = .ok rest) : rest <:+ bytes := by
  unfold skipExponent at passed
  split at passed
  · split at passed
    · split at passed
      · split at passed
        · exact ((skipDigits_suffix passed).trans (List.suffix_cons _ _)).trans (List.suffix_cons _ _)
        · exact (skipDigits_suffix passed).trans (List.suffix_cons _ _)
      · cases passed
    · cases passed
      exact List.suffix_refl _
  · cases passed
    exact List.suffix_refl _

theorem skipFraction_suffix (passed : skipFraction bytes = .ok rest) : rest <:+ bytes := by
  unfold skipFraction at passed
  split at passed
  · split at passed
    · obtain ⟨left, digits, exponent⟩ := bind_eq_ok_iff.mp passed
      have inner := (skipExponent_suffix exponent).trans (skipDigits_suffix digits)
      exact inner.trans (List.suffix_cons _ _)
    · exact skipExponent_suffix passed
  · cases passed
    exact List.suffix_refl _

theorem skipMagnitude_suffix {b : UInt8} (passed : skipMagnitude (b :: bytes) = .ok rest) :
    rest <:+ bytes := by
  unfold skipMagnitude at passed
  split at passed
  · cases passed
  rename_i c behind same
  cases same
  split at passed
  · cases passed
  · split at passed
    · split at passed
      · cases passed
      · exact skipFraction_suffix passed
    · cases passed
      exact List.suffix_refl _
  · exact (skipFraction_suffix passed).trans (dropDigits_suffix bytes)

theorem skipScalar_suffix {b : UInt8} (passed : skipScalar b bytes = .ok rest) : rest <:+ bytes := by
  unfold skipScalar at passed
  repeat' split at passed
  · exact word_suffix passed
  · exact word_suffix passed
  · exact word_suffix passed
  · exact skipString_suffix passed
  · cases bytes with
    | nil => cases passed
    | cons c behind => exact (skipMagnitude_suffix passed).trans (List.suffix_cons c behind)
  · exact skipMagnitude_suffix passed
  · cases passed

theorem skipBlanks_suffix (bytes : Octets) : skipBlanks bytes <:+ bytes := List.dropWhile_suffix _

theorem passColon_suffix (passed : passColon bytes = .ok rest) : rest <:+ bytes := by
  have blanks := skipBlanks_suffix bytes
  unfold passColon at passed
  split at passed
  · cases passed
  · rename_i b behind front
    rw [front] at blanks
    split at passed
    · cases passed
      exact (List.suffix_cons b rest).trans blanks
    · cases passed

theorem length_skipKey (passed : skipKey bytes = .ok rest) : rest.length < bytes.length := by
  have blanks := (skipBlanks_suffix bytes).length_le
  unfold skipKey at passed
  split at passed
  · cases passed
  · rename_i b behind front
    rw [front, List.length_cons] at blanks
    split at passed
    · obtain ⟨left, name, colon⟩ := bind_eq_ok_iff.mp passed
      have shorter := ((passColon_suffix colon).trans (skipString_suffix name)).length_le
      omega
    · cases passed

end Suffixes

end EventRelay.Json
