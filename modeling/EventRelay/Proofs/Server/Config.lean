import EventRelay.Proofs.Json.Integers
import EventRelay.Server.Config

namespace EventRelay

open Json

/-- A text that writes a port number: digits, at least one, and perhaps a plus before them. -/
def WritesPort (text : String) (n : Nat) : Prop :=
  ∃ digits : List Char, (text.toList = digits ∨ text.toList = '+' :: digits) ∧ digits ≠ [] ∧
    (∀ c ∈ digits, c.isDigit) ∧ Nat.ofDigitChars 10 digits 0 = n ∧ n ≤ 65535

theorem octets_injective {s t : String} (same : octets s = octets t) : s = t := by
  rw [← Octets.text_octets s, same, Octets.text_octets]

theorem digit?_eq_some_iff {b : UInt8} {d : Nat} :
    digit? b = some d ↔ ∃ c : Char, c.isDigit ∧ digitOctet c = b ∧ digitValue c = d := by
  constructor
  · intro read
    have spelled : ∀ d < 10, (Char.ofNat (48 + d)).isDigit ∧
        digitOctet (Char.ofNat (48 + d)) = (48 + d).toUInt8 ∧ digitValue (Char.ofNat (48 + d)) = d := by
      decide
    simp only [digit?, UInt8.le_iff_toNat_le] at read
    split at read
    · rename_i inside
      obtain ⟨low, high⟩ : 48 ≤ b.toNat ∧ b.toNat ≤ 57 := inside
      cases read
      obtain ⟨digit, octet, value⟩ := spelled (b.toNat - 48) (by omega)
      refine ⟨_, digit, ?_, value⟩
      rw [octet, Nat.add_sub_cancel' low]
      exact UInt8.ofNat_toNat
    · cases read
  · rintro ⟨c, digit, rfl, rfl⟩
    exact digit?_digitOctet digit

theorem digit?_plus : digit? Octet.plus = none := by decide

theorem portDigits_eq_ok_iff {bytes : Octets} {n value : Nat} (small : n ≤ maxPort) :
    portDigits n bytes = .ok value ↔
      ∃ digits : List Char, (∀ c ∈ digits, c.isDigit) ∧ bytes = digits.map digitOctet ∧
        Nat.ofDigitChars 10 digits n = value ∧ value ≤ maxPort := by
  induction bytes generalizing n with
  | nil =>
    constructor
    · intro read
      cases read
      exact ⟨[], by simp, rfl, rfl, small⟩
    · rintro ⟨digits, _, spelled, rfl, _⟩
      rw [List.map_eq_nil_iff.mp spelled.symm]
      rfl
  | cons b rest ih =>
    constructor
    · intro read
      simp only [portDigits] at read
      split at read
      · cases read
      · rename_i d isDigit
        split at read
        · rename_i within
          obtain ⟨c, digit, rfl, rfl⟩ := digit?_eq_some_iff.mp isDigit
          obtain ⟨digits, decimal, rfl, whole, bounded⟩ := (ih within).mp read
          refine ⟨c :: digits, List.forall_mem_cons.mpr ⟨digit, decimal⟩, rfl, ?_, bounded⟩
          rw [Nat.ofDigitChars_cons, Nat.mul_comm]
          exact whole
        · cases read
    · rintro ⟨digits, decimal, spelled, whole, bounded⟩
      cases digits with
      | nil => cases spelled
      | cons c digits =>
        obtain ⟨digit, decimal⟩ := List.forall_mem_cons.mp decimal
        obtain ⟨rfl, rfl⟩ := List.cons.inj spelled
        rw [Nat.ofDigitChars_cons, Nat.mul_comm] at whole
        -- The whole number is no smaller than what was read of it so far, so each digit passes the bound.
        have within : n * 10 + digitValue c ≤ maxPort := by
          have grown := le_ofDigitChars digits (n * 10 + digitValue c)
          exact Nat.le_trans grown (Nat.le_trans (Nat.le_of_eq whole) bounded)
        simp only [portDigits, digit?_digitOctet digit, if_pos within]
        exact (ih within).mpr ⟨digits, decimal, rfl, whole, bounded⟩

theorem portOctets_unsigned {b : UInt8} (other : b ≠ Octet.plus) (rest : Octets) :
    portOctets (b :: rest) = portDigits 0 (b :: rest) := by
  rw [portOctets, if_neg other]

theorem portOctets_signed {rest : Octets} (more : rest ≠ []) :
    portOctets (Octet.plus :: rest) = portDigits 0 rest := by
  have further : rest.isEmpty = false := by simpa using more
  simp [portOctets, further]

theorem portOctets_eq_ok_iff {bytes : Octets} {value : Nat} :
    portOctets bytes = .ok value ↔
      ∃ rest, (bytes = rest ∨ bytes = Octet.plus :: rest) ∧ rest ≠ [] ∧ portDigits 0 rest = .ok value := by
  constructor
  · intro read
    cases bytes with
    | nil => cases read
    | cons b rest =>
      by_cases signed : b = Octet.plus
      · subst signed
        have more : rest ≠ [] := by
          rintro rfl
          cases read
        exact ⟨rest, .inr rfl, more, portOctets_signed more ▸ read⟩
      · exact ⟨b :: rest, .inl rfl, List.cons_ne_nil _ _, portOctets_unsigned signed rest ▸ read⟩
  · rintro ⟨rest, rfl | rfl, more, read⟩
    · cases bytes with
      | nil => exact absurd rfl more
      | cons b rest =>
        -- A plus is no digit, so what reads as digits has none in front.
        have unsigned : b ≠ Octet.plus := by
          rintro rfl
          simp only [portDigits, digit?_plus] at read
          cases read
        rw [portOctets_unsigned unsigned, read]
    · rw [portOctets_signed more, read]

theorem octets_signed {digits : List Char} (decimal : ∀ c ∈ digits, c.isDigit) :
    octets (String.ofList ('+' :: digits)) = Octet.plus :: digits.map digitOctet := by
  have sign : String.utf8EncodeChar '+' = [Octet.plus] := by decide
  rw [octets_ofList, List.flatMap_cons, sign, ← octets_ofList, octets_digits decimal]
  rfl

theorem portOctets_octets_iff {text : String} {n : Nat} :
    portOctets (octets text) = .ok n ↔ WritesPort text n := by
  rw [portOctets_eq_ok_iff]
  constructor
  · rintro ⟨rest, sign, more, read⟩
    obtain ⟨digits, decimal, rfl, whole, bounded⟩ := (portDigits_eq_ok_iff (Nat.zero_le _)).mp read
    refine ⟨digits, ?_, fun none => more (by rw [none]; rfl), decimal, whole, bounded⟩
    rcases sign with unsigned | signed
    · rw [← octets_digits decimal] at unsigned
      exact .inl (by rw [octets_injective unsigned, String.toList_ofList])
    · rw [← octets_signed decimal] at signed
      exact .inr (by rw [octets_injective signed, String.toList_ofList])
  · rintro ⟨digits, sign, more, decimal, whole, bounded⟩
    refine ⟨digits.map digitOctet, ?_, fun none => more (List.map_eq_nil_iff.mp none),
      (portDigits_eq_ok_iff (Nat.zero_le _)).mpr ⟨digits, decimal, rfl, whole, bounded⟩⟩
    rcases sign with unsigned | signed
    · exact .inl (by rw [← octets_digits decimal, ← unsigned, String.ofList_toList])
    · exact .inr (by rw [← octets_signed decimal, ← signed, String.ofList_toList])

example : portOctets (octets "+00065535") = .ok 65535 := rfl

namespace ServerConfig

/-- What the port is by the variable that sets it. -/
def PortIs : Option String → Nat → Prop
  | none, port => port = 1883
  | some text, port => WritesPort text port

theorem portOf_eq_ok_iff {setting : Option String} {port : Nat} :
    portOf setting = .ok port ↔ PortIs setting port := by
  cases setting with
  | none => simp [portOf, PortIs, standardPort, eq_comm]
  | some text =>
    rw [PortIs, ← portOctets_octets_iff, portOf]
    cases portOctets (octets text) with
    | ok n =>
      constructor
      · rintro ⟨⟩
        rfl
      · rintro ⟨⟩
        rfl
    | error fault => exact ⟨nofun, nofun⟩

theorem portOf_ne_hostMissing {setting : Option String} : portOf setting ≠ .error .hostMissing := by
  cases setting with
  | none => nofun
  | some text =>
    rw [portOf]
    cases portOctets (octets text) <;> nofun

theorem portOf_eq_invalidPort_iff {setting : Option String} {text : String} {fault : PortFault} :
    portOf setting = .error (.invalidPort text fault) ↔
      setting = some text ∧ portOctets (octets text) = .error fault := by
  cases setting with
  | none => simp [portOf]
  | some given =>
    rw [portOf, Option.some.injEq]
    constructor
    · intro refused
      cases read : portOctets (octets given) with
      | ok n =>
        rw [read] at refused
        cases refused
      | error other =>
        rw [read] at refused
        cases refused
        exact ⟨rfl, read⟩
    · rintro ⟨rfl, refused⟩
      rw [refused]
      rfl

theorem refused_iff {text : String} :
    (∃ fault, portOctets (octets text) = .error fault) ↔ ∀ n, ¬ WritesPort text n := by
  simp only [← portOctets_octets_iff]
  cases portOctets (octets text) <;> simp

variable {unique : String} {lookup : String → Option String}

theorem ofLookup_eq_error_iff {e : ServerConfigError} :
    ofLookup unique lookup = .error e ↔
      lookup "LOGBUS_BROKER_HOST" = none ∧ e = .hostMissing ∨
        lookup "LOGBUS_BROKER_HOST" ≠ none ∧ portOf (lookup "LOGBUS_PORT") = .error e := by
  rw [ofLookup]
  cases lookup "LOGBUS_BROKER_HOST" with
  | none => simp [eq_comm]
  | some host =>
    cases portOf (lookup "LOGBUS_PORT") with
    | ok port => simp [bind, Except.bind, pure, Except.pure]
    | error fault => simp [bind, Except.bind]

theorem ofLookup_eq_ok_iff {config : ServerConfig} :
    ofLookup unique lookup = .ok config ↔
      lookup "LOGBUS_BROKER_HOST" = some config.host ∧
      PortIs (lookup "LOGBUS_PORT") config.port ∧
      config.topic = (lookup "LOGBUS_TOPIC").getD "logs/#" ∧
      config.clientId = (lookup "LOGBUS_CLIENT_ID").getD ("logbus-server-" ++ unique) ∧
      config.username = lookup "LOGBUS_USERNAME" ∧
      config.password = lookup "LOGBUS_PASSWORD" := by
  rw [ofLookup, ← portOf_eq_ok_iff]
  obtain ⟨host, port, topic, clientId, username, password⟩ := config
  cases lookup "LOGBUS_BROKER_HOST" with
  | none => simp
  | some found =>
    cases portOf (lookup "LOGBUS_PORT") with
    | ok number => simp [bind, Except.bind, pure, Except.pure, eq_comm]
    | error fault => simp [bind, Except.bind]

/-- The configuration fails for want of a host, whatever else is wrong, and else for a port that is no
    number of a port. If it does not fail, each setting is what its own variable says, or what is usual
    where the variable is absent. -/
theorem settings_go_by_variables (unique : String) (lookup : String → Option String) :
    ((∃ e, ofLookup unique lookup = .error e) ↔
      lookup "LOGBUS_BROKER_HOST" = none ∨
        ∃ text, lookup "LOGBUS_PORT" = some text ∧ ∀ n, ¬ WritesPort text n) ∧
    (ofLookup unique lookup = .error .hostMissing ↔ lookup "LOGBUS_BROKER_HOST" = none) ∧
    (∀ text, (∃ fault, ofLookup unique lookup = .error (.invalidPort text fault)) ↔
      lookup "LOGBUS_BROKER_HOST" ≠ none ∧ lookup "LOGBUS_PORT" = some text ∧
        ∀ n, ¬ WritesPort text n) ∧
    ∀ config, ofLookup unique lookup = .ok config ↔
      lookup "LOGBUS_BROKER_HOST" = some config.host ∧
      PortIs (lookup "LOGBUS_PORT") config.port ∧
      config.topic = (lookup "LOGBUS_TOPIC").getD "logs/#" ∧
      config.clientId = (lookup "LOGBUS_CLIENT_ID").getD ("logbus-server-" ++ unique) ∧
      config.username = lookup "LOGBUS_USERNAME" ∧
      config.password = lookup "LOGBUS_PASSWORD" := by
  have missing : ofLookup unique lookup = .error .hostMissing ↔ lookup "LOGBUS_BROKER_HOST" = none := by
    simp [ofLookup_eq_error_iff, portOf_ne_hostMissing]
  have invalid : ∀ text, (∃ fault, ofLookup unique lookup = .error (.invalidPort text fault)) ↔
      lookup "LOGBUS_BROKER_HOST" ≠ none ∧ lookup "LOGBUS_PORT" = some text ∧
        ∀ n, ¬ WritesPort text n := by
    intro text
    simp [ofLookup_eq_error_iff, portOf_eq_invalidPort_iff, ← refused_iff]
  refine ⟨?_, missing, invalid, fun config => ofLookup_eq_ok_iff⟩
  constructor
  · rintro ⟨e, fails⟩
    cases e with
    | hostMissing => exact .inl (missing.mp fails)
    | invalidPort text fault =>
      obtain ⟨_, given, refused⟩ := (invalid text).mp ⟨fault, fails⟩
      exact .inr ⟨text, given, refused⟩
  · intro wrong
    by_cases absent : lookup "LOGBUS_BROKER_HOST" = none
    · exact ⟨_, missing.mpr absent⟩
    · obtain ⟨text, given, refused⟩ := wrong.resolve_left absent
      obtain ⟨fault, fails⟩ := (invalid text).mpr ⟨absent, given, refused⟩
      exact ⟨_, fails⟩

end ServerConfig

end EventRelay
