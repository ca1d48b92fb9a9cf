import EventRelay.Message
import EventRelay.Proofs.Json.Values
import EventRelay.Proofs.Json.Wellformed

namespace EventRelay

namespace Json

theorem skipBlanks_encodeString (s : String) (rest : Octets) :
    skipBlanks (encodeString s ++ rest) =
      Octet.quote :: ((octets s).flatMap escape ++ Octet.quote :: rest) := by
  rw [encodeString_eq, skipBlanks_cons (by decide)]

namespace Decoder

theorem read_string (levels : Nat) (s : String) (rest : Octets) :
    string.read levels (encodeString s ++ rest) = .ok (s, rest) := by
  have read := readString_flatMap s rest
  simp only [string, readStringAs, skipBlanks_encodeString, if_true, read]

theorem read_choice {α : Type} {choices : List (String × α)} {name : String} {x : α}
    (known : named choices name = .ok x) (levels : Nat) (rest : Octets) :
    (choice choices).read levels (encodeString name ++ rest) = .ok (x, rest) := by
  have read := readString_flatMap name rest
  simp only [choice, skipBlanks_encodeString, if_true, read, ok_bind, known]
  rfl

theorem read_optional_string (levels : Nat) (s : String) (rest : Octets) :
    string.optional.read levels (encodeString s ++ rest) = .ok (some s, rest) := by
  have read := read_string levels s rest
  have shown : Octet.quote ≠ 0x6e := by decide
  rw [encodeString_eq] at read
  simp only [optional, skipBlanks_encodeString, if_neg shown, read, ok_bind]
  rfl

end Decoder

end Json

namespace Message

open Json

theorem read_kind (kind : MessageKind) (levels : Nat) (rest : Octets) :
    MessageKind.decoder.read levels (encodeString kind.name ++ rest) = .ok (kind, rest) := by
  have known : named (MessageKind.all.map fun kind => (kind.name, kind)) kind.name = .ok kind := by
    cases kind <;> rfl
  exact Decoder.read_choice known levels rest

def known (kind : Option MessageKind) (type : Option (Option String)) (body : Option Json) :
    Slots fields :=
  (kind, type, body, ())

section Members

variable (levels : Nat) (kind : MessageKind) (rest : Octets)

theorem readMember_kind :
    Slots.readMember levels "kind" fields (known none none none)
        (Octet.colon :: (encodeString kind.name ++ rest)) =
      .ok (known (some kind) none none, rest) := by
  simp [known, Slots.readMember, fields, Field.required, passColon_colon, ok_bind, read_kind]

theorem readMember_type (type : String) :
    Slots.readMember levels "type" fields (known (some kind) none none)
        (Octet.colon :: (encodeString type ++ rest)) =
      .ok (known (some kind) (some (some type)) none, rest) := by
  simp [known, Slots.readMember, fields, Field.required, Field.defaulted, passColon_colon, ok_bind,
    Decoder.read_optional_string]

theorem readMember_body {body : Json} (reads : Reads body) (ends : EndsNumeral rest)
    (type : Option (Option String)) :
    Slots.readMember levels "body" fields (known (some kind) type none)
        (Octet.colon :: (body.encode ++ rest)) =
      bounded body.depth levels (known (some kind) type (some body), rest) := by
  simp only [known, Slots.readMember, fields, Field.required, Field.defaulted, passColon_colon, ok_bind,
    Decoder.json, reads levels rest ends, bounded_bind, String.reduceEq, if_false, if_true]
  rw [bounded]
  split <;> rfl

end Members

def parts (message : Message) : List Octets :=
  [encodeMember "kind" (encodeString message.kind.name)]
    ++ (message.type.map fun s => encodeMember "type" (encodeString s)).toList
    ++ [encodeMember "body" message.body.encode]

theorem encode_eq (message : Message) :
    message.encode = Octet.openBrace :: (separated message.parts ++ [Octet.closeBrace]) := by
  rw [encode, encodeObject, parts]
  cases message.type <;> rfl

theorem readMembers_parts {message : Message} (reads : Reads message.body) (levels : Nat) {fuel : Nat}
    (enough : message.parts.length < fuel) :
    readMembers (fun key slots bytes => Slots.readMember levels key fields slots bytes) fuel true
        (known none none none) (separated message.parts ++ [Octet.closeBrace]) =
      bounded message.body.depth levels
        (known (some message.kind) (message.type.map some) (some message.body), [Octet.closeBrace]) := by
  have ends : EndsNumeral [Octet.closeBrace] := endsNumeral_cons (.inr (.inr rfl)) []
  obtain ⟨kind, type, body⟩ := message
  cases type with
  | none =>
    obtain ⟨fuel, rfl⟩ : ∃ n, fuel = n + 3 := ⟨fuel - 3, by simp [parts] at enough; omega⟩
    simp only [parts, Option.map_none, Option.toList_none, List.append_nil, List.cons_append,
      List.nil_append, separated_cons, List.flatMap_cons, List.flatMap_nil, List.append_assoc]
    rw [(readMembers_front _ _).1, readMember_kind, ok_bind, (readMembers_front _ _).2,
      readMember_body levels kind _ reads ends, bounded_bind, readMembers_end]
    rfl
  | some type =>
    obtain ⟨fuel, rfl⟩ : ∃ n, fuel = n + 4 := ⟨fuel - 4, by simp [parts] at enough; omega⟩
    simp only [parts, Option.map_some, Option.toList_some, List.append_nil, List.cons_append,
      List.nil_append, separated_cons, List.flatMap_cons, List.flatMap_nil, List.append_assoc]
    rw [(readMembers_front _ _).1, readMember_kind, ok_bind, (readMembers_front _ _).2,
      readMember_type, ok_bind, (readMembers_front _ _).2,
      readMember_body levels kind _ reads ends, bounded_bind, readMembers_end]
    rfl

theorem values_known (message : Message) :
    (known (some message.kind) (message.type.map some) (some message.body)).values =
      .ok (message.kind, message.type, message.body, ()) := by
  obtain ⟨kind, type, body⟩ := message
  cases type <;> rfl

theorem read_encode {message : Message} (reads : Reads message.body) (levels : Nat) :
    decoder.read levels message.encode = bounded (message.body.depth + 1) levels (message, []) := by
  have counted := length_le_separated message.parts
  have visible : Json.isBlank Octet.openBrace = false := by decide
  have list : Octet.openBrace ≠ Octet.openBracket := by decide
  have nothing : Slots.empty shape.fields = known none none none := rfl
  rw [encode_eq]
  simp only [decoder, Shape.decoder, Shape.read, skipBlanks_cons visible, if_neg list, if_true]
  cases levels with
  | zero => rfl
  | succ levels =>
    have read := @readMembers_parts message reads levels
      ((separated message.parts ++ [Octet.closeBrace]).length + 1)
      (by rw [List.length_append, List.length_singleton]; omega)
    dsimp only
    rw [nothing, read, bounded_bind]
    simp only [bounded, Nat.add_le_add_iff_right]
    split
    · rw [values_known]
      rfl
    · rfl

theorem decode_encode {message : Message} (reads : Reads message.body) :
    decode message.encode = bounded (message.body.depth + 1) maxDepth message := by
  rw [decode, Decoder.decode, read_encode reads, bounded_bind, bounded]
  split <;> rfl

/-- A message with integers only is written in full however deep its body nests, for a reader that goes
    deep enough, and it is read back as a whole document exactly when the body leaves a level for the
    envelope. -/
theorem decode_encode_iff_depth {message : Message} (ordered : message.body.Ordered)
    (integral : message.body.integral = true) :
    (∀ levels, message.body.depth < levels →
      decoder.read levels message.encode = .ok (message, [])) ∧
    (decode message.encode = .ok message ↔ message.body.depth ≤ 126) ∧
    (126 < message.body.depth → decode message.encode = .error .tooDeep) := by
  have reads : Reads message.body := Json.reads ordered integral
  have limit : maxDepth = 126 + 1 := rfl
  rw [decode_encode reads, limit]
  refine ⟨?_, ?_, ?_⟩
  · intro levels deeper
    rw [read_encode reads, bounded_of_le (Nat.succ_le_of_lt deeper)]
  · rw [bounded_eq_ok_iff, Nat.add_le_add_iff_right]
  · intro deeper
    exact bounded_of_lt (Nat.add_lt_add_right deeper 1) message

def nested : Nat → Json
  | 0 => .natural 18446744073709551615
  | n + 1 => .array [nested n]

theorem nested_sound (n : Nat) :
    (nested n).Ordered ∧ (nested n).integral = true ∧ (nested n).depth = n := by
  induction n with
  | zero => exact ⟨trivial, rfl, rfl⟩
  | succ n ih =>
    obtain ⟨ordered, integral, depth⟩ := ih
    refine ⟨⟨ordered, trivial⟩, ?_, ?_⟩
    · rw [nested, Json.integral, itemsIntegral, integral, itemsIntegral]
      rfl
    · rw [nested, Json.depth, itemsDepth, depth, itemsDepth, Nat.max_zero]

/-- One list more than the reader can go down. -/
theorem decode_encode_iff_depth_nested :
    let message (n : Nat) : Message := ⟨.map, some "deep", nested n⟩
    ((∀ n, (message n).body.Ordered) ∧ (∀ n, (message n).body.integral = true)) ∧
      decode (message 126).encode = .ok (message 126) ∧
      decode (message 127).encode = .error .tooDeep ∧
      decoder.read 128 (message 127).encode = .ok (message 127, []) := by
  intro message
  have ordered : ∀ n, (message n).body.Ordered := fun n => (nested_sound n).1
  have integral : ∀ n, (message n).body.integral = true := fun n => (nested_sound n).2.1
  have depth : ∀ n, (message n).body.depth = n := fun n => (nested_sound n).2.2
  obtain ⟨_, whole, _⟩ := decode_encode_iff_depth (ordered 126) (integral 126)
  obtain ⟨written, _, refused⟩ := decode_encode_iff_depth (ordered 127) (integral 127)
  rw [depth] at whole written refused
  exact ⟨⟨ordered, integral⟩, whole.mpr (Nat.le_refl 126), refused (by decide), written 128 (by decide)⟩

theorem within_of_decode {payload : Octets} {message : Message} (read : decode payload = .ok message) :
    Within 126 message.body := by
  obtain ⟨⟨found, rest⟩, envelope, read⟩ := bind_eq_ok_iff.mp read
  obtain ⟨_, _, same⟩ := bind_eq_ok_iff.mp read
  cases same
  obtain ⟨⟨values, behind⟩, record, same⟩ := bind_eq_ok_iff.mp envelope
  cases same
  obtain ⟨inner, levels, given⟩ := shape.given_of_read record
  obtain rfl : inner = 126 := by simpa [maxDepth] using levels.symm
  obtain ⟨kind, type, body, ⟨⟩⟩ := values
  obtain ⟨_, _, ⟨_, _, value⟩ | missing | short, _⟩ := given
  · exact .of_readValue value
  · cases missing
    exact ⟨trivial, Nat.zero_le 126⟩
  · cases short
    exact ⟨trivial, Nat.zero_le 126⟩

def reencode (payload : Octets) : Except Fault Octets := encode <$> decode payload

/-- A message with integers only comes back from what is written of it, whatever it was read from; so
    sending on what was sent on already changes nothing. -/
theorem decode_encode_of_decode {payload : Octets} {message : Message}
    (accepted : decode payload = .ok message) (integral : message.body.integral = true) :
    decode message.encode = .ok message ∧
      reencode payload = .ok message.encode ∧
      reencode message.encode = .ok message.encode := by
  have within := within_of_decode accepted
  have reads : Reads message.body := Json.reads within.ordered integral
  have inside : message.body.depth + 1 ≤ maxDepth := Nat.succ_le_succ within.shallow
  have back : decode message.encode = .ok message := by
    rw [decode_encode reads, bounded_of_le inside]
  refine ⟨back, ?_, ?_⟩
  · rw [reencode, accepted]
    rfl
  · rw [reencode, back]
    rfl

def untidy : Octets :=
  octets (" \x7b\"body\" : \x7b\"b\":[1],\"a\":\"\\u00e9\\n\",\"b\":-9223372036854775808 \x7d,"
    ++ "\"extra\":[1.5e99,-0.0], \"kind\":\x7b\"text\":null\x7d,\n\"type\":null\x7d\t")

set_option maxRecDepth 20000 in
theorem decode_encode_of_decode_untidy :
    let message : Message :=
      ⟨.text, none, .object [("a", .string "é\n"), ("b", .number (.negative 9223372036854775807))]⟩
    (decode untidy = .ok message ∧ message.body.integral = true) ∧
      decode message.encode = .ok message ∧
      reencode untidy = .ok message.encode ∧
      reencode message.encode = .ok message.encode := by
  intro message
  have accepted : decode untidy = .ok message := rfl
  exact ⟨⟨accepted, rfl⟩, decode_encode_of_decode accepted rfl⟩

end Message

end EventRelay
