import EventRelay.Proofs.Json.RecordTrees
import EventRelay.Proofs.Message.Carrying

namespace EventRelay

open Json

namespace Level

/-- A level is written by name, alone or as the key of an empty choice. -/
def HasForm (level : Level) (value : Json) : Prop :=
  value = .string level.name ∨ value = .object [(level.name, .null)]

theorem ofJson_iff {level : Level} {value : Json} :
    decoder.ofJson value = .ok level ↔ level.HasForm value := by
  have among : level ∈ all := by cases level <;> decide
  have distinct : ∀ a ∈ all, ∀ b ∈ all, a.name = b.name → a = b := by decide
  simp only [decoder, Decoder.ofJson_choice_iff, Decoder.lookup_iff among distinct, exists_eq_left,
    HasForm]

end Level

namespace Event

/-- How something that an event may lack is written: as `null` where it is lacking. -/
def optionally {α : Type} (write : α → Json) (x : Option α) : Json := (x.map write).getD .null

def forms (event : Event) : List Entry :=
  [.required "text" (· = .string event.text),
   .defaulted "level" event.level.HasForm (event.level = .info),
   .defaulted "logger" (· = optionally .string event.logger) (event.logger = none),
   .defaulted "thread" (· = optionally .string event.thread) (event.thread = none),
   .defaulted "timestamp_millis" (· = optionally .natural event.timestampMillis)
    (event.timestampMillis = none)]

def HasForm (event : Event) (value : Json) : Prop := IsRecord event.forms value

theorem ofJson_optional_string_iff {value : Json} {s : Option String} :
    Decoder.string.optional.ofJson value = .ok s ↔ value = optionally .string s := by
  rw [Decoder.ofJson_optional_iff]
  simp only [Decoder.ofJson_string_iff]
  cases s with
  | none => simp [optionally]
  | some s =>
    simp only [optionally, Option.map_some, Option.getD_some, Option.some.injEq, exists_eq_right',
      reduceCtorEq, and_false, false_or, ne_eq, and_iff_right_iff_imp]
    rintro rfl
    exact Json.noConfusion

theorem ofJson_timestamp_iff {value : Json} {n : Option Nat} :
    (Decoder.unsigned "u64" (1 <<< 64 - 1)).optional.ofJson value = .ok n ↔
      ∃ stamp : Option UInt64, n = stamp.map UInt64.toNat ∧ value = optionally .natural stamp := by
  constructor
  · intro read
    rcases Decoder.ofJson_optional_iff.mp read with ⟨rfl, rfl⟩ | ⟨_, m, number, rfl⟩
    · exact ⟨none, rfl, rfl⟩
    · obtain ⟨stamp, rfl, rfl⟩ := Decoder.natural_of_unsigned number
      exact ⟨some stamp, rfl, rfl⟩
  · rintro ⟨stamp, rfl, rfl⟩
    cases stamp with
    | none => rfl
    | some stamp => exact Decoder.ofJson_natural stamp

def values (event : Event) : Values fields :=
  (event.text, event.level, event.logger, event.thread, event.timestampMillis.map UInt64.toNat, ())

theorem ofJson_iff (event : Event) (value : Json) :
    decoder.ofJson value = .ok event ↔ event.HasForm value := by
  have distinct : (shape.fields.map Field.name).Nodup := by decide
  simp only [decoder, Shape.decoder, map_eq_ok_iff, shape.ofJson_iff distinct]
  constructor
  · rintro ⟨⟨text, level, logger, thread, timestamp, ⟨⟩⟩, form, rfl⟩
    refine form.mono (.cons ?_ (.cons ?_ (.cons ?_ (.cons ?_ (.cons ?_ .nil)))))
    · exact Entry.implies_required fun _ => Decoder.ofJson_string_iff.mp
    · exact Entry.implies_defaulted (fun _ => Level.ofJson_iff.mp) id
    · exact Entry.implies_defaulted (fun _ => ofJson_optional_string_iff.mp) id
    · exact Entry.implies_defaulted (fun _ => ofJson_optional_string_iff.mp) id
    · refine Entry.implies_defaulted (fun value read => ?_) (fun none => by rw [none]; rfl)
      obtain ⟨stamp, rfl, written⟩ := ofJson_timestamp_iff.mp read
      have back : (stamp.map UInt64.toNat).map Nat.toUInt64 = stamp := by
        cases stamp <;> simp
      rw [written]
      exact congrArg (optionally natural) back.symm
  · intro form
    refine ⟨event.values, form.mono ?_, ofValues_toNat event⟩
    refine .cons ?_ (.cons ?_ (.cons ?_ (.cons ?_ (.cons ?_ .nil))))
    · exact Entry.required_implies fun _ => Decoder.ofJson_string_iff.mpr
    · exact Entry.defaulted_implies (fun _ => Level.ofJson_iff.mpr) id
    · exact Entry.defaulted_implies (fun _ => ofJson_optional_string_iff.mpr) id
    · exact Entry.defaulted_implies (fun _ => ofJson_optional_string_iff.mpr) id
    · refine Entry.defaulted_implies (fun value written => ?_) (fun none => by rw [none]; rfl)
      exact ofJson_timestamp_iff.mpr ⟨event.timestampMillis, rfl, written⟩

end Event

namespace CarriedObject

def forms (carried : CarriedObject) : List Entry :=
  [.required "type" (· = .string carried.typeName),
   .defaulted "value" (· = carried.value) (carried.value = .null)]

def HasForm (carried : CarriedObject) (value : Json) : Prop := IsRecord carried.forms value

theorem ofJson_iff (carried : CarriedObject) (value : Json) :
    decoder.ofJson value = .ok carried ↔ carried.HasForm value := by
  have distinct : (shape.fields.map Field.name).Nodup := by decide
  simp only [decoder, Shape.decoder, map_eq_ok_iff, shape.ofJson_iff distinct]
  constructor
  · rintro ⟨⟨typeName, inner, ⟨⟩⟩, form, rfl⟩
    refine form.mono (.cons ?_ (.cons ?_ .nil))
    · exact Entry.implies_required fun _ => Decoder.ofJson_string_iff.mp
    · exact Entry.implies_defaulted (fun _ => Except.ok.inj) id
  · intro form
    refine ⟨(carried.typeName, carried.value, ()), form.mono (.cons ?_ (.cons ?_ .nil)), rfl⟩
    · exact Entry.required_implies fun _ => Decoder.ofJson_string_iff.mpr
    · exact Entry.defaulted_implies (fun _ => congrArg Except.ok) id

end CarriedObject

theorem Level.follows : decoder.Follows True := Decoder.follows_choice _

theorem MessageKind.follows : decoder.Follows True := Decoder.follows_choice _

/-- Only a level is read warily: as an object it must have one name and no other. -/
theorem Event.follow : Follow ["level"] fields := by
  have string := Decoder.follows_string
  have optional := Decoder.follows_optional string
  have stamp := Decoder.follows_optional (Decoder.follows_unsigned "u64" (1 <<< 64 - 1))
  simp only [Follow, fields, List.forall_mem_cons]
  exact ⟨string.of_iff (by decide), Level.follows.of_iff (by decide), optional.of_iff (by decide),
    optional.of_iff (by decide), stamp.of_iff (by decide),
    fun _ none => absurd none List.not_mem_nil⟩

theorem CarriedObject.follow : Follow [] fields := by
  simp only [Follow, fields, List.forall_mem_cons]
  exact ⟨Decoder.follows_string.of_iff (by decide), Decoder.follows_json.of_iff (by decide),
    fun _ none => absurd none List.not_mem_nil⟩

/-- Where no object of a text repeats a name, an event is read from the text exactly if it is taken from the
    value that the text writes, and so is a carried object. -/
theorem text_agrees_with_value {text : Octets} {tree : Parse} {value : Json}
    (there : Parse.decode text = .ok tree) (once : tree.Distinct)
    (written : Json.decode text = .ok value) :
    (∀ event, Event.decoder.decode text = .ok event ↔ Event.decoder.ofJson value = .ok event) ∧
    ∀ carried, CarriedObject.decoder.decode text = .ok carried ↔
      CarriedObject.decoder.ofJson value = .ok carried :=
  ⟨Shape.decode_iff_ofJson (by decide) Event.follow there once written,
    Shape.decode_iff_ofJson (by decide) CarriedObject.follow there once written⟩

def twofold : Octets :=
  octets ("\x7b\"level\":\x7b\"WARN\":null\x7d, \"value\":[-5,\x7b\"a\":[]\x7d],\"logger\":null,"
    ++ "\"type\":\"LoggableEvent\",\"timestamp_millis\":18446744073709551615,\"text\":\"\\u00e9\"\x7d")

def twofoldValue : Json := .array [.number (.negative 4), .object [("a", .array [])]]

def twofoldTree : Parse :=
  .object
    [(some "level", .object [(some "WARN", .null)]),
      (some "value", .array [.number (some (.negative 4)),
        .object [(some "a", .array [])]]),
      (some "logger", .null), (some "type", .string (some "LoggableEvent")),
      (some "timestamp_millis", .number (some (.natural 18446744073709551615))),
      (some "text", .string (some "é"))]

set_option maxRecDepth 20000 in
theorem text_agrees_with_value_twofold :
    (Parse.decode twofold = .ok twofoldTree ∧ twofoldTree.Distinct) ∧
      Event.decoder.decode twofold = .ok ⟨"é", .warn, none, none, some 18446744073709551615⟩ ∧
      CarriedObject.decoder.decode twofold = .ok ⟨"LoggableEvent", twofoldValue⟩ := by
  have there : Parse.decode twofold = .ok twofoldTree := rfl
  have once : twofoldTree.Distinct := by
    simp [twofoldTree, Parse.Distinct, Parse.membersDistinct, Parse.itemsDistinct]
  have written : Json.decode twofold = .ok (.object
      [("level", .object [("WARN", .null)]), ("logger", .null), ("text", .string "é"),
        ("timestamp_millis", .natural 18446744073709551615), ("type", .string "LoggableEvent"),
        ("value", twofoldValue)]) := rfl
  obtain ⟨event, carried⟩ := text_agrees_with_value there once written
  exact ⟨⟨there, once⟩, (event _).mpr rfl, (carried _).mpr rfl⟩

end EventRelay
