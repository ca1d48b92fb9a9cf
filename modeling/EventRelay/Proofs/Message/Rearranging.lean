import EventRelay.Proofs.Json.Rearranging
import EventRelay.Proofs.Message.Handling

namespace EventRelay

open Json

namespace Json.Parse

def Readable (levels : Nat) (tree : Parse) : Prop := (tree.value levels).isSome

theorem Readable.means {levels : Nat} {tree : Parse} (readable : tree.Readable levels) :
    ∃ x, tree.Means levels x := Option.isSome_iff_exists.mp readable

end Json.Parse

variable {old new : Parse} {x : Json}

namespace Event

/-- An event as it was, or with its members rearranged. -/
inductive Alike : Parse → Parse → Prop
  | same (tree : Parse) : Alike tree tree
  | object {members others : List (Option String × Parse)}
      (rearranged : Rearranged (fields.map Field.name) (fun _ => Eq) (Parse.Readable 124) members others) :
      Alike (.object members) (.object others)

theorem Alike.means (alike : Alike old new) (means : old.Means 125 x) :
    ∃ y, new.Means 125 y ∧ ∀ event : Event, event.HasForm x → event.HasForm y := by
  cases alike with
  | same => exact ⟨x, means, fun _ => id⟩
  | object rearranged =>
    have carries : ∀ (_ : String) (tree other : Parse) (x : Json), tree = other → tree.Means 124 x →
        ∃ y, other.Means 124 y ∧ x = y := fun _ _ _ x same means => ⟨x, same ▸ means, rfl⟩
    obtain ⟨y, meansToo, still⟩ := rearranged.means carries (fun _ => Parse.Readable.means) means
    refine ⟨y, meansToo, fun event => still event.forms fun entry among => ⟨?_, fun x y same => same ▸ id⟩⟩
    have names : event.forms.map Entry.name = fields.map Field.name := rfl
    exact names ▸ List.mem_map_of_mem among

def carriedForms (event : Event) : List Entry :=
  [.required "type" (· = .string typeName), .required "value" event.HasForm]

theorem carriedForms_of_carried {event : Event} {carried : CarriedObject} (form : carried.HasForm x)
    (tagged : carried.typeName = typeName) (holds : event.HasForm carried.value) :
    IsRecord event.carriedForms x := by
  have present : carried.value ≠ .null := by
    intro absent
    rw [absent] at holds
    exact holds
  refine form.mono (.cons ⟨rfl, ?_, id, id⟩ (.cons ⟨rfl, ?_, present, present⟩ .nil))
  · rintro _ rfl
    exact congrArg Json.string tagged
  · rintro _ rfl
    exact holds

theorem carried_of_carriedForms {event : Event} (form : IsRecord event.carriedForms x) :
    ∃ carried : CarriedObject, carried.HasForm x ∧ carried.typeName = typeName ∧
      event.HasForm carried.value := by
  cases x with
  | object members =>
    obtain ⟨type, value⟩ := List.forall_mem_cons.mp form
    rcases List.forall_mem_singleton.mp value with ⟨v, found, holds⟩ | ⟨_, ⟨⟩⟩
    refine ⟨⟨typeName, v⟩, List.forall_mem_cons.mpr ⟨type, ?_⟩, rfl, holds⟩
    exact List.forall_mem_singleton.mpr (.inl ⟨v, found, rfl⟩)
  | array items =>
    match items, form with
    | [], form => exact absurd form.1 id
    | [_], form => exact absurd form.2.1 id
    | [_, v], ⟨type, holds, _⟩ => exact ⟨⟨typeName, v⟩, ⟨type, rfl, rfl⟩, rfl, holds⟩
    | _ :: _ :: _ :: _, ⟨_, _, ended⟩ => cases ended
  | _ => cases form

end Event

namespace CarriedObject

/-- A carried object as it was, or with its members rearranged, the event inside likewise. -/
inductive Alike : Parse → Parse → Prop
  | same (tree : Parse) : Alike tree tree
  | list (type : Parse) {value other : Parse} (inside : Event.Alike value other) :
      Alike (.array [type, value]) (.array [type, other])
  | object {members others : List (Option String × Parse)}
      (rearranged : Rearranged (fields.map Field.name)
        (fun name => if name = "value" then Event.Alike else Eq) (Parse.Readable 125) members others) :
      Alike (.object members) (.object others)

def Like (name : String) (x y : Json) : Prop :=
  if name = "value" then ∀ event : Event, event.HasForm x → event.HasForm y else x = y

theorem Alike.means (alike : Alike old new) (means : old.Means 126 x) :
    ∃ y, new.Means 126 y ∧
      ∀ event : Event, IsRecord event.carriedForms x → IsRecord event.carriedForms y := by
  cases alike with
  | same => exact ⟨x, means, fun _ => id⟩
  | list type inside =>
    obtain ⟨_, values, same, pairs, rfl⟩ := Parse.means_array.mp means
    cases same
    obtain ⟨t, _, typed, rest, rfl⟩ := List.forall₂_cons_left_iff.mp pairs
    obtain ⟨v, _, held, last, rfl⟩ := List.forall₂_cons_left_iff.mp rest
    cases last
    obtain ⟨w, heldToo, still⟩ := inside.means held
    refine ⟨.array [t, w], Parse.means_array.mpr ⟨125, _, rfl, .cons typed (.cons heldToo .nil), rfl⟩, ?_⟩
    rintro event ⟨type, holds, ended⟩
    exact ⟨type, still event holds, ended⟩
  | object rearranged =>
    have carries : ∀ (name : String) (tree other : Parse) (x : Json),
        (if name = "value" then Event.Alike else Eq) tree other → tree.Means 125 x →
        ∃ y, other.Means 125 y ∧ Like name x y := by
      intro name tree other x alike means
      by_cases named : name = "value"
      · simp only [Like, if_pos named] at alike ⊢
        exact alike.means means
      · simp only [Like, if_neg named] at alike ⊢
        exact ⟨x, alike ▸ means, rfl⟩
    obtain ⟨y, meansToo, still⟩ := rearranged.means carries (fun _ => Parse.Readable.means) means
    refine ⟨y, meansToo, fun event => still event.carriedForms ?_⟩
    have type : "type" ∈ fields.map Field.name := by decide
    have value : "value" ∈ fields.map Field.name := by decide
    refine List.forall_mem_cons.mpr ⟨⟨type, ?_⟩, List.forall_mem_singleton.mpr ⟨value, ?_⟩⟩
    · intro x y same
      obtain rfl : x = y := same
      exact id
    · exact fun x y still => still event

end CarriedObject

namespace Message

/-- The members of a message rearranged, and those of what it carries. Of members that are added it is only
    asked that they can be passed over. -/
def Alike (old new : List (Option String × Parse)) : Prop :=
  Rearranged (fields.map Field.name) (fun name => if name = "body" then CarriedObject.Alike else Eq)
    (fun _ => True) old new

def Like (name : String) (x y : Json) : Prop :=
  if name = "body" then
    ∀ event : Event, IsRecord event.carriedForms x → IsRecord event.carriedForms y
  else x = y

def values (message : Message) : Values fields := (message.kind, message.type, message.body, ())

abbrev Fits : String → Parse → Json → Prop := Json.Fits (fields.map Field.name) ["kind"] 126

theorem follow : Follow ["kind"] fields := by
  have string := Decoder.follows_string
  have optional := Decoder.follows_optional string
  have body := Decoder.follows_json
  simp only [Follow, fields, List.forall_mem_cons]
  exact ⟨MessageKind.follows.of_iff (by decide), optional.of_iff (by decide), body.of_iff (by decide),
    fun _ none => absurd none List.not_mem_nil⟩

theorem decode_object_iff {payload : Octets} {members : List (Option String × Parse)}
    (there : Parse.decode payload = .ok (.object members)) {message : Message} :
    decode payload = .ok message ↔ ∃ known, List.Forall₂ (Parse.Matches Fits) members known ∧
      ∀ entry ∈ entries fields message.values, entry.InObject known := by
  have read := @Decoder.decode_iff payload _ decoder _ message
    (shape.decoder_goesBy (by decide) follow maxDepth)
  rw [decode, read]
  constructor
  · rintro ⟨tree, thereToo, ⟨kind, type, body, ⟨⟩⟩, form, rfl⟩
    cases there.symm.trans thereToo
    exact form
  · intro form
    exact ⟨_, there, message.values, form, rfl⟩

theorem carries (name : String) (tree other : Parse) (x : Json)
    (alike : (if name = "body" then CarriedObject.Alike else Eq) tree other) (fit : Fits name tree x) :
    ∃ y, Fits name other y ∧ Like name x y := by
  by_cases named : name = "body"
  · subst named
    have among : "body" ∈ fields.map Field.name := by decide
    have calm : "body" ∉ ["kind"] := by decide
    simp only [Like, if_true] at alike ⊢
    obtain ⟨y, means, still⟩ := alike.means (fit among).2
    exact ⟨y, fun _ => ⟨fun wary => absurd wary calm, means⟩, still⟩
  · simp only [Like, if_neg named] at alike ⊢
    exact ⟨x, alike ▸ fit, rfl⟩

section Keeps

variable {known others : List (String × Json)}

theorem inObject_of_keeps (keeps : Keeps (fields.map Field.name) Like known others) {entry : Entry}
    (named : entry.name = "kind" ∨ entry.name = "type") (inside : entry.InObject known) :
    entry.InObject others := by
  have among : entry.name ∈ fields.map Field.name ∧ entry.name ≠ "body" := by
    rcases named with same | same <;> rw [same] <;> decide
  refine keeps.inObject among.1 (fun x y like => ?_) inside
  rw [Like, if_neg among.2] at like
  exact like ▸ id

theorem body_of_keeps (keeps : Keeps (fields.map Field.name) Like known others) {body : Json}
    {event : Event} (held : ((Field.defaulted "body" .json .null).entry body).InObject known)
    (carried : IsRecord event.carriedForms body) :
    ∃ other, ("body", other) ∈ others ∧ IsRecord event.carriedForms other := by
  rcases held with ⟨x, found, same⟩ | ⟨_, missing⟩
  · obtain rfl : x = body := Except.ok.inj same
    obtain ⟨other, there, still⟩ := keeps.kept "body" (by decide) x (mem_of_under found)
    exact ⟨other, there, still event carried⟩
  · obtain rfl : .null = body := Option.some.inj missing
    exact absurd carried id

end Keeps

end Message

/-- A message that carries an event carries the same one, with the same kind and type, if its members are put
    in another order, members of unknown names are left out and added, and so are those of the carried
    object and of the event in it. -/
theorem rearranged_message_bears_same_event {payload other : Octets}
    {old new : List (Option String × Parse)} {message : Message} {event : Event}
    (there : Parse.decode payload = .ok (.object old)) (thereToo : Parse.decode other = .ok (.object new))
    (alike : Message.Alike old new) (read : Message.decode payload = .ok message)
    (accepted : message.effect = .accept event) :
    ∃ again, Message.decode other = .ok again ∧ again.kind = message.kind ∧
      again.type = message.type ∧ again.effect = .accept event := by
  obtain ⟨known, pairs, inside⟩ := (Message.decode_object_iff there).mp read
  obtain ⟨carried, ⟨object, form⟩, tagged, holds⟩ := (message.effect_iff.1 event).mp accepted
  have fresh : ∀ name (tree : Parse), name ∉ Message.fields.map Field.name → True →
      ∃ y, Message.Fits name tree y := fun _ _ unknown _ => ⟨.null, fun named => absurd named unknown⟩
  obtain ⟨others, pairsToo, keeps⟩ := alike.keeps Message.carries fresh pairs
  obtain ⟨kind, inside⟩ := List.forall_mem_cons.mp inside
  obtain ⟨type, inside⟩ := List.forall_mem_cons.mp inside
  obtain ⟨body, _⟩ := List.forall_mem_cons.mp inside
  have kindStill := Message.inObject_of_keeps keeps (.inl rfl) kind
  have typeStill := Message.inObject_of_keeps keeps (.inr rfl) type
  obtain ⟨bodyToo, held, bears⟩ := Message.body_of_keeps keeps body
    (Event.carriedForms_of_carried form tagged holds)
  obtain ⟨carriedToo, formToo, taggedToo, holdsToo⟩ := Event.carried_of_carriedForms bears
  refine ⟨⟨message.kind, message.type, bodyToo⟩, (Message.decode_object_iff thereToo).mpr
    ⟨others, pairsToo, ?_⟩, rfl, rfl,
    Message.effect_of_bears ⟨carriedToo, ⟨object, formToo⟩, taggedToo, holdsToo⟩⟩
  refine List.forall_mem_cons.mpr ⟨kindStill, List.forall_mem_cons.mpr ⟨typeStill, ?_⟩⟩
  exact List.forall_mem_singleton.mpr (.inl ⟨bodyToo, under_of_mem keeps.onceStill held, rfl⟩)

namespace Resent

def sent : Octets :=
  octets ("\x7b\"kind\":\"object\",\"type\":\"app\",\"body\":\x7b\"type\":\"LoggableEvent\",\"value\":"
    ++ "\x7b\"text\":\"disk full\",\"level\":\x7b\"WARN\":null\x7d,\"host\":\"a\"\x7d,\"v\":1\x7d\x7d")

def resent : Octets :=
  octets ("\x7b\"seq\":[7,\x7b\"id\":1e999\x7d],\"body\":\x7b\"trace\":false,\"value\":\x7b\"zone\":[],"
    ++ "\"level\":\x7b\"WARN\":null\x7d,\"text\":\"disk full\"\x7d,\"type\":\"LoggableEvent\"\x7d,"
    ++ "\"type\":\"app\",\"kind\":\"object\"\x7d")

def level : Parse := .object [(some "WARN", .null)]

def event : List (Option String × Parse) :=
  [(some "text", .string (some "disk full")), (some "level", level), (some "host", .string (some "a"))]

def eventToo : List (Option String × Parse) :=
  [(some "zone", .array []), (some "level", level), (some "text", .string (some "disk full"))]

def carried : List (Option String × Parse) :=
  [(some "type", .string (some "LoggableEvent")), (some "value", .object event),
    (some "v", .number (some (.natural 1)))]

def carriedToo : List (Option String × Parse) :=
  [(some "trace", .bool false), (some "value", .object eventToo),
    (some "type", .string (some "LoggableEvent"))]

def envelope : List (Option String × Parse) :=
  [(some "kind", .string (some "object")), (some "type", .string (some "app")),
    (some "body", .object carried)]

def envelopeToo : List (Option String × Parse) :=
  [(some "seq", .array [.number (some (.natural 7)), .object [(some "id", .number none)]]),
    (some "body", .object carriedToo), (some "type", .string (some "app")),
    (some "kind", .string (some "object"))]

theorem event_alike : Event.Alike (.object event) (.object eventToo) := by
  refine .object ⟨by decide, by decide, event.take 2, event.drop 2, event.take 2, eventToo.take 1,
    .refl _, List.reverse_perm [_, _, _], ?_, ?_, ?_⟩
  · exact .cons ⟨"text", rfl, rfl, rfl⟩ (.cons ⟨"level", rfl, rfl, rfl⟩ .nil)
  · exact List.forall_mem_singleton.mpr ⟨"host", by decide, rfl⟩
  · exact List.forall_mem_singleton.mpr ⟨⟨"zone", by decide, rfl⟩, rfl⟩

theorem carried_alike : CarriedObject.Alike (.object carried) (.object carriedToo) := by
  refine .object ⟨by decide, by decide, carried.take 2, carried.drop 2,
    (carriedToo.drop 1).reverse, carriedToo.take 1, .refl _, List.reverse_perm [_, _, _], ?_, ?_, ?_⟩
  · exact .cons ⟨"type", rfl, rfl, rfl⟩ (.cons ⟨"value", rfl, rfl, event_alike⟩ .nil)
  · exact List.forall_mem_singleton.mpr ⟨"v", by decide, rfl⟩
  · exact List.forall_mem_singleton.mpr ⟨⟨"trace", by decide, rfl⟩, rfl⟩

theorem envelope_alike : Message.Alike envelope envelopeToo := by
  refine ⟨by decide, by decide, envelope, [], (envelopeToo.drop 1).reverse, envelopeToo.take 1,
    .refl _, List.reverse_perm [_, _, _, _], ?_, ?_, ?_⟩
  · exact .cons ⟨"kind", rfl, rfl, rfl⟩ (.cons ⟨"type", rfl, rfl, rfl⟩
      (.cons ⟨"body", rfl, rfl, carried_alike⟩ .nil))
  · exact fun _ none => absurd none List.not_mem_nil
  · exact List.forall_mem_singleton.mpr ⟨⟨"seq", by decide, rfl⟩, trivial⟩

end Resent

set_option maxRecDepth 20000 in
theorem rearranged_message_bears_same_event_resent :
    let event : Event := ⟨"disk full", .warn, none, none, none⟩
    ∃ message again, Message.decode Resent.sent = .ok message ∧ message.type = some "app" ∧
      message.effect = .accept event ∧ Message.decode Resent.resent = .ok again ∧
      again.kind = message.kind ∧ again.type = message.type ∧ again.effect = .accept event := by
  intro event
  obtain ⟨message, read, type, accepted⟩ : ∃ message, Message.decode Resent.sent = .ok message ∧
      message.type = some "app" ∧ message.effect = .accept event := ⟨_, rfl, rfl, rfl⟩
  have there : Parse.decode Resent.sent = .ok (.object Resent.envelope) := rfl
  have thereToo : Parse.decode Resent.resent = .ok (.object Resent.envelopeToo) := rfl
  obtain ⟨again, readToo, same⟩ :=
    rearranged_message_bears_same_event there thereToo Resent.envelope_alike read accepted
  exact ⟨message, again, read, type, accepted, readToo, same⟩

end EventRelay
