import EventRelay.Provider
import EventRelay.Mqtt.Poll
import EventRelay.Relay.Basic
import EventRelay.Proofs.Message.Envelope

namespace EventRelay

open Json

theorem Json.Slots.putMembers_append (fields : List Field) (earlier later : List (String × Json))
    (slots : Slots fields) :
    putMembers fields (earlier ++ later) slots =
      (putMembers fields earlier slots >>= putMembers fields later) := by
  induction earlier generalizing slots with
  | nil => rfl
  | cons member earlier ih =>
    simp only [List.cons_append, putMembers, ih, bind_assoc]

theorem Json.Decoder.ofJson_natural (n : UInt64) :
    (unsigned "u64" (1 <<< 64 - 1)).optional.ofJson (natural n) = .ok (some n.toNat) := by
  have fits : n.toNat ≤ 1 <<< 64 - 1 := Nat.le_of_lt_succ n.toNat_lt
  simp only [optional, natural, unsigned, unsignedOfNumber, if_pos fits]
  rfl

namespace Event

def known (text : Option String) (level : Option Level) (logger thread : Option (Option String))
    (timestamp : Option (Option Nat)) : Slots fields :=
  (text, level, logger, thread, timestamp, ())

theorem toJson_eq (event : Event) :
    event.toJson = .object
      ([("level", .string event.level.name)]
        ++ (event.logger.map fun s => ("logger", Json.string s)).toList
        ++ [("text", .string event.text)]
        ++ (event.thread.map fun s => ("thread", Json.string s)).toList
        ++ (event.timestampMillis.map fun n => ("timestamp_millis", Json.natural n)).toList) := by
  obtain ⟨text, level, logger, thread, timestamp⟩ := event
  cases logger <;> cases thread <;> cases timestamp <;>
    simp only [toJson, members, ofMembers, Option.map_none, Option.map_some, Option.toList_none,
      Option.toList_some, List.append_nil, List.cons_append, List.nil_append, List.foldl_cons,
      List.foldl_nil, Json.insert, String.reduceLT, String.reduceEq, if_true, if_false]

section Members

variable (text : String) (level : Level) (logger thread : Option String)

theorem putMembers_level :
    Slots.putMembers fields [("level", .string level.name)] (Slots.empty fields) =
      .ok (known none (some level) none none none) := by
  cases level <;> rfl

theorem putMembers_logger :
    Slots.putMembers fields (logger.map fun s => ("logger", Json.string s)).toList
        (known none (some level) none none none) =
      .ok (known none (some level) (logger.map some) none none) := by
  cases logger <;> rfl

theorem putMembers_text (logger : Option (Option String)) :
    Slots.putMembers fields [("text", .string text)] (known none (some level) logger none none) =
      .ok (known (some text) (some level) logger none none) := rfl

theorem putMembers_thread (logger : Option (Option String)) :
    Slots.putMembers fields (thread.map fun s => ("thread", Json.string s)).toList
        (known (some text) (some level) logger none none) =
      .ok (known (some text) (some level) logger (thread.map some) none) := by
  cases thread <;> rfl

theorem putMembers_timestamp (logger thread : Option (Option String)) (timestamp : Option UInt64) :
    Slots.putMembers fields (timestamp.map fun n => ("timestamp_millis", Json.natural n)).toList
        (known (some text) (some level) logger thread none) =
      .ok (known (some text) (some level) logger thread
        (timestamp.map fun n => some n.toNat)) := by
  cases timestamp with
  | none => rfl
  | some n =>
    have read := Decoder.ofJson_natural n
    simp only [Option.map_some, Option.toList_some, Slots.putMembers, Slots.putMember, known, fields,
      Field.required, Field.defaulted, String.reduceEq, if_true, if_false, read, ok_bind, pure_bind]

end Members

theorem values_known (event : Event) :
    (known (some event.text) (some event.level) (event.logger.map some) (event.thread.map some)
        (event.timestampMillis.map fun n => some n.toNat)).values =
      .ok (event.text, event.level, event.logger, event.thread,
        event.timestampMillis.map UInt64.toNat, ()) := by
  obtain ⟨text, level, logger, thread, timestamp⟩ := event
  cases logger <;> cases thread <;> cases timestamp <;> rfl

theorem ofValues_toNat (event : Event) :
    ofValues (event.text, event.level, event.logger, event.thread,
      event.timestampMillis.map UInt64.toNat, ()) = event := by
  obtain ⟨text, level, logger, thread, timestamp⟩ := event
  have back : (timestamp.map UInt64.toNat).map Nat.toUInt64 = timestamp := by
    cases timestamp <;> simp
  simp only [ofValues, back]

theorem ofJson_toJson (event : Event) : decoder.ofJson event.toJson = .ok event := by
  rw [toJson_eq]
  simp only [decoder, Shape.decoder, Shape.ofJson]
  rw [Slots.putMembers_append, Slots.putMembers_append, Slots.putMembers_append,
    Slots.putMembers_append, putMembers_level event.level, ok_bind, putMembers_logger, ok_bind,
    putMembers_text, ok_bind, putMembers_thread, ok_bind, putMembers_timestamp, ok_bind, values_known]
  exact congrArg Except.ok (ofValues_toNat event)

theorem members_flat (event : Event) :
    ∀ member ∈ event.members,
      member.2.Ordered ∧ member.2.integral = true ∧ member.2.depth = 0 := by
  obtain ⟨text, level, logger, thread, timestamp⟩ := event
  intro member among
  simp only [members, List.mem_append, List.mem_cons, List.not_mem_nil, or_false, Option.mem_toList,
    Option.map_eq_some_iff] at among
  rcases among with (((rfl | rfl) | ⟨_, _, rfl⟩) | ⟨_, _, rfl⟩) | ⟨_, _, rfl⟩
  all_goals exact ⟨trivial, rfl, rfl⟩

end Event

namespace CarriedObject

theorem toJson_eq (carried : CarriedObject) :
    carried.toJson = .object [("type", .string carried.typeName), ("value", carried.value)] := by
  simp only [toJson, members, ofMembers, List.foldl_cons, List.foldl_nil, Json.insert,
    String.reduceLT, String.reduceEq, if_false]

theorem ofJson_toJson (carried : CarriedObject) : decoder.ofJson carried.toJson = .ok carried := by
  rw [toJson_eq]
  rfl

theorem event?_ofEvent (event : Event) : (ofEvent event).event? = .ok (some event) := by
  have named : (ofEvent event).typeName = Event.typeName := rfl
  have value : (ofEvent event).value = event.toJson := rfl
  rw [event?, if_pos named, value, Event.ofJson_toJson]
  rfl

theorem toJson_ofEvent (event : Event) :
    (ofEvent event).toJson.Ordered ∧ (ofEvent event).toJson.integral = true ∧
      (ofEvent event).toJson.depth ≤ 2 := by
  have flat := event.members_flat
  have ordered : event.toJson.Ordered := ordered_ofMembers fun member among => (flat member among).1
  have integral : event.toJson.integral = true :=
    integral_ofMembers fun member among => (flat member among).2.1
  have shallow : event.toJson.depth ≤ 1 :=
    depth_ofMembers_le fun member among => Nat.le_of_eq (flat member among).2.2
  refine ⟨ordered_ofMembers ?_, integral_ofMembers ?_, depth_ofMembers_le ?_⟩
  · simp only [members, List.forall_mem_cons]
    exact ⟨trivial, ordered, fun _ none => absurd none List.not_mem_nil⟩
  · simp only [members, List.forall_mem_cons]
    exact ⟨rfl, integral, fun _ none => absurd none List.not_mem_nil⟩
  · simp only [members, List.forall_mem_cons]
    exact ⟨Nat.zero_le 1, shallow, fun _ none => absurd none List.not_mem_nil⟩

end CarriedObject

namespace Message

theorem decode_ofEvent (event : Event) : decode (ofEvent event).encode = .ok (ofEvent event) := by
  obtain ⟨ordered, integral, shallow⟩ := CarriedObject.toJson_ofEvent event
  have inside : (ofEvent event).body.depth + 1 ≤ maxDepth :=
    Nat.le_trans (Nat.succ_le_succ shallow) (by decide)
  rw [decode_encode (reads ordered integral), bounded_of_le inside]

theorem carried_ofEvent (event : Event) : (ofEvent event).carried = .ok (.ofEvent event) := by
  have object : (ofEvent event).kind = .object := rfl
  have body : (ofEvent event).body = (CarriedObject.ofEvent event).toJson := rfl
  rw [carried, if_pos object, body, CarriedObject.ofJson_toJson]
  rfl

theorem event_ofEvent (event : Event) : (CarriedObject.ofEvent event).event = .ok (some event) := by
  rw [CarriedObject.event, CarriedObject.event?_ofEvent]
  rfl

theorem effect_ofEvent (event : Event) : (ofEvent event).effect = .accept event := by
  have object : (ofEvent event).kind = .object := rfl
  rw [effect, if_neg (not_not_intro object)]
  simp only [carried_ofEvent, event_ofEvent]

end Message

/-- Whatever an event holds, the payload made of it is read as the message that carries the event, and a
    listener hands that event to its sink, once, and does nothing else. -/
theorem event_arrives_as_sent (event : Event) (topic : String) {relay : Relay} {i : Nat}
    {listener : Listener} (there : relay.listeners[i]? = some listener) :
    let message := Mqtt.decodePayload topic (Mqtt.encodeEvent event)
    message.kind = .object ∧ Mqtt.payloadRecord? topic (Mqtt.encodeEvent event) = none ∧
      (∃ carried, message.carried = .ok carried ∧ carried.event = .ok (some event)) ∧
      message.effect = .accept event ∧
      relay.dispatch i message = relay.accept listener.sink event ∧
      ∀ label, listener.sink = .record label →
        (relay.dispatch i message).history = .accepted label event :: relay.history := by
  intro message
  have decoded := Message.decode_ofEvent event
  have same : message = .ofEvent event := by
    simp only [message, Mqtt.decodePayload, Mqtt.encodeEvent, decoded]
  have effect : message.effect = .accept event := same ▸ Message.effect_ofEvent event
  have dispatched : relay.dispatch i message = relay.accept listener.sink event := by
    simp only [Relay.dispatch, there, effect]
  refine ⟨by rw [same]; rfl, ?_, ⟨.ofEvent event, ?_, ?_⟩, effect, dispatched, ?_⟩
  · simp only [Mqtt.payloadRecord?, Mqtt.encodeEvent, decoded]
  · rw [same, Message.carried_ofEvent]
  · exact Message.event_ofEvent event
  · intro label records
    rw [dispatched, records]
    rfl

def recording : Relay where
  logger := ⟨none, fun _ _ => false, fun _ => true⟩
  reach _ := .failed Mqtt.unreachable
  listeners := [{
    config := ⟨"audit", "broker", "events", none, none⟩
    handle := 0
    sink := .record "events"
    diagnostics := some "diagnostics" }]

theorem event_arrives_as_sent_recorded :
    let event : Event :=
      ⟨"\"\\\u0001\n\u001f\u007fé\u2028😀", .error, some "", some "null", some 18446744073709551615⟩
    let message := Mqtt.decodePayload "logs/#" (Mqtt.encodeEvent event)
    (∃ listener, recording.listeners[0]? = some listener ∧ listener.sink = .record "events") ∧
      message.kind = .object ∧ message.effect = .accept event ∧
      (recording.dispatch 0 message).history = [.accepted "events" event] := by
  intro event message
  obtain ⟨listener, there, sink⟩ : ∃ listener, recording.listeners[0]? = some listener ∧
      listener.sink = .record "events" := ⟨_, rfl, rfl⟩
  obtain ⟨kind, _, _, effect, _, recorded⟩ := event_arrives_as_sent event "logs/#" there
  exact ⟨⟨listener, there, sink⟩, kind, effect, recorded "events" sink⟩

end EventRelay
