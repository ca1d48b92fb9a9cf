import EventRelay.Proofs.Basic
import EventRelay.Proofs.Json.Wellformed
import EventRelay.Proofs.Message.Handling

namespace EventRelay

def Json.octet? : Json → Option UInt8
  | .number (.natural n) => if n.toNat < 256 then some n.toUInt8 else none
  | _ => none

theorem Json.octet?_natural (b : UInt8) : (natural b.toUInt64).octet? = some b := by
  have small : b.toUInt64.toNat < 256 := b.toNat_lt
  simp only [natural, octet?, if_pos small]
  simp

namespace Message

/-- The octets that a message holds, if it was made of octets. -/
def octets? (message : Message) : Option Octets :=
  match message.kind, message.body with
  | .bytes, .array items => items.mapM Json.octet?
  | _, _ => none

variable (payload : Octets) (topic : String)

theorem octets?_ofOctets : ((ofOctets payload).withType topic).octets? = some payload := by
  have items : (ofOctets payload).body = .array (payload.map fun b => .natural b.toUInt64) := rfl
  have kind : (ofOctets payload).kind = .bytes := rfl
  simp only [octets?, withType, items, kind]
  rw [mapM_eq_some_iff, List.forall₂_map_left_iff]
  exact List.forall₂_same.mpr fun b _ => Json.octet?_natural b

theorem decode_ofOctets :
    decode ((ofOctets payload).withType topic).encode = .ok ((ofOctets payload).withType topic) := by
  let items := payload.map fun b => Json.natural b.toUInt64
  have scalar : ∀ x ∈ items, x.Ordered ∧ x.integral = true ∧ x.depth = 0 := by
    intro x among
    obtain ⟨b, _, rfl⟩ := List.mem_map.mp among
    exact ⟨trivial, rfl, rfl⟩
  have within : Json.Within 1 (.array items) :=
    .array fun x among => ⟨(scalar x among).1, Nat.le_of_eq (scalar x among).2.2⟩
  have integral : (Json.array items).integral = true :=
    Json.itemsIntegral_iff.mpr fun x among => (scalar x among).2.1
  have inside : (Json.array items).depth + 1 ≤ Json.maxDepth :=
    Nat.le_trans (Nat.succ_le_succ within.shallow) (by decide)
  have read := @decode_encode ((ofOctets payload).withType topic) (Json.reads within.ordered integral)
  exact read.trans (Json.bounded_of_le inside _)

end Message

namespace Mqtt

def unhandledOctets (topic : String) : String :=
  "Received message of kind bytes and type " ++ topic ++ " which cannot be handled"

theorem decodePayload_of_decode {payload : Octets} {message : Message}
    (read : Message.decode payload = .ok message) (topic : String) :
    decodePayload topic payload = message := by
  simp only [decodePayload, read]

theorem decodePayload_of_error {payload : Octets} {fault : Json.Fault}
    (rejected : Message.decode payload = .error fault) (topic : String) :
    decodePayload topic payload = (Message.ofOctets payload).withType topic := by
  simp only [decodePayload, rejected]

theorem effect_ofOctets (payload : Octets) (topic : String) :
    ((Message.ofOctets payload).withType topic).effect =
      .diagnose (.warning (unhandledOctets topic)) := by
  have other : ((Message.ofOctets payload).withType topic).kind ≠ .object := nofun
  have text : ((Message.ofOctets payload).withType topic).unhandled = unhandledOctets topic := rfl
  rw [Message.effect, if_pos other, text]

/-- A payload that is no message becomes one of its octets under the topic, from which they can be taken
    again. That message comes back from what is written of it, under whatever topic, and all that a
    listener makes of it is one warning; its sink has no part in that. A payload that is a message is
    taken for it, under whatever topic. -/
theorem payload_is_message_or_kept (payload : Octets) (topic : String) :
    (∀ message, Message.decode payload = .ok message → decodePayload topic payload = message) ∧
    ∀ fault, Message.decode payload = .error fault →
      let message := decodePayload topic payload
      (message.kind = .bytes ∧ message.type = some topic ∧
        message.body = .array (payload.map fun b => .number (.natural b.toUInt64))) ∧
      (Message.decode message.encode = .ok message ∧
        ∀ other, decodePayload other message.encode = message) ∧
      message.octets? = some payload ∧
      ∀ (relay : Relay) (i : Nat) (listener : Listener), relay.listeners[i]? = some listener →
        relay.dispatch i message = relay.showing
          (match listener.diagnostics with
          | some label => [.diagnosed label (.warning (unhandledOctets topic))]
          | none => (relay.logger.write ⟨.warn, Diagnostic.target,
              "[" ++ listener.config.id ++ "] " ++ unhandledOctets topic⟩).map .logged) := by
  refine ⟨fun message read => decodePayload_of_decode read topic, fun fault rejected => ?_⟩
  have kept := decodePayload_of_error rejected topic
  have back := Message.decode_ofOctets payload topic
  intro message
  simp only [message, kept]
  refine ⟨⟨rfl, rfl, rfl⟩, ⟨back, decodePayload_of_decode back⟩,
    Message.octets?_ofOctets payload topic, ?_⟩
  intro relay i listener there
  rw [Relay.dispatch_eq there, effect_ofOctets]
  rfl

/-- An envelope that is cut short, and what is no UTF-8. -/
theorem payload_is_message_or_kept_cut :
    let payload : Octets := octets "\x7b\"kind\":\"object\",\"body\":" ++ [0xff, 0x00]
    let message := decodePayload "logs/a" payload
    Message.decode payload = .error .expectedValue ∧
      message.octets? = some payload ∧ Message.decode message.encode = .ok message ∧
      (recording.dispatch 0 message).history =
        [.diagnosed "diagnostics"
          (.warning "Received message of kind bytes and type logs/a which cannot be handled")] := by
  intro payload message
  have rejected : Message.decode payload = .error .expectedValue := rfl
  obtain ⟨_, kept⟩ := payload_is_message_or_kept payload "logs/a"
  obtain ⟨_, ⟨back, _⟩, whole, dispatched⟩ := kept _ rejected
  refine ⟨rejected, whole, back, ?_⟩
  rw [dispatched recording 0 _ rfl]
  rfl

end Mqtt

end EventRelay
