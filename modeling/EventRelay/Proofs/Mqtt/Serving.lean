import EventRelay.Proofs.Basic
import EventRelay.Proofs.Mqtt.Steps

namespace EventRelay.Mqtt

variable {Listener : Type}

namespace Subscription

variable {s : Subscription}

theorem release_of_others (others : 1 < s.receivers) :
    s.release = ({ s with receivers := s.receivers - 1 }, .ok false) :=
  if_pos (show s.receivers - 1 > 0 by omega)

theorem release_of_room (last : s.receivers = 1) (room : s.requests.hasRoom = true) :
    s.release =
      ({ s with receivers := 0, requests := s.requests.append (.unsubscribe s.topic) }, .ok true) := by
  simp [release, last, RequestQueue.push?_of_hasRoom room]

theorem release_of_full (last : s.receivers = 1) (full : s.requests.hasRoom = false) :
    s.release = ({ s with receivers := 0 }, .error (.close RequestQueue.refusal)) := by
  simp [release, last, RequestQueue.push?_of_full full]

theorem receivers_release (s : Subscription) : s.release.1.receivers = s.receivers - 1 := by
  simp only [release]
  split
  · rfl
  · split <;> rfl

end Subscription

namespace Feed

variable {feed : Feed Listener} {receiver : Nat}

theorem openReceiver_counts (feed : Feed Listener) :
    (∃ requests, feed.openReceiver =
      ({ feed with
          subscription := { feed.subscription with
            receivers := feed.subscription.receivers + 1, requests }
          created := feed.created + 1 },
        .ok feed.created)) ∨
    ∃ e, feed.openReceiver = (feed, .error e) := by
  rcases feed.subscription.acquire_cases with ⟨_, same⟩ | ⟨nobody, same⟩ | ⟨e, same⟩
  · exact .inl ⟨feed.subscription.requests, by simp only [openReceiver, same, addReceiver]⟩
  · refine .inl ⟨feed.subscription.requests.append (.subscribe feed.subscription.topic), ?_⟩
    simp only [openReceiver, same, addReceiver, nobody]
  · exact .inr ⟨e, by simp only [openReceiver, same]⟩

theorem closeReceiver_again (closed : receiver ∈ feed.closed) :
    feed.closeReceiver receiver = (feed, [], .ok ()) := by
  simp [closeReceiver, closed]

theorem closeReceiver_feed (first : receiver ∉ feed.closed) :
    (feed.closeReceiver receiver).1 =
      { feed with
        subscription := feed.subscription.release.1
        closed := receiver :: feed.closed
        listeners := feed.listeners.filter (·.1 ≠ receiver) } := by
  simp only [closeReceiver, List.contains_iff_mem, first, if_false]
  split <;> rfl

theorem closeReceiver_result (first : receiver ∉ feed.closed) :
    (feed.closeReceiver receiver).2.2 = feed.subscription.release.2.map fun _ => () := by
  simp only [closeReceiver, List.contains_iff_mem, first, if_false]
  split
  · rename_i same
    rw [same]
    rfl
  · rename_i same
    rw [same]
    rfl

/-- An UNSUBSCRIBE is attempted: it is queued, or there is no room for it. -/
def Unsubscribes (found left : Feed Listener) (result : Except ProviderError Unit) : Prop :=
  if found.subscription.requests.hasRoom then
    left.subscription.requests =
        found.subscription.requests.append (.unsubscribe found.subscription.topic) ∧
      result = .ok ()
  else
    left.subscription.requests = found.subscription.requests ∧
      result = .error (.close RequestQueue.refusal)

theorem closeReceiver_of_others (first : receiver ∉ feed.closed)
    (others : 1 < feed.subscription.receivers) :
    (feed.closeReceiver receiver).1.subscription.requests = feed.subscription.requests ∧
      (feed.closeReceiver receiver).2.2 = .ok () := by
  rw [closeReceiver_feed first, closeReceiver_result first, Subscription.release_of_others others]
  exact ⟨rfl, rfl⟩

theorem closeReceiver_of_last (first : receiver ∉ feed.closed)
    (last : feed.subscription.receivers = 1) :
    Unsubscribes feed (feed.closeReceiver receiver).1 (feed.closeReceiver receiver).2.2 := by
  rw [closeReceiver_feed first, closeReceiver_result first]
  unfold Unsubscribes
  split
  · rename_i room
    rw [Subscription.release_of_room last room]
    exact ⟨rfl, rfl⟩
  · rename_i full
    rw [Subscription.release_of_full last (eq_false_of_ne_true full)]
    exact ⟨rfl, rfl⟩

end Feed

namespace Connection

def Call.receiver? : Call → Option Nat
  | .create (.done (.ok receiver)) => some receiver
  | _ => none

namespace Move

def receiver? : Move Listener → Option Nat
  | .setListener receiver _ | .closeReceiver receiver => some receiver
  | _ => none

def closes (receiver : Nat) : Move Listener → Bool
  | .closeReceiver other => other = receiver
  | _ => false

end Move

structure Spares (found left : Connection Listener) : Prop where
  feed : ∃ requests,
    left.feed = { found.feed with subscription := { found.feed.subscription with requests } }
  subscribed : ∀ topic, Deed.requested (.unsubscribe topic) ∉ found.requested left

namespace Spares

variable {found left : Connection Listener}

theorem of_feed (same : left.feed = found.feed) : found.Spares left where
  feed := ⟨found.requests, same⟩
  subscribed := by
    intro topic
    rw [requested_of_same (by rw [requests, requests, same])]
    simp

theorem of_waiting_le {requests : RequestQueue}
    (feed : left.feed = { found.feed with subscription := { found.feed.subscription with requests } })
    (shorter : requests.waiting.length ≤ found.requests.waiting.length) : found.Spares left where
  feed := ⟨requests, feed⟩
  subscribed := by
    intro topic
    rw [requested_of_waiting_le (by rw [Connection.requests, feed]; exact shorter)]
    simp

theorem of_append {request : Request}
    (feed : left.feed = { found.feed with
      subscription := { found.feed.subscription with requests := found.requests.append request } })
    (other : ∀ topic, request ≠ .unsubscribe topic) : found.Spares left where
  feed := ⟨_, feed⟩
  subscribed := by
    intro topic member
    rw [requested_of_append request (by rw [requests, feed])] at member
    simp only [List.mem_singleton, Deed.requested.injEq] at member
    exact other topic member.symm

theorem shutDown (found : Connection Listener) : found.Spares found.shutDown.1 := by
  rcases found.shutDown_cases with same | ⟨_, ended⟩
  · exact of_feed (by rw [same])
  · exact of_waiting_le (by rw [ended]; rfl) (Nat.zero_le _)

theorem create {point : Create} (other : point ≠ .subscribe) :
    found.Spares (found.create point).1 := by
  apply of_feed
  cases point with
  | subscribe => exact absurd rfl other
  | queued ticket =>
    simp only [Connection.create]
    split
    · split <;> rfl
    · rfl
  | _ => rfl

theorem close (found : Connection Listener) (point : Close) :
    found.Spares (found.close point).1 := by
  cases point with
  | queued ticket =>
    simp only [Connection.close]
    split
    · split
      · exact of_feed rfl
      · exact of_waiting_le rfl (Nat.zero_le _)
      · exact of_feed rfl
    · exact of_feed rfl
  | disconnect =>
    simp only [Connection.close]
    split
    · cases room : found.requests.hasRoom with
      | false =>
        have full := RequestQueue.push?_of_full room .disconnect
        rw [requests] at full
        rw [full]
        exact of_feed rfl
      | true =>
        have pushed := RequestQueue.push?_of_hasRoom room .disconnect
        rw [requests] at pushed
        rw [pushed]
        exact of_append rfl (by simp)
    · exact shutDown found
  | grace =>
    simp only [Connection.close]
    split <;> exact of_feed rfl
  | _ => exact of_feed rfl

theorem conclude (found : Connection Listener) (attempt : Attempt) :
    found.Spares (found.conclude attempt).1 := by
  apply of_feed
  simp only [Connection.conclude]
  split <;> rfl

theorem resubscribed (found : Connection Listener) :
    found.Spares (found.inFeed
      { found.feed with subscription := found.feed.subscription.resubscribe.1 }) := by
  rcases found.feed.subscription.resubscribe_cases with
    ⟨_, same⟩ | ⟨_, record, same, _⟩ | ⟨_, _, record, same, _⟩
  · exact of_feed (by rw [same]; rfl)
  · exact of_append (by rw [same]; rfl) (by simp)
  · exact of_feed (by rw [same]; rfl)

theorem poll (found : Connection Listener) (polled : Polled) :
    found.Spares (found.poll polled).1 := by
  unfold Connection.poll
  split
  · cases polled with
    | connected sessionPresent =>
      cases sessionPresent with
      | true => exact of_feed rfl
      | false => exact resubscribed found
    | disconnected => exact of_waiting_le rfl (Nat.zero_le _)
    | shutDown => exact shutDown found
    | _ => exact of_feed rfl
  · exact of_feed rfl

end Spares

namespace System

variable {system next : System Listener} {move : Move Listener}

def givenOut (system : System Listener) : List Nat := system.calls.filterMap Call.receiver?

inductive Serves (system : System Listener) : Move Listener → System Listener → Prop
  | spares {move : Move Listener} {next : System Listener} (other : move.receiver? = none)
      (kept : system.connection.Spares next.connection)
      (same : next.givenOut = system.givenOut) : Serves system move next
  | opens {i : Nat} (there : system.calls[i]? = some (.create .subscribe)) :
    Serves system (.go i) (system.going i (.create (.done system.connection.feed.openReceiver.2))
      (system.connection.requested
        (system.connection.inFeed system.connection.feed.openReceiver.1))
      (system.connection.inFeed system.connection.feed.openReceiver.1))
  | listens {receiver : Nat} (there : receiver < system.connection.feed.created)
      (listener : Listener) :
    Serves system (.setListener receiver listener) (system.elsewhere
      (system.connection.inFeed (system.connection.feed.setListener receiver listener)))
  | closes {receiver : Nat} (there : receiver < system.connection.feed.created) :
    Serves system (.closeReceiver receiver) (system.elsewhere
      (system.connection.inFeed (system.connection.feed.closeReceiver receiver).1))

section Serves

theorem givenOut_going {i : Nat} {call called : Call} {deeds : List Deed}
    {left : Connection Listener} (there : system.calls[i]? = some call)
    (same : called.receiver? = call.receiver?) :
    (system.going i called deeds left).givenOut = system.givenOut :=
  filterMap_set_same there same

theorem givenOut_going_new {i receiver : Nat} {call called : Call} {deeds : List Deed}
    {left : Connection Listener} (there : system.calls[i]? = some call)
    (before : call.receiver? = none) (after : called.receiver? = some receiver) :
    (system.going i called deeds left).givenOut.Perm (receiver :: system.givenOut) :=
  filterMap_set_new there before after

theorem givenOut_calling {call : Call} (new : call.receiver? = none) :
    (system.calling call).givenOut = system.givenOut := by
  simp only [givenOut, calling, List.filterMap_append, List.filterMap_cons, new, List.filterMap_nil,
    List.append_nil]

theorem receiver?_create (connection : Connection Listener) {point : Create}
    (other : point ≠ .subscribe) :
    (Call.create (connection.create point).2).receiver? = (Call.create point).receiver? := by
  cases point with
  | subscribe => exact absurd rfl other
  | queued ticket =>
    simp only [create]
    split
    · split <;> rfl
    · rfl
  | _ => rfl

theorem serves_go {i : Nat} {call : Call} (there : system.calls[i]? = some call) :
    system.Serves (.go i) (system.goStep i call) := by
  cases call with
  | close point => exact .spares rfl (.close _ point) (givenOut_going there rfl)
  | create point =>
    by_cases subscribes : point = .subscribe
    · subst subscribes
      exact .opens there
    · exact .spares rfl (.create subscribes) (givenOut_going there (receiver?_create _ subscribes))

theorem receiver?_conclude (connection : Connection Listener) (attempt : Attempt) :
    (Call.create (connection.conclude attempt).2.2).receiver? = none := by
  simp only [conclude]
  split <;> rfl

theorem serves_of_step (stepped : system.step move = some next) : system.Serves move next := by
  cases move with
  | create | close =>
    cases stepped
    exact .spares rfl (.of_feed rfl) (givenOut_calling rfl)
  | go i =>
    simp only [step, Option.map_eq_some_iff] at stepped
    obtain ⟨call, there, rfl⟩ := stepped
    exact serves_go there
  | conclude i attempt =>
    obtain ⟨t, there⟩ := connecting_of_conclude stepped
    simp only [step, there] at stepped
    cases stepped
    exact .spares rfl (.conclude _ attempt)
      (givenOut_going there (receiver?_conclude system.connection attempt))
  | expire i =>
    obtain ⟨there, rfl⟩ := of_step_expire stepped
    exact .spares rfl (.shutDown _) (givenOut_going there rfl)
  | poll polled =>
    cases stepped
    exact .spares rfl (.poll _ polled) rfl
  | take count =>
    obtain ⟨_, rfl⟩ := of_step_take stepped
    exact .spares rfl (.of_waiting_le rfl (by simp [RequestQueue.take])) rfl
  | await idle =>
    obtain ⟨_, rfl⟩ := of_step_await stepped
    exact .spares rfl (.of_waiting_le rfl (Nat.le_refl _)) rfl
  | setListener receiver listener =>
    obtain ⟨there, rfl⟩ := of_step_setListener stepped
    exact .listens there listener
  | closeReceiver receiver =>
    obtain ⟨there, rfl⟩ := of_step_closeReceiver stepped
    exact .closes there

end Serves

end System

end Connection

end EventRelay.Mqtt
