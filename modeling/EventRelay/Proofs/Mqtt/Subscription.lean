import Mathlib.Data.List.Basic
import EventRelay.Mqtt.Feed

namespace EventRelay.Mqtt

namespace RequestQueue

variable {queue : RequestQueue}

def append (queue : RequestQueue) (request : Request) : RequestQueue :=
  { queue with waiting := queue.waiting ++ [request] }

def added (before after : RequestQueue) : List Request := after.waiting.drop before.waiting.length

theorem added_self (queue : RequestQueue) : queue.added queue = [] := by simp [added]

theorem added_append (queue : RequestQueue) (request : Request) :
    queue.added (queue.append request) = [request] := by
  simp [added, append]

theorem push?_of_hasRoom (room : queue.hasRoom = true) (request : Request) :
    queue.push? request = some (queue.append request) := if_pos room

theorem push?_of_full (full : queue.hasRoom = false) (request : Request) :
    queue.push? request = none := by
  simp [push?, full]

theorem waiting_ne_nil_of_full (served : queue.served = true) (full : queue.hasRoom = false)
    (positive : 0 < queue.capacity) : queue.waiting ≠ [] := by
  intro nothing
  simp [hasRoom, served, nothing, positive] at full

end RequestQueue

namespace Subscription

theorem acquire_cases (s : Subscription) :
    (0 < s.receivers ∧ s.acquire = ({ s with receivers := s.receivers + 1 }, .ok ())) ∨
    (s.receivers = 0 ∧ s.acquire =
      ({ s with receivers := 1, requests := s.requests.append (.subscribe s.topic) }, .ok ())) ∨
    ∃ e, s.acquire = (s, .error e) := by
  by_cases first : s.receivers = 0
  · cases room : s.requests.hasRoom with
    | true =>
      refine .inr (.inl ⟨first, ?_⟩)
      simp only [acquire, first, if_true, RequestQueue.push?_of_hasRoom room]
    | false =>
      refine .inr (.inr ⟨.subscribe s.topic RequestQueue.refusal, ?_⟩)
      simp only [acquire, first, if_true, RequestQueue.push?_of_full room]
  · exact .inl ⟨Nat.pos_of_ne_zero first, if_neg first⟩

theorem release_cases (s : Subscription) :
    (1 < s.receivers ∧ s.release = ({ s with receivers := s.receivers - 1 }, .ok false)) ∨
    s.release =
      ({ s with receivers := 0, requests := s.requests.append (.unsubscribe s.topic) }, .ok true) ∨
    ∃ e, s.release = ({ s with receivers := 0 }, .error e) := by
  by_cases others : 1 < s.receivers
  · refine .inl ⟨others, ?_⟩
    exact if_pos (show s.receivers - 1 > 0 by omega)
  · have last : s.receivers - 1 = 0 := by omega
    cases room : s.requests.hasRoom with
    | true =>
      refine .inr (.inl ?_)
      simp only [release, last, Nat.lt_irrefl, gt_iff_lt, if_false, RequestQueue.push?_of_hasRoom room]
    | false =>
      refine .inr (.inr ⟨.close RequestQueue.refusal, ?_⟩)
      simp only [release, last, Nat.lt_irrefl, gt_iff_lt, if_false, RequestQueue.push?_of_full room]

theorem resubscribe_cases (s : Subscription) :
    (s.receivers = 0 ∧ s.resubscribe = (s, [])) ∨
    (0 < s.receivers ∧ ∃ record, s.resubscribe =
      ({ s with requests := s.requests.append (.subscribe s.topic) }, [record]) ∧
        record.level = .info) ∨
    (0 < s.receivers ∧ s.requests.hasRoom = false ∧
      ∃ record, s.resubscribe = (s, [record]) ∧ record.level = .warn) := by
  by_cases nobody : s.receivers = 0
  · exact .inl ⟨nobody, if_pos nobody⟩
  · have positive := Nat.pos_of_ne_zero nobody
    cases room : s.requests.hasRoom with
    | true =>
      refine .inr (.inl
        ⟨positive, ⟨.info, connectionTarget, "Resubscribed to '" ++ s.topic ++ "'"⟩, ?_, rfl⟩)
      simp only [resubscribe, nobody, if_false, RequestQueue.push?_of_hasRoom room]
    | false =>
      refine .inr (.inr ⟨positive, rfl, ⟨.warn, connectionTarget,
        "Failed to resubscribe to '" ++ s.topic ++ "': " ++ RequestQueue.refusal⟩, ?_, rfl⟩)
      simp only [resubscribe, nobody, if_false, RequestQueue.push?_of_full room]

inductive Move
  | acquire
  | release
  | resubscribe
  | take (count : Nat)
  | await (idle : Bool)
  | abandon
deriving DecidableEq

inductive Answer
  | acquired (result : Except ProviderError Unit)
  | released (result : Except ProviderError Bool)
  | resubscribed (log : List LogRecord)

def Answer.isRefusal : Answer → Bool
  | .acquired (.error _) | .released (.error _) => true
  | .resubscribed log => log.any fun record => record.level = .warn
  | _ => false

structure Course where
  subscription : Subscription
  queued : List Request := []
  answers : List Answer := []

namespace Course

def new (topic : String) (capacity : Nat) : Course :=
  { subscription := { topic, requests := { capacity } } }

def receivers (course : Course) : Nat := course.subscription.receivers

def requests (course : Course) : RequestQueue := course.subscription.requests

def answered (course : Course) (after : Subscription) (answer : Answer) : Course where
  subscription := after
  queued := course.queued ++ course.requests.added after.requests
  answers := course.answers ++ [answer]

def inQueue (course : Course) (requests : RequestQueue) : Course :=
  { course with subscription.requests := requests }

def step (course : Course) : Move → Course
  | .acquire =>
    match course.subscription.acquire with
    | (after, result) => course.answered after (.acquired result)
  | .release =>
    match course.subscription.release with
    | (after, result) => course.answered after (.released result)
  | .resubscribe =>
    match course.subscription.resubscribe with
    | (after, log) => course.answered after (.resubscribed log)
  | .take count => course.inQueue (course.requests.take count).2
  | .await idle => course.inQueue { course.requests with idle }
  | .abandon => course.inQueue course.requests.abandon

def run (course : Course) (moves : List Move) : Course := moves.foldl step course

section Answered

variable {course : Course} {after : Subscription}

theorem queued_answered_same (same : after.requests = course.requests) (answer : Answer) :
    (course.answered after answer).queued = course.queued := by
  simp [answered, same, RequestQueue.added_self]

theorem queued_answered_append {request : Request}
    (same : after.requests = course.requests.append request) (answer : Answer) :
    (course.answered after answer).queued = course.queued ++ [request] := by
  simp [answered, same, RequestQueue.added_append]

theorem answer_of_answered {answer other : Answer}
    (same : (course.answered after other).answers = course.answers ++ [answer]) : answer = other := by
  simpa [answered] using same.symm

end Answered

inductive Steps (course : Course) : Move → Course → Prop
  | counted (found : 0 < course.receivers) :
    Steps course .acquire (course.answered
      { course.subscription with receivers := course.subscription.receivers + 1 } (.acquired (.ok ())))
  | subscribed (found : course.receivers = 0) :
    Steps course .acquire (course.answered
      { course.subscription with
        receivers := 1, requests := course.requests.append (.subscribe course.subscription.topic) }
      (.acquired (.ok ())))
  | notSubscribed (e : ProviderError) :
    Steps course .acquire (course.answered course.subscription (.acquired (.error e)))
  | discounted (found : 1 < course.receivers) :
    Steps course .release (course.answered
      { course.subscription with receivers := course.subscription.receivers - 1 }
      (.released (.ok false)))
  | unsubscribed :
    Steps course .release (course.answered
      { course.subscription with
        receivers := 0, requests := course.requests.append (.unsubscribe course.subscription.topic) }
      (.released (.ok true)))
  | notUnsubscribed (e : ProviderError) :
    Steps course .release
      (course.answered { course.subscription with receivers := 0 } (.released (.error e)))
  | notNeeded (found : course.receivers = 0) :
    Steps course .resubscribe (course.answered course.subscription (.resubscribed []))
  | resubscribed (found : 0 < course.receivers) {record : LogRecord} (level : record.level = .info) :
    Steps course .resubscribe (course.answered
      { course.subscription with
        requests := course.requests.append (.subscribe course.subscription.topic) }
      (.resubscribed [record]))
  | notResubscribed (found : 0 < course.receivers) (full : course.requests.hasRoom = false)
      {record : LogRecord} (level : record.level = .warn) :
    Steps course .resubscribe (course.answered course.subscription (.resubscribed [record]))
  | taken (count : Nat) : Steps course (.take count) (course.inQueue (course.requests.take count).2)
  | awaited (idle : Bool) : Steps course (.await idle) (course.inQueue { course.requests with idle })
  | abandoned : Steps course .abandon (course.inQueue course.requests.abandon)

theorem steps (course : Course) (move : Move) : course.Steps move (course.step move) := by
  cases move with
  | acquire =>
    rcases course.subscription.acquire_cases with ⟨found, same⟩ | ⟨found, same⟩ | ⟨e, same⟩
    all_goals simp only [step, same]
    · exact .counted found
    · exact .subscribed found
    · exact .notSubscribed e
  | release =>
    rcases course.subscription.release_cases with ⟨found, same⟩ | same | ⟨e, same⟩
    all_goals simp only [step, same]
    · exact .discounted found
    · exact .unsubscribed
    · exact .notUnsubscribed e
  | resubscribe =>
    rcases course.subscription.resubscribe_cases with
      ⟨found, same⟩ | ⟨found, record, same, level⟩ | ⟨found, full, record, same, level⟩
    all_goals simp only [step, same]
    · exact .notNeeded found
    · exact .resubscribed found level
    · exact .notResubscribed found full level
  | take count => exact .taken count
  | await idle => exact .awaited idle
  | abandon => exact .abandoned

section Steps

variable {course next : Course} {move : Move}

theorem Steps.queued_of_isRefusal (steps : course.Steps move next) {answer : Answer}
    (answered : next.answers = course.answers ++ [answer]) (refused : answer.isRefusal = true) :
    next.queued = course.queued := by
  cases steps with
  | subscribed | unsubscribed =>
    rw [answer_of_answered answered] at refused
    cases refused
  | resubscribed found level =>
    rw [answer_of_answered answered] at refused
    simp [Answer.isRefusal, level] at refused
  | taken | awaited | abandoned => rfl
  | _ =>
    apply queued_answered_same
    rfl

theorem Steps.of_notSubscribed (steps : course.Steps .acquire next) {e : ProviderError}
    (answered : next.answers = course.answers ++ [.acquired (.error e)]) :
    next.receivers = course.receivers ∧ next.queued = course.queued := by
  have unqueued := steps.queued_of_isRefusal answered rfl
  cases steps with
  | notSubscribed e => exact ⟨rfl, unqueued⟩
  | counted | subscribed => cases answer_of_answered answered

theorem Steps.served (steps : course.Steps move next) (alive : move ≠ .abandon) :
    next.requests.served = course.requests.served ∧
      next.requests.capacity = course.requests.capacity := by
  cases steps with
  | abandoned => exact absurd rfl alive
  | _ => exact ⟨rfl, rfl⟩

theorem run_served {moves : List Move} (alive : .abandon ∉ moves) :
    (course.run moves).requests.served = course.requests.served ∧
      (course.run moves).requests.capacity = course.requests.capacity := by
  induction moves generalizing course with
  | nil => exact ⟨rfl, rfl⟩
  | cons move moves ih =>
    rw [List.mem_cons, not_or] at alive
    have first := (course.steps move).served fun same => alive.1 same.symm
    have rest := @ih (course.step move) alive.2
    exact ⟨rest.1.trans first.1, rest.2.trans first.2⟩

end Steps

/-- What holds of a subscription to the topic at any time. -/
structure Kept (topic : String) (course : Course) : Prop where
  named : course.subscription.topic = topic
  waits : course.requests.waiting <:+ course.queued
  subscribed : 0 < course.receivers → course.queued.getLast? = some (.subscribe topic)
  unsubscribed : course.receivers = 0 → (∀ e, .released (.error e) ∉ course.answers) →
    course.queued = [] ∨ course.queued.getLast? = some (.unsubscribe topic)

namespace Kept

variable {topic : String} {course next : Course} {after : Subscription} {answer : Answer}

theorem new (topic : String) (capacity : Nat) : (Course.new topic capacity).Kept topic where
  named := rfl
  waits := List.suffix_refl []
  subscribed positive := absurd positive (Nat.lt_irrefl 0)
  unsubscribed _ _ := .inl rfl

theorem unqueued (kept : course.Kept topic) (requests : after.requests = course.requests)
    (named : after.topic = course.subscription.topic)
    (opened : 0 < after.receivers → 0 < course.receivers)
    (closed : after.receivers = 0 → course.receivers = 0 ∨ ∃ e, answer = .released (.error e)) :
    (course.answered after answer).Kept topic where
  named := named.trans kept.named
  waits := by
    rw [queued_answered_same requests]
    exact (congrArg RequestQueue.waiting requests).symm ▸ kept.waits
  subscribed positive := by
    rw [queued_answered_same requests]
    exact kept.subscribed (opened positive)
  unsubscribed nobody succeeded := by
    rw [queued_answered_same requests]
    have before : ∀ e, .released (.error e) ∉ course.answers :=
      fun e member => succeeded e (List.mem_append_left _ member)
    rcases closed nobody with nobody | ⟨e, rfl⟩
    · exact kept.unsubscribed nobody before
    · exact absurd (List.mem_append_right _ List.mem_cons_self) (succeeded e)

theorem queued {request : Request} (kept : course.Kept topic)
    (requests : after.requests = course.requests.append request)
    (named : after.topic = course.subscription.topic)
    (opened : 0 < after.receivers → request = .subscribe course.subscription.topic)
    (closed : after.receivers = 0 → request = .unsubscribe course.subscription.topic) :
    (course.answered after answer).Kept topic where
  named := named.trans kept.named
  waits := by
    obtain ⟨earlier, same⟩ := kept.waits
    rw [queued_answered_append requests, ← same]
    exact ⟨earlier, by simp [requests, answered, Course.requests, RequestQueue.append]⟩
  subscribed positive := by
    rw [queued_answered_append requests, opened positive, kept.named, List.getLast?_concat]
  unsubscribed nobody _ := by
    rw [queued_answered_append requests, closed nobody, kept.named, List.getLast?_concat]
    exact .inr rfl

theorem inQueue {requests : RequestQueue} (kept : course.Kept topic)
    (left : requests.waiting <:+ course.requests.waiting) : (course.inQueue requests).Kept topic :=
  ⟨kept.named, left.trans kept.waits, kept.subscribed, kept.unsubscribed⟩

theorem step {move : Move} (kept : course.Kept topic) (steps : course.Steps move next) :
    next.Kept topic := by
  cases steps with
  | counted found => exact kept.unqueued rfl rfl (fun _ => found) (fun nobody => absurd nobody (by simp))
  | subscribed found => exact kept.queued rfl rfl (fun _ => rfl) (fun nobody => absurd nobody (by simp))
  | notSubscribed e => exact kept.unqueued rfl rfl id .inl
  | discounted found =>
    have left : course.subscription.receivers - 1 ≠ 0 := Nat.sub_ne_zero_of_lt found
    exact kept.unqueued rfl rfl (fun _ => Nat.zero_lt_of_lt found) (fun nobody => absurd nobody left)
  | unsubscribed => exact kept.queued rfl rfl (fun somebody => absurd somebody (by simp)) (fun _ => rfl)
  | notUnsubscribed e =>
    exact kept.unqueued rfl rfl (fun somebody => absurd somebody (by simp)) (fun _ => .inr ⟨e, rfl⟩)
  | notNeeded found => exact kept.unqueued rfl rfl id .inl
  | resubscribed found level =>
    exact kept.queued rfl rfl (fun _ => rfl) (fun nobody => absurd nobody (Nat.pos_iff_ne_zero.mp found))
  | notResubscribed found full level => exact kept.unqueued rfl rfl id .inl
  | taken count => exact kept.inQueue (List.drop_suffix count _)
  | awaited idle => exact kept.inQueue (List.suffix_refl _)
  | abandoned => exact kept.inQueue List.nil_suffix

/-- A request to subscribe again that finds no room finds another one in its place: the queue is full,
    and the last request in it is the last one that was queued. -/
theorem last_waiting (kept : course.Kept topic) (steps : course.Steps .resubscribe next)
    (served : course.requests.served = true) (roomy : 0 < course.requests.capacity)
    (positive : 0 < course.receivers) :
    next.requests.waiting.getLast? = some (.subscribe topic) := by
  cases steps with
  | notNeeded found => exact absurd found (Nat.pos_iff_ne_zero.mp positive)
  | resubscribed found level =>
    have last : (course.requests.waiting ++ [Request.subscribe course.subscription.topic]).getLast? =
        some (.subscribe topic) := by
      rw [List.getLast?_concat, kept.named]
    exact last
  | notResubscribed found full level =>
    obtain ⟨earlier, same⟩ := kept.waits
    have waiting : course.requests.waiting ≠ [] := RequestQueue.waiting_ne_nil_of_full served full roomy
    have last := kept.subscribed positive
    rw [← same, List.getLast?_append_of_ne_nil _ waiting] at last
    exact last

theorem run (kept : course.Kept topic) (moves : List Move) : (course.run moves).Kept topic := by
  induction moves generalizing course with
  | nil => exact kept
  | cons move moves ih => exact ih (kept.step (course.steps move))

end Kept

end Course

/-- Whether a broker that has taken in the requests, in order, is subscribed to the topic. -/
def isSubscribed (topic : String) (requests : List Request) : Bool :=
  requests.foldl (fun subscribed request =>
    match request with
    | .subscribe other => subscribed || other == topic
    | .unsubscribe other => subscribed && other != topic
    | .disconnect => false) false

theorem isSubscribed_of_getLast? {topic : String} {requests : List Request}
    (last : requests.getLast? = some (.subscribe topic)) : isSubscribed topic requests = true := by
  obtain ⟨earlier, rfl⟩ := List.getLast?_eq_some_iff.mp last
  simp [isSubscribed]

/-- The last request that was queued agrees with the number of receivers, whatever was refused, and a
    refusal leaves no trace among the requests. -/
theorem broker_follows_receivers (topic : String) (capacity : Nat) (moves : List Move) :
    let course := (Course.new topic capacity).run moves
    (0 < course.receivers →
      course.queued.getLast? = some (.subscribe topic) ∧ isSubscribed topic course.queued = true) ∧
    (course.receivers = 0 → (∀ e, .released (.error e) ∉ course.answers) →
      course.queued = [] ∨ course.queued.getLast? = some (.unsubscribe topic)) ∧
    (∀ e, (course.step .acquire).answers = course.answers ++ [.acquired (.error e)] →
      (course.step .acquire).receivers = course.receivers ∧
        (course.step .acquire).queued = course.queued) ∧
    ∀ move answer, (course.step move).answers = course.answers ++ [answer] →
      answer.isRefusal = true → (course.step move).queued = course.queued := by
  intro course
  have kept : course.Kept topic := (Course.Kept.new topic capacity).run moves
  refine ⟨?_, kept.unsubscribed, ?_, ?_⟩
  · intro positive
    have last := kept.subscribed positive
    exact ⟨last, isSubscribed_of_getLast? last⟩
  · intro e answered
    exact (course.steps .acquire).of_notSubscribed answered
  · intro move answer answered refused
    exact (course.steps move).queued_of_isRefusal answered refused

/-- In a queue for one request: a release that is refused, an acquisition that is refused after it, and
    one that is not. -/
theorem broker_follows_receivers_refused :
    (let reopened := (Course.new "t" 1).run [.acquire, .release, .acquire, .take 1, .acquire]
     0 < reopened.receivers ∧ reopened.queued.getLast? = some (.subscribe "t") ∧
      isSubscribed "t" reopened.queued = true) ∧
    (let left := (Course.new "t" 1).run [.acquire, .take 1, .release]
     left.receivers = 0 ∧ (∀ e, .released (.error e) ∉ left.answers) ∧
      (left.queued = [] ∨ left.queued.getLast? = some (.unsubscribe "t"))) ∧
    (let full := (Course.new "t" 1).run [.acquire, .release]
     (full.step .acquire).answers =
        full.answers ++ [.acquired (.error (.subscribe "t" RequestQueue.refusal))] ∧
      (full.step .acquire).receivers = full.receivers ∧
      (full.step .acquire).queued = full.queued) ∧
    (let full := (Course.new "t" 1).run [.acquire]
     (full.step .release).answers =
        full.answers ++ [.released (.error (.close RequestQueue.refusal))] ∧
      (full.step .release).queued = full.queued) := by
  have succeeded : ∀ e, Answer.released (.error e) ∉
      ((Course.new "t" 1).run [.acquire, .take 1, .release]).answers := by
    intro e member
    have answers : ((Course.new "t" 1).run [.acquire, .take 1, .release]).answers =
        [.acquired (.ok ()), .released (.ok true)] := rfl
    simp [answers] at member
  refine ⟨⟨by decide, ?_⟩, ⟨rfl, succeeded, ?_⟩, ⟨rfl, ?_⟩, ⟨rfl, ?_⟩⟩
  · exact (broker_follows_receivers "t" 1 _).1 (by decide)
  · exact (broker_follows_receivers "t" 1 _).2.1 rfl succeeded
  · exact (broker_follows_receivers "t" 1 _).2.2.1 _ rfl
  · exact (broker_follows_receivers "t" 1 _).2.2.2 .release _ rfl rfl

/-- When the topic is subscribed again for open receivers, that request waits at the end of the queue, or
    it finds the queue full and another one there. -/
theorem subscribe_waits_after_resubscribe (topic : String) {capacity : Nat} (roomy : 0 < capacity)
    {moves : List Move} (alive : .abandon ∉ moves)
    (positive : 0 < ((Course.new topic capacity).run moves).receivers) :
    let left := (((Course.new topic capacity).run moves).step .resubscribe).requests.waiting
    left ≠ [] ∧ left.getLast? = some (.subscribe topic) := by
  have kept : ((Course.new topic capacity).run moves).Kept topic :=
    (Course.Kept.new topic capacity).run moves
  obtain ⟨served, bounded⟩ := @Course.run_served (Course.new topic capacity) moves alive
  have last := kept.last_waiting (Course.steps _ .resubscribe) served (bounded ▸ roomy) positive
  refine ⟨?_, last⟩
  intro nothing
  rw [nothing] at last
  cases last

/-- The queue is full of the first request to subscribe when the second is refused. -/
theorem subscribe_waits_after_resubscribe_full :
    0 < 1 ∧ .abandon ∉ [Move.acquire] ∧ 0 < ((Course.new "t" 1).run [.acquire]).receivers ∧
      ((Course.new "t" 1).run [.acquire]).requests.hasRoom = false ∧
      (let left := (((Course.new "t" 1).run [.acquire]).step .resubscribe).requests.waiting
       left ≠ [] ∧ left.getLast? = some (.subscribe "t")) :=
  ⟨by decide, by decide, by decide, by decide,
    subscribe_waits_after_resubscribe "t" (by decide) (by decide) (by decide)⟩

end Subscription

end EventRelay.Mqtt
