import EventRelay.Proofs.Mqtt.Turns

namespace EventRelay.Mqtt

namespace Feed

variable {Listener : Type} {feed : Feed Listener}

theorem openReceiver_of_room
    (room : feed.subscription.receivers = 0 → feed.subscription.requests.hasRoom = true) :
    feed.openReceiver.2 = .ok feed.created := by
  by_cases first : feed.subscription.receivers = 0
  · have pushed := RequestQueue.push?_of_hasRoom (room first) (.subscribe feed.subscription.topic)
    simp only [openReceiver, Subscription.acquire, first, pushed, if_true, addReceiver]
  · simp only [openReceiver, Subscription.acquire, first, if_false, addReceiver]

theorem openReceiver_of_full (first : feed.subscription.receivers = 0)
    (full : feed.subscription.requests.hasRoom = false) :
    feed.openReceiver.2 =
      .error (.subscribe feed.subscription.topic RequestQueue.refusal) := by
  have refused := RequestQueue.push?_of_full full (.subscribe feed.subscription.topic)
  simp only [openReceiver, Subscription.acquire, first, refused, if_true]

theorem openReceiver_cases (feed : Feed Listener) : (∃ receiver, feed.openReceiver.2 = .ok receiver) ∨
    ∃ topic reason, feed.openReceiver.2 = .error (.subscribe topic reason) := by
  by_cases first : feed.subscription.receivers = 0
  · cases room : feed.subscription.requests.hasRoom with
    | true => exact .inl ⟨_, openReceiver_of_room fun _ => room⟩
    | false => exact .inr ⟨_, _, openReceiver_of_full first room⟩
  · exact .inl ⟨_, openReceiver_of_room fun nobody => absurd nobody first⟩

end Feed

namespace Connection

variable {Listener : Type}

namespace Call

def isEarly : Call → Bool
  | .create .enter | .create (.queued _) => true
  | _ => false

end Call

def Deed.isAttempt : Deed → Bool
  | .attempting | .attempted _ => true
  | _ => false

namespace System

/-- The answers that a call to create a receiver can get: the failure of its own attempt; or the
    connection is up, and only the subscription can be refused; or the connection was closed. -/
def Answered (start : Connection Listener) (system : System Listener) (i : Nat)
    (result : Except ProviderError Nat) : Prop :=
  (∃ attempt e, (some i, .attempted attempt) ∈ system.history ∧
    start.attemptError? attempt = some e ∧ result = .error e) ∨
  (0 < system.count Deed.isAccepted ∧ ((∃ receiver, result = .ok receiver) ∨
    ∃ topic reason, result = .error (.subscribe topic reason))) ∨
  0 < system.count Deed.isClosing ∧ result = .error start.closedError

def Concluded (history : List (Option Nat × Deed)) (who : Option Nat) : Prop :=
  ∃ attempt, (who, .attempted attempt) ∈ history

structure Tried (start : Connection Listener) (system : System Listener) : Prop where
  numbered : ∀ (i : Nat) (deed : Deed), (some i, deed) ∈ system.history → i < system.calls.length
  early : ∀ (i : Nat) (call : Call), system.calls[i]? = some call → call.isEarly = true →
    (some i, .attempting) ∉ system.history
  trying : ∀ i t : Nat, system.calls[i]? = some (.create (.connecting t)) →
    (some i, .attempting) ∈ system.history ∧ ¬ Concluded system.history (some i)
  ended : ∀ i : Nat, (some i, .attempting) ∈ system.history →
    (∃ t, system.calls[i]? = some (.create (.connecting t))) ∨ Concluded system.history (some i)
  begun : ∀ who, Concluded system.history who → (who, .attempting) ∈ system.history
  single : ∀ (i : Nat) (attempt other : Attempt), (some i, .attempted attempt) ∈ system.history →
    (some i, .attempted other) ∈ system.history → attempt = other
  alone : ∀ earlier who later, system.history = earlier ++ (who, .attempting) :: later →
    (∀ entry ∈ earlier, entry.2.isAccepted = false ∧ entry.2.isClosing = false) ∧
      ∀ i : Nat, (some i, .attempting) ∈ earlier → Concluded earlier (some i)
  answered : ∀ (i : Nat) (result : Except ProviderError Nat),
    system.calls[i]? = some (.create (.done result)) → system.Answered start i result

section

variable {start : Connection Listener} {system next : System Listener} {i t : Nat}
  {call called : Call} {deeds : List Deed} {left : Connection Listener} {deed : Deed}

theorem mem_doing {who other : Option Nat} :
    (other, deed) ∈ (system.doing who deeds left).history ↔
      (other, deed) ∈ system.history ∨ other = who ∧ deed ∈ deeds := by
  simp only [doing, List.mem_append, List.mem_map, Prod.mk.injEq]
  constructor
  · rintro (before | ⟨new, member, rfl, rfl⟩)
    · exact .inl before
    · exact .inr ⟨rfl, member⟩
  · rintro (before | ⟨rfl, member⟩)
    · exact .inl before
    · exact .inr ⟨deed, member, rfl, rfl⟩

theorem mem_going {other : Option Nat} :
    (other, deed) ∈ (system.going i called deeds left).history ↔
      (other, deed) ∈ system.history ∨ other = some i ∧ deed ∈ deeds := by
  show (other, deed) ∈ (system.doing (some i) deeds left).history ↔ _
  exact mem_doing

theorem Answered.extends {result : Except ProviderError Nat}
    (answered : system.Answered start i result) (longer : system.history <+: next.history) :
    next.Answered start i result := by
  rcases answered with ⟨attempt, e, member, error, same⟩ | ⟨accepted, same⟩ | ⟨closing, same⟩
  · exact .inl ⟨attempt, e, longer.subset member, error, same⟩
  · exact .inr (.inl ⟨count_pos_of_extends accepted longer, same⟩)
  · exact .inr (.inr ⟨count_pos_of_extends closing longer, same⟩)

structure Calm (start : Connection Listener) (system next : System Listener) : Prop where
  did : ∃ who deeds left, next.history = (system.doing who deeds left).history ∧
    (∀ deed ∈ deeds, deed.isAttempt = false) ∧ ∀ i, who = some i → i < system.calls.length
  more : system.calls.length ≤ next.calls.length
  early : ∀ (i : Nat) (call : Call), next.calls[i]? = some call → call.isEarly = true →
    i = system.calls.length ∨
      ∃ before : Call, system.calls[i]? = some before ∧ before.isEarly = true
  connecting : ∀ i t : Nat, next.calls[i]? = some (.create (.connecting t)) ↔
    system.calls[i]? = some (.create (.connecting t))
  answered : ∀ (i : Nat) (result : Except ProviderError Nat),
    next.calls[i]? = some (.create (.done result)) →
      system.calls[i]? = some (.create (.done result)) ∨ next.Answered start i result

theorem Calm.same (calm : Calm start system next) {who : Option Nat} (about : deed.isAttempt = true) :
    (who, deed) ∈ next.history ↔ (who, deed) ∈ system.history := by
  obtain ⟨other, deeds, left, history, calm, _⟩ := calm.did
  rw [history, mem_doing]
  constructor
  · rintro (before | ⟨_, member⟩)
    · exact before
    · rw [calm deed member] at about
      cases about
  · exact .inl

theorem Calm.concluded (calm : Calm start system next) {who : Option Nat} :
    Concluded next.history who ↔ Concluded system.history who :=
  exists_congr fun _ => calm.same rfl

theorem Calm.split (calm : Calm start system next) {who : Option Nat}
    {earlier later : List (Option Nat × Deed)}
    (same : next.history = earlier ++ (who, .attempting) :: later) :
    ∃ rest, system.history = earlier ++ (who, .attempting) :: rest := by
  obtain ⟨other, deeds, left, history, calm, _⟩ := calm.did
  rw [history, doing] at same
  rcases split_of_append same with before | ⟨before, new, _⟩
  · exact before
  · have member : (who, Deed.attempting) ∈ deeds.map fun deed => (other, deed) := by
      rw [new]
      exact List.mem_append_right _ List.mem_cons_self
    obtain ⟨deed, inDeeds, same⟩ := List.mem_map.mp member
    cases same
    cases calm _ inDeeds

namespace Tried

variable (tried : system.Tried start)

include tried

theorem calm (calm : Calm start system next) : next.Tried start := by
  obtain ⟨who, deeds, left, history, _, numbered⟩ := calm.did
  have longer : system.history <+: next.history := history ▸ List.prefix_append _ _
  refine ⟨?_, ?_, ?_, ?_, ?_, ?_, ?_, ?_⟩
  · intro i deed member
    rw [history, mem_doing] at member
    rcases member with before | ⟨same, _⟩
    · exact Nat.lt_of_lt_of_le (tried.numbered i deed before) calm.more
    · exact Nat.lt_of_lt_of_le (numbered i same.symm) calm.more
  · intro i call there early
    rw [calm.same rfl]
    rcases calm.early i call there early with rfl | ⟨before, there, early⟩
    · exact fun member => absurd (tried.numbered _ _ member) (Nat.lt_irrefl _)
    · exact tried.early i before there early
  · intro i t there
    rw [calm.same rfl, calm.concluded]
    exact tried.trying i t ((calm.connecting i t).mp there)
  · intro i
    rw [calm.same rfl, calm.concluded]
    simp only [calm.connecting]
    exact tried.ended i
  · intro who
    rw [calm.same rfl, calm.concluded]
    exact tried.begun who
  · intro i attempt other
    rw [calm.same rfl, calm.same rfl]
    exact tried.single i attempt other
  · intro earlier who later same
    obtain ⟨rest, before⟩ := calm.split same
    exact tried.alone earlier who rest before
  · intro i result there
    rcases calm.answered i result there with before | now
    · exact (tried.answered i result before).extends longer
    · exact now

end Tried

theorem calm_begins (new : call = .create .enter ∨ call = .close .enter) :
    Calm start system (system.calling call) where
  did := ⟨none, [], system.connection, by simp [doing, calling], by simp, by rintro i ⟨⟩⟩
  more := by simp [calling]
  early := by
    intro i other there early
    rcases last_or_same there with ⟨last, _⟩ | before
    · exact .inl last
    · exact .inr ⟨other, before, early⟩
  connecting := (quiet_begins new).connecting
  answered := by
    intro i result there
    rcases last_or_same there with ⟨_, rfl⟩ | before
    · rcases new with new | new <;> cases new
    · exact .inl before

theorem calm_elsewhere (left : Connection Listener) : Calm start system (system.elsewhere left) where
  did := by
    refine ⟨none, _, left, rfl, ?_, by rintro i ⟨⟩⟩
    intro deed member
    obtain ⟨request, rfl⟩ := onlyRequests_requested _ _ deed member
    rfl
  more := Nat.le_refl _
  early := fun _ call there early => .inr ⟨call, there, early⟩
  connecting := fun _ _ => Iff.rfl
  answered := fun _ _ there => .inl there

theorem calm_going (there : system.calls[i]? = some call) (unlike : call.isConnecting = false)
    (unlikeToo : called.isConnecting = false) (other : ∀ deed ∈ deeds, deed.isAttempt = false)
    (early : called.isEarly = true → call.isEarly = true)
    (answered : ∀ result, called = .create (.done result) →
      (system.going i called deeds left).Answered start i result) :
    Calm start system (system.going i called deeds left) where
  did := by
    refine ⟨some i, deeds, left, rfl, other, ?_⟩
    rintro j ⟨⟩
    exact (List.getElem?_eq_some_iff.mp there).1
  more := by simp [going]
  early := by
    intro j other now earlyToo
    rcases replaced_or_same now with ⟨same, rfl⟩ | ⟨_, before⟩
    · exact .inr ⟨call, same ▸ there, early earlyToo⟩
    · exact .inr ⟨other, before, earlyToo⟩
  connecting := connecting_going there unlike unlikeToo
  answered := by
    intro j result now
    rcases replaced_or_same now with ⟨same, this⟩ | ⟨_, before⟩
    · exact .inr (same ▸ answered result this.symm)
    · exact .inl before

namespace Sound

variable (sound : system.Sound start)

include sound

theorem attemptError?_eq (attempt : Attempt) :
    system.connection.attemptError? attempt = start.attemptError? attempt := by
  obtain ⟨phase, polling, lock, feed, same⟩ := sound.kin
  rw [same]
  rfl

theorem closedError_eq : system.connection.closedError = start.closedError := by
  obtain ⟨phase, polling, lock, feed, same⟩ := sound.kin
  rw [same]
  rfl

/-- Whoever finds the connection closed when its turn comes, comes after a close. -/
theorem closing_of_turn (there : system.calls[i]? = some (.create (.queued t)))
    (turn : system.connection.lock.isHeldBy t = true) (found : system.connection.phase = .closed) :
    0 < system.count Deed.isClosing := by
  rcases sound.closed found with closing | ⟨j, u, connecting⟩
  · exact closing
  · by_cases other : j = i
    · rw [other, there] at connecting
      cases connecting
    · exact absurd connecting (sound.inLine.not_connecting_of_turn there rfl turn other)

end Sound

theorem unaccepted_of_idle (sound : system.Sound start) (found : system.connection.phase = .idle) :
    ∀ entry ∈ system.history, entry.2.isAccepted = false ∧ entry.2.isClosing = false := by
  obtain ⟨unaccepted, unclosed⟩ := sound.idle found
  intro entry did
  have notAccepted := List.countP_eq_zero.mp unaccepted entry did
  have notClosing := List.countP_eq_zero.mp unclosed entry did
  exact ⟨by simpa using notAccepted, by simpa using notClosing⟩

namespace Tried

variable (tried : system.Tried start) (sound : system.Sound start)

include tried sound

theorem concluded_of_turn {j : Nat} (there : system.calls[i]? = some (.create (.queued t)))
    (turn : system.connection.lock.isHeldBy t = true)
    (did : (some j, .attempting) ∈ system.history) : Concluded system.history (some j) := by
  rcases tried.ended j did with ⟨u, connecting⟩ | done
  · by_cases other : j = i
    · exact absurd (other ▸ did) (tried.early i _ there rfl)
    · exact absurd connecting (sound.inLine.not_connecting_of_turn there rfl turn other)
  · exact done

theorem tries (there : system.calls[i]? = some (.create (.queued t)))
    (turn : system.connection.lock.isHeldBy t = true) (found : system.connection.phase = .idle)
    (same : next = system.going i (.create (.connecting t)) [.attempting] left) :
    next.Tried start := by
  have member {who : Option Nat} {deed : Deed} : (who, deed) ∈ next.history ↔
      (who, deed) ∈ system.history ∨ who = some i ∧ deed = .attempting := by
    rw [same, mem_going, List.mem_singleton]
  have concluded {who : Option Nat} : Concluded next.history who ↔ Concluded system.history who := by
    simp [Concluded, member]
  have longer : system.history <+: next.history := same ▸ List.prefix_append _ _
  have untried := tried.early i _ there rfl
  obtain ⟨inside, _⟩ := List.getElem?_eq_some_iff.mp there
  refine ⟨?_, ?_, ?_, ?_, ?_, ?_, ?_, ?_⟩
  · intro j deed did
    have length : next.calls.length = system.calls.length := by rw [same]; exact List.length_set
    rw [length]
    rcases member.mp did with before | ⟨this, _⟩
    · exact tried.numbered j deed before
    · cases this
      exact inside
  · intro j call now early did
    rw [same] at now
    rcases replaced_or_same now with ⟨_, rfl⟩ | ⟨other, before⟩
    · cases early
    · rcases member.mp did with did | ⟨this, _⟩
      · exact tried.early j call before early did
      · cases this
        exact other rfl
  · intro j u now
    rw [concluded]
    rw [same] at now
    rcases replaced_or_same now with ⟨rfl, _⟩ | ⟨other, before⟩
    · exact ⟨member.mpr (.inr ⟨rfl, rfl⟩), fun done => untried (tried.begun _ done)⟩
    · exact absurd before (sound.inLine.not_connecting_of_turn there rfl turn other)
  · intro j did
    rw [concluded]
    rcases member.mp did with before | ⟨this, _⟩
    · exact .inr (tried.concluded_of_turn sound there turn before)
    · cases this
      refine .inl ⟨t, ?_⟩
      rw [same]
      exact List.getElem?_set_self inside
  · intro who done
    exact member.mpr (.inl (tried.begun who (concluded.mp done)))
  · intro j attempt other
    simp only [member, reduceCtorEq, and_false, or_false]
    exact tried.single j attempt other
  · intro earlier who later split
    rw [same] at split
    rcases split_of_append split with ⟨rest, before⟩ | ⟨before, last, this⟩
    · exact tried.alone earlier who rest before
    · -- The attempt that begins now: nobody else's is under way.
      have first : before = [] := by
        cases before with
        | nil => rfl
        | cons x rest => simp at last
      rw [first, List.append_nil] at this
      subst this
      exact ⟨unaccepted_of_idle sound found, fun j => tried.concluded_of_turn sound there turn⟩
  · intro j result now
    rw [same] at now
    rcases replaced_or_same now with ⟨_, this⟩ | ⟨_, before⟩
    · cases this
    · exact (tried.answered j result before).extends longer

theorem concludes {attempt : Attempt} {more : List Deed}
    (there : system.calls[i]? = some (.create (.connecting t)))
    (landed : called.isConnecting = false) (late : called.isEarly = false)
    (rest : ∀ deed ∈ more, deed.isAttempt = false)
    (same : next = system.going i called (.attempted attempt :: more) left)
    (answered : ∀ result, called = .create (.done result) → next.Answered start i result) :
    next.Tried start := by
  have member {who : Option Nat} {deed : Deed} : (who, deed) ∈ next.history ↔
      (who, deed) ∈ system.history ∨ who = some i ∧ (deed = .attempted attempt ∨ deed ∈ more) := by
    rw [same, mem_going, List.mem_cons]
  have tries {who : Option Nat} :
      (who, .attempting) ∈ next.history ↔ (who, .attempting) ∈ system.history := by
    rw [member]
    constructor
    · rintro (before | ⟨_, new | new⟩)
      · exact before
      · cases new
      · cases rest _ new
    · exact .inl
  have longer : system.history <+: next.history := same ▸ List.prefix_append _ _
  have done : Concluded next.history (some i) := ⟨attempt, member.mpr (.inr ⟨rfl, .inl rfl⟩)⟩
  have concluded {who : Option Nat} (before : Concluded system.history who) :
      Concluded next.history who := by
    obtain ⟨other, did⟩ := before
    exact ⟨other, longer.subset did⟩
  obtain ⟨trying, unconcluded⟩ := tried.trying i t there
  have only {other : Attempt} {j : Nat} (did : (some j, .attempted other) ∈ next.history) :
      (some j, .attempted other) ∈ system.history ∨ j = i ∧ other = attempt := by
    rcases member.mp did with before | ⟨this, new | new⟩
    · exact .inl before
    · cases this
      cases new
      exact .inr ⟨rfl, rfl⟩
    · cases rest _ new
  refine ⟨?_, ?_, ?_, ?_, ?_, ?_, ?_, ?_⟩
  · intro j deed did
    have length : next.calls.length = system.calls.length := by rw [same]; exact List.length_set
    rw [length]
    rcases member.mp did with before | ⟨this, _⟩
    · exact tried.numbered j deed before
    · cases this
      exact (List.getElem?_eq_some_iff.mp there).1
  · intro j call now early
    rw [tries]
    rw [same] at now
    rcases replaced_or_same now with ⟨_, rfl⟩ | ⟨_, before⟩
    · rw [late] at early
      cases early
    · exact tried.early j call before early
  · intro j u now
    rw [same] at now
    exact absurd now (sound.not_connecting_after there landed j u)
  · intro j did
    rw [tries] at did
    rcases tried.ended j did with ⟨u, there'⟩ | before
    · exact .inr ((sound.inLine.same_of_connecting there' there).1 ▸ done)
    · exact .inr (concluded before)
  · rintro who ⟨other, did⟩
    rw [tries]
    rcases member.mp did with before | ⟨rfl, _⟩
    · exact tried.begun who ⟨other, before⟩
    · exact trying
  · -- Nobody whose attempt is still under way has an end of it recorded already.
    intro j first second did didToo
    rcases only did with before | ⟨rfl, rfl⟩
    · rcases only didToo with beforeToo | ⟨rfl, _⟩
      · exact tried.single j first second before beforeToo
      · exact absurd ⟨first, before⟩ unconcluded
    · rcases only didToo with beforeToo | ⟨_, this⟩
      · exact absurd ⟨second, beforeToo⟩ unconcluded
      · exact this.symm
  · intro earlier who later split
    rw [same] at split
    rcases split_of_append split with ⟨rest', before⟩ | ⟨before, new, _⟩
    · exact tried.alone earlier who rest' before
    · have did : (who, Deed.attempting) ∈
          (Deed.attempted attempt :: more).map fun deed => (some i, deed) := by
        rw [new]
        exact List.mem_append_right _ List.mem_cons_self
      obtain ⟨deed, inDeeds, this⟩ := List.mem_map.mp did
      cases this
      rcases List.mem_cons.mp inDeeds with this | inMore
      · cases this
      · cases rest _ inMore
  · intro j result now
    rw [same] at now
    rcases replaced_or_same now with ⟨rfl, this⟩ | ⟨_, before⟩
    · exact answered result this.symm
    · exact (tried.answered j result before).extends longer

theorem went (went : system.Goes next) : next.Tried start := by
  -- What was accepted or closed before the step is so after it, since the history only grows.
  have longer := went.extends
  cases went with
  | stays => exact tried
  | begins call new => exact tried.calm (calm_begins new)
  | asks there points =>
    rcases points with ⟨rfl, rfl⟩ | ⟨rfl, rfl⟩
    · exact tried.calm (calm_going there rfl rfl (by simp) (fun _ => rfl) (by rintro _ ⟨⟩))
    · exact tried.calm (calm_going there rfl rfl (by simp) id (by rintro _ ⟨⟩))
  | findsRunning there =>
    exact tried.calm (calm_going there rfl rfl (by simp) (fun _ => rfl) (by rintro _ ⟨⟩))
  | findsClosed there turn found =>
    refine tried.calm (calm_going there rfl rfl (by simp) (fun _ => rfl) ?_)
    rintro _ ⟨⟩
    have closing := sound.closing_of_turn there turn found
    exact .inr (.inr ⟨count_pos_of_extends closing longer,
      congrArg Except.error sound.closedError_eq⟩)
  | findsIdle there turn found => exact tried.tries sound there turn found rfl
  | fails there error =>
    rw [sound.concludeDeeds_of_flying there] at longer ⊢
    refine tried.concludes sound there rfl rfl (by simp) rfl ?_
    rintro _ ⟨⟩
    rw [sound.attemptError?_eq] at error
    exact .inl ⟨_, _, mem_going.mpr (.inr ⟨rfl, List.mem_singleton.mpr rfl⟩), error, rfl⟩
  | connects there =>
    exact tried.concludes sound there rfl rfl (by simp [Deed.isAttempt]) rfl (by rintro _ ⟨⟩)
  | @opens i there =>
    refine tried.calm (calm_going there rfl rfl ?_ (by rintro ⟨⟩) ?_)
    · intro deed member
      obtain ⟨request, rfl⟩ := onlyRequests_requested _ _ deed member
      rfl
    · rintro _ ⟨⟩
      have accepted := sound.requesting i _ there rfl
      exact .inr (.inl ⟨count_pos_of_extends accepted longer,
        system.connection.feed.openReceiver_cases⟩)
  | closesRunning there =>
    exact tried.calm (calm_going there rfl rfl (by simp [Deed.isAttempt]) id (by rintro _ ⟨⟩))
  | closesIdle there =>
    exact tried.calm (calm_going there rfl rfl (by simp [Deed.isAttempt]) id (by rintro _ ⟨⟩))
  | closesClosed there =>
    exact tried.calm (calm_going there rfl rfl (by simp [Deed.isAttempt]) id (by rintro _ ⟨⟩))
  | disconnects there =>
    exact tried.calm (calm_going there rfl rfl (by simp [Deed.isAttempt]) id (by rintro _ ⟨⟩))
  | refused there => exact tried.calm (calm_going there rfl rfl (by simp) id (by rintro _ ⟨⟩))
  | closed there => exact tried.calm (calm_going there rfl rfl (by simp) id (by rintro _ ⟨⟩))
  | elsewhere => exact tried.calm (calm_elsewhere _)

end Tried

theorem tried_initial (start : Connection Listener) : (initial start).Tried start where
  numbered := by rintro i deed ⟨⟩
  early := by rintro i call ⟨⟩
  trying := by rintro i t ⟨⟩
  ended := by rintro i ⟨⟩
  begun := by rintro who ⟨attempt, ⟨⟩⟩
  single := by rintro i attempt other ⟨⟩
  alone := by
    intro earlier i later same
    cases earlier <;> cases same
  answered := by rintro i result ⟨⟩

theorem Reachable.tried (reachable : system.Reachable start) : system.Tried start := by
  obtain ⟨⟨factory, params, opened⟩, moves, ran⟩ := reachable
  have went (now later : System Listener) (holds : now.Sound start ∧ now.Tried start)
      (goes : now.Goes later) : later.Sound start ∧ later.Tried start :=
    ⟨holds.1.went goes, holds.2.went holds.1 goes⟩
  exact (run_induction went ⟨sound_initial opened, tried_initial start⟩ ran).2

end

end System

end Connection

end EventRelay.Mqtt
