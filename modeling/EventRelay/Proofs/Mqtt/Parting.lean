import EventRelay.Proofs.Mqtt.Waiting

namespace EventRelay.Mqtt.Connection

variable {Listener : Type}

namespace Call

def isDisconnecting : Call → Bool
  | .close .disconnect => true
  | _ => false

def isParting : Call → Bool
  | .close .disconnect | .close .grace => true
  | _ => false

end Call

namespace Deed

def isDisconnect : Deed → Bool
  | .requested .disconnect => true
  | _ => false

def endsRunning : Deed → Bool
  | .closing .running => true
  | _ => false

end Deed

def runs (connection : Connection Listener) : Nat :=
  match connection.phase with
  | .running => 1
  | _ => 0

theorem runs_eq_one {connection : Connection Listener} (found : connection.phase = .running) :
    connection.runs = 1 := by
  simp [runs, found]

theorem runs_of_same {found left : Connection Listener} (same : left.phase = found.phase) :
    left.runs = found.runs := by
  simp [runs, same]

namespace System

/-- The requests that a call may make. -/
def MayRequest (history : List (Option Nat × Deed)) (i : Nat) (call : Call) (request : Request) :
    Prop :=
  call.isCreate = true ∧ (∃ topic, request = .subscribe topic) ∨
    call.isCreate = false ∧ request = .disconnect ∧ (some i, .closing .running) ∈ history

structure Parted (system : System Listener) : Prop where
  -- Each close that found the connection running asks for the end once; `once` then bounds their
  -- number by that of the accepted attempts, of which there is one at most.
  told : system.calls.countP Call.isDisconnecting + system.count Deed.isDisconnect ≤
    system.count Deed.endsRunning
  once : system.count Deed.endsRunning + system.connection.runs ≤
    system.count Deed.isAccepted
  parting : ∀ (i : Nat) (call : Call), system.calls[i]? = some call → call.isParting = true →
    (some i, .closing .running) ∈ system.history
  requested : ∀ (i : Nat) (call : Call) (request : Request), system.calls[i]? = some call →
    (some i, .requested request) ∈ system.history → MayRequest system.history i call request
  others : (none, .requested .disconnect) ∉ system.history
  returned : ∀ (i : Nat) (result : Except ProviderError Unit),
    system.calls[i]? = some (.close (.done result)) → (some i, .closing .running) ∈ system.history ∨
      result = .ok () ∧ ∃ found, (some i, .closing found) ∈ system.history

section

variable {start : Connection Listener} {system next : System Listener} {i t : Nat}
  {call called : Call} {deeds : List Deed} {left : Connection Listener}

theorem MayRequest.extends {history longer : List (Option Nat × Deed)} {request : Request}
    (may : MayRequest history i call request) (extended : history <+: longer)
    (same : called.isCreate = call.isCreate) : MayRequest longer i called request := by
  rcases may with ⟨create, subscribes⟩ | ⟨close, disconnects, found⟩
  · exact .inl ⟨same.trans create, subscribes⟩
  · exact .inr ⟨same.trans close, disconnects, extended.subset found⟩

namespace Parted

variable (parted : system.Parted)

include parted

theorem begins (tried : system.Tried start) (new : call = .create .enter ∨ call = .close .enter) :
    (system.calling call).Parted where
  told := by
    have waits : call.isDisconnecting = false := by rcases new with rfl | rfl <;> rfl
    show (system.calls ++ [call]).countP Call.isDisconnecting + _ ≤ _
    rw [List.countP_append, List.countP_singleton, waits]
    exact parted.told
  once := parted.once
  parting := by
    intro i other there parting
    rcases last_or_same there with ⟨_, rfl⟩ | before
    · rcases new with rfl | rfl <;> cases parting
    · exact parted.parting i other before parting
  requested := by
    intro i other request there did
    rcases last_or_same there with ⟨rfl, _⟩ | before
    · exact absurd (tried.numbered _ _ did) (Nat.lt_irrefl _)
    · exact parted.requested i other request before did
  others := parted.others
  returned := by
    intro i result there
    rcases last_or_same there with ⟨_, this⟩ | before
    · rcases new with rfl | rfl <;> cases this
    · exact parted.returned i result before

theorem going (there : system.calls[i]? = some call) (same : called.isCreate = call.isCreate)
    (told : (if called.isDisconnecting then 1 else 0) + deeds.countP Deed.isDisconnect ≤
      (if call.isDisconnecting then 1 else 0) + deeds.countP Deed.endsRunning)
    (once : deeds.countP Deed.endsRunning + left.runs ≤
      deeds.countP Deed.isAccepted + system.connection.runs)
    (parting : called.isParting = true → call.isParting = true ∨ .closing .running ∈ deeds)
    (requested : ∀ request, .requested request ∈ deeds →
      MayRequest system.history i called request)
    (returned : ∀ result, called = .close (.done result) →
      call.isParting = true ∨ result = .ok () ∧ ∃ found, .closing found ∈ deeds) :
    (system.going i called deeds left).Parted where
  told := by
    have counts := countP_set_add there called Call.isDisconnecting
    have before := parted.told
    rw [count_going, count_going]
    show (system.calls.set i called).countP Call.isDisconnecting + _ ≤ _
    omega
  once := by
    have before := parted.once
    rw [count_going, count_going]
    show _ + left.runs ≤ _
    omega
  parting := by
    intro j other now partingNow
    rw [mem_going]
    rcases replaced_or_same now with ⟨rfl, rfl⟩ | ⟨_, before⟩
    · rcases parting partingNow with before | new
      · exact .inl (parted.parting j call there before)
      · exact .inr ⟨rfl, new⟩
    · exact .inl (parted.parting j other before partingNow)
  requested := by
    intro j other request now did
    have longer : system.history <+: (system.going i called deeds left).history :=
      List.prefix_append _ _
    rcases mem_going.mp did with old | ⟨this, new⟩
    · rcases replaced_or_same now with ⟨rfl, rfl⟩ | ⟨_, before⟩
      · exact (parted.requested j call request there old).extends longer same
      · exact (parted.requested j other request before old).extends longer rfl
    · cases this
      rcases replaced_or_same now with ⟨_, rfl⟩ | ⟨apart, _⟩
      · exact (requested request new).extends longer rfl
      · exact absurd rfl apart
  others := by
    rw [mem_going]
    rintro (before | ⟨⟨⟩, _⟩)
    exact parted.others before
  returned := by
    intro j result now
    simp only [mem_going]
    rcases replaced_or_same now with ⟨rfl, this⟩ | ⟨_, before⟩
    · rcases returned result this.symm with parting | ⟨fine, found, new⟩
      · exact .inl (.inl (parted.parting j call there parting))
      · exact .inr ⟨fine, found, .inr ⟨rfl, new⟩⟩
    · rcases parted.returned j result before with running | ⟨fine, found, old⟩
      · exact .inl (.inl running)
      · exact .inr ⟨fine, found, .inl old⟩

theorem elsewhere (other : system.connection.Elsewhere left) : (system.elsewhere left).Parted := by
  have none : (system.connection.requested left).countP Deed.isDisconnect = 0 := by
    rw [List.countP_eq_zero]
    intro deed member disconnects
    obtain ⟨request, rfl⟩ := onlyRequests_requested _ _ deed member
    cases request with
    | disconnect => exact other.stays member
    | _ => cases disconnects
  have only := onlyRequests_requested system.connection left
  have phase : left.phase = system.connection.phase := by
    obtain ⟨polling, feed, rfl⟩ := other.kin
    rfl
  have mine {i : Nat} {deed : Deed} : (some i, deed) ∈ (system.elsewhere left).history ↔
      (some i, deed) ∈ system.history := by
    rw [System.elsewhere, mem_doing]
    constructor
    · rintro (before | ⟨⟨⟩, _⟩)
      exact before
    · exact .inl
  refine ⟨?_, ?_, ?_, ?_, ?_, ?_⟩
  · rw [System.elsewhere, count_doing, count_doing, none, only.countP_eq_zero fun _ => rfl]
    exact parted.told
  · rw [System.elsewhere, count_doing, count_doing, only.countP_eq_zero fun _ => rfl,
      only.countP_eq_zero fun _ => rfl]
    show _ + left.runs ≤ _
    rw [runs_of_same phase]
    exact parted.once
  · intro i call there parting
    exact mine.mpr (parted.parting i call there parting)
  · intro i call request there did
    have may := parted.requested i call request there (mine.mp did)
    exact may.extends (List.prefix_append _ _) rfl
  · rw [System.elsewhere, mem_doing]
    rintro (before | ⟨_, new⟩)
    · exact parted.others before
    · exact other.stays new
  · intro i result there
    simp only [mine]
    exact parted.returned i result there

theorem keeps (there : system.calls[i]? = some call) (same : called.isCreate = call.isCreate)
    (waits : called.isDisconnecting = false) (parting : called.isParting = true → call.isParting = true)
    (phase : left.phase = system.connection.phase)
    (returned : ∀ result, called = .close (.done result) → call.isParting = true) :
    (system.going i called [] left).Parted := by
  refine parted.going there same ?_ ?_ (fun now => .inl (parting now)) (by rintro _ ⟨⟩)
    (fun result done => .inl (returned result done))
  · rw [waits]
    exact Nat.zero_le _
  · rw [runs_of_same phase]
    exact Nat.le_refl _

theorem went (tried : system.Tried start) (sound : system.Sound start) (went : system.Goes next) :
    next.Parted := by
  cases went with
  | stays => exact parted
  | begins call new => exact parted.begins tried new
  | asks there points =>
    rcases points with ⟨rfl, rfl⟩ | ⟨rfl, rfl⟩
    · exact parted.keeps there rfl rfl (by rintro ⟨⟩) rfl (by rintro _ ⟨⟩)
    · exact parted.keeps there rfl rfl (by rintro ⟨⟩) rfl (by rintro _ ⟨⟩)
  | findsRunning there => exact parted.keeps there rfl rfl (by rintro ⟨⟩) rfl (by rintro _ ⟨⟩)
  | findsClosed there => exact parted.keeps there rfl rfl (by rintro ⟨⟩) rfl (by rintro _ ⟨⟩)
  | findsIdle there _ found =>
    exact parted.going there rfl (Nat.le_refl _) (by simp [runs, found, Deed.endsRunning])
      (by rintro ⟨⟩) (by simp) (by rintro _ ⟨⟩)
  | fails there =>
    rw [sound.concludeDeeds_of_flying there]
    exact parted.going there rfl (Nat.le_refl _) (by simp [runs, Deed.endsRunning])
      (by rintro ⟨⟩) (by simp) (by rintro _ ⟨⟩)
  | connects there =>
    exact parted.going there rfl (Nat.le_refl _) (Nat.le_add_right 1 system.connection.runs)
      (by rintro ⟨⟩) (by simp) (by rintro _ ⟨⟩)
  | opens there =>
    have only := onlyRequests_requested system.connection
      (system.connection.inFeed system.connection.feed.openReceiver.1)
    refine parted.going there rfl ?_ ?_ (by rintro ⟨⟩) ?_ (by rintro _ ⟨⟩)
    · rcases requested_openReceiver system.connection with none | ⟨topic, subscribes⟩
      · rw [none]
        exact Nat.le_refl _
      · rw [subscribes]
        exact Nat.le_refl _
    · rw [only.countP_eq_zero fun _ => rfl, only.countP_eq_zero fun _ => rfl]
      exact Nat.le_refl _
    · intro request member
      rcases requested_openReceiver system.connection with none | ⟨topic, subscribes⟩
      · rw [none] at member
        cases member
      · rw [subscribes, List.mem_singleton, Deed.requested.injEq] at member
        exact .inl ⟨rfl, topic, member⟩
  | closesRunning there _ found =>
    refine parted.going there rfl (Nat.le_refl _) ?_ (fun _ => .inr List.mem_cons_self) (by simp)
      (by rintro _ ⟨⟩)
    rw [runs_eq_one found]
    exact Nat.le_refl _
  | closesIdle there =>
    refine parted.going there rfl (Nat.le_refl _) (Nat.zero_le _) (by rintro ⟨⟩) (by simp) ?_
    rintro _ ⟨⟩
    exact .inr ⟨rfl, _, List.mem_cons_self⟩
  | closesClosed there =>
    refine parted.going there rfl (Nat.le_refl _) (Nat.zero_le _) (by rintro ⟨⟩) (by simp) ?_
    rintro _ ⟨⟩
    exact .inr ⟨rfl, _, List.mem_cons_self⟩
  | @disconnects i there =>
    refine parted.going there rfl (Nat.le_refl _) ?_ (fun _ => .inl rfl) ?_ (by rintro _ ⟨⟩)
    · rw [runs_of_same rfl]
      exact Nat.le_refl _
    · intro request member
      rw [List.mem_singleton, Deed.requested.injEq] at member
      exact .inr ⟨rfl, member, parted.parting i _ there rfl⟩
  | refused there kept =>
    obtain ⟨polling, feed, rfl⟩ := kept.kin
    exact parted.keeps there rfl rfl (by rintro ⟨⟩) rfl (fun _ _ => rfl)
  | closed there kept =>
    obtain ⟨polling, feed, rfl⟩ := kept.kin
    exact parted.keeps there rfl rfl (by rintro ⟨⟩) rfl (fun _ _ => rfl)
  | elsewhere other => exact parted.elsewhere other

end Parted

theorem parted_initial (idle : start.phase = .idle) : (initial start).Parted where
  told := Nat.le_refl _
  once := by
    show 0 + start.runs ≤ 0
    simp [runs, idle]
  parting := by rintro i call ⟨⟩
  requested := by rintro i call request ⟨⟩
  others := by rintro ⟨⟩
  returned := by rintro i result ⟨⟩

theorem Reachable.parted (reachable : system.Reachable start) : system.Parted := by
  obtain ⟨⟨factory, params, opened⟩, moves, ran⟩ := reachable
  have went (now later : System Listener)
      (holds : now.Sound start ∧ now.Tried start ∧ now.Parted) (goes : now.Goes later) :
      later.Sound start ∧ later.Tried start ∧ later.Parted := by
    obtain ⟨sound, tried, parted⟩ := holds
    exact ⟨sound.went goes, tried.went sound goes, parted.went tried sound goes⟩
  have idle : start.phase = .idle := by
    unfold ofFactory at opened
    split at opened <;> cases opened
    rfl
  exact (run_induction went ⟨sound_initial opened, tried_initial start, parted_initial idle⟩ ran).2.2

end

end System

end EventRelay.Mqtt.Connection
