import EventRelay.Proofs.Mqtt.Closing

namespace EventRelay.Mqtt.Connection

variable {Listener : Type}

namespace Create

/-- Where a call has not begun yet, or waits, so that whoever made it may drop it. -/
def waits : Create → Bool
  | .enter | .queued _ | .connecting _ => true
  | _ => false

/-- Where an abandoned call stays. Nobody is left who would be told this. -/
def abandoned : Create := .done (.error (.connection "abandoned"))

end Create

structure Callers (Listener : Type) where
  system : System Listener
  abandoned : List (Nat × Create) := []

namespace Callers

inductive Act (Listener : Type)
  | move (move : Move Listener)
  | abandon (call : Nat)

/-- An attempt was lost: whoever waited for its end was abandoned. -/
def Lost (callers : Callers Listener) : Prop :=
  ∃ i t : Nat, (i, Create.connecting t) ∈ callers.abandoned

def leaving (callers : Callers Listener) (i : Nat) (point : Create) : Callers Listener where
  system := callers.system.going i (.create .abandoned) []
    (callers.system.connection.abandonCreate point)
  abandoned := callers.abandoned ++ [(i, point)]

def step (callers : Callers Listener) : Act Listener → Option (Callers Listener)
  | .move .close => none
  | .move move => (callers.system.step move).map fun system => { callers with system }
  | .abandon i =>
    match callers.system.calls[i]? with
    | some (.create point) => if point.waits then some (callers.leaving i point) else none
    | _ => none

def run (callers : Callers Listener) : List (Act Listener) → Option (Callers Listener)
  | [] => some callers
  | act :: acts =>
    match callers.step act with
    | none => none
    | some next => next.run acts

def initial (start : Connection Listener) : Callers Listener := { system := .initial start }

/-- Some calls, of which some are abandoned, can bring the connection here that a factory opened as
    `start`. -/
def Reachable (start : Connection Listener) (callers : Callers Listener) : Prop :=
  (∃ factory params, ofFactory factory params = .ok start) ∧
    ∃ acts, (initial start).run acts = some callers

/-- What a call can be told: how its own attempt failed; a receiver, or that the subscription was refused;
    or, once an attempt was lost, that the connection is closed. -/
def Told (start : Connection Listener) (callers : Callers Listener) (i : Nat)
    (result : Except ProviderError Nat) : Prop :=
  (∃ attempt e, (some i, .attempted attempt) ∈ callers.system.history ∧
    start.attemptError? attempt = some e ∧ result = .error e) ∨
  (∃ receiver, result = .ok receiver) ∨ (∃ topic reason, result = .error (.subscribe topic reason)) ∨
  callers.Lost ∧ result = .error start.closedError

structure Standing (start : Connection Listener) (callers : Callers Listener) : Prop where
  creates : ∀ call ∈ callers.system.calls, call.isCreate = true
  unclosed : callers.system.count Deed.isClosing = 0
  inLine : callers.system.InLine
  kin : ∃ phase polling lock feed,
    callers.system.connection = { start with phase, polling, lock, feed }
  sound : ¬ callers.Lost → callers.system.Sound start
  shut : callers.Lost → callers.system.Shut
  told : ∀ (i : Nat) (result : Except ProviderError Nat),
    callers.system.calls[i]? = some (.create (.done result)) →
      (∃ point, (i, point) ∈ callers.abandoned) ∨ callers.Told start i result

end Callers

namespace System

variable {system next : System Listener} {i : Nat}

theorem Goes.kin (went : system.Goes next) : ∃ phase polling lock feed,
    next.connection = { system.connection with phase, polling, lock, feed } := by
  cases went with
  | refused there kept | closed there kept | elsewhere kept =>
    obtain ⟨polling, feed, rfl⟩ := kept.kin
    exact ⟨_, _, _, _, rfl⟩
  | _ => exact ⟨_, _, _, _, rfl⟩

theorem creates_of_step {move : Move Listener} (other : move ≠ .close)
    (creates : ∀ call ∈ system.calls, call.isCreate = true)
    (stepped : system.step move = some next) :
    (∀ call ∈ next.calls, call.isCreate = true) ∧
      next.count Deed.isClosing = system.count Deed.isClosing := by
  have going {i : Nat} {point : Create} {deeds : List Deed} {left : Connection Listener}
      (open_ : deeds.countP Deed.isClosing = 0) :
      (∀ call ∈ (system.going i (.create point) deeds left).calls, call.isCreate = true) ∧
        (system.going i (.create point) deeds left).count Deed.isClosing =
          system.count Deed.isClosing := by
    refine ⟨?_, ?_⟩
    · intro call member
      rcases List.mem_or_eq_of_mem_set member with before | rfl
      · exact creates call before
      · rfl
    · rw [count_going, open_, Nat.add_zero]
  have elsewhere (left : Connection Listener) :
      (∀ call ∈ (system.elsewhere left).calls, call.isCreate = true) ∧
        (system.elsewhere left).count Deed.isClosing = system.count Deed.isClosing := by
    refine ⟨creates, ?_⟩
    rw [System.elsewhere, count_doing,
      (onlyRequests_requested _ _).countP_eq_zero fun _ => rfl, Nat.add_zero]
  have requested (left : Connection Listener) :
      (system.connection.requested left).countP Deed.isClosing = 0 :=
    (onlyRequests_requested _ _).countP_eq_zero fun _ => rfl
  cases move with
  | close => exact absurd rfl other
  | create =>
    cases stepped
    refine ⟨?_, rfl⟩
    intro call member
    rcases List.mem_append.mp member with before | new
    · exact creates call before
    · rw [List.mem_singleton.mp new]
      rfl
  | go i =>
    simp only [step, Option.map_eq_some_iff] at stepped
    obtain ⟨call, there, rfl⟩ := stepped
    cases call with
    | close point => cases creates _ (List.mem_of_getElem? there)
    | create point =>
      apply going
      rw [List.countP_append, requested]
      unfold createDeeds
      split <;> rfl
  | conclude i attempt =>
    obtain ⟨t, there⟩ := connecting_of_conclude stepped
    simp only [step, there] at stepped
    cases stepped
    apply going
    rw [List.countP_append, requested]
    unfold concludeDeeds
    split <;> rfl
  | expire i =>
    obtain ⟨there, _⟩ := of_step_expire stepped
    cases creates _ (List.mem_of_getElem? there)
  | poll polled =>
    cases stepped
    exact elsewhere _
  | take count =>
    obtain ⟨_, rfl⟩ := of_step_take stepped
    exact elsewhere _
  | await idle =>
    obtain ⟨_, rfl⟩ := of_step_await stepped
    exact elsewhere _
  | setListener receiver listener =>
    obtain ⟨_, rfl⟩ := of_step_setListener stepped
    exact elsewhere _
  | closeReceiver receiver =>
    obtain ⟨_, rfl⟩ := of_step_closeReceiver stepped
    exact elsewhere _

theorem Goes.answers (went : system.Goes next) {result : Except ProviderError Nat}
    (there : next.calls[i]? = some (.create (.done result))) :
    system.calls[i]? = some (.create (.done result)) ∨
    (∃ attempt e, (some i, .attempted attempt) ∈ next.history ∧
      system.connection.attemptError? attempt = some e ∧ result = .error e) ∨
    (∃ receiver, result = .ok receiver) ∨
    (∃ topic reason, result = .error (.subscribe topic reason)) ∨
    (∃ t, system.calls[i]? = some (.create (.queued t)) ∧
      system.connection.lock.isHeldBy t = true ∧ system.connection.phase = .closed) ∧
      result = .error system.connection.closedError := by
  cases went with
  | stays | elsewhere => exact .inl there
  | begins call new =>
    rcases last_or_same there with ⟨_, rfl⟩ | before
    · rcases new with new | new <;> cases new
    · exact .inl before
  | asks present points =>
    rcases replaced_or_same there with ⟨_, this⟩ | ⟨_, before⟩
    · rcases points with ⟨_, rfl⟩ | ⟨_, rfl⟩ <;> cases this
    · exact .inl before
  | findsClosed present turn found =>
    rcases replaced_or_same there with ⟨rfl, this⟩ | ⟨_, before⟩
    · cases this
      exact .inr (.inr (.inr (.inr ⟨⟨_, present, turn, found⟩, rfl⟩)))
    · exact .inl before
  | @fails i t attempt e present error =>
    rcases replaced_or_same there with ⟨rfl, this⟩ | ⟨_, before⟩
    · cases this
      refine .inr (.inl ⟨attempt, e, mem_going.mpr (.inr ⟨rfl, ?_⟩), error, rfl⟩)
      unfold concludeDeeds
      split <;> exact List.mem_cons_self
    · exact .inl before
  | opens present =>
    rcases replaced_or_same there with ⟨rfl, this⟩ | ⟨_, before⟩
    · cases this
      rcases system.connection.feed.openReceiver_cases with receiver | refused
      · exact .inr (.inr (.inl receiver))
      · exact .inr (.inr (.inr (.inl refused)))
    · exact .inl before
  | findsRunning | findsIdle | connects | closesRunning | closesIdle | closesClosed | disconnects
  | refused | closed =>
    rcases replaced_or_same there with ⟨_, this⟩ | ⟨_, before⟩
    · cases this
    · exact .inl before

end System

namespace Callers

variable {start : Connection Listener} {callers next : Callers Listener} {i j t : Nat}
  {point : Create}

theorem step_move {move : Move Listener} (other : move ≠ .close) :
    callers.step (.move move) =
      (callers.system.step move).map fun system => { callers with system } := by
  cases move with
  | close => exact absurd rfl other
  | _ => rfl

theorem of_step_move {move : Move Listener} (stepped : callers.step (.move move) = some next) :
    ∃ system, move ≠ .close ∧ callers.system.step move = some system ∧
      next = { callers with system } := by
  have other : move ≠ .close := by
    rintro rfl
    cases stepped
  rw [step_move other, Option.map_eq_some_iff] at stepped
  obtain ⟨system, stepped, rfl⟩ := stepped
  exact ⟨system, other, stepped, rfl⟩

theorem of_step_abandon (stepped : callers.step (.abandon i) = some next) :
    ∃ point, callers.system.calls[i]? = some (.create point) ∧ point.waits = true ∧
      next = callers.leaving i point := by
  simp only [step] at stepped
  split at stepped
  · rename_i point there
    split at stepped
    · rename_i waits
      cases stepped
      exact ⟨point, there, waits, rfl⟩
    · cases stepped
  · cases stepped

theorem lost_leaving : (callers.leaving i point).Lost ↔
    callers.Lost ∨ ∃ t, point = .connecting t := by
  simp only [Lost, leaving, List.mem_append, List.mem_singleton, Prod.mk.injEq]
  constructor
  · rintro ⟨j, t, before | ⟨_, rfl⟩⟩
    · exact .inl ⟨j, t, before⟩
    · exact .inr ⟨t, rfl⟩
  · rintro (⟨j, t, before⟩ | ⟨t, rfl⟩)
    · exact ⟨j, t, .inl before⟩
    · exact ⟨i, t, .inr ⟨rfl, rfl⟩⟩

namespace Standing

variable (standing : Standing start callers)

include standing

theorem closedError_eq : callers.system.connection.closedError = start.closedError := by
  obtain ⟨phase, polling, lock, feed, same⟩ := standing.kin
  rw [same]
  rfl

theorem attemptError?_eq (attempt : Attempt) :
    callers.system.connection.attemptError? attempt = start.attemptError? attempt := by
  obtain ⟨phase, polling, lock, feed, same⟩ := standing.kin
  rw [same]
  rfl

theorem lost_of_turn (there : callers.system.calls[i]? = some (.create (.queued t)))
    (turn : callers.system.connection.lock.isHeldBy t = true)
    (found : callers.system.connection.phase = .closed) : callers.Lost := by
  by_contra kept
  have closing := (standing.sound kept).closing_of_turn there turn found
  have unclosed := standing.unclosed
  omega

theorem moved {system : System Listener} {move : Move Listener} (other : move ≠ .close)
    (stepped : callers.system.step move = some system) :
    Standing start { callers with system } := by
  have went := System.goes_of_step stepped
  obtain ⟨creates, closing⟩ := System.creates_of_step other standing.creates stepped
  refine ⟨creates, closing.trans standing.unclosed, standing.inLine.went went, ?_,
    fun kept => (standing.sound kept).went went, fun lost => (standing.shut lost).went went, ?_⟩
  · obtain ⟨phase, polling, lock, feed, same⟩ := standing.kin
    obtain ⟨phase', polling', lock', feed', sameToo⟩ := went.kin
    exact ⟨phase', polling', lock', feed', by rw [sameToo, same]⟩
  · intro i result there
    rcases went.answers there with
      before | ⟨attempt, e, did, error, same⟩ | receiver | refused | ⟨⟨t, queued, turn, found⟩, same⟩
    · refine (standing.told i result before).imp_right fun told => ?_
      exact told.imp_left fun ⟨attempt, e, did, failed⟩ =>
        ⟨attempt, e, went.extends.subset did, failed⟩
    · rw [standing.attemptError?_eq] at error
      exact .inr (.inl ⟨attempt, e, did, error, same⟩)
    · exact .inr (.inr (.inl receiver))
    · exact .inr (.inr (.inr (.inl refused)))
    · rw [standing.closedError_eq] at same
      exact .inr (.inr (.inr (.inr ⟨standing.lost_of_turn queued turn found, same⟩)))

theorem inLine_leaving (there : callers.system.calls[i]? = some (.create point))
    (waits : point.waits = true) : (callers.leaving i point).system.InLine := by
  cases point with
  | enter => exact standing.inLine.keeps there rfl rfl nofun
  | queued t => exact standing.inLine.forsakes there rfl rfl rfl
  | connecting t => exact standing.inLine.forsakes there rfl rfl rfl
  | _ => cases waits

theorem sound_leaving (there : callers.system.calls[i]? = some (.create point))
    (waits : point.waits = true) (kept : ¬ (callers.leaving i point).Lost) :
    (callers.leaving i point).system.Sound start := by
  have inLine := standing.inLine_leaving there waits
  rw [lost_leaving, not_or] at kept
  have sound := standing.sound kept.1
  cases point with
  | enter =>
    exact sound.quiet (System.quiet_going there rfl rfl nofun System.onlyRequests_nil ⟨_, _, _, rfl⟩
      (.inl ⟨rfl, rfl⟩)) inLine
  | queued t =>
    exact sound.quiet (System.quiet_going there rfl rfl nofun System.onlyRequests_nil ⟨_, _, _, rfl⟩
      (.inl ⟨rfl, rfl⟩)) inLine
  | connecting t => exact absurd ⟨t, rfl⟩ kept.2
  | _ => cases waits

theorem shut_leaving (there : callers.system.calls[i]? = some (.create point))
    (waits : point.waits = true) (lost : (callers.leaving i point).Lost) :
    (callers.leaving i point).system.Shut := by
  by_cases before : callers.Lost
  · have shut := standing.shut before
    cases point with
    | enter => exact shut.going rfl shut.closed
    | queued t => exact shut.going rfl shut.closed
    | connecting t => exact absurd there (shut.nobody i t)
    | _ => cases waits
  · obtain ⟨t, rfl⟩ := (lost_leaving.mp lost).resolve_left before
    have sound := standing.sound before
    refine ⟨(sound.flying i t there).1, fun j u => ?_⟩
    exact sound.not_connecting_after there rfl j u

theorem left (there : callers.system.calls[i]? = some (.create point))
    (waits : point.waits = true) : Standing start (callers.leaving i point) := by
  refine ⟨?_, ?_, standing.inLine_leaving there waits, ?_, standing.sound_leaving there waits,
    standing.shut_leaving there waits, ?_⟩
  · intro call member
    rcases List.mem_or_eq_of_mem_set member with before | rfl
    · exact standing.creates call before
    · rfl
  · rw [leaving, System.count_going]
    exact standing.unclosed
  · obtain ⟨phase, polling, lock, feed, same⟩ := standing.kin
    cases point with
    | queued t | connecting t => exact ⟨_, _, _, _, by rw [leaving, same]; rfl⟩
    | _ => exact ⟨_, _, _, _, same⟩
  · intro j result now
    rcases replaced_or_same now with ⟨rfl, _⟩ | ⟨_, before⟩
    · exact .inl ⟨point, List.mem_append_right _ List.mem_cons_self⟩
    · rcases standing.told j result before with ⟨other, gone⟩ | told
      · exact .inl ⟨other, List.mem_append_left _ gone⟩
      · refine .inr ?_
        rcases told with own | receiver | refused | ⟨lost, same⟩
        · obtain ⟨attempt, e, did, failed⟩ := own
          exact .inl ⟨attempt, e, System.mem_going.mpr (.inl did), failed⟩
        · exact .inr (.inl receiver)
        · exact .inr (.inr (.inl refused))
        · exact .inr (.inr (.inr ⟨lost_leaving.mpr (.inl lost), same⟩))

theorem went {act : Act Listener} (stepped : callers.step act = some next) : Standing start next := by
  cases act with
  | move move =>
    obtain ⟨system, other, moved, rfl⟩ := of_step_move stepped
    exact standing.moved other moved
  | abandon i =>
    obtain ⟨point, there, waits, rfl⟩ := of_step_abandon stepped
    exact standing.left there waits

theorem run {acts : List (Act Listener)} (ran : callers.run acts = some next) :
    Standing start next := by
  induction acts generalizing callers with
  | nil =>
    cases ran
    exact standing
  | cons act acts ih =>
    simp only [Callers.run] at ran
    split at ran
    · cases ran
    · rename_i stepped
      exact ih (standing.went stepped) ran

end Standing

theorem Reachable.standing (reachable : callers.Reachable start) : Standing start callers := by
  obtain ⟨⟨factory, params, opened⟩, acts, ran⟩ := reachable
  have sound := System.sound_initial opened
  have standing : Standing start (initial start) := by
    refine ⟨nofun, rfl, sound.inLine, sound.kin, fun _ => sound, ?_, nofun⟩
    rintro ⟨_, _, ⟨⟩⟩
  exact standing.run ran

theorem lost_of_run {acts : List (Act Listener)} (ran : callers.run acts = some next)
    (lost : callers.Lost) : next.Lost := by
  induction acts generalizing callers with
  | nil =>
    cases ran
    exact lost
  | cons act acts ih =>
    simp only [run] at ran
    split at ran
    · cases ran
    · rename_i later stepped
      refine ih ran ?_
      cases act with
      | move move =>
        obtain ⟨system, _, _, rfl⟩ := of_step_move stepped
        exact lost
      | abandon i =>
        obtain ⟨point, _, _, rfl⟩ := of_step_abandon stepped
        exact lost_leaving.mpr (.inl lost)

theorem run_moves {moves : List (Move Listener)} {system : System Listener}
    (open_ : ∀ move ∈ moves, move ≠ .close) (ran : callers.system.run moves = some system) :
    callers.run (moves.map .move) = some { callers with system } := by
  induction moves generalizing callers with
  | nil =>
    cases ran
    rfl
  | cons move moves ih =>
    obtain ⟨here, others⟩ := List.forall_mem_cons.mp open_
    simp only [System.run] at ran
    split at ran
    · cases ran
    · rename_i later stepped
      have moved : callers.step (.move move) = some { callers with system := later } := by
        rw [step_move here, stepped]
        rfl
      simp only [List.map_cons, run, moved]
      exact @ih { callers with system := later } others ran

def Leads (callers : Callers Listener) (move : Move Listener) (i : Nat) (point : Create) : Prop :=
  ∃ next, callers.step (.move move) = some next ∧ next.system.calls[i]? = some (.create point)

theorem leads_of_leads {move : Move Listener} (other : move ≠ .close)
    (leads : callers.system.Leads move i (.create point)) : callers.Leads move i point := by
  obtain ⟨system, stepped, there⟩ := leads
  refine ⟨{ callers with system }, ?_, there⟩
  rw [step_move other, stepped]
  rfl

theorem open_of_unaided {outcome : Nat → Attempt} {moves : List (Move Listener)}
    (unaided : System.Unaided outcome moves) : ∀ move ∈ moves, move ≠ .close := by
  intro move member
  obtain ⟨k, rfl | rfl⟩ := unaided move member <;> nofun

namespace Standing

variable (standing : Standing start callers)

include standing

theorem closed_iff : callers.system.connection.phase = .closed ↔
    callers.Lost ∨ ∃ i t : Nat, callers.system.calls[i]? = some (.create (.connecting t)) := by
  constructor
  · intro closed
    by_cases lost : callers.Lost
    · exact .inl lost
    · rcases (standing.sound lost).closed closed with closing | flying
      · have unclosed := standing.unclosed
        omega
      · exact .inr flying
  · rintro (lost | ⟨i, t, flying⟩)
    · exact (standing.shut lost).closed
    · by_cases lost : callers.Lost
      · exact (standing.shut lost).closed
      · exact ((standing.sound lost).flying i t flying).1

theorem turn_comes (outcome : Nat → Attempt)
    (there : callers.system.calls[j]? = some (.create (.queued t))) :
    ∃ moves after, callers.run (moves.map .move) = some after ∧ System.Unaided outcome moves ∧
      (after.Lost ↔ callers.Lost) ∧
      after.system.calls[j]? = some (.create (.queued t)) ∧
      after.system.connection.lock.isHeldBy t = true := by
  obtain ⟨moves, system, ran, unaided, _, waits, turn⟩ :=
    standing.inLine.turn_comes outcome there rfl
  exact ⟨moves, { callers with system }, run_moves (open_of_unaided unaided) ran, unaided, Iff.rfl,
    waits, turn⟩

theorem refused_of_turn (lost : callers.Lost)
    (there : callers.system.calls[j]? = some (.create (.queued t)))
    (turn : callers.system.connection.lock.isHeldBy t = true) :
    callers.Leads (.go j) j (.done (.error start.closedError)) := by
  have closed := (standing.shut lost).closed
  rw [← standing.closedError_eq]
  exact leads_of_leads nofun (System.leads_go there (System.goStep_create_closed turn closed))

theorem connects_of_turn (kept : ¬ callers.Lost)
    (there : callers.system.calls[j]? = some (.create (.queued t)))
    (turn : callers.system.connection.lock.isHeldBy t = true) :
    callers.Leads (.go j) j .subscribe ∨
      ∃ tried, callers.step (.move (.go j)) = some tried ∧
        tried.system.calls[j]? = some (.create (.connecting t)) ∧
        tried.Leads (.conclude j .accepted) j .subscribe := by
  cases found : callers.system.connection.phase with
  | running =>
    exact .inl (leads_of_leads nofun
      (System.leads_go there (System.goStep_create_running turn found)))
  | closed => exact absurd (standing.lost_of_turn there turn found) kept
  | idle =>
    have tries : callers.Leads (.go j) j (.connecting t) := leads_of_leads nofun
      (System.leads_go there (System.goStep_create_idle turn found))
    obtain ⟨tried, stepped, flying⟩ := tries
    refine .inr ⟨tried, stepped, flying, leads_of_leads nofun ?_⟩
    exact ⟨_, System.step_conclude_accepted flying, System.calls_going flying⟩

end Standing

/-- A call finds the connection closed at its turn exactly if an attempt was abandoned while it was under
    way. Then every call is refused when its turn comes. Before that none is, whoever was abandoned while
    it waited in line and however attempts have ended: each call whose turn comes finds the connection up
    or tries for itself, and gets its receiver if that attempt is accepted and the subscription can be
    queued. -/
theorem closed_by_abandoned_attempt_alone (reachable : callers.Reachable start) :
    (callers.system.connection.phase = .closed ↔
      callers.Lost ∨ ∃ i t : Nat, callers.system.calls[i]? = some (.create (.connecting t))) ∧
    (∀ i result, callers.system.calls[i]? = some (.create (.done result)) →
      (∀ point, (i, point) ∉ callers.abandoned) → callers.Told start i result) ∧
    (∀ acts later, callers.run acts = some later → callers.Lost → later.Lost) ∧
    (∀ j, callers.system.calls[j]? = some (.create .enter) →
      ∃ t, callers.Leads (.go j) j (.queued t)) ∧
    (∀ (outcome : Nat → Attempt) (j t : Nat),
      callers.system.calls[j]? = some (.create (.queued t)) →
      ∃ moves after, callers.run (moves.map .move) = some after ∧ System.Unaided outcome moves ∧
        (after.Lost ↔ callers.Lost) ∧
        (callers.Lost → after.Leads (.go j) j (.done (.error start.closedError))) ∧
        (¬ callers.Lost → after.Leads (.go j) j .subscribe ∨
          ∃ tried, after.step (.move (.go j)) = some tried ∧
            tried.system.calls[j]? = some (.create (.connecting t)) ∧
            tried.Leads (.conclude j .accepted) j .subscribe)) ∧
    (∀ j, callers.system.calls[j]? = some (.create .subscribe) →
      let feed := callers.system.connection.feed
      (feed.subscription.receivers = 0 → feed.subscription.requests.hasRoom = true) →
      callers.Leads (.go j) j (.done (.ok feed.created))) := by
  have standing := reachable.standing
  refine ⟨standing.closed_iff, ?_, fun acts later => lost_of_run, ?_, ?_, ?_⟩
  · intro i result there kept
    rcases standing.told i result there with ⟨point, gone⟩ | told
    · exact absurd gone (kept point)
    · exact told
  · intro j there
    exact ⟨_, leads_of_leads nofun ⟨_, System.step_go there, System.calls_going there⟩⟩
  · intro outcome j t there
    obtain ⟨moves, after, ran, unaided, lost, waits, turn⟩ := standing.turn_comes outcome there
    have reached := standing.run ran
    refine ⟨moves, after, ran, unaided, lost, ?_, ?_⟩
    · exact fun gone => reached.refused_of_turn (lost.mpr gone) waits turn
    · exact fun kept => reached.connects_of_turn (mt lost.mp kept) waits turn
  · intro j there feed room
    have opened := Feed.openReceiver_of_room room
    rw [← opened]
    exact leads_of_leads nofun ⟨_, System.step_go there, System.calls_going there⟩

def deserted : List (Act Unit) :=
  [.move .create, .move (.go 0), .move (.go 0), .move .create, .move (.go 1), .move .create,
    .move (.go 2), .abandon 1, .abandon 0]

theorem closed_by_abandoned_attempt_alone_deserted :
    ∃ (start : Connection Unit) (callers : Callers Unit), callers.Reachable start ∧
      callers.abandoned = [(1, .queued 1), (0, .connecting 0)] ∧
      callers.system.calls[2]? = some (.create (.queued 2)) ∧
      callers.system.connection.phase = .closed ∧
      ∃ (moves : List (Move Unit)) (after : Callers Unit), callers.run (moves.map .move) = some after ∧
        after.Leads (.go 2) 2 (.done (.error start.closedError)) := by
  obtain ⟨start, callers, reachable, abandoned, waits⟩ :
      ∃ (start : Connection Unit) (callers : Callers Unit), callers.Reachable start ∧
        callers.abandoned = [(1, .queued 1), (0, .connecting 0)] ∧
        callers.system.calls[2]? = some (.create (.queued 2)) :=
    ⟨_, _, ⟨⟨({} : Factory).bind "local" (.forHost "broker"), ⟨"local", "logs/#", none, none⟩, rfl⟩,
      deserted, rfl⟩, rfl, rfl⟩
  obtain ⟨closed, _, _, _, turns, _⟩ := closed_by_abandoned_attempt_alone reachable
  have lost : callers.Lost := ⟨0, 0, by simp [abandoned]⟩
  obtain ⟨moves, after, ran, _, _, refused, _⟩ := turns (fun _ => .accepted) 2 2 waits
  exact ⟨start, callers, reachable, abandoned, waits, closed.mpr (.inl lost), moves, after, ran,
    refused lost⟩

/-- So a call can find a connection closed that nobody closed, although no attempt has failed. -/
theorem not_closed_by_close_alone :
    ¬ ∀ (start : Connection Unit) (callers : Callers Unit) (i : Nat), callers.Reachable start →
      (∀ point, (i, point) ∉ callers.abandoned) →
      (∀ who attempt, (who, .attempted attempt) ∉ callers.system.history) →
      callers.system.calls[i]? ≠ some (.create (.done (.error start.closedError))) := by
  intro welcome
  obtain ⟨start, callers, reachable, abandoned, history, refused⟩ :
      ∃ (start : Connection Unit) (callers : Callers Unit), callers.Reachable start ∧
        callers.abandoned = [(0, .connecting 0)] ∧
        callers.system.history = [(some 0, .attempting)] ∧
        callers.system.calls[1]? = some (.create (.done (.error start.closedError))) :=
    ⟨_, _, ⟨⟨({} : Factory).bind "local" (.forHost "broker"), ⟨"local", "logs/#", none, none⟩, rfl⟩,
      [.move .create, .move (.go 0), .move (.go 0), .abandon 0, .move .create, .move (.go 1),
        .move (.go 1)], rfl⟩, rfl, rfl, rfl⟩
  refine welcome start callers 1 reachable ?_ ?_ refused
  · simp [abandoned]
  · simp [history]

end Callers

end EventRelay.Mqtt.Connection
