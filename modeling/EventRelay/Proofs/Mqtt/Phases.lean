import EventRelay.Proofs.Mqtt.Line

namespace EventRelay.Mqtt.Connection

variable {Listener : Type}

namespace Deed

def isPolling : Deed → Bool
  | .polling => true
  | _ => false

theorem isAccepted_attempted {attempt : Attempt} (unlike : attempt ≠ .accepted) :
    isAccepted (.attempted attempt) = false := by
  cases attempt with
  | accepted => exact absurd rfl unlike
  | _ => rfl

end Deed

theorem not_accepted_of_error {connection : Connection Listener} {attempt : Attempt}
    {e : ProviderError} (error : connection.attemptError? attempt = some e) :
    attempt ≠ .accepted := by
  rintro rfl
  cases error

def Call.isRequesting : Call → Bool
  | .create .subscribe | .close .disconnect => true
  | _ => false

namespace System

section Count

variable (system : System Listener) (kind : Deed → Bool)

theorem count_doing (who : Option Nat) (deeds : List Deed) (left : Connection Listener) :
    (system.doing who deeds left).count kind = system.count kind + deeds.countP kind := by
  simp [count, doing, List.countP_append, List.countP_map, Function.comp_def]

theorem count_going (i : Nat) (called : Call) (deeds : List Deed) (left : Connection Listener) :
    (system.going i called deeds left).count kind = system.count kind + deeds.countP kind :=
  system.count_doing kind (some i) deeds left

end Count

def OnlyRequests (deeds : List Deed) : Prop := ∀ deed ∈ deeds, ∃ request, deed = .requested request

theorem onlyRequests_nil : OnlyRequests [] := by simp [OnlyRequests]

theorem onlyRequests_requested (found left : Connection Listener) :
    OnlyRequests (found.requested left) := by
  intro deed member
  obtain ⟨request, _, rfl⟩ := List.mem_map.mp member
  exact ⟨request, rfl⟩

theorem OnlyRequests.countP_eq_zero {deeds : List Deed} {kind : Deed → Bool}
    (only : OnlyRequests deeds) (other : ∀ request, kind (.requested request) = false) :
    deeds.countP kind = 0 := by
  rw [List.countP_eq_zero]
  intro deed member
  obtain ⟨request, rfl⟩ := only deed member
  simp [other]

/-- What is there because an attempt was accepted: the polling, all that is in the feed, and those who
    are about to queue a request. -/
structure Earned (start : Connection Listener) (system : System Listener) : Prop where
  once : system.count Deed.isAccepted ≤ 1
  polled : system.count Deed.isPolling = system.count Deed.isAccepted
  unpolled : system.count Deed.isAccepted = 0 →
    system.connection.polling ≠ .active ∧ system.connection.feed.created = 0
  untouched : system.count Deed.isAccepted = 0 → system.count Deed.isClosing = 0 →
    system.connection.feed = start.feed
  requesting : ∀ (i : Nat) (call : Call), system.calls[i]? = some call → call.isRequesting = true →
    0 < system.count Deed.isAccepted

structure Sound (start : Connection Listener) (system : System Listener) : Prop
    extends Earned start system where
  inLine : system.InLine
  kin : ∃ phase polling lock feed, system.connection = { start with phase, polling, lock, feed }
  idle : system.connection.phase = .idle →
    system.count Deed.isAccepted = 0 ∧ system.count Deed.isClosing = 0
  running : system.connection.phase = .running →
    system.count Deed.isAccepted = 1 ∧ system.count Deed.isClosing = 0
  closed : system.connection.phase = .closed → 0 < system.count Deed.isClosing ∨
    ∃ i t : Nat, system.calls[i]? = some (.create (.connecting t))
  flying : ∀ i t : Nat, system.calls[i]? = some (.create (.connecting t)) →
    system.connection.phase = .closed ∧
      system.count Deed.isAccepted = 0 ∧ system.count Deed.isClosing = 0

/-- A step that has nothing to do with attempts and with closing. -/
structure Quiet (system next : System Listener) : Prop where
  phase : next.connection.phase = system.connection.phase
  same : ∀ kind, (∀ request, kind (.requested request) = false) → next.count kind = system.count kind
  connecting : ∀ i t : Nat, next.calls[i]? = some (.create (.connecting t)) ↔
    system.calls[i]? = some (.create (.connecting t))
  requesting : ∀ (i : Nat) (call : Call), next.calls[i]? = some call → call.isRequesting = true →
    system.calls[i]? = some call ∨ system.connection.phase = .running
  kin : ∃ polling lock feed, next.connection = { system.connection with polling, lock, feed }
  cause : next.connection.polling = system.connection.polling ∧
      next.connection.feed = system.connection.feed ∨
    system.connection.polling = .active ∨ 0 < system.connection.feed.created ∨
      ∃ (i : Nat) (call : Call), system.calls[i]? = some call ∧ call.isRequesting = true

section

variable {start : Connection Listener} {system next : System Listener} {i t : Nat}
  {call called : Call} {deeds : List Deed} {left : Connection Listener}

theorem quiet_begins (new : call = .create .enter ∨ call = .close .enter) :
    system.Quiet (system.calling call) where
  phase := rfl
  same := fun _ _ => rfl
  connecting := by
    intro i t
    constructor
    · intro there
      rcases last_or_same there with ⟨_, rfl⟩ | before
      · rcases new with new | new <;> cases new
      · exact before
    · intro there
      obtain ⟨inside, _⟩ := List.getElem?_eq_some_iff.mp there
      exact (List.getElem?_append_left inside).trans there
  requesting := by
    intro i other there requests
    rcases last_or_same there with ⟨_, rfl⟩ | before
    · rcases new with rfl | rfl <;> cases requests
    · exact .inl before
  kin := ⟨_, _, _, rfl⟩
  cause := .inl ⟨rfl, rfl⟩

theorem connecting_going (there : system.calls[i]? = some call) (unlike : call.isConnecting = false)
    (unlikeToo : called.isConnecting = false) (j t : Nat) :
    (system.going i called deeds left).calls[j]? = some (.create (.connecting t)) ↔
      system.calls[j]? = some (.create (.connecting t)) := by
  obtain ⟨inside, _⟩ := List.getElem?_eq_some_iff.mp there
  show (system.calls.set i called)[j]? = some (.create (.connecting t)) ↔ _
  rw [List.getElem?_set]
  split
  · rename_i same
    subst same
    rw [there]
    constructor
    · rintro ⟨⟩
      cases unlikeToo
    · rintro ⟨⟩
      cases unlike
  · exact Iff.rfl

theorem quiet_going (there : system.calls[i]? = some call) (unlike : call.isConnecting = false)
    (unlikeToo : called.isConnecting = false)
    (running : called.isRequesting = true → system.connection.phase = .running)
    (only : OnlyRequests deeds)
    (kin : ∃ polling lock feed, left = { system.connection with polling, lock, feed })
    (cause : left.polling = system.connection.polling ∧ left.feed = system.connection.feed ∨
      system.connection.polling = .active ∨ 0 < system.connection.feed.created ∨
        ∃ (i : Nat) (call : Call), system.calls[i]? = some call ∧ call.isRequesting = true) :
    system.Quiet (system.going i called deeds left) where
  phase := by
    obtain ⟨polling, lock, feed, rfl⟩ := kin
    rfl
  same := by
    intro kind other
    rw [count_going, only.countP_eq_zero other, Nat.add_zero]
  connecting := connecting_going there unlike unlikeToo
  requesting := by
    intro j other now requests
    rcases replaced_or_same now with ⟨_, rfl⟩ | ⟨_, before⟩
    · exact .inr (running requests)
    · exact .inl before
  kin := kin
  cause := cause

theorem quiet_elsewhere (other : system.connection.Elsewhere left) :
    system.Quiet (system.elsewhere left) where
  phase := by
    obtain ⟨polling, feed, rfl⟩ := other.kin
    rfl
  same := by
    intro kind unlike
    rw [elsewhere, count_doing, (onlyRequests_requested _ _).countP_eq_zero unlike, Nat.add_zero]
  connecting := fun _ _ => Iff.rfl
  requesting := fun _ _ there _ => .inl there
  kin := by
    obtain ⟨polling, feed, rfl⟩ := other.kin
    exact ⟨_, _, _, rfl⟩
  cause := by
    rcases other.cause with rfl | active | created
    · exact .inl ⟨rfl, rfl⟩
    · exact .inr (.inl active)
    · exact .inr (.inr (.inl created))

theorem quiet_kept (there : system.calls[i]? = some call) (unlike : call.isConnecting = false)
    (unlikeToo : called.isConnecting = false) (waits : called.isRequesting = false)
    (kept : system.connection.Elsewhere left) : system.Quiet (system.going i called [] left) := by
  have quiet := quiet_elsewhere kept
  refine quiet_going there unlike unlikeToo ?_ onlyRequests_nil quiet.kin quiet.cause
  rw [waits]
  rintro ⟨⟩

theorem quiet_requests {feed : Feed Listener} (there : system.calls[i]? = some call)
    (requesting : call.isRequesting = true) (unlike : called.isConnecting = false)
    (waits : called.isRequesting = false) (only : OnlyRequests deeds) :
    system.Quiet (system.going i called deeds (system.connection.inFeed feed)) := by
  refine quiet_going there ?_ unlike ?_ only ⟨_, _, _, rfl⟩
    (.inr (.inr (.inr ⟨i, call, there, requesting⟩)))
  · cases call with
    | create point => cases point <;> first | rfl | cases requesting
    | close point => rfl
  · rw [waits]
    rintro ⟨⟩

namespace Sound

variable (sound : system.Sound start)

include sound

theorem kin_of_kin (kin : ∃ phase polling lock feed,
      left = { system.connection with phase, polling, lock, feed }) :
    ∃ phase polling lock feed, left = { start with phase, polling, lock, feed } := by
  obtain ⟨phase, polling, lock, feed, same⟩ := sound.kin
  obtain ⟨phase', polling', lock', feed', rfl⟩ := kin
  exact ⟨phase', polling', lock', feed', by rw [same]⟩

theorem earned (accepted : next.count Deed.isAccepted = system.count Deed.isAccepted)
    (closing : next.count Deed.isClosing = system.count Deed.isClosing)
    (polling : next.count Deed.isPolling = system.count Deed.isPolling)
    (kept : system.count Deed.isAccepted = 0 →
      next.connection.polling = system.connection.polling ∧
        next.connection.feed = system.connection.feed)
    (requests : ∀ (i : Nat) (call : Call), next.calls[i]? = some call → call.isRequesting = true →
      system.calls[i]? = some call ∨ system.connection.phase = .running) :
    next.Earned start where
  once := by
    rw [accepted]
    exact sound.once
  polled := by
    rw [polling, accepted]
    exact sound.polled
  unpolled := by
    intro none
    rw [accepted] at none
    rw [(kept none).1, (kept none).2]
    exact sound.unpolled none
  untouched := by
    intro none unclosed
    rw [accepted] at none
    rw [closing] at unclosed
    rw [(kept none).2]
    exact sound.untouched none unclosed
  requesting := by
    intro i call there requesting
    rw [accepted]
    rcases requests i call there requesting with before | running
    · exact sound.requesting i call before requesting
    · rw [(sound.running running).1]
      exact Nat.one_pos

theorem quiet (quiet : system.Quiet next) (inLine : next.InLine) : next.Sound start := by
  have accepted := quiet.same Deed.isAccepted fun _ => rfl
  have closing := quiet.same Deed.isClosing fun _ => rfl
  have polling := quiet.same Deed.isPolling fun _ => rfl
  -- Nothing can have been polled, counted or queued yet if no attempt was accepted.
  have kept (none : system.count Deed.isAccepted = 0) :
      next.connection.polling = system.connection.polling ∧
        next.connection.feed = system.connection.feed := by
    obtain ⟨unpolled, uncreated⟩ := sound.unpolled none
    rcases quiet.cause with same | active | created | ⟨i, call, there, requesting⟩
    · exact same
    · exact absurd active unpolled
    · omega
    · have positive := sound.requesting i call there requesting
      omega
  refine ⟨sound.earned accepted closing polling kept quiet.requesting, inLine, ?_, ?_, ?_, ?_, ?_⟩
  · obtain ⟨polling, lock, feed, same⟩ := quiet.kin
    exact sound.kin_of_kin ⟨_, polling, lock, feed, same⟩
  · rw [quiet.phase, accepted, closing]
    exact sound.idle
  · rw [quiet.phase, accepted, closing]
    exact sound.running
  · rw [quiet.phase, closing]
    simpa only [quiet.connecting] using sound.closed
  · intro i t there
    rw [quiet.phase, accepted, closing]
    exact sound.flying i t ((quiet.connecting i t).mp there)

omit sound in
theorem requests_going {other : Call} {j : Nat}
    (now : (system.going i called deeds left).calls[j]? = some other)
    (waits : called.isRequesting = false) (requesting : other.isRequesting = true) :
    system.calls[j]? = some other ∨ system.connection.phase = .running := by
  rcases replaced_or_same now with ⟨_, rfl⟩ | ⟨_, before⟩
  · rw [waits] at requesting
    cases requesting
  · exact .inl before

theorem not_connecting_after (there : system.calls[i]? = some (.create (.connecting t)))
    (landed : called.isConnecting = false) (j u : Nat) :
    (system.calls.set i called)[j]? ≠ some (.create (.connecting u)) := by
  intro now
  rcases replaced_or_same now with ⟨_, rfl⟩ | ⟨other, before⟩
  · cases landed
  · exact other (sound.inLine.same_of_connecting before there).1

theorem concludeDeeds_of_flying (there : system.calls[i]? = some (.create (.connecting t)))
    (attempt : Attempt) : system.connection.concludeDeeds attempt = [.attempted attempt] := by
  have unpolled := (sound.unpolled (sound.flying i t there).2.1).1
  unfold concludeDeeds
  split
  · rename_i active
    exact absurd active unpolled
  · rfl

theorem tries (there : system.calls[i]? = some (.create (.queued t)))
    (found : system.connection.phase = .idle)
    (same : next = system.going i (.create (.connecting t)) [.attempting]
      { system.connection with phase := .closed }) (inLine : next.InLine) : next.Sound start := by
  have counts (kind : Deed → Bool) (other : kind .attempting = false) :
      next.count kind = system.count kind := by
    rw [same, count_going, List.countP_singleton, other]
    rfl
  have accepted := counts Deed.isAccepted rfl
  have closing := counts Deed.isClosing rfl
  have polling := counts Deed.isPolling rfl
  subst same
  refine ⟨sound.earned accepted closing polling (fun _ => ⟨rfl, rfl⟩)
      (fun j other now => requests_going now rfl), inLine,
    sound.kin_of_kin ⟨_, _, _, _, rfl⟩, ?_, ?_, ?_, ?_⟩
  · rintro ⟨⟩
  · rintro ⟨⟩
  · obtain ⟨inside, _⟩ := List.getElem?_eq_some_iff.mp there
    exact fun _ => .inr ⟨i, t, List.getElem?_set_self inside⟩
  · intro j u _
    rw [accepted, closing]
    exact ⟨rfl, sound.idle found⟩

theorem fails {attempt : Attempt} {e : ProviderError}
    (there : system.calls[i]? = some (.create (.connecting t)))
    (error : system.connection.attemptError? attempt = some e)
    (same : next = system.going i (.create (.done (.error e)))
      (system.connection.concludeDeeds attempt)
      { system.connection with lock := system.connection.lock.release, phase := .idle })
    (inLine : next.InLine) : next.Sound start := by
  have counts (kind : Deed → Bool) (other : kind (.attempted attempt) = false) :
      next.count kind = system.count kind := by
    rw [same, count_going, sound.concludeDeeds_of_flying there, List.countP_singleton, other]
    rfl
  have accepted := counts Deed.isAccepted (Deed.isAccepted_attempted (not_accepted_of_error error))
  have closing := counts Deed.isClosing rfl
  have polling := counts Deed.isPolling rfl
  obtain ⟨_, unaccepted, unclosed⟩ := sound.flying i t there
  subst same
  refine ⟨sound.earned accepted closing polling (fun _ => ⟨rfl, rfl⟩)
      (fun j other now => requests_going now rfl), inLine,
    sound.kin_of_kin ⟨_, _, _, _, rfl⟩, ?_, ?_, ?_, ?_⟩
  · rw [accepted, closing]
    exact fun _ => ⟨unaccepted, unclosed⟩
  · rintro ⟨⟩
  · rintro ⟨⟩
  · intro j u now
    exact absurd now (sound.not_connecting_after there rfl j u)

theorem connects (there : system.calls[i]? = some (.create (.connecting t)))
    (same : next = system.going i (.create .subscribe) [.attempted .accepted, .polling]
      { system.connection with
        lock := system.connection.lock.release, phase := .running, polling := .active })
    (inLine : next.InLine) : next.Sound start := by
  obtain ⟨_, unaccepted, unclosed⟩ := sound.flying i t there
  have accepted : next.count Deed.isAccepted = 1 := by
    rw [same, count_going, unaccepted]
    rfl
  have closing : next.count Deed.isClosing = 0 := by
    rw [same, count_going, unclosed]
    rfl
  have polling : next.count Deed.isPolling = 1 := by
    rw [same, count_going, sound.polled, unaccepted]
    rfl
  subst same
  refine ⟨⟨Nat.le_of_eq accepted, polling.trans accepted.symm, ?_, ?_, ?_⟩, inLine,
    sound.kin_of_kin ⟨_, _, _, _, rfl⟩, ?_, ?_, ?_, ?_⟩
  · rw [accepted]
    rintro ⟨⟩
  · rw [accepted]
    rintro ⟨⟩
  · intro j _ _ _
    rw [accepted]
    exact Nat.one_pos
  · rintro ⟨⟩
  · exact fun _ => ⟨accepted, closing⟩
  · rintro ⟨⟩
  · intro j u now
    exact absurd now (sound.not_connecting_after there rfl j u)

theorem closes {point : Close} {found : Phase} (there : system.calls[i]? = some (.close (.queued t)))
    (turn : system.connection.lock.isHeldBy t = true)
    (same : next = system.going i (.close point) [.closing found] left)
    (phase : left.phase = .closed)
    (kin : ∃ phase polling lock feed, left = { system.connection with phase, polling, lock, feed })
    (unpolled : left.polling = system.connection.polling ∨ left.polling = .ended)
    (created : left.feed.created = system.connection.feed.created)
    (requesting : (Call.close point).isRequesting = true → system.connection.phase = .running)
    (inLine : next.InLine) : next.Sound start := by
  have accepted : next.count Deed.isAccepted = system.count Deed.isAccepted := by
    rw [same, count_going]
    rfl
  have closing : next.count Deed.isClosing = system.count Deed.isClosing + 1 := by
    rw [same, count_going]
    rfl
  have polling : next.count Deed.isPolling = system.count Deed.isPolling := by
    rw [same, count_going]
    rfl
  have nobody (j u : Nat) : next.calls[j]? ≠ some (.create (.connecting u)) := by
    intro now
    rw [same] at now
    rcases replaced_or_same now with ⟨_, other⟩ | ⟨other, before⟩
    · cases other
    · exact sound.inLine.not_connecting_of_turn there rfl turn other before
  have closed : next.connection.phase = .closed := by rw [same]; exact phase
  refine ⟨⟨?_, ?_, ?_, ?_, ?_⟩, inLine, ?_, ?_, ?_, ?_, ?_⟩
  · rw [accepted]
    exact sound.once
  · rw [polling, accepted]
    exact sound.polled
  · intro unaccepted
    rw [accepted] at unaccepted
    obtain ⟨inactive, uncreated⟩ := sound.unpolled unaccepted
    rw [same]
    refine ⟨?_, created.trans uncreated⟩
    rcases unpolled with kept | ended
    · exact kept ▸ inactive
    · show left.polling ≠ .active
      simp [ended]
  · rw [closing]
    rintro _ ⟨⟩
  · intro j call now asks
    rw [accepted]
    rw [same] at now
    rcases replaced_or_same now with ⟨_, rfl⟩ | ⟨_, before⟩
    · rw [(sound.running (requesting asks)).1]
      exact Nat.one_pos
    · exact sound.requesting j call before asks
  · rw [same]
    exact sound.kin_of_kin kin
  · rw [closed]
    rintro ⟨⟩
  · rw [closed]
    rintro ⟨⟩
  · intro _
    rw [closing]
    exact .inl (Nat.succ_pos _)
  · intro j u now
    exact absurd now (nobody j u)

theorem went (went : system.Goes next) : next.Sound start := by
  have inLine := sound.inLine.went went
  -- Attempts and closes change what the phase says; every other step is quiet.
  cases went with
  | stays => exact sound
  | begins call new => exact sound.quiet (quiet_begins new) inLine
  | asks there points =>
    refine sound.quiet (quiet_going there ?_ ?_ ?_ onlyRequests_nil ⟨_, _, _, rfl⟩
      (.inl ⟨rfl, rfl⟩)) inLine
    · rcases points with ⟨rfl, _⟩ | ⟨rfl, _⟩ <;> rfl
    · rcases points with ⟨_, rfl⟩ | ⟨_, rfl⟩ <;> rfl
    · rcases points with ⟨_, rfl⟩ | ⟨_, rfl⟩ <;> rintro ⟨⟩
  | findsRunning there _ found =>
    exact sound.quiet (quiet_going there rfl rfl (fun _ => found) onlyRequests_nil ⟨_, _, _, rfl⟩
      (.inl ⟨rfl, rfl⟩)) inLine
  | findsClosed there =>
    exact sound.quiet (quiet_going there rfl rfl (by rintro ⟨⟩) onlyRequests_nil ⟨_, _, _, rfl⟩
      (.inl ⟨rfl, rfl⟩)) inLine
  | findsIdle there _ found => exact sound.tries there found rfl inLine
  | fails there error => exact sound.fails there error rfl inLine
  | connects there => exact sound.connects there rfl inLine
  | opens there =>
    exact sound.quiet (quiet_requests there rfl rfl rfl (onlyRequests_requested _ _)) inLine
  | closesRunning there turn found =>
    exact sound.closes there turn rfl rfl ⟨_, _, _, _, rfl⟩ (.inl rfl) rfl (fun _ => found) inLine
  | closesIdle there turn =>
    exact sound.closes there turn rfl rfl ⟨_, _, _, _, rfl⟩ (.inr rfl) rfl (by rintro ⟨⟩) inLine
  | closesClosed there turn =>
    exact sound.closes there turn rfl rfl ⟨_, _, _, _, rfl⟩ (.inl rfl) rfl (by rintro ⟨⟩) inLine
  | disconnects there =>
    refine sound.quiet (quiet_requests there rfl rfl rfl ?_) inLine
    intro deed member
    exact ⟨_, List.mem_singleton.mp member⟩
  | refused there kept => exact sound.quiet (quiet_kept there rfl rfl rfl kept) inLine
  | closed there kept => exact sound.quiet (quiet_kept there rfl rfl rfl kept) inLine
  | elsewhere other => exact sound.quiet (quiet_elsewhere other) inLine

end Sound

theorem sound_initial {factory : Factory} {params : ConnectionParams}
    (opened : ofFactory factory params = .ok start) : (initial start).Sound start := by
  unfold ofFactory at opened
  split at opened
  · cases opened
  · rename_i settings _
    cases opened
    exact {
      inLine := inLine_initial rfl
      kin := ⟨_, _, _, _, rfl⟩
      idle := fun _ => ⟨rfl, rfl⟩
      running := by rintro ⟨⟩
      closed := by rintro ⟨⟩
      flying := by rintro i t ⟨⟩
      once := Nat.zero_le 1
      polled := rfl
      unpolled := fun _ => ⟨by rintro ⟨⟩, rfl⟩
      untouched := fun _ _ => rfl
      requesting := by rintro i call ⟨⟩ }

theorem Reachable.sound (reachable : system.Reachable start) : system.Sound start := by
  obtain ⟨⟨factory, params, opened⟩, moves, ran⟩ := reachable
  exact run_induction (fun _ _ sound went => sound.went went) (sound_initial opened) ran

end

end System

end EventRelay.Mqtt.Connection
