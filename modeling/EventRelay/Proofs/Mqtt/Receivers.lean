import Mathlib.Data.List.Nodup
import Mathlib.Data.List.Perm.Basic
import EventRelay.Proofs.Mqtt.Serving

namespace EventRelay.Mqtt.Connection.System

variable {Listener : Type} {system next : System Listener} {moves : List (Move Listener)}
  {move : Move Listener}

def stillOpen (moves : List (Move Listener)) (receiver : Nat) : Bool :=
  !moves.any (·.closes receiver)

theorem stillOpen_concat (moves : List (Move Listener)) (move : Move Listener) (receiver : Nat) :
    stillOpen (moves ++ [move]) receiver = (stillOpen moves receiver && !move.closes receiver) := by
  simp [stillOpen]

theorem stillOpen_concat_other (other : ∀ receiver, move.closes receiver = false) :
    stillOpen (moves ++ [move]) = stillOpen moves := by
  funext receiver
  rw [stillOpen_concat, other, Bool.not_false, Bool.and_true]

/-- The receivers that were given out and not closed. -/
def openAfter (system : System Listener) (moves : List (Move Listener)) : List Nat :=
  system.givenOut.filter (stillOpen moves)

structure Tallied (moves : List (Move Listener)) (system : System Listener) : Prop where
  givenOut : system.givenOut.Perm (List.range system.connection.feed.created)
  closed : ∀ receiver, receiver ∈ system.connection.feed.closed ↔ stillOpen moves receiver = false
  made : ∀ receiver ∈ system.connection.feed.closed, receiver < system.connection.feed.created
  counted : system.connection.feed.subscription.receivers = (system.openAfter moves).length

namespace Tallied

theorem nodup (tallied : Tallied moves system) : system.givenOut.Nodup :=
  tallied.givenOut.nodup_iff.mpr List.nodup_range

theorem mem_givenOut_iff (tallied : Tallied moves system) {receiver : Nat} :
    receiver ∈ system.givenOut ↔ receiver < system.connection.feed.created :=
  tallied.givenOut.mem_iff.trans List.mem_range

theorem mem_openAfter_iff (tallied : Tallied moves system) {receiver : Nat} :
    receiver ∈ system.openAfter moves ↔
      receiver < system.connection.feed.created ∧ receiver ∉ system.connection.feed.closed := by
  rw [openAfter, List.mem_filter, tallied.mem_givenOut_iff, tallied.closed,
    Bool.not_eq_false]

theorem spares (tallied : Tallied moves system) (other : move.receiver? = none)
    (kept : system.connection.Spares next.connection) (same : next.givenOut = system.givenOut) :
    Tallied (moves ++ [move]) next := by
  have open_ : stillOpen (moves ++ [move]) = stillOpen moves := by
    apply stillOpen_concat_other
    intro receiver
    cases move <;> first | rfl | cases other
  obtain ⟨requests, feed⟩ := kept.feed
  constructor
  · rw [same, feed]
    exact tallied.givenOut
  · rw [open_, feed]
    exact tallied.closed
  · rw [feed]
    exact tallied.made
  · rw [openAfter, open_, same, feed]
    exact tallied.counted

theorem listens (tallied : Tallied moves system) (receiver : Nat) (listener : Listener) :
    Tallied (moves ++ [.setListener receiver listener]) (system.elsewhere
      (system.connection.inFeed (system.connection.feed.setListener receiver listener))) := by
  have open_ : stillOpen (moves ++ [.setListener receiver listener]) = stillOpen moves :=
    stillOpen_concat_other fun _ => rfl
  constructor
  · exact tallied.givenOut
  · rw [open_]
    exact tallied.closed
  · exact tallied.made
  · rw [openAfter, open_]
    exact tallied.counted

theorem unopened (tallied : Tallied moves system) {receiver : Nat}
    (new : system.connection.feed.created ≤ receiver) : stillOpen moves receiver = true := by
  rw [← Bool.not_eq_false, ← tallied.closed]
  intro closed
  have made := tallied.made receiver closed
  omega

theorem opens (tallied : Tallied moves system) {i : Nat}
    (there : system.calls[i]? = some (.create .subscribe)) (deeds : List Deed) :
    Tallied (moves ++ [.go i]) (system.going i
      (.create (.done system.connection.feed.openReceiver.2)) deeds
      (system.connection.inFeed system.connection.feed.openReceiver.1)) := by
  have open_ : stillOpen (moves ++ [.go i]) = stillOpen moves := stillOpen_concat_other fun _ => rfl
  rcases system.connection.feed.openReceiver_counts with ⟨requests, counted⟩ | ⟨e, refused⟩
  · rw [counted]
    have added (deeds : List Deed) (left : Connection Listener) :
        (system.going i (.create (.done (.ok system.connection.feed.created))) deeds
          left).givenOut.Perm (system.connection.feed.created :: system.givenOut) :=
      givenOut_going_new there rfl rfl
    -- The new receiver has the next number, under which none was closed.
    constructor
    · refine (added _ _).trans ((tallied.givenOut.cons _).trans ?_)
      show (_ :: _).Perm (List.range (_ + 1))
      rw [List.range_succ]
      exact (List.perm_append_singleton _ _).symm
    · rw [open_]
      exact tallied.closed
    · intro receiver closed
      exact Nat.lt_succ_of_lt (tallied.made receiver closed)
    · rw [openAfter, open_, ((added _ _).filter _).length_eq,
        List.filter_cons_of_pos (tallied.unopened (Nat.le_refl _))]
      exact congrArg (· + 1) tallied.counted
  · rw [refused]
    exact tallied.spares rfl (.of_feed rfl) (givenOut_going there rfl)

theorem openAfter_close (tallied : Tallied moves system) (receiver : Nat) :
    system.openAfter (moves ++ [.closeReceiver receiver]) =
      (system.openAfter moves).erase receiver := by
  rw [openAfter, openAfter, (tallied.nodup.filter _).erase_eq_filter, List.filter_filter]
  apply List.filter_congr
  intro other _
  rw [stillOpen_concat, Bool.and_comm, Move.closes, bne, beq_eq_decide]
  simp only [eq_comm]

theorem closes (tallied : Tallied moves system) {receiver : Nat}
    (there : receiver < system.connection.feed.created) :
    Tallied (moves ++ [.closeReceiver receiver]) (system.elsewhere
      (system.connection.inFeed (system.connection.feed.closeReceiver receiver).1)) := by
  have left := tallied.openAfter_close receiver
  have closed_iff (other : Nat) : stillOpen (moves ++ [.closeReceiver receiver]) other = false ↔
      other = receiver ∨ other ∈ system.connection.feed.closed := by
    rw [stillOpen_concat, Bool.and_eq_false_iff, ← tallied.closed, or_comm, Bool.not_eq_false']
    exact or_congr_left (decide_eq_true_iff.trans eq_comm)
  by_cases closed : receiver ∈ system.connection.feed.closed
  · rw [Feed.closeReceiver_again closed]
    have kept : receiver ∉ system.openAfter moves :=
      fun member => (tallied.mem_openAfter_iff.mp member).2 closed
    constructor
    · exact tallied.givenOut
    · intro other
      rw [closed_iff, or_iff_right_of_imp fun same => same ▸ closed]
      rfl
    · exact tallied.made
    · rw [List.erase_of_not_mem kept] at left
      exact tallied.counted.trans (congrArg List.length left.symm)
  · rw [Feed.closeReceiver_feed closed]
    have taken := List.length_erase_of_mem (tallied.mem_openAfter_iff.mpr ⟨there, closed⟩)
    constructor
    · exact tallied.givenOut
    · intro other
      rw [closed_iff]
      exact List.mem_cons
    · intro other member
      rcases List.mem_cons.mp member with rfl | member
      · exact there
      · exact tallied.made other member
    · calc
        system.connection.feed.subscription.release.1.receivers
            = system.connection.feed.subscription.receivers - 1 := Subscription.receivers_release _
        _ = (system.openAfter moves).length - 1 := by rw [tallied.counted]
        _ = (system.openAfter (moves ++ [.closeReceiver receiver])).length := by rw [left, taken]

theorem serves (tallied : Tallied moves system) (serves : system.Serves move next) :
    Tallied (moves ++ [move]) next := by
  cases serves with
  | spares other kept same => exact tallied.spares other kept same
  | opens there => exact tallied.opens there _
  | listens _ listener => exact tallied.listens _ listener
  | closes there => exact tallied.closes there

theorem counted_one_iff (tallied : Tallied moves system) {receiver : Nat}
    (member : receiver ∈ system.openAfter moves) :
    system.connection.feed.subscription.receivers = 1 ↔ system.openAfter moves = [receiver] := by
  rw [tallied.counted]
  constructor
  · intro one
    obtain ⟨only, same⟩ := List.length_eq_one_iff.mp one
    rw [same, List.mem_singleton] at member
    rw [same, member]
  · intro same
    rw [same]
    rfl

theorem counted_pos (tallied : Tallied moves system) {receiver : Nat}
    (member : receiver ∈ system.openAfter moves) :
    0 < system.connection.feed.subscription.receivers := by
  rw [tallied.counted]
  exact List.length_pos_of_mem member

theorem last_of_unsubscribe (tallied : Tallied moves system) (serves : system.Serves move next)
    {topic : String}
    (asked : .requested (.unsubscribe topic) ∈ system.connection.requested next.connection) :
    ∃ receiver, move = .closeReceiver receiver ∧ system.openAfter moves = [receiver] := by
  cases serves with
  | spares _ kept _ => exact absurd asked (kept.subscribed topic)
  | opens there =>
    replace asked : Deed.requested (.unsubscribe topic) ∈ system.connection.requested
      (system.connection.inFeed system.connection.feed.openReceiver.1) := asked
    rcases system.connection.requested_openReceiver with none | ⟨other, subscribes⟩
    · rw [none] at asked
      cases asked
    · rw [subscribes] at asked
      simp at asked
  | listens _ listener =>
    rw [requested_of_same (by rfl)] at asked
    cases asked
  | @closes receiver there =>
    refine ⟨receiver, rfl, ?_⟩
    replace asked : Deed.requested (.unsubscribe topic) ∈ system.connection.requested
      (system.connection.inFeed (system.connection.feed.closeReceiver receiver).1) := asked
    by_cases closed : receiver ∈ system.connection.feed.closed
    · rw [requested_of_same (by rw [Feed.closeReceiver_again closed]; rfl)] at asked
      cases asked
    · have member := tallied.mem_openAfter_iff.mpr ⟨there, closed⟩
      have positive := tallied.counted_pos member
      rw [← tallied.counted_one_iff member]
      by_contra several
      have same : (system.connection.inFeed (system.connection.feed.closeReceiver receiver).1).requests
          = system.connection.requests := (Feed.closeReceiver_of_others closed (by omega)).1
      rw [requested_of_same same] at asked
      cases asked

end Tallied

theorem tallied_initial {factory : Factory} {params : ConnectionParams}
    {start : Connection Listener} (opened : ofFactory factory params = .ok start) :
    Tallied [] (initial start) := by
  obtain ⟨_, _, _, _, _, _, rfl⟩ := new_of_ofFactory opened
  constructor
  · exact .refl _
  · simp [initial, stillOpen]
  · simp [initial]
  · rfl

theorem tallied_of_run {factory : Factory} {params : ConnectionParams}
    {start : Connection Listener} (opened : ofFactory factory params = .ok start)
    (ran : (initial start).run moves = some system) : Tallied moves system :=
  run_induction_on (tallied_initial opened)
    (fun _ _ _ _ _ tallied stepped => tallied.serves (serves_of_step stepped)) ran

/-- As many receivers are counted as were given out and not closed, whether a listener is set on them
    or not. The first close of a receiver takes one from the count, and only the close of the last one
    that is open attempts to unsubscribe; any further close of it does nothing, however the first one
    ended. -/
theorem receivers_count_those_open {factory : Factory} {params : ConnectionParams}
    {start : Connection Listener} (opened : ofFactory factory params = .ok start)
    (ran : (initial start).run moves = some system) :
    let feed := system.connection.feed
    let openNow := system.openAfter moves
    system.givenOut.Nodup ∧
    feed.subscription.receivers = openNow.length ∧
    (∀ receiver ∈ openNow,
      0 < feed.subscription.receivers ∧
      (feed.closeReceiver receiver).1.subscription.receivers = feed.subscription.receivers - 1 ∧
      (openNow = [receiver] → feed.Unsubscribes (feed.closeReceiver receiver).1
        (feed.closeReceiver receiver).2.2) ∧
      (openNow ≠ [receiver] →
        (feed.closeReceiver receiver).1.subscription.requests = feed.subscription.requests ∧
          (feed.closeReceiver receiver).2.2 = .ok ())) ∧
    (∀ receiver, .closeReceiver receiver ∈ moves →
      feed.closeReceiver receiver = (feed, [], .ok ())) ∧
    (∀ receiver listener, (feed.setListener receiver listener).subscription = feed.subscription) ∧
    ∀ move next topic, system.step move = some next →
      .requested (.unsubscribe topic) ∈ system.connection.requested next.connection →
      ∃ receiver, move = .closeReceiver receiver ∧ openNow = [receiver] := by
  have tallied := tallied_of_run opened ran
  refine ⟨tallied.nodup, tallied.counted, ?_, ?_, fun _ _ => rfl, ?_⟩
  · intro receiver member
    have first := (tallied.mem_openAfter_iff.mp member).2
    refine ⟨tallied.counted_pos member, ?_, ?_, ?_⟩
    · rw [Feed.closeReceiver_feed first]
      exact Subscription.receivers_release _
    · intro last
      exact Feed.closeReceiver_of_last first ((tallied.counted_one_iff member).mpr last)
    · intro others
      have positive := tallied.counted_pos member
      have several := mt (tallied.counted_one_iff member).mp others
      exact Feed.closeReceiver_of_others first (by omega)
  · intro receiver closed
    apply Feed.closeReceiver_again
    rw [tallied.closed, stillOpen, Bool.not_eq_false', List.any_eq_true]
    exact ⟨_, closed, decide_eq_true rfl⟩
  · intro move next topic stepped asked
    exact tallied.last_of_unsubscribe (serves_of_step stepped) asked

def crowded : List (Move Unit) :=
  [.create, .go 0, .go 0, .conclude 0 .accepted, .go 0, .create, .go 1, .go 1, .go 1,
    .closeReceiver 0]

theorem receivers_count_those_open_refused :
    ∃ (start : Connection Unit) (system later : System Unit),
      (∃ factory params, ofFactory factory params = .ok start) ∧
      (initial start).run crowded = some system ∧ system.openAfter crowded = [1] ∧
      system.connection.feed.subscription.receivers = 1 ∧
      (system.connection.feed.closeReceiver 1).2.2 = .error (.close RequestQueue.refusal) ∧
      (initial start).run (crowded ++ [.closeReceiver 1]) = some later ∧
      later.connection.feed.subscription.receivers = 0 ∧
      later.connection.feed.closeReceiver 1 = (later.connection.feed, [], .ok ()) := by
  obtain ⟨start, system, later, ⟨factory, params, opened⟩, ran, openNow, full, ranOn, none⟩ :
      ∃ (start : Connection Unit) (system later : System Unit),
        (∃ factory params, ofFactory factory params = .ok start) ∧
        (initial start).run crowded = some system ∧ system.openAfter crowded = [1] ∧
        system.connection.requests.hasRoom = false ∧
        (initial start).run (crowded ++ [.closeReceiver 1]) = some later ∧
        later.openAfter (crowded ++ [.closeReceiver 1]) = [] :=
    ⟨_, _, _, ⟨({} : Factory).bind "local" { Settings.forHost "broker" with capacity := 1 },
      ⟨"local", "logs/#", none, none⟩, rfl⟩, rfl, rfl, rfl, rfl, rfl⟩
  obtain ⟨_, counted, closes, _⟩ := receivers_count_those_open opened ran
  obtain ⟨_, countedOn, _, again, _⟩ := receivers_count_those_open opened ranOn
  have refused := (closes 1 (by simp [openNow])).2.2.1 openNow
  rw [requests] at full
  simp only [Feed.Unsubscribes, full, Bool.false_eq_true, if_false] at refused
  refine ⟨start, system, later, ⟨factory, params, opened⟩, ran, openNow, ?_, refused.2, ranOn, ?_,
    again 1 (by simp)⟩
  · rw [counted, openNow]
    rfl
  · rw [countedOn, none]
    rfl

end EventRelay.Mqtt.Connection.System
