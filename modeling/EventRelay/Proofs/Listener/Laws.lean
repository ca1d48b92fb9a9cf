import EventRelay.Proofs.Listener.Balance

namespace EventRelay.Lifecycle

variable {Receiver Connection : Type} {config : ListenerConfig}

namespace Deed

def movesTo (state : ListenerState) : Deed Receiver Connection → Bool
  | .moved _ after => after = state
  | _ => false

def rises (n : Nat) : Deed Receiver Connection → Bool
  | .moved before after => before.rank ≤ n && n < after.rank
  | _ => false

def falls (n : Nat) : Deed Receiver Connection → Bool
  | .moved before after => after.rank ≤ n && n < before.rank
  | _ => false

def asks : Deed Receiver Connection → Bool
  | .createReceiver => true
  | _ => false

def isCreated : Deed Receiver Connection → Bool
  | .created _ => true
  | _ => false

def gives (which : Receiver → Bool) : Deed Receiver Connection → Bool
  | .created (.ok receiver) => which receiver
  | _ => false

def sets (which : Receiver → Bool) : Deed Receiver Connection → Bool
  | .setListener receiver _ => which receiver
  | _ => false

def registers : Deed Receiver Connection → Bool
  | .setListener _ (.ok _) => true
  | _ => false

def takes (which : Receiver → Bool) : Deed Receiver Connection → Bool
  | .reclaimed (some receiver) | .took (some receiver) => which receiver
  | _ => false

def isReclaimed : Deed Receiver Connection → Bool
  | .reclaimed _ => true
  | _ => false

def isTook : Deed Receiver Connection → Bool
  | .took _ => true
  | _ => false

def closes (which : Receiver → Bool) : Deed Receiver Connection → Bool
  | .closeReceiver receiver => which receiver
  | _ => false

def isRelease : Deed Receiver Connection → Bool
  | .release => true
  | _ => false

def isReleased : Deed Receiver Connection → Bool
  | .released => true
  | _ => false

end Deed

namespace Call

def atCreate : Call Receiver Connection → Bool
  | .start .create => true
  | _ => false

def isCreating : Call Receiver Connection → Bool
  | .creating => true
  | _ => false

def hasReceiver (which : Receiver → Bool) : Call Receiver Connection → Bool
  | .start (.register receiver) => which receiver
  | _ => false

/-- A start that has registered the listener and has not decided yet whether it was overtaken. -/
def isUndecided : Call Receiver Connection → Bool
  | .start .confirm | .start .reclaim => true
  | _ => false

def mustClose (which : Receiver → Bool) : Call Receiver Connection → Bool
  | .start (.discard receiver) | .stop (.close receiver) => which receiver
  | _ => false

def atTake : Call Receiver Connection → Bool
  | .stop .take => true
  | _ => false

def isClosing : Call Receiver Connection → Bool
  | .stop (.close _) | .closing _ | .stop .release => true
  | _ => false

def isReleasing : Call Receiver Connection → Bool
  | .releasing _ => true
  | _ => false

def atMark : Call Receiver Connection → Bool
  | .releasing .mark => true
  | _ => false

def atFinish : Call Receiver Connection → Bool
  | .stop .finish => true
  | _ => false

end Call

/-- A stop that is about to move the state has read one that comes before stopping. -/
def Call.IsAhead (call : Call Receiver Connection) : Prop :=
  ∀ current, call = .stop (.claim current) → current ≠ .stopping ∧ current ≠ .stopped

theorem Call.Trail.isAhead {call : Call Receiver Connection} {deeds : List (Deed Receiver Connection)}
    (trail : call.Trail deeds) : call.IsAhead := by
  intro current here
  subst here
  cases trail with
  | new isNew => rcases isNew with same | same <;> cases same
  | went before goes =>
    cases goes with
    | read found => exact found

namespace Law

def level (n : Nat) : Law Receiver Connection where
  enters := Deed.rises n
  leaves := Deed.falls n
  lies common := if n < common.lifecycle.state.rank then 1 else 0

def claimed : Law Receiver Connection where
  enters := Deed.movesTo .starting
  leaves := Deed.asks
  holds := Call.atCreate

def asked : Law Receiver Connection where
  enters := Deed.asks
  leaves := Deed.isCreated
  holds := Call.isCreating

def given (which : Receiver → Bool) : Law Receiver Connection where
  enters := Deed.gives which
  leaves := Deed.sets which
  holds := Call.hasReceiver which

def stored (which : Receiver → Bool) : Law Receiver Connection where
  enters := Deed.sets which
  leaves := Deed.takes which
  lies common := if common.lifecycle.slot.any which then 1 else 0

def taken (which : Receiver → Bool) : Law Receiver Connection where
  enters := Deed.takes which
  leaves := Deed.closes which
  holds := Call.mustClose which

def undecided : Law Receiver Connection where
  enters := Deed.registers
  leaves deed := deed.movesTo .started || deed.isReclaimed
  holds := Call.isUndecided

def stopping : Law Receiver Connection where
  enters := Deed.movesTo .stopping
  leaves := Deed.isTook
  holds := Call.atTake

def emptied : Law Receiver Connection where
  enters := Deed.isTook
  leaves := Deed.isRelease
  holds := Call.isClosing

def releasing : Law Receiver Connection where
  enters := Deed.isRelease
  leaves := Deed.isReleased
  holds := Call.isReleasing

def marked : Law Receiver Connection where
  enters := Deed.isRelease
  leaves _ := false
  holds := Call.atMark
  lies common := if common.handle.released then 1 else 0

def finishing : Law Receiver Connection where
  enters := Deed.isReleased
  leaves := Deed.movesTo .stopped
  holds := Call.atFinish

variable {common after : Common Receiver Connection} {call next : Call Receiver Connection}
  {deeds : List (Deed Receiver Connection)}

theorem crossing (a b n : Nat) :
    ((if a ≤ n ∧ n < b then 1 else 0) + if n < a then 1 else 0) =
      (if n < b then 1 else 0) + if b ≤ n ∧ n < a then 1 else 0 := by
  rcases Nat.lt_or_ge n a with above | below <;> rcases Nat.lt_or_ge n b with higher | lower <;>
    simp [*, Nat.not_le.mpr, Nat.not_lt.mpr]

theorem level_balances (n : Nat) (goes : Call.Goes common call after next deeds) :
    (level n).Balances common call after next deeds := by
  cases goes <;> simp_all [Balances, level, Deed.rises, Deed.falls, List.countP_cons, crossing]

theorem claimed_balances (goes : Call.Goes common call after next deeds) :
    claimed.Balances common call after next deeds := by
  cases goes <;> simp_all [Balances, claimed, Deed.movesTo, Deed.asks, Call.atCreate]

theorem asked_balances (goes : Call.Goes common call after next deeds) :
    asked.Balances common call after next deeds := by
  cases goes <;> simp [Balances, asked, Deed.asks, Deed.isCreated, Call.isCreating]

theorem given_balances (which : Receiver → Bool) (goes : Call.Goes common call after next deeds) :
    (given which).Balances common call after next deeds := by
  cases goes <;>
    simp [Balances, given, Deed.gives, Deed.sets, Call.hasReceiver, List.countP_cons] <;> rfl

theorem stored_balances (which : Receiver → Bool)
    (empty : ∀ receiver, call = .start (.register receiver) → common.lifecycle.slot = none)
    (goes : Call.Goes common call after next deeds) :
    (stored which).Balances common call after next deeds := by
  cases goes with
  | registered receiver | refused receiver =>
    have found := empty receiver rfl
    simp [Balances, stored, Deed.sets, Deed.takes, List.countP_cons, found]
    rfl
  | reclaimed found | took found =>
    simp [Balances, stored, Deed.sets, Deed.takes, List.countP_cons, found]
    rfl
  | leftAlone found | tookNothing found =>
    simp [Balances, stored, Deed.sets, Deed.takes, found]
  | _ => simp [Balances, stored, Deed.sets, Deed.takes]

theorem taken_balances (which : Receiver → Bool) (goes : Call.Goes common call after next deeds) :
    (taken which).Balances common call after next deeds := by
  cases goes <;>
    simp [Balances, taken, Deed.takes, Deed.closes, Call.mustClose, List.countP_cons] <;> rfl

theorem undecided_balances (goes : Call.Goes common call after next deeds) :
    undecided.Balances common call after next deeds := by
  cases goes <;>
    simp [Balances, undecided, Deed.registers, Deed.movesTo, Deed.isReclaimed, Call.isUndecided]

theorem stopping_balances (ahead : call.IsAhead) (goes : Call.Goes common call after next deeds) :
    stopping.Balances common call after next deeds := by
  cases goes with
  | stoppingAgain found => exact absurd rfl (ahead _ rfl).1
  | _ => simp [Balances, stopping, Deed.movesTo, Deed.isTook, Call.atTake]

theorem emptied_balances (goes : Call.Goes common call after next deeds) :
    emptied.Balances common call after next deeds := by
  cases goes <;> simp [Balances, emptied, Deed.isTook, Deed.isRelease, Call.isClosing]

theorem releasing_balances (goes : Call.Goes common call after next deeds) :
    releasing.Balances common call after next deeds := by
  cases goes <;> simp [Balances, releasing, Deed.isRelease, Deed.isReleased, Call.isReleasing]

theorem marked_balances (unmarked : call = .releasing .mark → common.handle.released = false)
    (goes : Call.Goes common call after next deeds) :
    marked.Balances common call after next deeds := by
  cases goes with
  | marked found => simp [Balances, marked, Call.atMark, found]
  | markedBefore found => simp [unmarked rfl] at found
  | _ => simp [Balances, marked, Deed.isRelease, Call.atMark]

theorem finishing_balances (goes : Call.Goes common call after next deeds) :
    finishing.Balances common call after next deeds := by
  cases goes <;> simp [Balances, finishing, Deed.isReleased, Deed.movesTo, Call.atFinish]

end Law

end EventRelay.Lifecycle
