import Mathlib.Data.Finset.Card
import Mathlib.Data.List.Induction
import EventRelay.Relay.Basic
import EventRelay.Proofs.Basic
import EventRelay.Proofs.Registrations
import EventRelay.Proofs.Memory.Operations

namespace EventRelay.Memory.System

variable {Listener : Type} {system next : System Listener} {operations : List (Operation Listener)}
  {operation : Operation Listener}

structure Connected (operations : List (Operation Listener)) (system : System Listener) : Prop where
  opened : system.broker.opened = (connects operations).length
  made : system.broker.connections.length = (connects operations).length
  each : ∀ (c through : Nat) (params : ConnectionParams),
    (connects operations)[c]? = some (through, params) → ∃ required,
      system.clones[through]? = some required ∧ system.broker.connections[c]? =
        some ⟨params.destination, required, params.username, params.password,
          decide (c ∈ closings operations)⟩
  closed : system.broker.closed = (closings operations).toFinset.card
  inside : ∀ c ∈ closings operations, c < (connects operations).length

structure Supplied (operations : List (Operation Listener)) (system : System Listener) : Prop where
  created : system.broker.created = system.broker.receivers.length
  numbered : system.givenOut = List.range system.broker.receivers.length
  opened : ∀ c ∈ system.origins, c < (connects operations).length
  destinations : system.broker.receivers.map some = system.origins.map (destinationOf operations)

structure Follows (operations : List (Operation Listener)) (system : System Listener) : Prop where
  connected : Connected operations system
  supplied : Supplied operations system
  registers : Registers system.broker.listeners (latest operations)
  unavailable : system.broker.unavailable = isUnavailable operations

theorem follows_new : Follows [] ({} : System Listener) where
  connected := ⟨rfl, rfl, by rintro c through params ⟨⟩, rfl, by rintro c ⟨⟩⟩
  supplied := ⟨rfl, rfl, by rintro c ⟨⟩, rfl⟩
  registers := .nil
  unavailable := rfl

namespace Connected

variable (connected : Connected operations system)

include connected

theorem keeps (new : operation.connect? = none) (stays : operation.closed? = none)
    (same : next.broker.opened = system.broker.opened ∧
      next.broker.connections = system.broker.connections ∧
      next.broker.closed = system.broker.closed)
    (clones : system.clones <+: next.clones) : Connected (operations ++ [operation]) next := by
  have connects := connects_of_other operations new
  have closings := closings_of_other operations stays
  obtain ⟨opened, connections, closed⟩ := same
  constructor
  · rw [opened, connects]
    exact connected.opened
  · rw [connections, connects]
    exact connected.made
  · rw [connections, connects, closings]
    intro c through params there
    obtain ⟨required, found, stands⟩ := connected.each c through params there
    obtain ⟨inside, rfl⟩ := List.getElem?_eq_some_iff.mp found
    exact ⟨_, List.prefix_iff_getElem?.mp clones through inside, stands⟩
  · rw [closed, closings]
    exact connected.closed
  · rw [closings, connects]
    exact connected.inside

theorem connects {through : Nat} {required : Option (String × String)}
    (there : system.clones[through]? = some required) (params : ConnectionParams) :
    Connected (operations ++ [.connect through params])
      { system with broker := (system.broker.connect required params).1 } := by
  have connects : Memory.connects (operations ++ [.connect through params]) =
      Memory.connects operations ++ [(through, params)] := connects_concat ..
  have closings : Memory.closings (operations ++ [.connect through params]) =
      Memory.closings operations := closings_of_other operations rfl
  constructor
  · rw [connects, List.length_append, ← connected.opened]
    rfl
  · rw [connects, List.length_append, ← connected.made]
    exact List.length_append
  · rw [connects, closings]
    intro c other presented told
    rcases last_or_same told with ⟨last, same⟩ | before
    · cases same
      have unclosed : c ∉ Memory.closings operations := by
        intro member
        have inside := connected.inside c member
        omega
      refine ⟨required, there, ?_⟩
      rw [decide_eq_false unclosed, last, ← connected.made]
      exact List.getElem?_concat_length
    · obtain ⟨demanded, found, stands⟩ := connected.each c other presented before
      obtain ⟨inside, _⟩ := List.getElem?_eq_some_iff.mp stands
      exact ⟨demanded, found, (List.getElem?_append_left inside).trans stands⟩
  · rw [closings]
    exact connected.closed
  · rw [closings, connects, List.length_append]
    intro c member
    exact Nat.lt_add_right _ (connected.inside c member)

section Close

variable {c : Nat}

theorem exists_of_made (there : c < system.broker.connections.length) :
    ∃ (through : Nat) (params : ConnectionParams) (required : Option (String × String)),
      (Memory.connects operations)[c]? = some (through, params) ∧ system.broker.connections[c]? =
        some ⟨params.destination, required, params.username, params.password,
          decide (c ∈ closings operations)⟩ := by
  obtain ⟨⟨through, params⟩, told⟩ : ∃ opened, (Memory.connects operations)[c]? = some opened :=
    ⟨_, List.getElem?_eq_getElem (connected.made ▸ there)⟩
  obtain ⟨required, _, stands⟩ := connected.each c through params told
  exact ⟨through, params, required, told, stands⟩

theorem closes_again (closed : c ∈ Memory.closings operations)
    (same : system.broker.closeConnection c = system.broker) :
    Connected (operations ++ [.closeConnection c])
      { system with broker := system.broker.closeConnection c } := by
  have connects : Memory.connects (operations ++ [.closeConnection c]) =
      Memory.connects operations := connects_of_other operations rfl
  have mem_iff (other : Nat) : other ∈ Memory.closings (operations ++ [.closeConnection c]) ↔
      other ∈ Memory.closings operations := by
    rw [closings_concat, List.mem_append]
    exact or_iff_left_of_imp fun last => List.mem_singleton.mp last ▸ closed
  have repeated : (Memory.closings (operations ++ [.closeConnection c])).toFinset =
      (Memory.closings operations).toFinset := by
    ext other
    rw [List.mem_toFinset, List.mem_toFinset, mem_iff]
  rw [same]
  constructor
  · rw [connects]
    exact connected.opened
  · rw [connects]
    exact connected.made
  · intro other
    rw [connects, decide_eq_decide.mpr (mem_iff other)]
    exact connected.each other
  · rw [repeated]
    exact connected.closed
  · intro other member
    rw [connects]
    exact connected.inside other ((mem_iff other).mp member)

theorem closes_first {through : Nat} {params : ConnectionParams} {connection : Connection}
    (told : (Memory.connects operations)[c]? = some (through, params))
    (there : system.broker.connections[c]? = some connection)
    (unclosed : c ∉ Memory.closings operations) (open_ : connection.closed = false) :
    Connected (operations ++ [.closeConnection c])
      { system with broker := system.broker.closeConnection c } := by
  have connects : Memory.connects (operations ++ [.closeConnection c]) =
      Memory.connects operations := connects_of_other operations rfl
  have mem_iff (other : Nat) : other ∈ Memory.closings (operations ++ [.closeConnection c]) ↔
      other ∈ Memory.closings operations ∨ other = c := by
    rw [closings_concat, List.mem_append]
    exact or_congr_right List.mem_singleton
  have fresh : (Memory.closings (operations ++ [.closeConnection c])).toFinset =
      insert c (Memory.closings operations).toFinset := by
    ext other
    rw [List.mem_toFinset, Finset.mem_insert, List.mem_toFinset, mem_iff, or_comm]
  obtain ⟨inside, _⟩ := List.getElem?_eq_some_iff.mp told
  rw [system.broker.closeConnection_first there open_]
  constructor
  · rw [connects]
    exact connected.opened
  · rw [connects, ← connected.made]
    exact List.length_set
  · intro other origin presented opened
    rw [connects] at opened
    obtain ⟨demanded, known, stands⟩ := connected.each other origin presented opened
    refine ⟨demanded, known, ?_⟩
    by_cases same : other = c
    · subst same
      cases there.symm.trans stands
      rw [decide_eq_true ((mem_iff other).mpr (.inr rfl))]
      exact List.getElem?_set_self (connected.made ▸ inside)
    · rw [decide_eq_decide.mpr ((mem_iff other).trans (or_iff_left same))]
      exact (List.getElem?_set_ne (Ne.symm same)).trans stands
  · rw [fresh, Finset.card_insert_of_notMem (mt List.mem_toFinset.mp unclosed), ← connected.closed]
  · intro other member
    rw [connects]
    rcases (mem_iff other).mp member with member | rfl
    · exact connected.inside other member
    · exact inside

theorem closes (there : c < system.broker.connections.length) :
    Connected (operations ++ [.closeConnection c])
      { system with broker := system.broker.closeConnection c } := by
  obtain ⟨through, params, required, told, stands⟩ := connected.exists_of_made there
  by_cases closed : c ∈ Memory.closings operations
  · exact connected.closes_again closed
      (system.broker.closeConnection_again stands (decide_eq_true closed))
  · exact connected.closes_first told stands closed (decide_eq_false closed)

end Close

end Connected

namespace Supplied

variable (supplied : Supplied operations system)

include supplied

theorem receivers_get (receiver : Nat) :
    system.broker.receivers[receiver]? = system.destination? operations receiver := by
  have same : (system.broker.receivers.map some)[receiver]? =
      (system.origins.map (destinationOf operations))[receiver]? := by rw [supplied.destinations]
  rw [List.getElem?_map, List.getElem?_map] at same
  unfold destination?
  cases from_ : system.origins[receiver]? with
  | none => simpa [from_] using same
  | some c =>
    cases to_ : system.broker.receivers[receiver]? with
    | none => simp [from_, to_] at same
    | some destination =>
      rw [from_, to_] at same
      exact Option.some.inj same

theorem keeps
    (same : next.broker.created = system.broker.created ∧
      next.broker.receivers = system.broker.receivers)
    (givenOut : next.givenOut = system.givenOut) (origins : next.origins = system.origins) :
    Supplied (operations ++ [operation]) next := by
  obtain ⟨created, receivers⟩ := same
  constructor
  · rw [created, receivers]
    exact supplied.created
  · rw [givenOut, receivers]
    exact supplied.numbered
  · rw [origins, connects_concat, List.length_append]
    intro c member
    exact Nat.lt_add_right _ (supplied.opened c member)
  · rw [origins, receivers, supplied.destinations]
    apply List.map_congr_left
    intro c member
    rw [destinationOf, destinationOf, connects_concat,
      List.getElem?_append_left (supplied.opened c member)]

theorem creates {c through : Nat} {params : ConnectionParams} {connection : Connection}
    (told : (connects operations)[c]? = some (through, params))
    (there : system.broker.connections[c]? = some connection)
    (same : connection.destination = params.destination) :
    Supplied (operations ++ [.createReceiver c])
      { system with
        broker := (system.broker.createReceiver c).1
        answers := system.answers ++ [(c, (system.broker.createReceiver c).2)] } := by
  rcases system.broker.createReceiver_cases there with ⟨_, given⟩ | ⟨e, _, refused⟩
  · rw [given]
    let next : System Listener :=
      { system with
        broker := { system.broker with
          receivers := system.broker.receivers ++ [connection.destination]
          created := system.broker.created + 1 }
        answers := system.answers ++ [(c, .ok system.broker.receivers.length)] }
    show Supplied _ next
    have connects : connects (operations ++ [.createReceiver c]) = connects operations :=
      connects_of_other operations rfl
    have givenOut : next.givenOut = system.givenOut ++ [system.broker.receivers.length] :=
      List.filterMap_append
    have origins : next.origins = system.origins ++ [c] := List.filterMap_append
    have longer : next.broker.receivers.length = system.broker.receivers.length + 1 :=
      List.length_append
    constructor
    · rw [longer, ← supplied.created]
    · rw [givenOut, longer, List.range_succ, supplied.numbered]
    · rw [origins, connects]
      intro other member
      rcases List.mem_append.mp member with member | member
      · exact supplied.opened other member
      · rw [List.mem_singleton.mp member]
        exact (List.getElem?_eq_some_iff.mp told).1
    · have known : destinationOf operations c = some connection.destination := by
        rw [destinationOf, told, same]
        rfl
      have kept : destinationOf (operations ++ [.createReceiver c]) = destinationOf operations := by
        funext other
        rw [destinationOf, destinationOf, connects]
      rw [origins, kept]
      show (system.broker.receivers ++ [connection.destination]).map some = _
      simp only [List.map_append, List.map_singleton, known, supplied.destinations]
  · rw [refused]
    refine supplied.keeps ⟨rfl, rfl⟩ ?_ ?_
    · simp [System.givenOut, Except.toOption]
    · simp [System.origins, Except.toOption]

end Supplied

namespace Follows

variable (follows : Follows operations system)

include follows

theorem went (stepped : system.step operation = some next) :
    Follows (operations ++ [operation]) next := by
  have connected := follows.connected
  have supplied := follows.supplied
  have registers := latest_concat operations operation
  have unavailable := isUnavailable_concat operations operation
  cases operation with
  | clone source credentials =>
    simp only [step, Option.map_eq_some_iff] at stepped
    obtain ⟨required, there, rfl⟩ := stepped
    exact ⟨connected.keeps rfl rfl ⟨rfl, rfl, rfl⟩ (List.prefix_append _ _),
      supplied.keeps ⟨rfl, rfl⟩ rfl rfl, registers ▸ follows.registers,
      unavailable ▸ follows.unavailable⟩
  | connect through params =>
    simp only [step, Option.map_eq_some_iff] at stepped
    obtain ⟨required, there, rfl⟩ := stepped
    exact ⟨connected.connects there params, supplied.keeps ⟨rfl, rfl⟩ rfl rfl,
      registers ▸ follows.registers, unavailable ▸ follows.unavailable⟩
  | createReceiver c =>
    simp only [step] at stepped
    split at stepped
    · rename_i there
      cases stepped
      obtain ⟨through, params, required, told, stands⟩ := connected.exists_of_made there
      have supplied := supplied.creates told stands rfl
      obtain ⟨receivers, created, left⟩ := system.broker.createReceiver_leaves c
      rw [left] at supplied ⊢
      exact ⟨connected.keeps rfl rfl ⟨rfl, rfl, rfl⟩ List.prefix_rfl, supplied,
        registers ▸ follows.registers, unavailable ▸ follows.unavailable⟩
    · cases stepped
  | setListener receiver listener =>
    simp only [step] at stepped
    split at stepped
    · cases stepped
      exact ⟨connected.keeps rfl rfl ⟨rfl, rfl, rfl⟩ List.prefix_rfl,
        supplied.keeps ⟨rfl, rfl⟩ rfl rfl, registers ▸ follows.registers.put receiver listener,
        unavailable ▸ follows.unavailable⟩
    · cases stepped
  | closeReceiver receiver =>
    simp only [step] at stepped
    split at stepped
    · cases stepped
      exact ⟨connected.keeps rfl rfl ⟨rfl, rfl, rfl⟩ List.prefix_rfl,
        supplied.keeps ⟨rfl, rfl⟩ rfl rfl, registers ▸ follows.registers.remove receiver,
        unavailable ▸ follows.unavailable⟩
    · cases stepped
  | closeConnection c =>
    simp only [step] at stepped
    split at stepped
    · rename_i there
      cases stepped
      have connected := connected.closes there
      obtain ⟨connections, closed, left⟩ := system.broker.closeConnection_leaves c
      rw [left] at connected ⊢
      exact ⟨connected, supplied.keeps ⟨rfl, rfl⟩ rfl rfl, registers ▸ follows.registers,
        unavailable ▸ follows.unavailable⟩
    · cases stepped
  | setUnavailable value =>
    cases stepped
    exact ⟨connected.keeps rfl rfl ⟨rfl, rfl, rfl⟩ List.prefix_rfl,
      supplied.keeps ⟨rfl, rfl⟩ rfl rfl, registers ▸ follows.registers, unavailable.symm⟩
  | setCloseFailure | publish =>
    cases stepped
    exact ⟨connected.keeps rfl rfl ⟨rfl, rfl, rfl⟩ List.prefix_rfl,
      supplied.keeps ⟨rfl, rfl⟩ rfl rfl, registers ▸ follows.registers,
      unavailable ▸ follows.unavailable⟩

theorem isAudience (destination : String) :
    IsAudience (system.listening operations destination) (system.broker.audience destination) := by
  have gathers := (follows.registers.filter fun receiver =>
    system.broker.receivers[receiver]? == some destination).isAudience
  have same : (fun receiver =>
      if system.broker.receivers[receiver]? == some destination then latest operations receiver
      else none) = system.listening operations destination := by
    funext receiver
    simp only [listening, follows.supplied.receivers_get, beq_iff_eq]
  rw [same] at gathers
  exact gathers

/-- A receiver is given out where the connection is open, the broker available and what was presented
    is what is required. -/
theorem createReceiver_iff {c through : Nat} {params : ConnectionParams}
    (told : (connects operations)[c]? = some (through, params)) : ∃ required,
      system.clones[through]? = some required ∧
      ((∃ receiver, (system.broker.createReceiver c).2 = .ok receiver) ↔
        c ∉ closings operations ∧ isUnavailable operations = false ∧ Satisfies required params) := by
  obtain ⟨required, found, stands⟩ := follows.connected.each c through params told
  refine ⟨required, found, ?_⟩
  have open_iff : system.broker.refusal? ⟨params.destination, required, params.username,
      params.password, decide (c ∈ closings operations)⟩ = none ↔
        c ∉ closings operations ∧ isUnavailable operations = false ∧ Satisfies required params := by
    rw [Broker.refusal?_eq_none_iff, accepted_iff, follows.unavailable, decide_eq_false_iff_not]
  rw [← open_iff]
  rcases system.broker.createReceiver_cases stands with ⟨open_, given⟩ | ⟨e, refused, same⟩
  · simp only [open_, given, Except.ok.injEq, exists_eq']
  · simp only [refused, same, reduceCtorEq, exists_false]

end Follows

theorem run_concat (ran : run (operations ++ [operation]) = some next) :
    ∃ system, run operations = some system ∧ system.step operation = some next := by
  rw [run, List.foldlM_append] at ran
  obtain ⟨system, ranBefore, last⟩ := Option.bind_eq_some_iff.mp ran
  refine ⟨system, ranBefore, ?_⟩
  simpa using last

theorem follows_of_run (ran : run operations = some system) : Follows operations system := by
  induction operations using List.reverseRecOn generalizing system with
  | nil =>
    cases ran
    exact follows_new
  | append_singleton operations operation ih =>
    obtain ⟨before, ranBefore, stepped⟩ := run_concat ran
    exact (ih ranBefore).went stepped

/-- What is published goes to the latest listeners of the destination's receivers, and the counters
    count what was done. A receiver is given out where the connection is open, the broker available and
    the credentials are those required; otherwise the broker stays as it is. -/
theorem broker_follows_operations {operations : List (Operation Callback)} {system : System Callback}
    (ran : run operations = some system) :
    let broker := system.broker
    (∀ (relay : Relay) (i : Nat) (destination : String) (message : Message),
      relay.brokers[i]? = some broker → ∃ audience,
        IsAudience (system.listening operations destination) audience ∧
        relay.publish i destination message =
          (audience.foldl (fun relay callback => relay.hand callback message) relay,
            audience.length)) ∧
    system.givenOut.Nodup ∧
    broker.opened = (connects operations).length ∧
    broker.closed = (closings operations).toFinset.card ∧
    broker.created = system.givenOut.length ∧
    (∀ (c through : Nat) (params : ConnectionParams),
      (connects operations)[c]? = some (through, params) → ∃ required,
        system.clones[through]? = some required ∧
        ((∃ receiver, (broker.createReceiver c).2 = .ok receiver) ↔
          c ∉ closings operations ∧ isUnavailable operations = false ∧ Satisfies required params)) ∧
    ∀ (c : Nat) (e : ProviderError), (broker.createReceiver c).2 = .error e →
      (broker.createReceiver c).1 = broker := by
  have follows := follows_of_run ran
  refine ⟨?_, ?_, follows.connected.opened, follows.connected.closed, ?_,
    fun _ _ _ told => follows.createReceiver_iff told,
    fun _ _ failed => Broker.createReceiver_of_error failed⟩
  · intro relay i destination message there
    refine ⟨system.broker.audience destination, follows.isAudience destination, ?_⟩
    simp only [Relay.publish, there, Relay.handAll]
  · rw [follows.supplied.numbered]
    exact List.nodup_range
  · rw [follows.supplied.created, follows.supplied.numbered, List.length_range]

def mixed : List (Operation Callback) :=
  [.clone 0 (some ("u", "p")), .connect 0 ⟨"cf", "logs", none, none⟩,
    .connect 1 ⟨"cf", "logs", some "u", some "wrong"⟩, .connect 1 ⟨"cf", "other", some "u", some "p"⟩,
    .createReceiver 0, .createReceiver 1, .createReceiver 2, .createReceiver 0,
    .setListener 0 (.recorder "a"), .setListener 1 (.recorder "b"), .setListener 2 (.recorder "c"),
    .setListener 0 (.recorder "d"), .setCloseFailure true, .closeReceiver 2, .closeConnection 0,
    .closeConnection 0]

theorem broker_follows_operations_mixed : ∃ system : System Callback, run mixed = some system ∧
    system.broker.opened = 3 ∧ system.broker.closed = 1 ∧ system.broker.created = 3 ∧
    (∀ receiver, (system.broker.createReceiver 1).2 ≠ .ok receiver) ∧
    ∀ (relay : Relay) (i : Nat) (message : Message), relay.brokers[i]? = some system.broker →
      relay.publish i "logs" message = (relay.hand (.recorder "d") message, 1) := by
  obtain ⟨system, ran, givenOut, clone, listens, silent⟩ : ∃ system : System Callback,
      run mixed = some system ∧ system.givenOut = [0, 1, 2] ∧
      system.clones[1]? = some (some ("u", "p")) ∧
      system.listening mixed "logs" 0 = some (.recorder "d") ∧
      ∀ receiver, receiver ≠ 0 → system.listening mixed "logs" receiver = none := by
    refine ⟨_, rfl, rfl, rfl, rfl, ?_⟩
    intro receiver other
    match receiver with
    | 0 => exact absurd rfl other
    | 1 => rfl
    | 2 => rfl
    | _ + 3 => rfl
  obtain ⟨publishes, _, opened, closed, created, creates, _⟩ := broker_follows_operations ran
  obtain ⟨required, found, creates_iff⟩ :=
    creates 1 1 ⟨"cf", "logs", some "u", some "wrong"⟩ rfl
  refine ⟨system, ran, opened, closed, by rw [created, givenOut]; rfl, ?_, ?_⟩
  · intro receiver gives
    cases clone.symm.trans found
    have password := ((creates_iff.mp ⟨receiver, gives⟩).2.2 "u" "p" rfl).2
    simp at password
  · intro relay i message there
    obtain ⟨audience, gathers, published⟩ := publishes relay i "logs" message there
    rw [published, gathers.eq_singleton listens silent]
    rfl

end EventRelay.Memory.System
