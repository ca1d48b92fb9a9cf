import EventRelay.Proofs.Relay.Calls

namespace EventRelay

def Message.loggable? (message : Message) : Option Event :=
  if message.kind = .object then
    match CarriedObject.decoder.ofJson message.body with
    | .ok carried =>
      if carried.typeName = Event.typeName then (Event.decoder.ofJson carried.value).toOption
      else none
    | .error _ => none
  else none

theorem Message.effect_eq_accept_iff (message : Message) (event : Event) :
    message.effect = .accept event ↔ message.loggable? = some event := by
  by_cases object : message.kind = .object
  · cases body : CarriedObject.decoder.ofJson message.body with
    | error fault =>
      have unread : message.carried = .error (.unreadable fault) := by
        rw [carried, if_pos object, body]
        rfl
      simp [effect, loggable?, object, body, unread]
    | ok carried =>
      have found : message.carried = .ok carried := by
        rw [Message.carried, if_pos object, body]
        rfl
      by_cases tagged : carried.typeName = Event.typeName
      · cases read : Event.decoder.ofJson carried.value with
        | error fault =>
          have unread : carried.event = .error (.unreadable fault) := by
            rw [CarriedObject.event, CarriedObject.event?, if_pos tagged, read]
            rfl
          simp [effect, loggable?, object, body, found, tagged, read, unread, Except.toOption]
        | ok other =>
          have carries : carried.event = .ok (some other) := by
            rw [CarriedObject.event, CarriedObject.event?, if_pos tagged, read]
            rfl
          simp [effect, loggable?, object, body, found, tagged, read, carries, Except.toOption]
      · have untagged : carried.event = .ok none := by
          rw [CarriedObject.event, CarriedObject.event?, if_neg tagged]
          rfl
        simp [effect, loggable?, object, body, found, tagged, untagged]
  · simp [effect, loggable?, object]

def Message.copies (message : Message) (n : Nat) : List Event :=
  match message.loggable? with
  | some event => List.replicate n event
  | none => []

theorem Message.copies_zero (message : Message) : message.copies 0 = [] := by
  unfold copies
  split <;> rfl

theorem Message.copies_add (message : Message) (m n : Nat) :
    message.copies (m + n) = message.copies m ++ message.copies n := by
  unfold copies
  split
  · exact List.replicate_append_replicate.symm
  · rfl

/-- Whether what a sink accepts shows up under a label. -/
def Sink.keeps (label : String) : Sink → Bool
  | .record other => other = label
  | .channel other isOpen => isOpen && other = label
  | .log _ => false

inductive Command
  | listen (config : ListenerConfig) (sink : Sink) (diagnostics : Option String)
  | start (listener : Nat)
  | stop (listener : Nat)
  | setUnavailable (value : Bool)
  | setCloseFailure (value : Bool)
  | publish (destination : String) (message : Message)

structure Member where
  config : ListenerConfig
  sink : Sink
  state : ListenerState := .initialized

def Member.hears (member : Member) (label destination : String) : Bool :=
  member.state = .started && member.config.destination = destination && member.sink.keeps label

structure Roster where
  required : Option (String × String)
  unavailable : Bool := false
  members : List Member := []

namespace Roster

def admits (roster : Roster) (config : ListenerConfig) : Bool :=
  !roster.unavailable &&
    match roster.required with
    | none => true
    | some (username, password) =>
      config.username == some username && config.password == some password

def started (roster : Roster) (member : Member) : ListenerState :=
  if member.state = .initialized then
    if roster.admits member.config then .started else .starting
  else member.state

def after (roster : Roster) : Command → Roster
  | .listen config sink _ => { roster with members := roster.members ++ [{ config, sink }] }
  | .start l =>
    { roster with
      members := roster.members.modify l fun member =>
        { member with state := roster.started member } }
  | .stop l =>
    { roster with members := roster.members.modify l fun member => { member with state := .stopped } }
  | .setUnavailable value => { roster with unavailable := value }
  | .setCloseFailure _ | .publish .. => roster

def due (roster : Roster) (label : String) : Command → List Event
  | .publish destination message =>
    message.copies (roster.members.countP fun member => member.hears label destination)
  | _ => []

/-- The events that commands have to bring about under a label, the earliest first. -/
def expected (label : String) (roster : Roster) : List Command → List Event
  | [] => []
  | command :: commands => roster.due label command ++ expected label (roster.after command) commands

def attends (roster : Roster) (l : Nat) (destination : String) : Bool :=
  (roster.members[l]?).any fun member =>
    member.state = .started && member.config.destination = destination

/-- What is published to the destination of listener `l` while it is started, the earliest first. -/
def heard (l : Nat) (roster : Roster) : List Command → List Event
  | [] => []
  | .publish destination message :: commands =>
    if roster.attends l destination then message.loggable?.toList ++ heard l roster commands
    else heard l roster commands
  | command :: commands => heard l (roster.after command) commands

end Roster

/-- Listeners of one name ask for the same connection. -/
def Agree (configs : List ListenerConfig) : Prop :=
  ∀ a ∈ configs, ∀ b ∈ configs, a.id = b.id → a.params = b.params

instance (configs : List ListenerConfig) : Decidable (Agree configs) :=
  inferInstanceAs (Decidable (∀ a ∈ configs, ∀ b ∈ configs, a.id = b.id → a.params = b.params))

theorem Agree.mono {configs fewer : List ListenerConfig} (agree : Agree configs)
    (among : ∀ config ∈ fewer, config ∈ configs) : Agree fewer :=
  fun a left b right => agree a (among a left) b (among b right)

def Command.config? : Command → Option ListenerConfig
  | .listen config _ _ => some config
  | _ => none

namespace Roster

section Runs

variable {roster other : Roster} {label : String} {l : Nat}

theorem foldl_required (commands : List Command) :
    (commands.foldl after roster).required = roster.required := by
  induction commands generalizing roster with
  | nil => rfl
  | cons command rest ih =>
    rw [List.foldl_cons, ih]
    cases command <;> rfl

theorem expected_append (earlier later : List Command) :
    expected label roster (earlier ++ later) =
      expected label roster earlier ++ expected label (earlier.foldl after roster) later := by
  induction earlier generalizing roster with
  | nil => rfl
  | cons command rest ih => simp only [List.cons_append, expected, ih, List.foldl_cons, List.append_assoc]

theorem after_members (roster : Roster) (command : Command) {i : Nat} {member : Member}
    (present : roster.members[i]? = some member) :
    ∃ state, (roster.after command).members[i]? = some { member with state } := by
  have inside := (List.getElem?_eq_some_iff.mp present).1
  cases command with
  | listen config sink diagnostics =>
    refine ⟨member.state, ?_⟩
    simp only [after, List.getElem?_append_left inside, present]
  | start other =>
    simp only [after, List.getElem?_modify, present]
    by_cases here : other = i
    · exact ⟨roster.started member, by simp [here]⟩
    · exact ⟨member.state, by simp [here]⟩
  | stop other =>
    simp only [after, List.getElem?_modify, present]
    by_cases here : other = i
    · exact ⟨.stopped, by simp [here]⟩
    · exact ⟨member.state, by simp [here]⟩
  | setUnavailable value => exact ⟨member.state, present⟩
  | setCloseFailure value => exact ⟨member.state, present⟩
  | publish destination message => exact ⟨member.state, present⟩

theorem foldl_members (commands : List Command) {i : Nat} {member : Member}
    (present : roster.members[i]? = some member) :
    ∃ state, (commands.foldl after roster).members[i]? = some { member with state } := by
  induction commands generalizing roster member with
  | nil => exact ⟨member.state, present⟩
  | cons command rest ih =>
    obtain ⟨state, present⟩ := after_members roster command present
    have later := ih present
    exact later

theorem configs_after (roster : Roster) (command : Command) :
    (roster.after command).members.map Member.config =
      roster.members.map Member.config ++ command.config?.toList := by
  cases command with
  | listen config sink diagnostics => simp [after, Command.config?]
  | start l => simp [after, Command.config?, map_modify_same]
  | stop l => simp [after, Command.config?, map_modify_same]
  | setUnavailable value => simp [after, Command.config?]
  | setCloseFailure value => simp [after, Command.config?]
  | publish destination message => simp [after, Command.config?]

theorem countP_of_only {α : Type} {list : List α} {p : α → Bool} {l : Nat}
    (only : ∀ i a, list[i]? = some a → p a = true → i = l) :
    list.countP p = if (list[l]?).any p then 1 else 0 := by
  induction list generalizing l with
  | nil => simp
  | cons a rest ih =>
    have shifted : ∀ i b, rest[i]? = some b → p b = true → i + 1 = l := fun i b there holds =>
      only (i + 1) b there holds
    cases l with
    | zero =>
      have none : rest.countP p = 0 := by
        rw [List.countP_eq_zero]
        intro b member holds
        obtain ⟨i, there⟩ := List.getElem?_of_mem member
        have away := shifted i b there holds
        omega
      simp [List.countP_cons, none]
    | succ k =>
      have first : p a = false := by
        cases holds : p a with
        | false => rfl
        | true =>
          have here := only 0 a rfl holds
          omega
      have others := @ih k (fun i b there holds => by
        have place := shifted i b there holds
        omega)
      simp [first, others]

/-- Under a label that only one listener's sink keeps, its events are all that there is. -/
theorem expected_eq_heard {commands : List Command}
    (only : ∀ i member, (commands.foldl after roster).members[i]? = some member →
      (member.sink.keeps label = true ↔ i = l)) :
    expected label roster commands = heard l roster commands := by
  induction commands generalizing roster with
  | nil => rfl
  | cons command rest ih =>
    have later := ih only
    cases command with
    | publish destination message =>
      have now : ∀ i member, roster.members[i]? = some member →
          (member.sink.keeps label = true ↔ i = l) := by
        intro i member present
        obtain ⟨state, there⟩ := foldl_members rest present
        have settled := only i _ there
        exact settled
      have hears : ((roster.members[l]?).any fun member => member.hears label destination) =
          roster.attends l destination := by
        unfold attends
        cases present : roster.members[l]? with
        | none => rfl
        | some member =>
          have keeps := (now l member present).mpr rfl
          simp [Member.hears, keeps]
      have count : (roster.members.countP fun member => member.hears label destination) =
          if roster.attends l destination then 1 else 0 := by
        rw [← hears]
        apply countP_of_only
        intro i member present holds
        simp only [Member.hears, Bool.and_eq_true] at holds
        exact (now i member present).mp holds.2
      simp only [expected, due, heard, count]
      have same : roster.after (.publish destination message) = roster := rfl
      rw [same] at later ⊢
      rw [later, Message.copies]
      cases message.loggable? <;> cases roster.attends l destination <;> rfl
    | listen config sink diagnostics => exact later
    | start other => exact later
    | stop other => exact later
    | setUnavailable value => exact later
    | setCloseFailure value => exact later

structure Alike (label : String) (roster other : Roster) : Prop where
  required : roster.required = other.required
  unavailable : roster.unavailable = other.unavailable
  length : roster.members.length = other.members.length
  members : ∀ (i : Nat) (member : Member), roster.members[i]? = some member → ∃ state,
    other.members[i]? = some { member with state } ∧
      (member.sink.keeps label = true → state = member.state)

namespace Alike

theorem admits (alike : Alike label roster other) (config : ListenerConfig) :
    other.admits config = roster.admits config := by
  rw [Roster.admits, Roster.admits, alike.unavailable, alike.required]

theorem modify (alike : Alike label roster other) (l : Nat) (f : Member → ListenerState)
    (g : Member → ListenerState) (same : ∀ member, f member = g member) :
    Alike label
      { roster with members := roster.members.modify l fun member => { member with state := f member } }
      { other with members := other.members.modify l fun member => { member with state := g member } } where
  required := alike.required
  unavailable := alike.unavailable
  length := by simp [alike.length]
  members := by
    intro i member present
    simp only [List.getElem?_modify, Option.map_eq_map, Option.map_eq_some_iff] at present
    obtain ⟨old, there, changed⟩ := present
    obtain ⟨state, has, kept⟩ := alike.members i old there
    simp only [List.getElem?_modify, has]
    by_cases here : l = i
    · rw [if_pos here] at changed
      subst changed
      refine ⟨g { old with state }, by simp [here], ?_⟩
      intro keeps
      rw [kept keeps, ← same]
    · rw [if_neg here] at changed
      subst changed
      exact ⟨state, by simp [here], kept⟩

theorem after (alike : Alike label roster other) (command : Command) :
    Alike label (roster.after command) (other.after command) := by
  cases command with
  | listen config sink diagnostics =>
    refine ⟨alike.required, alike.unavailable, by simp [Roster.after, alike.length], ?_⟩
    intro i member present
    simp only [Roster.after, List.getElem?_append] at present ⊢
    rw [← alike.length]
    by_cases inside : i < roster.members.length
    · rw [if_pos inside] at present ⊢
      exact alike.members i member present
    · rw [if_neg inside] at present ⊢
      exact ⟨member.state, present, fun _ => rfl⟩
  | start l =>
    apply alike.modify
    intro member
    rw [Roster.started, Roster.started, alike.admits]
  | stop l => exact alike.modify l _ _ fun _ => rfl
  | setUnavailable value => exact ⟨alike.required, rfl, alike.length, alike.members⟩
  | setCloseFailure value => exact alike
  | publish destination message => exact alike

theorem due (alike : Alike label roster other) (command : Command) :
    other.due label command = roster.due label command := by
  have hears : ∀ destination, (other.members.map fun member => member.hears label destination) =
      roster.members.map fun member => member.hears label destination := by
    intro destination
    apply List.ext_getElem?
    intro i
    rw [List.getElem?_map, List.getElem?_map]
    cases present : roster.members[i]? with
    | none =>
      have outside := List.getElem?_eq_none_iff.mp present
      rw [alike.length] at outside
      rw [List.getElem?_eq_none_iff.mpr outside]
    | some member =>
      obtain ⟨state, has, kept⟩ := alike.members i member present
      rw [has, Option.map_some, Option.map_some, Option.some.injEq]
      cases keeps : member.sink.keeps label with
      | true => rw [kept keeps]
      | false => simp [Member.hears, keeps]
  cases command with
  | publish destination message =>
    have count := congrArg (List.countP id) (hears destination)
    rw [List.countP_map, List.countP_map] at count
    exact congrArg message.copies count
  | listen config sink diagnostics => rfl
  | start l => rfl
  | stop l => rfl
  | setUnavailable value => rfl
  | setCloseFailure value => rfl

theorem expected (alike : Alike label roster other) (commands : List Command) :
    other.expected label commands = roster.expected label commands := by
  induction commands generalizing roster other with
  | nil => rfl
  | cons command rest ih => rw [Roster.expected, Roster.expected, alike.due, ih (alike.after command)]

end Alike

theorem expected_stop {earlier later : List Command}
    (apart : ∀ member, ((earlier ++ .stop l :: later).foldl after roster).members[l]? = some member →
      member.sink.keeps label = false) :
    expected label roster (earlier ++ .stop l :: later) = expected label roster (earlier ++ later) := by
  rw [List.foldl_append, List.foldl_cons] at apart
  have alike : Alike label (earlier.foldl after roster) ((earlier.foldl after roster).after (.stop l)) := by
    refine ⟨rfl, rfl, by simp [after], ?_⟩
    intro i member present
    simp only [after, List.getElem?_modify, present]
    by_cases here : l = i
    · subst here
      refine ⟨.stopped, by simp, ?_⟩
      intro keeps
      obtain ⟨found, between⟩ := after_members _ (.stop l) present
      obtain ⟨state, last⟩ := foldl_members later between
      have drops := apart _ last
      rw [keeps] at drops
      cases drops
    · exact ⟨member.state, by simp [here], fun _ => rfl⟩
  rw [expected_append, expected_append, expected, alike.expected later]
  rfl

end Runs

end Roster

namespace Relay

def overMemory (logger : Logger) (reach : Mqtt.Options → Mqtt.Attempt) : Relay :=
  { logger, reach, brokers := [{}], registries := [{}] }

/-- What a command leaves, unless it fails or does not come to its end. -/
def perform (required : Option (String × String)) (relay : Relay) : Command → Option Relay
  | .listen config sink diagnostics =>
    match relay.listen config 0 (.memory 0 required) sink diagnostics with
    | (relay, .ok _) => some relay
    | (_, .error _) => none
  | .start l =>
    match relay.call (.start l .claim) with
    | (relay, some _) => some relay
    | (_, none) => none
  | .stop l =>
    match relay.call (.stop l .read) with
    | (relay, some _) => some relay
    | (_, none) => none
  | .setUnavailable value =>
    (relay.brokers[0]?).map fun broker => relay.setBroker 0 { broker with unavailable := value }
  | .setCloseFailure value =>
    (relay.brokers[0]?).map fun broker => relay.setBroker 0 { broker with failClose := value }
  | .publish destination message => some (relay.publish 0 destination message).1

def performAll (required : Option (String × String)) (relay : Relay) : List Command → Option Relay
  | [] => some relay
  | command :: commands =>
    match relay.perform required command with
    | some next => next.performAll required commands
    | none => none

end Relay

end EventRelay
