import EventRelay.Text.Pattern.Basic

namespace EventRelay.Pattern

def isWordChar (c : Char) : Bool := c.isAlphanum || c = '_'

def WordEdge.holds (edge : WordEdge) (before after : Option Char) : Bool :=
  let before := before.any isWordChar
  let after := after.any isWordChar
  match edge with
  | anyEdge => before != after
  | noEdge => before == after
  | start => !before && after
  | finish => before && !after
  | startHalf => !before
  | finishHalf => !after

/-- Whether a place is there between two characters, of which one is missing at an end. A line break of
    two characters is not parted. Words in any script are not known, and neither are their edges. -/
def Place.holds (place : Place) (before after : Option Char) : Bool :=
  match place with
  | textStart => before.isNone
  | textEnd => after.isNone
  | lineStart false => before.all (· = '\n')
  | lineStart true =>
    before.all (· = '\n') || (before.any (· = '\r') && !after.any (· = '\n'))
  | lineEnd false => after.all (· = '\n')
  | lineEnd true =>
    after.all (· = '\r') || (after.any (· = '\n') && !before.any (· = '\r'))
  | asciiWord edge => edge.holds before after
  | word _ => false

def standing (set : CharSet) (text : List Char) : Nat :=
  text.foldr (fun c positions => 2 * positions + if set.contains c then 1 else 0) 0

def placed (place : Place) (before : Option Char) : List Char → Nat
  | [] => if place.holds before none then 1 else 0
  | c :: rest =>
    2 * placed place (some c) rest + if place.holds before (some c) then 1 else 0

structure Stage where
  passing : Nat
  advances : Bool
  nexts : List Nat

abbrev Search := Array Stage × Nat

namespace Search

def push (search : Search) (stage : Stage) : Search := (search.1.push stage, search.1.size)

def behindOne (search : Search) (set : CharSet) (searched : List Char) : Search :=
  search.push ⟨standing set searched, true, [search.2]⟩

end Search

def everywhere (searched : List Char) : Nat := 1 <<< (searched.length + 1) - 1

mutual

/-- Puts a pattern before a search. A part that may be repeated without end leads back to where it is
    chosen whether to go on. -/
def before (searched : List Char) : Pattern → Search → Search
  | empty, search => search
  | text chars, search =>
    chars.foldr (fun c search => search.behindOne (.one c) searched) search
  | char set, search => search.behindOne set searched
  | place p, search => search.push ⟨placed p none searched, false, [search.2]⟩
  | repeated low none _ part, (stages, next) =>
    let choice (nexts : List Nat) : Stage := ⟨everywhere searched, false, nexts⟩
    let (looped, start) := part.before searched (stages.push (choice [next]), stages.size)
    let loop : Search := (looped.setIfInBounds stages.size (choice [start, next]), stages.size)
    Nat.repeat (part.before searched) low loop
  | repeated low (some high) _ part, search =>
    let optional (rest : Search) : Search :=
      let taken := part.before searched rest
      taken.push ⟨everywhere searched, false, [taken.2, search.2]⟩
    Nat.repeat (part.before searched) low (Nat.repeat optional (high - low) search)
  | captured _ part, search => part.before searched search
  | seq parts, search => allBefore searched parts search
  | either branches, search =>
    let (stages, starts) := eachBefore searched branches search
    Search.push (stages, search.2) ⟨everywhere searched, false, starts⟩

def allBefore (searched : List Char) : List Pattern → Search → Search
  | [], search => search
  | part :: rest, search => part.before searched (allBefore searched rest search)

def eachBefore (searched : List Char) : List Pattern → Search → Array Stage × List Nat
  | [], search => (search.1, [])
  | branch :: rest, search =>
    let (stages, start) := branch.before searched search
    let (stages, starts) := eachBefore searched rest (stages, search.2)
    (stages, start :: starts)

end

/-- Whether the first stage can be reached from stages at positions, in so many steps at most. A stage
    goes on only from positions at which the search has not come to it before. -/
def reaches (stages : Array Stage) : Nat → List (Nat × Nat) → Array Nat → Bool
  | 0, _, _ => false
  | _ + 1, [], _ => false
  | fuel + 1, (i, positions) :: pending, reached =>
    let old := reached.getD i 0
    let all := old ||| positions
    if all = old then reaches stages fuel pending reached
    else if i = 0 then true
    else
      match stages[i]? with
      | none => reaches stages fuel pending reached
      | some stage =>
        let passed := (all ^^^ old) &&& stage.passing
        let moved := if stage.advances then 2 * passed else passed
        reaches stages fuel (stage.nexts.map (·, moved) ++ pending) (reached.setIfInBounds i all)

/-- Whether the pattern matches somewhere in the text. Each stage goes on at most once from each
    position. -/
def occursIn (pattern : Pattern) (text : String) : Bool :=
  let searched := text.toList
  let (stages, start) := pattern.before searched (#[⟨0, false, []⟩], 0)
  let ways := stages.foldl (fun sum stage => sum + stage.nexts.length) 0
  reaches stages ((searched.length + 1) * ways + 2) [(start, everywhere searched)]
    (Array.replicate stages.size 0)

end EventRelay.Pattern
