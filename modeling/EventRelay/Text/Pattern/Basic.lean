import EventRelay.Text.CharSet

namespace EventRelay

namespace Pattern

inductive WordEdge
  | anyEdge
  | noEdge
  | start
  | finish
  | startHalf
  | finishHalf
deriving DecidableEq, Repr

inductive Place
  | textStart
  | textEnd
  | lineStart (returns : Bool)
  | lineEnd (returns : Bool)
  | asciiWord (edge : WordEdge)
  | word (edge : WordEdge)
deriving DecidableEq, Repr

end Pattern

inductive Pattern
  | empty
  | text (chars : List Char)
  | char (set : CharSet)
  | place (place : Pattern.Place)
  | repeated (low : Nat) (high : Option Nat) (seldom : Bool) (part : Pattern)
  | captured (offset : Nat) (part : Pattern)
  | seq (parts : List Pattern)
  | either (branches : List Pattern)

namespace Pattern

mutual

def same : Pattern → Pattern → Bool
  | empty, empty => true
  | text a, text b => a = b
  | char a, char b => a = b
  | place a, place b => a = b
  | repeated low high seldom a, repeated low' high' seldom' b =>
    low = low' && high = high' && seldom = seldom' && a.same b
  | captured offset a, captured offset' b => offset = offset' && a.same b
  | seq as, seq bs => sameParts as bs
  | either as, either bs => sameParts as bs
  | _, _ => false

def sameParts : List Pattern → List Pattern → Bool
  | [], [] => true
  | a :: as, b :: bs => a.same b && sameParts as bs
  | _, _ => false

end

mutual

def takesNothing : Pattern → Bool
  | empty => true
  | text _ => false
  | char _ => false
  | place _ => true
  | repeated _ high _ part => high.isSome && part.takesNothing
  | captured _ part => part.takesNothing
  | seq parts => allTakeNothing parts
  | either branches => allTakeNothing branches

def allTakeNothing : List Pattern → Bool
  | [] => true
  | part :: rest => part.takesNothing && allTakeNothing rest

end

mutual

/-- The least number of characters that a match takes. There is none for a pattern with a part that
    nothing matches. -/
def least? : Pattern → Option Nat
  | empty => some 0
  | text chars => some chars.length
  | char set => if set.isEmpty then none else some 1
  | place _ => some 0
  | repeated low _ _ part => part.least?.map (low * ·)
  | captured _ part => part.least?
  | seq parts => (leasts? parts).map List.sum
  | either branches => (leasts? branches).bind List.min?

def leasts? : List Pattern → Option (List Nat)
  | [] => some []
  | part :: rest =>
    match part.least?, leasts? rest with
    | some n, some ns => some (n :: ns)
    | _, _ => none

end

mutual

def beginsAt (here : Place) : Pattern → Bool
  | place p => p = here
  | repeated low _ _ part => low ≠ 0 && part.beginsAt here
  | captured _ part => part.beginsAt here
  | seq parts => firstBeginsAt here parts
  | either branches => allBeginAt here branches
  | _ => false

def firstBeginsAt (here : Place) : List Pattern → Bool
  | [] => false
  | part :: rest => part.beginsAt here || (part.takesNothing && firstBeginsAt here rest)

def allBeginAt (here : Place) : List Pattern → Bool
  | [] => true
  | branch :: rest => branch.beginsAt here && allBeginAt here rest

end

mutual

def finishesAt (here : Place) : Pattern → Bool
  | place p => p = here
  | repeated low _ _ part => low ≠ 0 && part.finishesAt here
  | captured _ part => part.finishesAt here
  | seq parts => lastFinishesAt here parts
  | either branches => allFinishAt here branches
  | _ => false

def lastFinishesAt (here : Place) : List Pattern → Bool
  | [] => false
  | part :: rest =>
    lastFinishesAt here rest || (allTakeNothing rest && part.finishesAt here)

def allFinishAt (here : Place) : List Pattern → Bool
  | [] => true
  | branch :: rest => branch.finishesAt here && allFinishAt here rest

end

mutual

def hasWord : Pattern → Bool
  | place (.word _) => true
  | repeated _ _ _ part => part.hasWord
  | captured _ part => part.hasWord
  | seq parts => anyHasWord parts
  | either branches => anyHasWord branches
  | _ => false

def anyHasWord : List Pattern → Bool
  | [] => false
  | part :: rest => part.hasWord || anyHasWord rest

end

def ofSet (set : CharSet) : Pattern :=
  match set.only? with
  | some c => text [c]
  | none => char set

def consPart : Pattern → List Pattern → List Pattern
  | empty, parts => parts
  | text a, text b :: rest => text (a ++ b) :: rest
  | part, parts => part :: parts

def toParts : Pattern → List Pattern
  | seq parts => parts
  | part => [part]

def sequence (parts : List Pattern) : Pattern :=
  match (parts.flatMap toParts).foldr consPart [] with
  | [] => empty
  | [part] => part
  | parts => seq parts

def toBranches : Pattern → List Pattern
  | either branches => branches
  | branch => [branch]

def single? : Pattern → Option CharSet
  | text [c] => some (.one c)
  | _ => none

def set? : Pattern → Option CharSet
  | char set => some set
  | _ => none

def parts? : Pattern → Option (List Pattern)
  | seq parts => some parts
  | _ => none

def sharedParts : List Pattern → List Pattern → List Pattern
  | a :: as, b :: bs => if a.same b then a :: sharedParts as bs else []
  | _, _ => []

/-- One of several patterns. Characters and sets of them are one set, and what all branches begin
    with comes first, but so often at most. -/
def alternationWithin : Nat → List Pattern → Pattern
  | 0, branches => either branches
  | fuel + 1, branches =>
    match branches.flatMap toBranches with
    | [] => char {}
    | [branch] => branch
    | branches =>
      match (branches.mapM single?).orElse fun _ => branches.mapM set? with
      | some sets => ofSet (.ofRuns (sets.flatMap (·.runs)))
      | none =>
        match branches.mapM parts? with
        | some (first :: rest) =>
          let shared := rest.foldl sharedParts first
          if shared.isEmpty then either branches
          else
            let behind := (first :: rest).map fun parts => sequence (parts.drop shared.length)
            sequence (shared ++ [alternationWithin fuel behind])
        | _ => either branches

def alternation (branches : List Pattern) : Pattern :=
  let first := (branches.flatMap toBranches).head?.map fun branch => branch.toParts.length
  alternationWithin (first.getD 0 + 2) branches

/-- A pattern so many times. Without characters, once is as good as more often. -/
def repetition (low : Nat) (high : Option Nat) (seldom : Bool) (part : Pattern) : Pattern :=
  let (low, high) :=
    if part.takesNothing then (min low 1, some (min (high.getD 1) 1)) else (low, high)
  if low = 0 ∧ high = some 0 then empty
  else if low = 1 ∧ high = some 1 then part
  else repeated low high seldom part

end Pattern

end EventRelay
