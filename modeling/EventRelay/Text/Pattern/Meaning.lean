import EventRelay.Text.Pattern.Basic
import EventRelay.Text.Pattern.Cursor
import EventRelay.Text.Pattern.Tree

namespace EventRelay.Pattern

structure Modes where
  caseless : Bool := false
  lines : Bool := false
  wide : Bool := false
  lazy : Bool := false
  text : Bool := true
  returns : Bool := false
deriving DecidableEq, Repr

def Modes.set (modes : Modes) : Flag × Bool → Modes
  | (.caseless, on) => { modes with caseless := on }
  | (.lines, on) => { modes with lines := on }
  | (.wide, on) => { modes with wide := on }
  | (.lazy, on) => { modes with lazy := on }
  | (.text, on) => { modes with text := on }
  | (.returns, on) => { modes with returns := on }
  | (.verbose, _) => modes

def Letter.asciiSet : Letter → CharSet
  | .digit => .ofRanges [('0', '9')]
  | .space => .ofRanges [('\t', '\r'), (' ', ' ')]
  | .word => .ofRanges [('0', '9'), ('A', 'Z'), ('_', '_'), ('a', 'z')]

/-- The name of a property as it is looked up: in small letters, without spaces and hyphens, without
    what is not of ASCII, and without "is" at the front. -/
def propertyKey (name : String) : List Char :=
  let chars := name.toList
  let chars := if (chars.take 2).map Char.toLower = ['i', 's'] then chars.drop 2 else chars
  (chars.filter fun c => c.toNat < 0x80 && !"-_ ".contains c).map Char.toLower

/-- What is missing of a property: no property is known, and of three names that are also those of
    values no value is. -/
def Query.flaw : Query → Flaw
  | .named name =>
    if ["cf", "sc", "lc"].contains (String.ofList (propertyKey name)) then .propertyValueUnknown
    else .propertyUnknown
  | .valued => .propertyUnknown

def refuseProperty {α : Type} (modes : Modes) (span : Span) (query : Query) : Reading α :=
  refuse (if modes.text then query.flaw else .onlyForText) span

/-- The characters of a class of a letter. Those of all scripts are not known, and outside ASCII a
    class could cut a character apart. -/
def letterSet (modes : Modes) (span : Span) (letter : Letter) (negated : Bool) :
    Reading CharSet :=
  if modes.text then refuse .classUnavailable span
  else if negated then refuse .partOfCharacter span
  else .ok letter.asciiSet

def checkOctet (modes : Modes) (l : Literal) : Reading Unit :=
  if !modes.text && l.octet && 0x80 ≤ l.char.toNat then refuse .partOfCharacter l.span else .ok ()

def checkMember (modes : Modes) (l : Literal) : Reading Unit := do
  checkOctet modes l
  if !modes.text && 0x80 ≤ l.char.toNat then refuse .onlyForText l.span

structure Gathered where
  set : CharSet := {}
  folded : Bool := true

namespace Gathered

def push (a : Gathered) (set : CharSet) : Gathered := ⟨a.set.union set, false⟩

def union (a b : Gathered) : Gathered :=
  if b.set.isEmpty ∨ a.set = b.set then a else ⟨a.set.union b.set, a.folded && b.folded⟩

def intersection (a b : Gathered) : Gathered :=
  if a.set.isEmpty then a
  else if b.set.isEmpty then {}
  else ⟨a.set.intersection b.set, a.folded && b.folded⟩

def difference (a b : Gathered) : Gathered :=
  if a.set.isEmpty ∨ b.set.isEmpty then a
  else ⟨a.set.difference b.set, a.folded && b.folded⟩

def combine (operation : ClassOperation) (a b : Gathered) : Gathered :=
  match operation with
  | .intersection => a.intersection b
  | .difference => a.difference b
  | .symmetricDifference => (a.union b).difference (a.intersection b)

def complement (a : Gathered) : Gathered := ⟨a.set.complement, a.folded || a.set.isEmpty⟩

def fold (modes : Modes) (span : Span) (a : Gathered) : Reading Gathered :=
  if !modes.caseless || a.folded then .ok a
  else if a.set.isEmpty then .ok {}
  else if modes.text then refuse .caseUnavailable span
  else .ok ⟨a.set.foldAscii, true⟩

/-- Closes a class. One of ASCII must not be left with anything else. -/
def close (modes : Modes) (span : Span) (negated : Bool) (a : Gathered) : Reading Gathered := do
  let folded ← a.fold modes span
  let closed := if negated then folded.complement else folded
  if !modes.text && !closed.set.isAscii then refuse .partOfCharacter span else return closed

end Gathered

mutual

def ClassTree.gather (modes : Modes) (a : Gathered) : ClassTree → Reading Gathered
  | .empty _ => .ok a
  | .literal l => do
    checkMember modes l
    return a.push (.one l.char)
  | .range _ first last => do
    checkMember modes first
    checkMember modes last
    return a.push (.range first.char last.char)
  | .named span set negated => do return a.union (← Gathered.close modes span negated ⟨set, false⟩)
  | .letter span l negated => do return a.union ⟨← letterSet modes span l negated, false⟩
  | .property span query => refuseProperty modes span query
  | .bracketed span negated inside => do
    let b ← inside.gather modes {}
    return a.union (← b.close modes span negated)
  | .union _ items => ClassTree.gatherAll modes a items
  | .operation _ joint left right => do
    let l ← left.gather modes {}
    let r ← right.gather modes {}
    let r ← r.fold modes right.span
    let l ← l.fold modes left.span
    return a.union (l.combine joint r)

def ClassTree.gatherAll (modes : Modes) (a : Gathered) : List ClassTree → Reading Gathered
  | [] => .ok a
  | item :: rest => do ClassTree.gatherAll modes (← item.gather modes a) rest

end

def Literal.meaning (modes : Modes) (l : Literal) : Reading Pattern := do
  checkOctet modes l
  if !modes.caseless then return text [l.char]
  else if modes.text then refuse .caseUnavailable l.span
  else return ofSet (CharSet.one l.char).foldAscii

def dotMeaning (modes : Modes) (span : Span) : Reading Pattern :=
  if !modes.text then refuse .partOfCharacter span
  else if modes.wide then .ok (ofSet .any)
  else if modes.returns then .ok (ofSet (CharSet.ofRanges [('\n', '\n'), ('\r', '\r')]).complement)
  else .ok (ofSet (CharSet.one '\n').complement)

def Assertion.place (modes : Modes) (assertion : Assertion) : Place :=
  let word (edge : WordEdge) : Place := if modes.text then .word edge else .asciiWord edge
  match assertion with
  | .lineStart => if modes.lines then .lineStart modes.returns else .textStart
  | .lineEnd => if modes.lines then .lineEnd modes.returns else .textEnd
  | .textStart => .textStart
  | .textEnd => .textEnd
  | .wordEdge => word .anyEdge
  | .noWordEdge => word .noEdge
  | .wordStart => word .start
  | .wordEnd => word .finish
  | .wordStartHalf => word .startHalf
  | .wordEndHalf => word .finishHalf

mutual

/-- What a part means, and the modes behind it: the flags that are set in a group last to its end. -/
def Tree.meaning (modes : Modes) : Tree → Reading (Pattern × Modes)
  | .empty _ => .ok (Pattern.empty, modes)
  | .flags _ set => .ok (Pattern.empty, set.foldl Modes.set modes)
  | .literal l => do return (← l.meaning modes, modes)
  | .dot span => do return (← dotMeaning modes span, modes)
  | .assertion _ a => .ok (place (a.place modes), modes)
  | .letter span l negated => do return (ofSet (← letterSet modes span l negated), modes)
  | .property span query => refuseProperty modes span query
  | .bracketed span negated inside => do
    let a ← inside.gather modes {}
    return (ofSet (← a.close modes span negated).set, modes)
  | .repetition _ low high seldom part => do
    let (part, modes) ← part.meaning modes
    return (Pattern.repetition low high (seldom != modes.lazy) part, modes)
  | .group span none part => do
    let (part, _) ← part.meaning modes
    return (captured span.first.offset part, modes)
  | .group _ (some set) part => do
    let (part, _) ← part.meaning (set.foldl Modes.set modes)
    return (part, modes)
  | .sequence _ parts => do
    let (parts, modes) ← Tree.meanings modes parts
    return (Pattern.sequence parts, modes)
  | .alternation _ branches => do
    let (branches, modes) ← Tree.meanings modes branches
    return (Pattern.alternation branches, modes)

def Tree.meanings (modes : Modes) : List Tree → Reading (List Pattern × Modes)
  | [] => .ok ([], modes)
  | part :: rest => do
    let (part, modes) ← part.meaning modes
    let (rest, modes) ← Tree.meanings modes rest
    return (part :: rest, modes)

end

end EventRelay.Pattern
