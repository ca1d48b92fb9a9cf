import EventRelay.Text.Pattern.Escape

namespace EventRelay.Pattern

def namedClasses : List (String × List (Char × Char)) :=
  [("alnum", [('0', '9'), ('A', 'Z'), ('a', 'z')]),
    ("alpha", [('A', 'Z'), ('a', 'z')]),
    ("ascii", [('\x00', '\x7f')]),
    ("blank", [('\t', '\t'), (' ', ' ')]),
    ("cntrl", [('\x00', '\x1f'), ('\x7f', '\x7f')]),
    ("digit", [('0', '9')]),
    ("graph", [('!', '~')]),
    ("lower", [('a', 'z')]),
    ("print", [(' ', '~')]),
    ("punct", [('!', '/'), (':', '@'), ('[', '\x60'), ('\x7b', '~')]),
    ("space", [('\t', '\r'), (' ', ' ')]),
    ("upper", [('A', 'Z')]),
    ("word", [('0', '9'), ('A', 'Z'), ('_', '_'), ('a', 'z')]),
    ("xdigit", [('0', '9'), ('A', 'F'), ('a', 'f')])]

structure Members where
  span : Span
  items : List ClassTree := []

namespace Members

def add (members : Members) (item : ClassTree) : Members :=
  let first := if members.items.isEmpty then item.span.first else members.span.first
  ⟨⟨first, item.span.after⟩, item :: members.items⟩

def toTree (members : Members) : ClassTree :=
  match members.items with
  | [] => .empty members.span
  | [item] => item
  | items => .union members.span items.reverse

end Members

structure OpenClass where
  span : Span
  negated : Bool
  pending : Option (ClassTree × ClassOperation) := none
  members : Members

namespace OpenClass

def add (opened : OpenClass) (item : ClassTree) : OpenClass :=
  { opened with members := opened.members.add item }

def soFar (opened : OpenClass) : ClassTree :=
  let right := opened.members.toTree
  match opened.pending with
  | none => right
  | some (left, operation) =>
    .operation ⟨left.span.first, right.span.after⟩ operation left right

def operate (opened : OpenClass) (operation : ClassOperation) (right : Span) : OpenClass :=
  { opened with pending := some (opened.soFar, operation), members := ⟨right, []⟩ }

end OpenClass

def readHyphens (first : Position) : Nat → Members → Cursor → Reading (Members × Cursor)
  | 0, members, cursor => .ok (members, cursor)
  | fuel + 1, members, cursor =>
    if cursor.head? = some '-' then
      let after := cursor.advance
      if after.isAtEnd then refuse .classUnclosed (.point first)
      else readHyphens first fuel (members.add (.literal ⟨cursor.charSpan, '-', false⟩)) after
    else .ok (members, cursor)

/-- Opens a class. Hyphens at its front, or else a closing bracket there, stand for themselves. -/
def openClass (start : Cursor) : Reading (OpenClass × Cursor) := do
  let first := start.position
  let unclosed {α : Type} (cursor : Cursor) : Reading α := refuse .classUnclosed (cursor.since first)
  let inside := start.advance
  let negated := inside.head? = some '^'
  let front := if negated then inside.advance else inside
  if front.isAtEnd then unclosed front
  else
    let (members, cursor) ← readHyphens first front.rest.length ⟨front.here, []⟩ front
    if members.items.isEmpty ∧ cursor.head? = some ']' then
      let after := cursor.advance
      if after.isAtEnd then unclosed after
      else
        let members := members.add (.literal ⟨cursor.charSpan, ']', false⟩)
        return ({ span := after.since first, negated, members }, after)
    else return ({ span := cursor.since first, negated, members }, cursor)

def readNamed? (start : Cursor) : Option (ClassTree × Cursor) :=
  let colon := start.next
  if colon.head? = some ':' then
    let inside := colon.next
    let negated := inside.head? = some '^'
    let name := if negated then inside.next else inside
    let text := name.rest.takeWhile (· ≠ ':')
    let last := name.drop text.length
    if last.startsWith ":]" then
      match namedClasses.lookup (String.ofList text) with
      | some ranges =>
        let after := last.drop 2
        some (.named (after.since start.position) (CharSet.ofRanges ranges) negated, after)
      | none => none
    else none
  else none

def readMember (cursor : Cursor) : Reading (Primitive × Cursor) :=
  match cursor.head? with
  | some '\\' => readEscape cursor
  | some c => .ok (.literal ⟨cursor.charSpan, c, false⟩, cursor.next)
  | none => refuse .classUnclosed cursor.here

def readRange (opened : OpenClass) (start : Cursor) : Reading (ClassTree × Cursor) := do
  let unclosed {α : Type} : Reading α := refuse .classUnclosed opened.span
  let (left, behind) ← readMember start
  let cursor := behind.skip
  if cursor.isAtEnd then unclosed
  else if cursor.head? = some '-' ∧ cursor.secondThatCounts? ≠ some ']'
      ∧ cursor.secondThatCounts? ≠ some '-' then
    let right := cursor.advance
    if right.isAtEnd then unclosed
    else
      let (last, after) ← readMember right
      let span : Span := ⟨left.span.first, last.span.after⟩
      let first ← left.toLiteral
      let last ← last.toLiteral
      if first.char ≤ last.char then return (.range span first last, after)
      else refuse .classRangeInvalid span
  else return (← left.toMember, cursor)

def operationAt? (cursor : Cursor) : Option ClassOperation :=
  if cursor.startsWith "&&" then some .intersection
  else if cursor.startsWith "--" then some .difference
  else if cursor.startsWith "~~" then some .symmetricDifference
  else none

/-- Reads on to the end of the outermost class, but so many parts at most. -/
def readClassParts :
    Nat → OpenClass → List OpenClass → Cursor → Reading ((Span × Bool × ClassTree) × Cursor)
  | 0, opened, _, _ => refuse .classUnclosed opened.span
  | fuel + 1, opened, outer, cursor => do
    let cursor := cursor.skip
    match cursor.head? with
    | none => refuse .classUnclosed opened.span
    | some '[' =>
      match readNamed? cursor with
      | some (item, after) => readClassParts fuel (opened.add item) outer after
      | none =>
        let (inner, after) ← openClass cursor
        readClassParts fuel inner (opened :: outer) after
    | some ']' =>
      let after := cursor.next
      let span := after.since opened.span.first
      match outer with
      | [] => return ((span, opened.negated, opened.soFar), after)
      | next :: outer =>
        let item := ClassTree.bracketed span opened.negated opened.soFar
        readClassParts fuel (next.add item) outer after
    | some _ =>
      match operationAt? cursor with
      | some operation =>
        let after := cursor.drop 2
        readClassParts fuel (opened.operate operation after.here) outer after
      | none =>
        let (item, after) ← readRange opened cursor
        readClassParts fuel (opened.add item) outer after

def readClass (start : Cursor) : Reading (Tree × Cursor) := do
  let (opened, cursor) ← openClass start
  let ((span, negated, inside), after) ← readClassParts (cursor.rest.length + 1) opened [] cursor
  return (.bracketed span negated inside, after)

end EventRelay.Pattern
