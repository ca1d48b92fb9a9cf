import EventRelay.Text.Pattern.Class
import EventRelay.Text.Pattern.Group

namespace EventRelay.Pattern

structure OpenBranches where
  first : Position
  branches : List Tree := []
  branchFirst : Position
  parts : List Tree := []

namespace OpenBranches

def startAt (position : Position) : OpenBranches := { first := position, branchFirst := position }

def add (opened : OpenBranches) (part : Tree) : OpenBranches :=
  { opened with parts := part :: opened.parts }

def branch (opened : OpenBranches) (after : Position) : Tree :=
  Tree.ofParts ⟨opened.branchFirst, after⟩ opened.parts.reverse

def nextBranch (opened : OpenBranches) (sign next : Position) : OpenBranches :=
  { opened with branches := opened.branch sign :: opened.branches, branchFirst := next, parts := [] }

def close (opened : OpenBranches) (after : Position) : Tree :=
  if opened.branches.isEmpty then opened.branch after
  else .alternation ⟨opened.first, after⟩ (opened.branch after :: opened.branches).reverse

end OpenBranches

structure OpenGroup where
  span : Span
  flags : Option Flags
  verbose : Bool
  outer : OpenBranches

def skipWhite : Nat → Cursor → Cursor
  | 0, cursor => cursor
  | fuel + 1, cursor =>
    if cursor.head?.any isBlank then skipWhite fuel cursor.next else cursor

def readDigits : Nat → List Char → Cursor → List Char × Cursor
  | 0, digits, cursor => (digits.reverse, cursor)
  | fuel + 1, digits, cursor =>
    match cursor.head? with
    | none => (digits.reverse, cursor)
    | some c =>
      if c.isDigit then readDigits fuel (c :: digits) cursor.advance else (digits.reverse, cursor)

def countLimit : Nat := 1 <<< 32

def readCount (start : Cursor) : Reading Nat × Cursor :=
  let first := skipWhite start.rest.length start
  match readDigits first.rest.length [] first with
  | (digits, last) =>
    let span := last.since first.position
    let after := last.skipBlank last.rest.length
    let value := digits.foldl (fun n c => n * 10 + (c.toNat - '0'.toNat)) 0
    if digits.isEmpty then (refuse .countMissing span, after)
    else if value < countLimit then (.ok value, after)
    else (refuse .countTooLarge span, after)

def readCounts (start : Cursor) : Reading ((Nat × Option Nat) × Cursor) := do
  let unclosed {α : Type} (cursor : Cursor) : Reading α :=
    refuse .countUnclosed (cursor.since start.position)
  let inside := start.advance
  if inside.isAtEnd then unclosed inside
  else
    let (low, behind) := readCount inside
    if behind.isAtEnd then unclosed behind
    else
      let (counts, last) ←
        if behind.head? = some ',' then
          let right := behind.advance
          if right.isAtEnd then unclosed right
          else if right.head? = some '}' then
            let low ← low
            pure ((low, none), right)
          else
            let low ← low
            let (high, last) := readCount right
            let high ← high
            pure ((low, some high), last)
        else
          let count ← low
          pure ((count, some count), behind)
      if last.head? = some '}' then return (counts, last) else unclosed last

def readSeldom (cursor : Cursor) : Bool × Cursor :=
  if cursor.head? = some '?' then (true, cursor.next) else (false, cursor)

def takeRepeated (opened : OpenBranches) (sign : Cursor) : Reading (Tree × OpenBranches) :=
  match opened.parts with
  | [] => refuse .nothingToRepeat sign.here
  | part :: parts =>
    if part.isBare then refuse .nothingToRepeat sign.here
    else .ok (part, { opened with parts })

def putRepeated (opened : OpenBranches) (part : Tree) (counts : Nat × Option Nat) (seldom : Bool)
    (after : Cursor) : OpenBranches :=
  opened.add (.repetition (after.since part.span.first) counts.1 counts.2 seldom part)

def countsOf? (c : Char) : Option (Nat × Option Nat) :=
  match c with
  | '?' => some (0, some 1)
  | '*' => some (0, none)
  | '+' => some (1, none)
  | _ => none

def readPrimitive (c : Char) (cursor : Cursor) : Reading (Primitive × Cursor) :=
  let span := cursor.charSpan
  match c with
  | '\\' => readEscape cursor
  | '.' => .ok (.dot span, cursor.next)
  | '^' => .ok (.assertion span .lineStart, cursor.next)
  | '$' => .ok (.assertion span .lineEnd, cursor.next)
  | c => .ok (.literal ⟨span, c, false⟩, cursor.next)

def readParts : Nat → Names → OpenBranches → List OpenGroup → Cursor → Reading Tree
  | 0, _, _, _, cursor => refuse .groupUnclosed cursor.here
  | fuel + 1, names, opened, groups, cursor => do
    let cursor := cursor.skip
    match cursor.head? with
    | none =>
      match groups with
      | [] => return opened.close cursor.position
      | group :: _ => refuse .groupUnclosed group.span
    | some '(' =>
      let (opening, names, after) ← readOpening names cursor
      match opening with
      | .flags span flags =>
        let verbose := (flags.lookup .verbose).getD after.verbose
        readParts fuel names (opened.add (.flags span flags)) groups { after with verbose }
      | .group flags =>
        let verbose := ((flags.getD []).lookup .verbose).getD after.verbose
        let group := ⟨cursor.charSpan, flags, after.verbose, opened⟩
        readParts fuel names (.startAt after.position) (group :: groups) { after with verbose }
    | some ')' =>
      match groups with
      | [] => refuse .groupUnopened cursor.charSpan
      | group :: groups =>
        let after := cursor.next
        let part := Tree.group (after.since group.span.first) group.flags
          (opened.close cursor.position)
        readParts fuel names (group.outer.add part) groups { after with verbose := group.verbose }
    | some '|' =>
      let after := cursor.next
      readParts fuel names (opened.nextBranch cursor.position after.position) groups after
    | some '[' =>
      let (part, after) ← readClass cursor
      readParts fuel names (opened.add part) groups after
    | some '{' =>
      let (part, opened) ← takeRepeated opened cursor
      let (counts, last) ← readCounts cursor
      let (seldom, after) := readSeldom last.advance
      if counts.2.any (· < counts.1) then refuse .countInvalid (after.since cursor.position)
      else readParts fuel names (putRepeated opened part counts seldom after) groups after
    | some c =>
      match countsOf? c with
      | some counts =>
        let (part, opened) ← takeRepeated opened cursor
        let (seldom, after) := readSeldom cursor.next
        readParts fuel names (putRepeated opened part counts seldom after) groups after
      | none =>
        let (primitive, after) ← readPrimitive c cursor
        readParts fuel names (opened.add primitive.toTree) groups after

/-- Reads a pattern. Its parts must not be nested too deep. -/
def readTree (text : String) : Reading Tree := do
  let tree ← readParts (text.length + 1) [] (.startAt {}) [] { rest := text.toList }
  match tree.tooDeep? 0 with
  | some span => refuse .nestedTooDeep span
  | none => return tree

end EventRelay.Pattern
