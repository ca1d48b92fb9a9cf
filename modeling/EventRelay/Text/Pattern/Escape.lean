import EventRelay.Octets
import EventRelay.Text.Pattern.Cursor
import EventRelay.Text.Pattern.Tree

namespace EventRelay.Pattern

inductive Primitive
  | literal (literal : Literal)
  | dot (span : Span)
  | assertion (span : Span) (assertion : Assertion)
  | letter (span : Span) (letter : Letter) (negated : Bool)
  | property (span : Span) (query : Query)

namespace Primitive

def span : Primitive → Span
  | literal l => l.span
  | dot span => span
  | assertion span _ => span
  | letter span _ _ => span
  | property span _ => span

def toTree : Primitive → Tree
  | literal l => .literal l
  | dot span => .dot span
  | assertion span a => .assertion span a
  | letter span l negated => .letter span l negated
  | property span query => .property span query

def toMember : Primitive → Reading ClassTree
  | literal l => .ok (.literal l)
  | letter span l negated => .ok (.letter span l negated)
  | property span query => .ok (.property span query)
  | other => refuse .classEscape other.span

def toLiteral : Primitive → Reading Literal
  | literal l => .ok l
  | other => refuse .classRangeBoundary other.span

end Primitive

def hexValue? (c : Char) : Option Nat := if c.toNat < 0x80 then hexDigit? c.toNat.toUInt8 else none

def readHexDigits : Nat → Nat → Cursor → Reading (Nat × Cursor)
  | 0, value, cursor => .ok (value, cursor)
  | n + 1, value, cursor =>
    match cursor.head? with
    | none => refuse .escapeCutShort cursor.here
    | some c =>
      match hexValue? c with
      | none => refuse .hexDigit cursor.charSpan
      | some d => readHexDigits n (value * 16 + d) cursor.advance

def readHexInBraces : Nat → Nat × Nat → Cursor → Reading ((Nat × Nat) × Cursor)
  | 0, read, cursor => .ok (read, cursor)
  | fuel + 1, (value, count), cursor =>
    match cursor.head? with
    | none => .ok ((value, count), cursor)
    | some c =>
      if c = '}' then .ok ((value, count), cursor)
      else
        match hexValue? c with
        | none => refuse .hexDigit cursor.charSpan
        | some d => readHexInBraces fuel (value * 16 + d, count + 1) cursor.advance

def charOf (value : Nat) (span : Span) : Reading Char :=
  if value.isValidChar then .ok (Char.ofNat value) else refuse .hexValue span

def readCodePoint (first : Position) (width : Nat) (letter : Cursor) :
    Reading (Primitive × Cursor) := do
  let digits := letter.advance
  match digits.head? with
  | none => refuse .escapeCutShort digits.here
  | some '{' =>
    let ((value, count), last) ← readHexInBraces digits.rest.length (0, 0) digits.advance
    if last.isAtEnd then refuse .escapeCutShort (last.since digits.position)
    else
      let after := last.advance
      if count = 0 then refuse .hexMissing (after.since digits.position)
      else
        let c ← charOf value (last.since digits.charSpan.after)
        return (.literal ⟨after.since first, c, false⟩, after)
  | some _ =>
    let (value, after) ← readHexDigits width 0 digits
    let c ← charOf value (after.since digits.position)
    return (.literal ⟨after.since first, c, width = 2⟩, after)

def readName : Nat → Cursor → List Char × Cursor
  | 0, cursor => ([], cursor)
  | fuel + 1, cursor =>
    match cursor.head? with
    | none => ([], cursor)
    | some c =>
      if c = '}' then ([], cursor)
      else
        match readName fuel cursor.advance with
        | (name, cursor) => (c :: name, cursor)

def readProperty (first : Position) (letter : Cursor) : Reading (Primitive × Cursor) :=
  let cursor := letter.advance
  match cursor.head? with
  | none => refuse .escapeCutShort cursor.here
  | some '{' =>
    match readName cursor.rest.length cursor.advance with
    | (name, last) =>
      if last.isAtEnd then refuse .escapeCutShort last.here
      else
        let after := last.next
        let query := if name.contains ':' || name.contains '=' then Query.valued
          else .named (String.ofList name)
        .ok (.property (after.since first) query, after)
  | some '\\' => refuse .propertyInvalid cursor.charSpan
  | some c =>
    let after := cursor.advance
    .ok (.property (after.since first) (.named c.toString), after)

def isEdgeChar (c : Char) : Bool := c.isAlpha || c = '-'

def readEdgeName : Nat → Cursor → List Char × Cursor
  | 0, cursor => ([], cursor)
  | fuel + 1, cursor =>
    match cursor.head? with
    | none => ([], cursor)
    | some c =>
      if isEdgeChar c then
        match readEdgeName fuel cursor.advance with
        | (name, cursor) => (c :: name, cursor)
      else ([], cursor)

def edgeOfName? (name : String) : Option Assertion :=
  match name with
  | "start" => some .wordStart
  | "end" => some .wordEnd
  | "start-half" => some .wordStartHalf
  | "end-half" => some .wordEndHalf
  | _ => none

/-- Reads the kind of a word edge in braces, if these hold no count. -/
def readEdge (first : Position) (brace : Cursor) : Reading (Option (Assertion × Cursor)) :=
  let inside := brace.advance
  match inside.head? with
  | none => refuse .wordEdgeCutShort (inside.since first)
  | some c =>
    if isEdgeChar c then
      match readEdgeName inside.rest.length inside with
      | (name, last) =>
        if last.head? = some '}' then
          match edgeOfName? (String.ofList name) with
          | some edge => .ok (some (edge, last.next))
          | none => refuse .wordEdgeUnknown (last.since inside.position)
        else refuse .wordEdgeUnclosed (last.since brace.position)
    else .ok none

/-- Whether a character may be escaped to stand for itself: all of ASCII but letters and digits and
    two signs that have a meaning. -/
def isEscapable (c : Char) : Bool :=
  c.toNat < 0x80 && !c.isAlphanum && c ≠ '<' && c ≠ '>'

def readEscape (start : Cursor) : Reading (Primitive × Cursor) :=
  let first := start.position
  let cursor := start.next
  match cursor.head? with
  | none => refuse .escapeCutShort (cursor.since first)
  | some c =>
    let after := cursor.next
    let span := after.since first
    let literal (c : Char) : Reading (Primitive × Cursor) := .ok (.literal ⟨span, c, false⟩, after)
    let letter (letter : Letter) : Reading (Primitive × Cursor) :=
      .ok (.letter span letter c.isUpper, after)
    let assertion (assertion : Assertion) : Reading (Primitive × Cursor) :=
      .ok (.assertion span assertion, after)
    if c.isDigit then refuse .backreference span
    else if isEscapable c then literal c
    else
      match c with
      | 'x' => readCodePoint first 2 cursor
      | 'u' => readCodePoint first 4 cursor
      | 'U' => readCodePoint first 8 cursor
      | 'p' | 'P' => readProperty first cursor
      | 'd' | 'D' => letter .digit
      | 's' | 'S' => letter .space
      | 'w' | 'W' => letter .word
      | 'a' => literal '\x07'
      | 'f' => literal '\x0c'
      | 't' => literal '\t'
      | 'n' => literal '\n'
      | 'r' => literal '\r'
      | 'v' => literal '\x0b'
      | 'A' => assertion .textStart
      | 'z' => assertion .textEnd
      | 'B' => assertion .noWordEdge
      | '<' => assertion .wordStart
      | '>' => assertion .wordEnd
      | 'b' =>
        if after.head? = some '{' then do
          match ← readEdge first after with
          | some (edge, after) => return (.assertion (after.since first) edge, after)
          | none => assertion .wordEdge
        else assertion .wordEdge
      | _ => refuse .escapeUnknown span

end EventRelay.Pattern
