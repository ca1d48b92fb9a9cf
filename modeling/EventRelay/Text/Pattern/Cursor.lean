import EventRelay.Text.Printable
import EventRelay.Text.Pattern.Fault

namespace EventRelay.Pattern

/-- What is left to read, where that begins, and whether the pattern is verbose there. -/
structure Cursor where
  rest : List Char
  position : Position := {}
  verbose : Bool := false

namespace Cursor

def next (cursor : Cursor) : Cursor :=
  match cursor.rest with
  | [] => cursor
  | c :: rest => { cursor with rest, position := cursor.position.next c }

def head? (cursor : Cursor) : Option Char := cursor.rest.head?

def isAtEnd (cursor : Cursor) : Bool := cursor.rest.isEmpty

def passOver (inComment : Bool) : List Char → Position → List Char × Position
  | [], position => ([], position)
  | c :: rest, position =>
    if inComment then passOver (c ≠ '\n') rest (position.next c)
    else if isBlank c then passOver false rest (position.next c)
    else if c = '#' then passOver true rest (position.next c)
    else (c :: rest, position)

def skip (cursor : Cursor) : Cursor :=
  if cursor.verbose then
    match passOver false cursor.rest cursor.position with
    | (rest, position) => { cursor with rest, position }
  else cursor

def advance (cursor : Cursor) : Cursor := if cursor.rest.isEmpty then cursor else cursor.next.skip

def skipBlank : Nat → Cursor → Cursor
  | 0, cursor => cursor
  | fuel + 1, cursor =>
    if cursor.rest.head?.any isBlank then skipBlank fuel cursor.advance else cursor

def drop (cursor : Cursor) : Nat → Cursor
  | 0 => cursor
  | n + 1 => cursor.next.drop n

def startsWith (cursor : Cursor) (text : String) : Bool := text.toList.isPrefixOf cursor.rest

def second? (cursor : Cursor) : Option Char := (cursor.rest.drop 1).head?

def secondThatCounts? (cursor : Cursor) : Option Char :=
  if cursor.verbose then
    let behind := cursor.rest.drop 1
    let text := behind.dropWhile isBlank
    let text := if text.head? = some '#' then (text.drop 1).dropWhile isBlank else text
    (text.head?).orElse fun _ => behind.head?
  else cursor.second?

def since (cursor : Cursor) (first : Position) : Span := ⟨first, cursor.position⟩

def here (cursor : Cursor) : Span := Span.point cursor.position

def charSpan (cursor : Cursor) : Span := ⟨cursor.position, cursor.next.position⟩

end Cursor

abbrev Reading := Except Fault

def refuse {α : Type} (flaw : Flaw) (span : Span) (other : Option Span := none) : Reading α :=
  .error ⟨flaw, span, other⟩

end EventRelay.Pattern
