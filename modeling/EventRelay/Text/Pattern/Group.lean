import EventRelay.Text.Letter
import EventRelay.Text.Pattern.Cursor
import EventRelay.Text.Pattern.Tree

namespace EventRelay.Pattern

abbrev Names := List (List Char × Span)

inductive Opening
  | flags (span : Span) (flags : Flags)
  | group (flags : Option Flags)

def isNameChar (front : Bool) (c : Char) : Bool :=
  c = '_' || isLetter c || (!front && (c = '.' || c = '[' || c = ']' || isNumber c))

def readNameChars (front : Bool) : Nat → Cursor → Reading (List Char × Cursor)
  | 0, cursor => refuse .groupNameUnclosed cursor.here
  | fuel + 1, cursor =>
    match cursor.head? with
    | none => refuse .groupNameUnclosed cursor.here
    | some c =>
      if c = '>' then .ok ([], cursor)
      else if isNameChar front c then do
        let (name, cursor) ← readNameChars false fuel cursor.next
        return (c :: name, cursor)
      else refuse .groupNameInvalid cursor.charSpan

def readGroupName (names : Names) (start : Cursor) : Reading (Names × Cursor) := do
  let (name, last) ← readNameChars true (start.rest.length + 1) start
  let span := last.since start.position
  if name.isEmpty then refuse .groupNameEmpty span
  else
    match names.lookup name with
    | some other => refuse .groupNameRepeated span (some other)
    | none => return ((name, span) :: names, last.next)

def flagOf? (c : Char) : Option Flag :=
  match c with
  | 'i' => some .caseless
  | 'm' => some .lines
  | 's' => some .wide
  | 'U' => some .lazy
  | 'u' => some .text
  | 'R' => some .returns
  | 'x' => some .verbose
  | _ => none

structure FlagSigns where
  flags : List (Flag × Bool × Span) := []
  negation : Option Span := none
  dangling : Bool := false

namespace FlagSigns

def add (signs : FlagSigns) (c : Char) (span : Span) : Reading FlagSigns :=
  if c = '-' then
    match signs.negation with
    | some other => refuse .negationRepeated span (some other)
    | none => .ok { signs with negation := some span, dangling := true }
  else
    match flagOf? c with
    | none => refuse .flagUnknown span
    | some flag =>
      match signs.flags.lookup flag with
      | some (_, other) => refuse .flagRepeated span (some other)
      | none =>
        .ok { signs with
          flags := (flag, signs.negation.isNone, span) :: signs.flags, dangling := false }

def toFlags (signs : FlagSigns) : Flags := (signs.flags.map fun (flag, on, _) => (flag, on)).reverse

end FlagSigns

def readFlags : Nat → FlagSigns → Cursor → Reading (Flags × Cursor)
  | 0, _, cursor => refuse .flagMissing cursor.here
  | fuel + 1, signs, cursor =>
    match cursor.head? with
    | none => refuse .flagMissing cursor.here
    | some c =>
      if c = ':' ∨ c = ')' then
        match signs.negation with
        | some span => if signs.dangling then refuse .negationOfNothing span
          else .ok (signs.toFlags, cursor)
        | none => .ok (signs.toFlags, cursor)
      else do
        let signs ← signs.add c cursor.charSpan
        readFlags fuel signs cursor.next

def lookSigns : List String := ["?=", "?!", "?<=", "?<!"]

def readOpening (names : Names) (start : Cursor) : Reading (Opening × Names × Cursor) := do
  let inside := start.advance
  match lookSigns.find? inside.startsWith with
  | some signs => refuse .lookAround ((inside.drop signs.length).since start.position)
  | none =>
    match ["?P<", "?<"].find? inside.startsWith with
    | some signs =>
      let (names, after) ← readGroupName names (inside.drop signs.length)
      return (.group none, names, after)
    | none =>
      if inside.head? = some '?' then
        if inside.next.isAtEnd then refuse .groupUnclosed start.charSpan
        else
          let (flags, last) ← readFlags (inside.rest.length + 1) {} inside.next
          let after := last.next
          if last.head? = some ':' then return (.group (some flags), names, after)
          else if flags.isEmpty then refuse .nothingToRepeat inside.here
          else return (.flags (after.since start.position) flags, names, after)
      else return (.group none, names, inside)

end EventRelay.Pattern
