namespace EventRelay.Pattern

/-- A position between characters: how many there are before it, and its line and column, which
    are counted from one. -/
structure Position where
  offset : Nat := 0
  line : Nat := 1
  column : Nat := 1
deriving DecidableEq, Repr, Inhabited

def Position.next (position : Position) (c : Char) : Position :=
  if c = '\n' then ⟨position.offset + 1, position.line + 1, 1⟩
  else ⟨position.offset + 1, position.line, position.column + 1⟩

structure Span where
  first : Position
  after : Position
deriving DecidableEq, Repr, Inhabited

namespace Span

def point (position : Position) : Span := ⟨position, position⟩

def isOneLine (span : Span) : Bool := span.first.line = span.after.line

def comesFirst (a b : Span) : Bool :=
  a.first.offset < b.first.offset
    || (a.first.offset == b.first.offset && a.after.offset ≤ b.after.offset)

end Span

inductive Flaw
  | groupUnclosed
  | groupUnopened
  | groupNameUnclosed
  | groupNameEmpty
  | groupNameInvalid
  | groupNameRepeated
  | flagMissing
  | flagUnknown
  | flagRepeated
  | negationRepeated
  | negationOfNothing
  | lookAround
  | nothingToRepeat
  | countUnclosed
  | countMissing
  | countInvalid
  | countTooLarge
  | classUnclosed
  | classRangeInvalid
  | classRangeBoundary
  | classEscape
  | escapeCutShort
  | escapeUnknown
  | backreference
  | hexMissing
  | hexDigit
  | hexValue
  | propertyInvalid
  | wordEdgeCutShort
  | wordEdgeUnclosed
  | wordEdgeUnknown
  | nestedTooDeep
  | propertyUnknown
  | propertyValueUnknown
  | classUnavailable
  | caseUnavailable
  | onlyForText
  | partOfCharacter
deriving DecidableEq, Repr

def maxDepth : Nat := 250

def Flaw.message : Flaw → String
  | groupUnclosed => "unclosed group"
  | groupUnopened => "unopened group"
  | groupNameUnclosed => "unclosed capture group name"
  | groupNameEmpty => "empty capture group name"
  | groupNameInvalid => "invalid capture group character"
  | groupNameRepeated => "duplicate capture group name"
  | flagMissing => "expected flag but got end of regex"
  | flagUnknown => "unrecognized flag"
  | flagRepeated => "duplicate flag"
  | negationRepeated => "flag negation operator repeated"
  | negationOfNothing => "dangling flag negation operator"
  | lookAround => "look-around, including look-ahead and look-behind, is not supported"
  | nothingToRepeat => "repetition operator missing expression"
  | countUnclosed => "unclosed counted repetition"
  | countMissing => "repetition quantifier expects a valid decimal"
  | countInvalid => "invalid repetition count range, the start must be <= the end"
  | countTooLarge => "decimal literal invalid"
  | classUnclosed => "unclosed character class"
  | classRangeInvalid => "invalid character class range, the start must be <= the end"
  | classRangeBoundary => "invalid range boundary, must be a literal"
  | classEscape => "invalid escape sequence found in character class"
  | escapeCutShort => "incomplete escape sequence, reached end of pattern prematurely"
  | escapeUnknown => "unrecognized escape sequence"
  | backreference => "backreferences are not supported"
  | hexMissing => "hexadecimal literal empty"
  | hexDigit => "invalid hexadecimal digit"
  | hexValue => "hexadecimal literal is not a Unicode scalar value"
  | propertyInvalid => "invalid Unicode character class"
  | wordEdgeCutShort =>
    "found either the beginning of a special word boundary or a bounded repetition on a \\b with "
      ++ "an opening brace, but no closing brace"
  | wordEdgeUnclosed =>
    "special word boundary assertion is either unclosed or contains an invalid character"
  | wordEdgeUnknown =>
    "unrecognized special word boundary assertion, valid choices are: start, end, start-half or "
      ++ "end-half"
  | nestedTooDeep =>
    "exceed the maximum number of nested parentheses/brackets (" ++ toString maxDepth ++ ")"
  | propertyUnknown => "Unicode property not found"
  | propertyValueUnknown => "Unicode property value not found"
  | classUnavailable =>
    "Unicode-aware Perl class not found (make sure the unicode-perl feature is enabled)"
  | caseUnavailable =>
    "Unicode-aware case insensitivity matching is not available (make sure the unicode-case "
      ++ "feature is enabled)"
  | onlyForText => "Unicode not allowed here"
  | partOfCharacter => "pattern can match invalid UTF-8"

/-- A flaw, the part of the pattern that has it, and the part that it is at odds with, if it is. -/
structure Fault where
  flaw : Flaw
  span : Span
  other : Option Span := none
deriving DecidableEq, Repr

def spaces (count : Nat) : String := String.ofList (List.replicate count ' ')

def linesOf (text : String) : List String :=
  let pieces := text.splitOn "\n"
  let ended := pieces.dropLast.map fun line =>
    match line.toList.reverse with
    | '\r' :: rest => String.ofList rest.reverse
    | _ => line
  match pieces.getLast? with
  | none => ended
  | some last => if last.isEmpty then ended else ended ++ [last]

/-- Marks for the spans, in order, below the line that they are in. -/
def marks (margin : Nat) (spans : List Span) : String :=
  (spans.foldl (fun (drawn, column) span =>
    let width := max 1 (span.after.column - span.first.column)
    (drawn ++ spaces (span.first.column - 1 - column) ++ String.ofList (List.replicate width '^'),
      max column (span.first.column - 1) + width)) (spaces margin, 0)).1

def notes (heads : Nat → String) (spans : List Span) (lines : List String) : String :=
  String.join (lines.zipIdx.map fun (line, i) =>
    let here := spans.filter fun span => span.isOneLine && span.first.line == i + 1
    heads (i + 1) ++ line ++ "\n"
      ++ if here.isEmpty then "" else marks (heads (i + 1)).length here ++ "\n")

namespace Fault

def spans (fault : Fault) : List Span :=
  match fault.other with
  | none => [fault.span]
  | some other =>
    if fault.span.comesFirst other then [fault.span, other] else [other, fault.span]

def extent (span : Span) : String :=
  "on line " ++ toString span.first.line ++ " (column " ++ toString span.first.column
    ++ ") through line " ++ toString span.after.line ++ " (column "
    ++ toString (span.after.column - 1) ++ ")"

/-- The fault below the pattern that has it. Several lines of a pattern are numbered and framed. -/
def message (fault : Fault) (pattern : String) : String :=
  let lines := linesOf pattern
  let body :=
    if pattern.contains '\n' then
      let frame := String.ofList (List.replicate 79 '~') ++ "\n"
      let count := lines.length + if pattern.endsWith "\n" then 1 else 0
      let width := (toString count).length
      let head (n : Nat) :=
        if count ≤ 1 then spaces 4
        else spaces (width - (toString n).length) ++ toString n ++ ": "
      let wide := fault.spans.filter (!·.isOneLine)
      frame ++ notes head fault.spans lines ++ frame
        ++ if wide.isEmpty then "" else "\n".intercalate (wide.map extent) ++ "\n"
    else notes (fun _ => spaces 4) fault.spans lines
  "regex parse error:\n" ++ body ++ "error: " ++ fault.flaw.message

end Fault

end EventRelay.Pattern
