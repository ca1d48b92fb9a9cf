import EventRelay.Text.CharSet
import EventRelay.Text.Pattern.Fault

namespace EventRelay.Pattern

structure Literal where
  span : Span
  char : Char
  octet : Bool := false
deriving DecidableEq, Repr

inductive Letter
  | digit
  | space
  | word
deriving DecidableEq, Repr

inductive Query
  | named (name : String)
  | valued
deriving DecidableEq, Repr

inductive ClassOperation
  | intersection
  | difference
  | symmetricDifference
deriving DecidableEq, Repr

inductive ClassTree
  | empty (span : Span)
  | literal (literal : Literal)
  | range (span : Span) (first last : Literal)
  | named (span : Span) (set : CharSet) (negated : Bool)
  | letter (span : Span) (letter : Letter) (negated : Bool)
  | property (span : Span) (query : Query)
  | bracketed (span : Span) (negated : Bool) (inside : ClassTree)
  | union (span : Span) (items : List ClassTree)
  | operation (span : Span) (operation : ClassOperation) (left right : ClassTree)

namespace ClassTree

def span : ClassTree → Span
  | empty span => span
  | literal l => l.span
  | range span _ _ => span
  | named span _ _ => span
  | letter span _ _ => span
  | property span _ => span
  | bracketed span _ _ => span
  | union span _ => span
  | operation span _ _ _ => span

end ClassTree

/-- A condition on a place in a text, before it is known what counts as a line or a word. -/
inductive Assertion
  | lineStart
  | lineEnd
  | textStart
  | textEnd
  | wordEdge
  | noWordEdge
  | wordStart
  | wordEnd
  | wordStartHalf
  | wordEndHalf
deriving DecidableEq, Repr

inductive Flag
  | caseless
  | lines
  | wide
  | lazy
  | text
  | returns
  | verbose
deriving DecidableEq, Repr

abbrev Flags := List (Flag × Bool)

inductive Tree
  | empty (span : Span)
  | flags (span : Span) (flags : Flags)
  | literal (literal : Literal)
  | dot (span : Span)
  | assertion (span : Span) (assertion : Assertion)
  | letter (span : Span) (letter : Letter) (negated : Bool)
  | property (span : Span) (query : Query)
  | bracketed (span : Span) (negated : Bool) (inside : ClassTree)
  | repetition (span : Span) (low : Nat) (high : Option Nat) (seldom : Bool) (part : Tree)
  | group (span : Span) (flags : Option Flags) (part : Tree)
  | sequence (span : Span) (parts : List Tree)
  | alternation (span : Span) (branches : List Tree)

namespace Tree

def span : Tree → Span
  | empty span => span
  | flags span _ => span
  | literal l => l.span
  | dot span => span
  | assertion span _ => span
  | letter span _ _ => span
  | property span _ => span
  | bracketed span _ _ => span
  | repetition span _ _ _ _ => span
  | group span _ _ => span
  | sequence span _ => span
  | alternation span _ => span

def isBare : Tree → Bool
  | empty _ => true
  | flags _ _ => true
  | _ => false

def ofParts (span : Span) : List Tree → Tree
  | [] => empty span
  | [part] => part
  | parts => sequence span parts

end Tree

mutual

def ClassTree.tooDeep? (depth : Nat) : ClassTree → Option Span
  | .bracketed span _ inside =>
    if maxDepth ≤ depth then some span else inside.tooDeep? (depth + 1)
  | .union span items =>
    if maxDepth ≤ depth then some span else ClassTree.anyTooDeep? (depth + 1) items
  | .operation span _ left right =>
    if maxDepth ≤ depth then some span
    else (left.tooDeep? (depth + 1)).orElse fun _ => right.tooDeep? (depth + 1)
  | _ => none

def ClassTree.anyTooDeep? (depth : Nat) : List ClassTree → Option Span
  | [] => none
  | item :: rest => (item.tooDeep? depth).orElse fun _ => ClassTree.anyTooDeep? depth rest

end

mutual

def Tree.tooDeep? (depth : Nat) : Tree → Option Span
  | .bracketed span _ inside =>
    if maxDepth ≤ depth then some span else inside.tooDeep? (depth + 1)
  | .repetition span _ _ _ part =>
    if maxDepth ≤ depth then some span else part.tooDeep? (depth + 1)
  | .group span _ part => if maxDepth ≤ depth then some span else part.tooDeep? (depth + 1)
  | .sequence span parts =>
    if maxDepth ≤ depth then some span else Tree.anyTooDeep? (depth + 1) parts
  | .alternation span branches =>
    if maxDepth ≤ depth then some span else Tree.anyTooDeep? (depth + 1) branches
  | _ => none

def Tree.anyTooDeep? (depth : Nat) : List Tree → Option Span
  | [] => none
  | part :: rest => (part.tooDeep? depth).orElse fun _ => Tree.anyTooDeep? depth rest

end

end EventRelay.Pattern
