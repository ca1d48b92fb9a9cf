import EventRelay.Text.Pattern.Matching
import EventRelay.Text.Pattern.Meaning
import EventRelay.Text.Pattern.Reader

namespace EventRelay.Pattern

def stateSize : Nat := 32

def stepSize : Nat := 8

def branchSize : Nat := 4

def stepsSize (count : Nat) : Nat := stateSize + count * stepSize

def branchesSize (count : Nat) : Nat := stateSize + count * branchSize

def total (sizes : List Nat) : Nat := sizes.foldr (· + ·) 0

def byFirst : List (List OctetRange) → List (OctetRange × List (List OctetRange))
  | [] => []
  | [] :: rest => byFirst rest
  | (range :: behind) :: rest =>
    match byFirst rest with
    | (next, others) :: groups =>
      if range = next then (range, behind :: others) :: groups
      else (range, [behind]) :: (next, others) :: groups
    | [] => [(range, [behind])]

/-- What can be left of sequences after some of their ranges, but so many at most. -/
def remainders : Nat → List (List OctetRange) → List (List (List OctetRange))
  | 0, _ => []
  | fuel + 1, sequences =>
    let groups := byFirst sequences
    if groups.isEmpty then [] else sequences :: groups.flatMap fun group => remainders fuel group.2

/-- The states that read a set forwards: one for each different remainder, and one behind them. -/
def forwardSetSize (sequences : List (List OctetRange)) : Nat :=
  stateSize
    + total ((remainders 4 sequences).eraseDups.map fun rest => stepsSize (byFirst rest).length)

/-- The states that read a set backwards: one for each different front of its sequences, one before
    them that branches, and one behind them. -/
def backwardSetSize (sequences : List (List OctetRange)) : Nat :=
  let fronts := sequences.flatMap fun ranges =>
    (List.range ranges.length).map fun n => ranges.take (n + 1)
  stateSize + branchesSize sequences.length + fronts.eraseDups.length * stateSize

def setSize (backwards : Bool) (set : CharSet) : Nat :=
  if set.isAscii then stateSize + stepsSize set.runs.length
  else if backwards then backwardSetSize (encodings set)
  else forwardSetSize (encodings set)

def chunks : List (List UInt8) → List (List (List UInt8))
  | [] => [[]]
  | word :: rest =>
    match chunks rest with
    | [] => [[word]]
    | first :: others => if word.isEmpty then [] :: first :: others else (word :: first) :: others

def addWord (groups : List (UInt8 × List (List UInt8))) (word : List UInt8) :
    List (UInt8 × List (List UInt8)) :=
  match word with
  | [] => groups
  | octet :: behind =>
    if groups.any (·.1 == octet) then
      groups.map fun (o, words) => if o == octet then (o, words ++ [behind]) else (o, words)
    else groups ++ [(octet, [behind])]

/-- The states that read one of several words, of which the first that fits counts. A word that ends
    where others go on parts those before it from those behind it. -/
def wordsSize : Nat → List (List UInt8) → Nat
  | 0, _ => 0
  | fuel + 1, words =>
    if words.all (·.isEmpty) then 0
    else
      let ended := words.takeWhile (·.isEmpty)
      let parts := (chunks (ended.take 1 ++ words.drop ended.length)).map (·.foldl addWord [])
      let steps := (parts.filter (!·.isEmpty)).map fun groups =>
        if groups.length = 1 then stateSize else stepsSize groups.length
      let behind := parts.flatMap fun groups => groups.map fun (_, words) => wordsSize fuel words
      total steps + branchesSize (steps.length + (parts.length - 1)) + total behind

def octetsOf (chars : List Char) : List UInt8 := chars.flatMap String.utf8EncodeChar

def text? : Pattern → Option (List Char)
  | text chars => some chars
  | _ => none

def branchingSize (sizes : List Nat) : Nat := branchesSize sizes.length + stateSize + total sizes

def repeatedSize (low : Nat) (high : Option Nat) (nullable : Bool) (part : Nat) : Nat :=
  match low, high with
  | 0, some 1 => part + branchesSize 2 + stateSize
  | 0, none =>
    if nullable then part + 2 * branchesSize 2 + stateSize else part + branchesSize 2
  | low, none => low * part + branchesSize 2
  | low, some high =>
    if low = high then low * part
    else
      (if low = 0 then stateSize else low * part) + stateSize
        + (high - low) * (part + branchesSize 2)

mutual

def size (backwards : Bool) : Pattern → Nat
  | empty => stateSize
  | text chars => (octetsOf chars).length * stateSize
  | char set => setSize backwards set
  | place _ => stateSize
  | repeated low high _ part =>
    repeatedSize low high (!part.least?.any (0 < ·)) (part.size backwards)
  | captured _ part =>
    if backwards then part.size backwards else part.size backwards + 2 * stateSize
  | seq parts => total (sizes backwards parts)
  | either branches =>
    match branches.mapM text? with
    | some texts =>
      let words := texts.map fun chars =>
        if backwards then (octetsOf chars).reverse else octetsOf chars
      stateSize + wordsSize (total (words.map (·.length)) + 1) words
    | none => branchingSize (sizes backwards branches)

def sizes (backwards : Bool) : List Pattern → List Nat
  | [] => []
  | part :: rest => part.size backwards :: sizes backwards rest

end

/-- The size of what finds the place where a match begins: nothing, where it has to be an end of the
    text, or else a step over any octet so many times. -/
def searchSize (fixed : Bool) : Nat :=
  if fixed then stateSize else branchesSize 2 + (stepsSize 1 + stateSize)

def forwardSize (pattern : Pattern) : Nat :=
  searchSize (pattern.beginsAt .textStart) + (pattern.size false + 2 * stateSize) + stateSize

def backwardSize (pattern : Pattern) : Nat :=
  searchSize (pattern.finishesAt .textEnd) + pattern.size true + stateSize

def sizeLimit : Nat := 10 * 1 <<< 20

inductive Refusal
  | fault (fault : Fault)
  | wordEdge
  | tooLarge
deriving DecidableEq, Repr

def Refusal.message (text : String) : Refusal → String
  | fault f => f.message text
  | wordEdge => "error building NFA"
  | tooLarge => "Compiled regex exceeds size limit of " ++ toString sizeLimit ++ " bytes."

/-- Refuses a pattern that takes up too much or that has edges of words in any script. It is read
    forwards first. -/
def check (pattern : Pattern) : Except Refusal Pattern :=
  if sizeLimit < pattern.forwardSize then .error .tooLarge
  else if pattern.hasWord then .error .wordEdge
  else if sizeLimit < pattern.backwardSize then .error .tooLarge
  else .ok pattern

def read (text : String) : Except Refusal Pattern :=
  match (do let tree ← readTree text; tree.meaning {} : Reading (Pattern × Modes)) with
  | .ok (pattern, _) => pattern.check
  | .error fault => .error (.fault fault)

end EventRelay.Pattern
