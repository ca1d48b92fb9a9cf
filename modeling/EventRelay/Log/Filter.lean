import EventRelay.Log
import EventRelay.Text.Pattern

namespace EventRelay

structure Directive where
  name : Option String
  bound : Option Level
deriving DecidableEq, Repr

inductive FilterFault
  | manySlashes (text : String)
  | invalid (part : String)
  | pattern (text : String) (refusal : Pattern.Refusal)
deriving DecidableEq, Repr

def FilterFault.message : FilterFault → String
  | manySlashes text => "invalid logging spec '" ++ text ++ "' (too many '/'s)"
  | invalid part => "invalid logging spec '" ++ part ++ "'"
  | pattern text refusal => "invalid regex filter - " ++ refusal.message text

namespace Directive

def nameLength (directive : Directive) : Nat := (directive.name.getD "").utf8ByteSize

def covers (directive : Directive) (target : String) : Bool :=
  directive.name.all fun name => name.toList.isPrefixOf target.toList

/-- Reads one directive: a bound, a name, or a name and its bound. A name alone lets everything
    through. -/
def read (text : String) : Except FilterFault Directive :=
  match text.splitOn "=" with
  | [word] =>
    match Level.bound? word with
    | some bound => .ok ⟨none, bound⟩
    | none => .ok ⟨some word, some .trace⟩
  | [name, word] =>
    let word := trimmed word
    if word.isEmpty then .ok ⟨some name, some .trace⟩
    else
      match Level.bound? word with
      | some bound => .ok ⟨some name, bound⟩
      | none => .error (.invalid word)
  | _ => .error (.invalid text)

/-- Puts a directive with the others, in the place of one for the same name. -/
def insert (directives : List Directive) (directive : Directive) : List Directive :=
  if directives.any (·.name == directive.name) then
    directives.map fun old => if old.name == directive.name then directive else old
  else directives ++ [directive]

end Directive

structure LogFilter where
  directives : List Directive
  pattern : Option Pattern := none

namespace LogFilter

/-- A filter of directives. Without any only errors are kept. -/
def ofDirectives (directives : List Directive) (pattern : Option Pattern) : LogFilter :=
  if directives.isEmpty then ⟨[⟨none, some .error⟩], pattern⟩
  else
    let directives := directives.foldl Directive.insert []
    ⟨(directives.mergeSort fun a b => a.nameLength ≤ b.nameLength).reverse, pattern⟩

/-- The filter that a text writes, and what in it cannot be read and does not count. -/
def read (text : String) : LogFilter × List FilterFault :=
  let directives (part : String) : List (Except FilterFault Directive) :=
    ((part.splitOn ",").map trimmed).filter (!·.isEmpty) |>.map Directive.read
  let read (part : String) : List Directive × List FilterFault :=
    ((directives part).filterMap (·.toOption),
      (directives part).filterMap fun
        | .error fault => some fault
        | .ok _ => none)
  match text.splitOn "/" with
  | [part] => (ofDirectives (read part).1 none, (read part).2)
  | [part, pattern] =>
    match Pattern.read pattern with
    | .ok p => (ofDirectives (read part).1 (some p), (read part).2)
    | .error refusal => (ofDirectives (read part).1 none, (read part).2 ++ [.pattern pattern refusal])
  | _ => (ofDirectives [] none, [.manySlashes text])

def bound (filter : LogFilter) : Option Level :=
  filter.directives.foldl (fun bound directive => Level.wider bound directive.bound) none

def enabled (filter : LogFilter) (target : String) (level : Level) : Bool :=
  match filter.directives.find? (·.covers target) with
  | some directive => level.within directive.bound
  | none => false

def keeps (filter : LogFilter) (record : LogRecord) : Bool :=
  filter.enabled record.target record.level
    && filter.pattern.all fun pattern => pattern.occursIn record.text

def logger (filter : LogFilter) : Logger :=
  { bound := filter.bound, enabled := filter.enabled, keeps := filter.keeps }

end LogFilter

end EventRelay
