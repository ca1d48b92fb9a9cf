import EventRelay.Json.Number

namespace EventRelay

inductive Json
  | null
  | bool (value : Bool)
  | number (value : Json.Number)
  | string (value : String)
  | array (items : List Json)
  | object (members : List (String × Json))
deriving Repr, Inhabited

namespace Json

def insert (key : String) (value : Json) : List (String × Json) → List (String × Json)
  | [] => [(key, value)]
  | (k, v) :: rest =>
    if key < k then (key, value) :: (k, v) :: rest
    else if key = k then (key, value) :: rest
    else (k, v) :: insert key value rest

/-- The object with these members; of several members of one name the last one counts. -/
def ofMembers (members : List (String × Json)) : Json :=
  .object (members.foldl (fun object member => insert member.1 member.2 object) [])

def natural (n : UInt64) : Json := .number (.natural n)

mutual

/-- Whether the members of every object stand in the order of their names, each name once. -/
def Ordered : Json → Prop
  | .array items => itemsOrdered items
  | .object members => (members.map (·.1)).Pairwise (· < ·) ∧ membersOrdered members
  | _ => True

def itemsOrdered : List Json → Prop
  | [] => True
  | item :: rest => item.Ordered ∧ itemsOrdered rest

def membersOrdered : List (String × Json) → Prop
  | [] => True
  | (_, value) :: rest => value.Ordered ∧ membersOrdered rest

end

mutual

/-- How deep the value nests: a scalar not at all, a container one level more than its deepest
    member. -/
def depth : Json → Nat
  | .array items => itemsDepth items + 1
  | .object members => membersDepth members + 1
  | _ => 0

def itemsDepth : List Json → Nat
  | [] => 0
  | item :: rest => max item.depth (itemsDepth rest)

def membersDepth : List (String × Json) → Nat
  | [] => 0
  | (_, value) :: rest => max value.depth (membersDepth rest)

end

mutual

def integral : Json → Bool
  | .number n => n.isInteger
  | .array items => itemsIntegral items
  | .object members => membersIntegral members
  | _ => true

def itemsIntegral : List Json → Bool
  | [] => true
  | item :: rest => item.integral && itemsIntegral rest

def membersIntegral : List (String × Json) → Bool
  | [] => true
  | (_, value) :: rest => value.integral && membersIntegral rest

end

mutual

/-- Equality of values: as terms, but for the two zeros, which are one number. -/
def same : Json → Json → Bool
  | .null, .null => true
  | .bool a, .bool b => a == b
  | .number a, .number b => a.same b
  | .string a, .string b => a == b
  | .array a, .array b => sameItems a b
  | .object a, .object b => sameMembers a b
  | _, _ => false

def sameItems : List Json → List Json → Bool
  | [], [] => true
  | a :: as, b :: bs => a.same b && sameItems as bs
  | _, _ => false

def sameMembers : List (String × Json) → List (String × Json) → Bool
  | [], [] => true
  | (k, a) :: as, (l, b) :: bs => k == l && a.same b && sameMembers as bs
  | _, _ => false

end

end Json

end EventRelay

namespace EventRelay.Json

def hexDigit (n : Nat) : UInt8 := (if n < 10 then 0x30 + n else 0x57 + n).toUInt8

/-- One octet of a string: quotes, backslashes and control characters are escaped, the common
    control characters by a letter. -/
def escape (b : UInt8) : Octets :=
  if b = Octet.quote then [Octet.backslash, Octet.quote]
  else if b = Octet.backslash then [Octet.backslash, Octet.backslash]
  else if 0x20 ≤ b then [b]
  else if b = 0x08 then [Octet.backslash, 0x62]
  else if b = 0x09 then [Octet.backslash, 0x74]
  else if b = 0x0a then [Octet.backslash, 0x6e]
  else if b = 0x0c then [Octet.backslash, 0x66]
  else if b = 0x0d then [Octet.backslash, 0x72]
  else [Octet.backslash, 0x75, 0x30, 0x30, hexDigit (b.toNat / 16), hexDigit (b.toNat % 16)]

def encodeString (s : String) : Octets :=
  Octet.quote :: (octets s).flatMap escape ++ [Octet.quote]

def separated : List Octets → Octets
  | [] => []
  | [item] => item
  | item :: rest => item ++ Octet.comma :: separated rest

def encodeMember (key : String) (value : Octets) : Octets :=
  encodeString key ++ Octet.colon :: value

def encodeObject (members : List (String × Octets)) : Octets :=
  Octet.openBrace :: separated (members.map fun member => encodeMember member.1 member.2)
    ++ [Octet.closeBrace]

mutual

def encode : Json → Octets
  | .null => octets "null"
  | .bool true => octets "true"
  | .bool false => octets "false"
  | .number n => octets n.text
  | .string s => encodeString s
  | .array items => Octet.openBracket :: separated (encodeItems items) ++ [Octet.closeBracket]
  | .object members =>
    Octet.openBrace :: separated (encodeMembers members) ++ [Octet.closeBrace]

def encodeItems : List Json → List Octets
  | [] => []
  | item :: rest => item.encode :: encodeItems rest

def encodeMembers : List (String × Json) → List Octets
  | [] => []
  | (key, value) :: rest => encodeMember key value.encode :: encodeMembers rest

end

def text (value : Json) : String := value.encode.text

end EventRelay.Json
