import EventRelay.Json.Reader
import EventRelay.Proofs.Json.Integers
import EventRelay.Proofs.Json.Members

namespace EventRelay.Json

/-- What is read at a depth, unless the reader does not go that deep. -/
def bounded {α : Type} (depth levels : Nat) (read : α) : Except Fault α :=
  if depth ≤ levels then .ok read else .error .tooDeep

theorem bounded_of_le {α : Type} {depth levels : Nat} (inside : depth ≤ levels) (read : α) :
    bounded depth levels read = .ok read := if_pos inside

theorem bounded_of_lt {α : Type} {depth levels : Nat} (outside : levels < depth) (read : α) :
    bounded depth levels read = .error .tooDeep := if_neg (Nat.not_le.mpr outside)

theorem bounded_eq_ok_iff {α : Type} {depth levels : Nat} {read : α} :
    bounded depth levels read = .ok read ↔ depth ≤ levels := by
  constructor
  · intro same
    by_contra outside
    rw [bounded_of_lt (Nat.not_le.mp outside)] at same
    cases same
  · exact fun inside => bounded_of_le inside read

theorem bounded_zero {α : Type} (levels : Nat) (read : α) : bounded 0 levels read = .ok read :=
  bounded_of_le (Nat.zero_le levels) read

theorem bounded_bind {α β : Type} (depth levels : Nat) (read : α) (f : α → Except Fault β) :
    (bounded depth levels read >>= f) = if depth ≤ levels then f read else .error .tooDeep := by
  rw [bounded]
  split <;> rfl

theorem map_bounded {α β : Type} (depth levels : Nat) (read : α) (f : α → β) :
    (bounded depth levels read).map f = bounded depth levels (f read) := by
  rw [bounded, bounded]
  split <;> rfl

theorem bounded_max {α : Type} (d e levels : Nat) (read : α) :
    (if d ≤ levels then bounded e levels read else .error .tooDeep) =
      bounded (max d e) levels read := by
  simp only [bounded, Nat.max_le]
  split <;> simp_all

theorem separated_cons (item : Octets) (items : List Octets) :
    separated (item :: items) = item ++ items.flatMap (Octet.comma :: ·) := by
  induction items generalizing item with
  | nil => simp [separated]
  | cons next items ih => simp only [separated, ih next, List.flatMap_cons, List.cons_append]

theorem length_le_separated (written : List Octets) :
    written.length ≤ (separated written).length + 1 := by
  have commas : ∀ items : List Octets, items.length ≤ (items.flatMap (Octet.comma :: ·)).length := by
    intro items
    induction items with
    | nil => exact Nat.le_refl 0
    | cons item items ih =>
      rw [List.flatMap_cons, List.length_append, List.length_cons, List.length_cons]
      omega
  cases written with
  | nil => exact Nat.zero_le _
  | cons item items =>
    have counted := commas items
    rw [separated_cons, List.length_append, List.length_cons]
    omega

theorem length_encodeItems (items : List Json) : (encodeItems items).length = items.length := by
  induction items with
  | nil => rfl
  | cons x items ih => rw [encodeItems, List.length_cons, ih, List.length_cons]

theorem length_encodeMembers (members : List (String × Json)) :
    (encodeMembers members).length = members.length := by
  induction members with
  | nil => rfl
  | cons member members ih => rw [encodeMembers, List.length_cons, ih, List.length_cons]

theorem endsNumeral_cons {b : UInt8}
    (closes : b = Octet.comma ∨ b = Octet.closeBracket ∨ b = Octet.closeBrace) (rest : Octets) :
    EndsNumeral (b :: rest) := by
  intro other same
  cases same
  rcases closes with rfl | rfl | rfl <;> decide

theorem endsNumeral_flatMap {b : UInt8} (closes : b = Octet.closeBracket ∨ b = Octet.closeBrace)
    (items : List Octets) (rest : Octets) :
    EndsNumeral (items.flatMap (Octet.comma :: ·) ++ b :: rest) := by
  cases items with
  | nil => exact endsNumeral_cons (.inr closes) rest
  | cons item items => exact endsNumeral_cons (.inl rfl) _

theorem ne_of_startsNumber {b other : UInt8} (starts : startsNumber b = true)
    (differs : startsNumber other = false) : b ≠ other := by
  rintro rfl
  rw [starts] at differs
  cases differs

theorem isBlank_of_startsNumber {b : UInt8} (starts : startsNumber b = true) : isBlank b = false := by
  have space : b ≠ 0x20 := ne_of_startsNumber starts (by decide)
  have tab : b ≠ 0x09 := ne_of_startsNumber starts (by decide)
  have line : b ≠ 0x0a := ne_of_startsNumber starts (by decide)
  have carriage : b ≠ 0x0d := ne_of_startsNumber starts (by decide)
  simp [isBlank, space, tab, line, carriage]

theorem number_front {n : Number} (integer : n.isInteger = true) :
    ∃ b tail, octets n.text = b :: tail ∧ startsNumber b = true := by
  obtain ⟨b, tail, same, starts⟩ := text_front integer
  refine ⟨b, tail, same, ?_⟩
  rw [startsNumber, Bool.or_eq_true, decide_eq_true_eq]
  exact starts

theorem encode_front {x : Json} (integral : x.integral = true) :
    ∃ b tail, x.encode = b :: tail ∧ isBlank b = false ∧ b ≠ Octet.closeBracket := by
  cases x with
  | null => exact ⟨_, _, rfl, by decide, by decide⟩
  | bool b => cases b <;> exact ⟨_, _, rfl, by decide, by decide⟩
  | number n =>
    obtain ⟨b, tail, same, starts⟩ := number_front integral
    exact ⟨b, tail, same, isBlank_of_startsNumber starts, ne_of_startsNumber starts (by decide)⟩
  | string s => exact ⟨_, _, rfl, by decide, by decide⟩
  | array items => exact ⟨_, _, rfl, by decide, by decide⟩
  | object members => exact ⟨_, _, rfl, by decide, by decide⟩

/-- The value is read back at the front of any text, unless it nests too deep. -/
def Reads (x : Json) : Prop :=
  ∀ levels rest, EndsNumeral rest → readValue levels (x.encode ++ rest) = bounded x.depth levels (x, rest)

theorem readValue_of_scalar {b : UInt8} (visible : isBlank b = false) (list : b ≠ Octet.openBracket)
    (object : b ≠ Octet.openBrace) (levels : Nat) (rest : Octets) :
    readValue levels (b :: rest) = readScalar b rest := by
  rw [readValue, skipBlanks_cons visible]
  simp only [if_neg list, if_neg object]

theorem reads_null : Reads .null := by
  intro levels rest _
  exact readValue_of_scalar (by decide) (by decide) (by decide) levels _

theorem reads_bool (b : Bool) : Reads (.bool b) := by
  intro levels rest _
  cases b <;> exact readValue_of_scalar (by decide) (by decide) (by decide) levels _

theorem reads_string (s : String) : Reads (.string s) := by
  intro levels rest _
  have flat : (Json.string s).depth = 0 := rfl
  have encoded : (Json.string s).encode ++ rest =
      Octet.quote :: ((octets s).flatMap escape ++ Octet.quote :: rest) := encodeString_eq s rest
  rw [encoded, flat, bounded_zero, readValue_of_scalar (by decide) (by decide) (by decide), readScalar,
    if_neg (by decide), if_neg (by decide), if_neg (by decide), if_pos rfl, readString_flatMap]
  rfl

theorem reads_number {n : Number} (integer : n.isInteger = true) : Reads (.number n) := by
  intro levels rest ends
  have flat : (Json.number n).depth = 0 := rfl
  obtain ⟨b, tail, same, starts⟩ := number_front integer
  have read := readNumber_text integer ends
  rw [same, List.cons_append] at read
  have other : ∀ c, startsNumber c = false → b ≠ c := fun c differs => ne_of_startsNumber starts differs
  rw [encode, same, List.cons_append, flat, bounded_zero,
    readValue_of_scalar (isBlank_of_startsNumber starts) (other _ (by decide)) (other _ (by decide)),
    readScalar, if_neg (other _ (by decide)), if_neg (other _ (by decide)), if_neg (other _ (by decide)),
    if_neg (other _ (by decide)), if_pos starts, read]
  rfl

section Lists

variable {x : Json} {items : List Json} {levels fuel : Nat} {rest : Octets}

theorem nextItem_front {bytes : Octets} {b : UInt8} {tail : Octets} (same : bytes = b :: tail)
    (visible : isBlank b = false) (other : b ≠ Octet.closeBracket) :
    nextItem true bytes = .ok (some bytes) ∧
      nextItem false (Octet.comma :: bytes) = .ok (some bytes) := by
  subst same
  have comma : skipBlanks (Octet.comma :: b :: tail) = Octet.comma :: b :: tail :=
    skipBlanks_cons (by decide) _
  constructor
  · simp only [nextItem, skipBlanks_cons visible, if_neg other, if_true]
  · simp only [nextItem, comma, skipBlanks_cons visible, if_neg other]
    rfl

theorem readItems_front (reads : Reads x) (integral : x.integral = true) (ends : EndsNumeral rest) :
    readItems (readValue levels) (fuel + 1) true (x.encode ++ rest) =
      (if x.depth ≤ levels then
        (readItems (readValue levels) fuel false rest).map fun read => (x :: read.1, read.2)
      else .error .tooDeep) ∧
    readItems (readValue levels) (fuel + 1) false (Octet.comma :: (x.encode ++ rest)) =
      if x.depth ≤ levels then
        (readItems (readValue levels) fuel false rest).map fun read => (x :: read.1, read.2)
      else .error .tooDeep := by
  obtain ⟨b, tail, same, visible, other⟩ := encode_front integral
  have front : x.encode ++ rest = b :: (tail ++ rest) := by rw [same]; rfl
  obtain ⟨first, further⟩ := nextItem_front front visible other
  rw [readItems, readItems, first, further, ok_bind, ok_bind]
  dsimp only
  rw [reads levels rest ends, bounded_bind]
  dsimp only
  constructor <;>
  · split
    · cases readItems (readValue levels) fuel false rest <;> rfl
    · rfl

theorem readItems_flatMap (reads : ∀ x ∈ items, Reads x) (integral : ∀ x ∈ items, x.integral = true)
    (enough : items.length < fuel) :
    readItems (readValue levels) fuel false
        ((encodeItems items).flatMap (Octet.comma :: ·) ++ Octet.closeBracket :: rest) =
      bounded (itemsDepth items) levels (items, Octet.closeBracket :: rest) := by
  induction items generalizing fuel with
  | nil =>
    obtain ⟨fuel, rfl⟩ := Nat.exists_eq_add_one_of_ne_zero (Nat.ne_zero_of_lt enough)
    exact (bounded_zero levels _).symm
  | cons x items ih =>
    obtain ⟨fuel, rfl⟩ := Nat.exists_eq_add_one_of_ne_zero (Nat.ne_zero_of_lt enough)
    obtain ⟨readsFirst, readsRest⟩ := List.forall_mem_cons.mp reads
    obtain ⟨integralFirst, integralRest⟩ := List.forall_mem_cons.mp integral
    have others := ih readsRest integralRest (Nat.lt_of_succ_lt_succ enough)
    have ends := endsNumeral_flatMap (.inl rfl) (encodeItems items) rest
    rw [encodeItems, List.flatMap_cons, List.cons_append, List.cons_append, List.append_assoc,
      (readItems_front readsFirst integralFirst ends).2, others, itemsDepth, map_bounded, bounded_max]

theorem readItems_separated (reads : ∀ x ∈ items, Reads x)
    (integral : ∀ x ∈ items, x.integral = true) (enough : items.length < fuel) :
    readItems (readValue levels) fuel true
        (separated (encodeItems items) ++ Octet.closeBracket :: rest) =
      bounded (itemsDepth items) levels (items, Octet.closeBracket :: rest) := by
  obtain ⟨fuel, rfl⟩ := Nat.exists_eq_add_one_of_ne_zero (Nat.ne_zero_of_lt enough)
  cases items with
  | nil => exact (bounded_zero levels _).symm
  | cons x items =>
    obtain ⟨readsFirst, readsRest⟩ := List.forall_mem_cons.mp reads
    obtain ⟨integralFirst, integralRest⟩ := List.forall_mem_cons.mp integral
    have others := @readItems_flatMap items levels fuel rest readsRest integralRest
      (Nat.lt_of_succ_lt_succ enough)
    have ends := endsNumeral_flatMap (.inl rfl) (encodeItems items) rest
    rw [encodeItems, separated_cons, List.append_assoc,
      (readItems_front readsFirst integralFirst ends).1, others, itemsDepth, map_bounded, bounded_max]

theorem reads_array (reads : ∀ x ∈ items, Reads x) (integral : ∀ x ∈ items, x.integral = true) :
    Reads (.array items) := by
  intro levels rest _
  have encoded : (Json.array items).encode ++ rest = Octet.openBracket ::
      (separated (encodeItems items) ++ Octet.closeBracket :: rest) := by
    simp [encode]
  rw [encoded, readValue, skipBlanks_cons (by decide)]
  simp only [if_true, depth]
  -- With no level left the list is refused before any item is read.
  cases levels with
  | zero => rfl
  | succ levels =>
    have counted := length_le_separated (encodeItems items)
    rw [length_encodeItems] at counted
    dsimp only
    rw [readItems_separated reads integral (by rw [List.length_append, List.length_cons]; omega),
      bounded_bind]
    simp only [bounded, Nat.add_le_add_iff_right]
    rfl

end Lists

section Objects

variable {σ : Type} {member : String → σ → Octets → Except Fault (σ × Octets)} {fuel : Nat}
  {known : σ} {rest : Octets}

theorem nextKey_front (key : String) (value rest : Octets) :
    nextKey true (encodeMember key value ++ rest) =
        .ok (some (key, Octet.colon :: (value ++ rest))) ∧
      nextKey false (Octet.comma :: (encodeMember key value ++ rest)) =
        .ok (some (key, Octet.colon :: (value ++ rest))) := by
  have encoded : encodeMember key value ++ rest = Octet.quote ::
      ((octets key).flatMap escape ++ Octet.quote :: Octet.colon :: (value ++ rest)) := by
    rw [encodeMember, List.append_assoc, encodeString_eq, List.cons_append]
  have read := readString_flatMap key (Octet.colon :: (value ++ rest))
  have quote : ∀ rest, skipBlanks (Octet.quote :: rest) = Octet.quote :: rest :=
    skipBlanks_cons (by decide)
  have comma : ∀ rest, skipBlanks (Octet.comma :: rest) = Octet.comma :: rest :=
    skipBlanks_cons (by decide)
  have opens : Octet.quote ≠ Octet.closeBrace := by decide
  have goesOn : Octet.comma ≠ Octet.closeBrace := by decide
  rw [encoded]
  constructor
  · simp only [nextKey, quote, if_neg opens, if_true, read]
    rfl
  · simp only [nextKey, comma, quote, if_neg goesOn, if_true, read, Bool.false_eq_true, if_false]
    rfl

theorem readMembers_end (member : String → σ → Octets → Except Fault (σ × Octets)) (first : Bool)
    (fuel : Nat) (known : σ) (rest : Octets) :
    readMembers member (fuel + 1) first known (Octet.closeBrace :: rest) =
      .ok (known, Octet.closeBrace :: rest) := rfl

theorem readMembers_front (key : String) (value : Octets) :
    readMembers member (fuel + 1) true known (encodeMember key value ++ rest) =
      (member key known (Octet.colon :: (value ++ rest)) >>= fun read =>
        readMembers member fuel false read.1 read.2) ∧
    readMembers member (fuel + 1) false known (Octet.comma :: (encodeMember key value ++ rest)) =
      (member key known (Octet.colon :: (value ++ rest)) >>= fun read =>
        readMembers member fuel false read.1 read.2) := by
  obtain ⟨first, further⟩ := nextKey_front key value rest
  rw [readMembers, readMembers, first, further, ok_bind, ok_bind]
  exact ⟨rfl, rfl⟩

theorem passColon_colon (rest : Octets) : passColon (Octet.colon :: rest) = .ok rest := rfl

def readInto (levels : Nat) (key : String) (known : List (String × Json)) (bytes : Octets) :
    Except Fault (List (String × Json) × Octets) := do
  let (x, bytes) ← readValue levels (← passColon bytes)
  return (insert key x known, bytes)

theorem readInto_colon {x : Json} (reads : Reads x) {rest : Octets} (ends : EndsNumeral rest)
    (levels : Nat) (key : String) (known : List (String × Json)) :
    readInto levels key known (Octet.colon :: (x.encode ++ rest)) =
      bounded x.depth levels (insert key x known, rest) := by
  rw [readInto, passColon_colon, ok_bind, reads levels rest ends, bounded_bind]
  rfl

theorem readMembers_flatMap {members known : List (String × Json)} {levels fuel : Nat} {rest : Octets}
    (reads : ∀ member ∈ members, Reads member.2) (enough : members.length < fuel) :
    readMembers (readInto levels) fuel false known
        ((encodeMembers members).flatMap (Octet.comma :: ·) ++ Octet.closeBrace :: rest) =
      bounded (membersDepth members) levels
        (insertAll known members, Octet.closeBrace :: rest) := by
  induction members generalizing fuel known with
  | nil =>
    obtain ⟨fuel, rfl⟩ := Nat.exists_eq_add_one_of_ne_zero (Nat.ne_zero_of_lt enough)
    exact (bounded_zero levels _).symm
  | cons member members ih =>
    obtain ⟨fuel, rfl⟩ := Nat.exists_eq_add_one_of_ne_zero (Nat.ne_zero_of_lt enough)
    obtain ⟨readsFirst, readsRest⟩ := List.forall_mem_cons.mp reads
    have others := @ih (insert member.1 member.2 known) fuel readsRest (Nat.lt_of_succ_lt_succ enough)
    have ends := endsNumeral_flatMap (.inr rfl) (encodeMembers members) rest
    rw [encodeMembers, List.flatMap_cons, List.cons_append, List.cons_append, List.append_assoc,
      (readMembers_front member.1 member.2.encode).2, readInto_colon readsFirst ends, bounded_bind,
      others, membersDepth, bounded_max]
    rfl

theorem readMembers_separated {members : List (String × Json)} {levels fuel : Nat} {rest : Octets}
    (reads : ∀ member ∈ members, Reads member.2) (enough : members.length < fuel) :
    readMembers (readInto levels) fuel true []
        (separated (encodeMembers members) ++ Octet.closeBrace :: rest) =
      bounded (membersDepth members) levels (insertAll [] members, Octet.closeBrace :: rest) := by
  obtain ⟨fuel, rfl⟩ := Nat.exists_eq_add_one_of_ne_zero (Nat.ne_zero_of_lt enough)
  cases members with
  | nil => exact (bounded_zero levels _).symm
  | cons member members =>
    obtain ⟨readsFirst, readsRest⟩ := List.forall_mem_cons.mp reads
    have others := @readMembers_flatMap members (insert member.1 member.2 []) levels fuel rest readsRest
      (Nat.lt_of_succ_lt_succ enough)
    have ends := endsNumeral_flatMap (.inr rfl) (encodeMembers members) rest
    rw [encodeMembers, separated_cons, List.append_assoc,
      (readMembers_front member.1 member.2.encode).1, readInto_colon readsFirst ends, bounded_bind,
      others, membersDepth, bounded_max]
    rfl

theorem reads_object {members : List (String × Json)}
    (ordered : (members.map (·.1)).Pairwise (· < ·)) (reads : ∀ member ∈ members, Reads member.2) :
    Reads (.object members) := by
  intro levels rest _
  have encoded : (Json.object members).encode ++ rest = Octet.openBrace ::
      (separated (encodeMembers members) ++ Octet.closeBrace :: rest) := by
    simp [encode]
  have list : Octet.openBrace ≠ Octet.openBracket := by decide
  rw [encoded, readValue, skipBlanks_cons (by decide)]
  simp only [if_neg list, if_true, depth]
  cases levels with
  | zero => rfl
  | succ levels =>
    have counted := length_le_separated (encodeMembers members)
    rw [length_encodeMembers] at counted
    have read := @readMembers_separated members levels
      ((separated (encodeMembers members) ++ Octet.closeBrace :: rest).length + 1) rest reads
      (by rw [List.length_append, List.length_cons]; omega)
    have inserted : insertAll [] members = members := insertAll_of_ordered ordered
    rw [inserted] at read
    dsimp only
    change (readMembers (readInto levels) _ true [] _ >>= _) = _
    rw [read, bounded_bind]
    simp only [bounded, Nat.add_le_add_iff_right]
    rfl

end Objects

theorem reads {x : Json} (ordered : x.Ordered) (integral : x.integral = true) : Reads x := by
  induction x using inductionOn with
  | null => exact reads_null
  | bool b => exact reads_bool b
  | number n => exact reads_number integral
  | string s => exact reads_string s
  | array items ih =>
    rw [Ordered, itemsOrdered_iff] at ordered
    rw [Json.integral, itemsIntegral_iff] at integral
    exact reads_array (fun x among => ih x among (ordered x among) (integral x among)) integral
  | object members ih =>
    rw [Ordered, membersOrdered_iff] at ordered
    rw [Json.integral, membersIntegral_iff] at integral
    exact reads_object ordered.1
      fun member among => ih member among (ordered.2 member among) (integral member among)

end EventRelay.Json
