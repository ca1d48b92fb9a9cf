import EventRelay.Proofs.Json.Agreement
import EventRelay.Proofs.Json.Wellformed

namespace EventRelay.Json

open Parse

/-- What the members of a record have to be: those of the names mean values, and where readers are wary
    they repeat no name. -/
def Fits (names wary : List String) (levels : Nat) (name : String) (tree : Parse) (x : Json) : Prop :=
  name ∈ names → (name ∈ wary → tree.NamesOnce) ∧ tree.Means levels x

/-- Whether the fields' decoders make of a text what they make of its value. -/
def Follow (wary : List String) (fields : List Field) : Prop :=
  ∀ field ∈ fields, field.decoder.Follows (field.name ∈ wary)

section Members

theorem under_of_matches {fits others : String → Parse → Json → Prop} {name : String}
    (same : ∀ tree x y, fits name tree x → others name tree y → x = y)
    {members : List (Option String × Parse)} {known more : List (String × Json)}
    (fit : List.Forall₂ (Matches fits) members known)
    (too : List.Forall₂ (Matches others) members more) : under name known = under name more := by
  induction fit generalizing more with
  | nil =>
    cases too
    rfl
  | @cons member found _ _ first _ ih =>
    cases too with
    | @cons _ foundToo _ _ second further =>
      obtain ⟨key, x⟩ := found
      obtain ⟨keyToo, y⟩ := foundToo
      obtain ⟨named, fit⟩ := first
      obtain ⟨namedToo, fitToo⟩ := second
      obtain rfl : key = keyToo := Option.some.inj (named.symm.trans namedToo)
      by_cases here : key = name
      · subst here
        have equal : x = y := same _ _ _ fit fitToo
        rw [under_cons_same, under_cons_same, equal, ih further]
      · rw [under_cons_other here, under_cons_other here, ih further]

theorem isRecord_ofMembers {known : List (String × Json)} (once : (known.map (·.1)).Nodup)
    {entries : List Entry} :
    IsRecord entries (ofMembers known) ↔ ∀ entry ∈ entries, entry.InObject known := by
  have kept : (insertAll [] known).Perm known := perm_insertAll once
  exact forall₂_congr fun entry _ => Entry.inObject_perm kept

end Members

namespace Slots

variable {wary : List String} {levels : Nat}

theorem putMembers_eq_foldlM (fields : List Field) (members : List (String × Json))
    (slots : Slots fields) :
    putMembers fields members slots =
      members.foldlM (fun slots member => putMember member.1 member.2 fields slots) slots := by
  induction members generalizing slots with
  | nil => rfl
  | cons member members ih => simp only [putMembers, List.foldlM_cons, ih]

def Takes (fields : List Field) (wary : List String) (levels : Nat) (name : String) (known : Slots fields)
    (bytes : Octets) (next : Slots fields) (rest : Octets) : Prop :=
  ∃ start tree x, passColon bytes = .ok start ∧ At start tree rest ∧
    Fits (fields.map Field.name) wary levels name tree x ∧ putMember name x fields known = .ok next

section Takes

variable {field : Field} {fields : List Field} {name : String} {bytes rest : Octets}

theorem takes_nil : Takes [] wary levels name () bytes () rest ↔
    ∃ start, passColon bytes = .ok start ∧ skip start = .ok rest := by
  constructor
  · rintro ⟨start, tree, x, passed, there, _, _⟩
    exact ⟨start, passed, skip_iff.mpr ⟨tree, there⟩⟩
  · rintro ⟨start, passed, skipped⟩
    obtain ⟨tree, there⟩ := skip_iff.mp skipped
    exact ⟨start, tree, .null, passed, there, fun named => absurd named List.not_mem_nil, rfl⟩

theorem takes_known {x : field.Value} {slots : Slots fields} {next : Slots (field :: fields)} :
    ¬ Takes (field :: fields) wary levels field.name (some x, slots) bytes next rest := by
  rintro ⟨start, tree, y, _, _, _, put⟩
  simp [putMember] at put

theorem takes_first (follows : field.decoder.Follows (field.name ∈ wary)) {slots others : Slots fields}
    {filled : Option field.Value} :
    Takes (field :: fields) wary levels field.name (none, slots) bytes (filled, others) rest ↔
      ∃ start x, passColon bytes = .ok start ∧ field.decoder.read levels start = .ok (x, rest) ∧
        filled = some x ∧ others = slots := by
  constructor
  · rintro ⟨start, tree, value, passed, there, fit, put⟩
    obtain ⟨once, means⟩ := fit List.mem_cons_self
    simp only [putMember, if_true] at put
    obtain ⟨x, read, same⟩ := bind_eq_ok_iff.mp put
    cases same
    exact ⟨start, x, passed, (follows _ _ _ _).mpr ⟨tree, there, once, value, means, read⟩, rfl, rfl⟩
  · rintro ⟨start, x, passed, read, rfl, rfl⟩
    obtain ⟨tree, there, once, value, means, given⟩ := (follows _ _ _ _).mp read
    refine ⟨start, tree, value, passed, there, fun _ => ⟨once, means⟩, ?_⟩
    simp only [putMember, if_true, given]
    rfl

theorem takes_other (other : field.name ≠ name) {slot filled : Option field.Value}
    {slots others : Slots fields} :
    Takes (field :: fields) wary levels name (slot, slots) bytes (filled, others) rest ↔
      filled = slot ∧ Takes fields wary levels name slots bytes others rest := by
  have among : name ∈ (field :: fields).map Field.name ↔ name ∈ fields.map Field.name := by
    rw [List.map_cons, List.mem_cons]
    exact or_iff_right other.symm
  have put : ∀ x, putMember name x (field :: fields) (slot, slots) = .ok (filled, others) ↔
      filled = slot ∧ putMember name x fields slots = .ok others := by
    intro x
    simp only [putMember, if_neg other]
    rw [pair_eq_ok_iff, eq_comm]
  simp only [Takes, Fits, among, put]
  constructor
  · rintro ⟨start, tree, x, passed, there, fit, same, put⟩
    exact ⟨same, start, tree, x, passed, there, fit, put⟩
  · rintro ⟨same, start, tree, x, passed, there, fit, put⟩
    exact ⟨start, tree, x, passed, there, fit, same, put⟩

end Takes

theorem readMember_takesBy {fields : List Field} (follow : Follow wary fields) :
    TakesBy (fun name slots bytes => readMember levels name fields slots bytes)
      (Fits (fields.map Field.name) wary levels)
      fun slots member => putMember member.1 member.2 fields slots := by
  intro name known bytes next rest
  change readMember levels name fields known bytes = .ok (next, rest) ↔
    Takes fields wary levels name known bytes next rest
  induction fields generalizing rest with
  | nil =>
    rw [takes_nil]
    simp only [readMember]
    constructor
    · intro read
      obtain ⟨start, passed, read⟩ := bind_eq_ok_iff.mp read
      obtain ⟨last, skipped, same⟩ := bind_eq_ok_iff.mp read
      cases same
      exact ⟨start, passed, skipped⟩
    · rintro ⟨start, passed, skipped⟩
      rw [passed, ok_bind, skipped]
      rfl
  | cons field fields ih =>
    obtain ⟨slot, slots⟩ := known
    obtain ⟨filled, others⟩ := next
    obtain ⟨follows, follow⟩ := List.forall_mem_cons.mp follow
    simp only [readMember]
    by_cases same : field.name = name
    · subst same
      rw [if_pos rfl]
      cases slot with
      | some x => simp [takes_known]
      | none =>
        rw [takes_first follows]
        constructor
        · intro read
          obtain ⟨start, passed, read⟩ := bind_eq_ok_iff.mp read
          obtain ⟨⟨x, last⟩, found, same⟩ := bind_eq_ok_iff.mp read
          cases same
          exact ⟨start, x, passed, found, rfl, rfl⟩
        · rintro ⟨start, x, passed, found, rfl, rfl⟩
          dsimp only
          rw [passed, ok_bind, found]
          rfl
    · rw [if_neg same, takes_other same, ← ih follow]
      constructor
      · intro read
        obtain ⟨⟨later, last⟩, found, same⟩ := bind_eq_ok_iff.mp read
        cases same
        exact ⟨rfl, found⟩
      · rintro ⟨rfl, found⟩
        rw [found]
        rfl

end Slots

namespace Shape

variable (shape : Shape) {wary : List String} {levels : Nat} {bytes behind rest : Octets}

theorem items_nil_iff {first : Bool} :
    ItemsAt first bytes [] rest ↔ skipBlanks bytes = Octet.closeBracket :: rest := by
  rw [items_iff]
  constructor
  · intro step
    cases step with
    | done front => exact front
  · exact .done

theorem items_of_closed {first : Bool} {items : List Parse} {last : Octets}
    (front : skipBlanks bytes = Octet.closeBracket :: rest) (there : ItemsAt first bytes items last) :
    items = [] ∧ last = rest := by
  cases items_iff.mp there with
  | done same =>
    cases front.symm.trans same
    exact ⟨rfl, rfl⟩
  | next starts here further =>
    obtain ⟨b, behind, same, other, _⟩ := starts
    cases front.symm.trans same
    exact absurd rfl other

theorem readItems_iff {index : Nat} {fields : List Field} (follow : Follow wary fields)
    {xs : Values fields} :
    (∃ left, shape.readItems levels index fields bytes = .ok (xs, left) ∧ closeList left = .ok rest) ↔
      ∃ items values, ItemsAt (index == 0) bytes items rest ∧ List.Forall₂ (Means levels) items values ∧
        Entry.inList (entries fields xs) values ∧
        ∀ item ∈ (fields.map Field.name).zip items, item.1 ∈ wary → item.2.NamesOnce := by
  induction fields generalizing index bytes with
  | nil =>
    simp only [Shape.readItems, entries, Entry.inList]
    constructor
    · rintro ⟨left, read, closes⟩
      cases read
      exact ⟨[], [], items_nil_iff.mpr (closeList_iff.mp closes), .nil, rfl, by simp⟩
    · rintro ⟨items, values, there, means, rfl, _⟩
      cases means
      exact ⟨bytes, rfl, closeList_iff.mpr (items_nil_iff.mp there)⟩
  | cons field fields ih =>
    obtain ⟨x, xs⟩ := xs
    obtain ⟨follows, follow⟩ := List.forall_mem_cons.mp follow
    constructor
    · rintro ⟨left, read, closes⟩
      rcases shape.readItems_cons_iff.mp read with
        ⟨behind, after, found, here, further⟩ | ⟨found, short, further⟩
      · obtain ⟨start, starts, same⟩ := starts_of_nextItem found
        obtain ⟨tree, there, once, value, means, given⟩ := (follows _ _ _ _).mp here
        obtain ⟨items, values, others, meansAll, listed, onceAll⟩ :=
          (ih follow).mp ⟨left, further, closes⟩
        exact ⟨tree :: items, value :: values,
          items_iff.mpr (.next starts (there.of_skipBlanks same) others), .cons means meansAll,
          ⟨given, listed⟩, List.forall_mem_cons.mpr ⟨once, onceAll⟩⟩
      · obtain ⟨_, front⟩ := nextItem_none_iff.mp found
        obtain ⟨items, values, there, means, listed, _⟩ := (ih follow).mp ⟨left, further, closes⟩
        obtain ⟨rfl, rfl⟩ := items_of_closed front there
        cases means
        exact ⟨[], [], items_nil_iff.mpr front, .nil, ⟨short, listed⟩, by simp⟩
    · rintro ⟨items, values, there, means, listed, once⟩
      cases items_iff.mp there with
      | done front =>
        cases means
        obtain ⟨short, listed⟩ := listed
        have ended := (@nextItem_none_iff (index == 0) bytes).mpr ⟨rest, front⟩
        obtain ⟨left, read, closes⟩ :=
          (@ih bytes (index + 1) follow xs).mpr ⟨[], [], items_nil_iff.mpr front, .nil, listed, by simp⟩
        exact ⟨left, shape.readItems_cons_iff.mpr (.inr ⟨ended, short, read⟩), closes⟩
      | @next _ after _ _ _ starts here further =>
        cases means with
        | cons first others =>
          obtain ⟨given, listed⟩ := listed
          obtain ⟨once, onceAll⟩ := List.forall_mem_cons.mp once
          obtain ⟨behind, found, same⟩ := nextItem_of_starts starts here
          have here := (follows _ _ _ _).mpr ⟨_, here.of_skipBlanks same, once, _, first, given⟩
          obtain ⟨left, read, closes⟩ :=
            (@ih after (index + 1) follow xs).mpr ⟨_, _, further, others, listed, onceAll⟩
          exact ⟨left, shape.readItems_cons_iff.mpr (.inl ⟨_, after, found, here, read⟩), closes⟩

/-- Whether the tree is a form of the record with these values. -/
def IsForm (wary : List String) : Nat → Parse → Values shape.fields → Prop
  | levels + 1, .object members, xs =>
    ∃ known, List.Forall₂ (Matches (Fits (shape.fields.map Field.name) wary levels)) members known ∧
      ∀ entry ∈ entries shape.fields xs, entry.InObject known
  | levels + 1, .array items, xs =>
    ∃ values, List.Forall₂ (Means levels) items values ∧
      Entry.inList (entries shape.fields xs) values ∧
      ∀ item ∈ (shape.fields.map Field.name).zip items, item.1 ∈ wary → item.2.NamesOnce
  | _, _, _ => False

section Reading

variable {shape : Shape} {xs : Values shape.fields}

theorem read_list_iff (follow : Follow wary shape.fields)
    (front : skipBlanks bytes = Octet.openBracket :: behind) :
    shape.read (levels + 1) bytes = .ok (xs, rest) ↔
      ∃ tree, At bytes tree rest ∧ shape.IsForm wary (levels + 1) tree xs := by
  have read := @Shape.readItems_iff shape wary levels behind rest 0 _ follow xs
  simp only [Shape.read, front, if_true, at_list_iff front]
  constructor
  · intro found
    obtain ⟨⟨xs, left⟩, inside, found⟩ := bind_eq_ok_iff.mp found
    obtain ⟨last, closes, same⟩ := bind_eq_ok_iff.mp found
    cases same
    obtain ⟨items, values, there, means, listed, once⟩ := read.mp ⟨left, inside, closes⟩
    exact ⟨.array items, ⟨items, rfl, there⟩, values, means, listed, once⟩
  · rintro ⟨_, ⟨items, rfl, there⟩, values, means, listed, once⟩
    obtain ⟨left, inside, closes⟩ := read.mpr ⟨items, values, there, means, listed, once⟩
    rw [inside, ok_bind]
    dsimp only
    rw [closes]
    rfl

theorem read_object_iff (distinct : (shape.fields.map Field.name).Nodup)
    (follow : Follow wary shape.fields) (front : skipBlanks bytes = Octet.openBrace :: behind) :
    shape.read (levels + 1) bytes = .ok (xs, rest) ↔
      ∃ tree, At bytes tree rest ∧ shape.IsForm wary (levels + 1) tree xs := by
  have other : Octet.openBrace ≠ Octet.openBracket := by decide
  have read := fun slots => @readMembers_iff (behind.length + 1) true behind rest _ _ _ _
    (@Slots.readMember_takesBy wary levels _ follow) (Nat.lt_succ_self behind.length)
    (Slots.empty shape.fields) slots
  simp only [← Slots.putMembers_eq_foldlM] at read
  simp only [Shape.read, front, if_neg other, if_true, at_object_iff front]
  constructor
  · intro found
    obtain ⟨⟨slots, left⟩, inside, found⟩ := bind_eq_ok_iff.mp found
    obtain ⟨xs, filled, found⟩ := bind_eq_ok_iff.mp found
    obtain ⟨last, closes, same⟩ := bind_eq_ok_iff.mp found
    cases same
    obtain ⟨members, known, there, fit, put⟩ := (read slots).mp ⟨left, inside, closes⟩
    exact ⟨.object members, ⟨members, rfl, there⟩, known, fit,
      (Slots.values_putMembers_iff distinct known xs).mp (bind_eq_ok_iff.mpr ⟨slots, put, filled⟩)⟩
  · rintro ⟨_, ⟨members, rfl, there⟩, known, fit, inside⟩
    obtain ⟨slots, put, filled⟩ :=
      bind_eq_ok_iff.mp ((Slots.values_putMembers_iff distinct known xs).mpr inside)
    obtain ⟨left, inside, closes⟩ := (read slots).mpr ⟨members, known, there, fit, put⟩
    rw [inside, ok_bind]
    dsimp only
    rw [filled, ok_bind, closes]
    rfl

theorem not_isForm_scalar (b : UInt8) : ¬ shape.IsForm wary levels (ofScalar b behind) xs := by
  unfold ofScalar
  repeat' split
  all_goals cases levels <;> exact id

theorem read_goesBy (distinct : (shape.fields.map Field.name).Nodup)
    (follow : Follow wary shape.fields) (levels : Nat) :
    GoesBy (shape.read levels) (shape.IsForm wary levels) := by
  intro bytes xs rest
  cases front : skipBlanks bytes with
  | nil => simp [Shape.read, front, not_at_nil front]
  | cons b behind =>
    by_cases list : b = Octet.openBracket
    · subst list
      cases levels with
      | zero => simp [Shape.read, front, IsForm]
      | succ levels => exact read_list_iff follow front
    · by_cases object : b = Octet.openBrace
      · subst object
        cases levels with
        | zero => simp [Shape.read, front, IsForm, list]
        | succ levels => exact read_object_iff distinct follow front
      · simp only [Shape.read, front, if_neg list, if_neg object, at_scalar_iff front list object]
        simp [not_isForm_scalar]

theorem decoder_goesBy {α : Type} {make : Values shape.fields → α}
    (distinct : (shape.fields.map Field.name).Nodup) (follow : Follow wary shape.fields)
    (levels : Nat) : GoesBy ((shape.decoder make).read levels)
      fun tree x => ∃ xs, shape.IsForm wary levels tree xs ∧ x = make xs := by
  intro bytes x rest
  have read := read_goesBy distinct follow levels bytes
  simp only [decoder, read_and_eq_ok_iff, read]
  constructor
  · rintro ⟨xs, ⟨tree, there, form⟩, rfl⟩
    exact ⟨tree, there, xs, form, rfl⟩
  · rintro ⟨tree, there, xs, form, rfl⟩
    exact ⟨xs, ⟨tree, there, form⟩, rfl⟩

end Reading

section Agreement

variable {shape} {xs : Values shape.fields} {value : Json}

theorem isForm_object_iff {members : List (Option String × Parse)} {known : List (String × Json)}
    (once : (Parse.object members).Distinct)
    (means : List.Forall₂ (Matches fun _ => Means levels) members known) :
    shape.IsForm wary (levels + 1) (.object members) xs ↔
      IsRecord (entries shape.fields xs) (ofMembers known) := by
  rw [isRecord_ofMembers (nodup_of_matches means once.1)]
  constructor
  · rintro ⟨others, fit, inside⟩ entry among
    have same := @under_of_matches _ _ entry.name
      (fun tree x y fit means => (fit (name_of_entries among)).2.unique means) _ _ _ fit means
    exact (Entry.inObject_congr same).mp (inside entry among)
  · intro inside
    refine ⟨known, ?_, inside⟩
    have apart := membersDistinct_iff.mp once.2
    have both := (List.forall₂_and_left members known).mpr ⟨apart, means⟩
    exact both.imp fun member found ⟨apart, named, means⟩ =>
      ⟨named, fun _ => ⟨fun _ => apart.namesOnce, means⟩⟩

theorem isForm_iff {tree : Parse} (once : tree.Distinct) (means : tree.Means levels value) :
    shape.IsForm wary levels tree xs ↔ IsRecord (entries shape.fields xs) value := by
  cases tree with
  | object members =>
    obtain ⟨inner, known, rfl, meansAll, rfl⟩ := means_object.mp means
    exact isForm_object_iff once meansAll
  | array items =>
    obtain ⟨inner, values, rfl, meansAll, rfl⟩ := means_array.mp means
    constructor
    · rintro ⟨others, too, listed, _⟩
      obtain rfl := values_unique meansAll too
      exact listed
    · intro listed
      refine ⟨values, meansAll, listed, fun item among _ => ?_⟩
      exact (itemsDistinct_iff.mp once item.2 (List.of_mem_zip among).2).namesOnce
  | null =>
    obtain rfl := means_null.mp means
    cases levels <;> exact Iff.rfl
  | bool b =>
    obtain rfl := means_bool.mp means
    cases levels <;> exact Iff.rfl
  | number n =>
    obtain ⟨_, _, rfl⟩ := means_number.mp means
    cases levels <;> exact Iff.rfl
  | string s =>
    obtain ⟨_, _, rfl⟩ := means_string.mp means
    cases levels <;> exact Iff.rfl

/-- Where no object of the text repeats a name, a record is read from the text exactly if it is taken from the
    value that the text writes. -/
theorem decode_iff_ofJson {α : Type} {make : Values shape.fields → α}
    (distinct : (shape.fields.map Field.name).Nodup) (follow : Follow wary shape.fields)
    {text : Octets} {tree : Parse} (there : Parse.decode text = .ok tree) (once : tree.Distinct)
    (written : Json.decode text = .ok value) (x : α) :
    (shape.decoder make).decode text = .ok x ↔ (shape.decoder make).ofJson value = .ok x := by
  obtain ⟨treeToo, thereToo, means⟩ := Json.decode_iff.mp written
  obtain rfl : tree = treeToo := Except.ok.inj (there.symm.trans thereToo)
  have form : ∀ xs, shape.IsForm wary maxDepth tree xs ↔ IsRecord (entries shape.fields xs) value :=
    fun xs => isForm_iff once means
  rw [Decoder.decode_iff (decoder_goesBy distinct follow maxDepth)]
  simp only [decoder, map_eq_ok_iff, shape.ofJson_iff distinct, ← form]
  constructor
  · rintro ⟨treeToo, thereToo, xs, form, rfl⟩
    obtain rfl : tree = treeToo := Except.ok.inj (there.symm.trans thereToo)
    exact ⟨xs, form, rfl⟩
  · rintro ⟨xs, form, rfl⟩
    exact ⟨tree, there, xs, form, rfl⟩

end Agreement

end Shape

end EventRelay.Json
