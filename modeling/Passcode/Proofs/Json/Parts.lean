import Passcode.Proofs.Json.Value

/-!
JSON text in parts. Whatever is read falls into stretches that hold its parts, so a text is that of
an object exactly if it is put together from members between braces.
-/

set_option autoImplicit false

namespace Passcode.Json

open MemberText (between Spells)

/-! ### Texts and numbers as stretches -/

theorem reads_text_of_scanText {cs rest : List Char} {s : Option String}
    (scanned : scanText cs = some (s, rest)) :
    ∃ stretch, '"' :: cs = stretch ++ rest ∧ Reads stretch (text s) := by
  obtain ⟨written, rfl, again⟩ := scanText_split scanned
  refine ⟨'"' :: written, rfl, .of_takes rfl fun fuel rest' _ _ => ?_⟩
  rw [List.cons_append]
  exact .text (again rest')

theorem reads_of_scanUnsigned {cs rest : List Char} {j : Json}
    (scanned : scanUnsigned cs = some (j, rest)) :
    ∃ stretch, cs = stretch ++ rest ∧ Reads stretch j := by
  obtain ⟨c, number, rfl, digit, kind, again⟩ := scanUnsigned_split scanned
  refine ⟨c :: number, rfl, .of_takes (isSpace_of_isDigit digit) fun fuel rest' _ ends => ?_⟩
  rcases kind with rfl | ⟨n, rfl⟩
  · exact .other (again rest' ends)
  · exact .natural (again rest' ends)

theorem reads_signed_of_scanUnsigned {cs rest : List Char} {j : Json}
    (scanned : scanUnsigned cs = some (j, rest)) :
    ∃ stretch, '-' :: cs = stretch ++ rest ∧ Reads stretch otherNumber := by
  obtain ⟨c, number, rfl, -, -, again⟩ := scanUnsigned_split scanned
  exact ⟨'-' :: c :: number, rfl, .of_takes rfl fun fuel rest' _ ends => .signed (again rest' ends)⟩

/-! ### What is read falls into parts -/

/-- What is read as a value is a stretch that holds it. -/
def ValuesSplit (fuel : Nat) : Prop :=
  ∀ cs j rest, scanValue fuel cs = some (j, rest) →
    ∃ stretch, cs = stretch ++ rest ∧ Reads stretch j

def ItemsSplit (fuel : Nat) : Prop :=
  ∀ cs items rest, scanItems fuel cs = some (items, rest) →
    ∃ t ts, cs = [','].intercalate (t :: ts) ++ ']' :: rest ∧ List.Forall₂ Holds (t :: ts) items

def MembersSplit (fuel : Nat) : Prop :=
  ∀ cs members rest, scanMembers fuel cs = some (members, rest) →
    ∃ t ts, cs = between (t :: ts) ++ '}' :: rest ∧ List.Forall₂ Spells (t :: ts) members

theorem reads_of_skipSpace {cs rest : List Char} {j : Json}
    (visible : ∃ stretch, skipSpace cs = stretch ++ rest ∧ Reads stretch j) :
    ∃ stretch, cs = stretch ++ rest ∧ Reads stretch j := by
  obtain ⟨stretch, visible_eq, reads⟩ := visible
  obtain ⟨blanks, blank, cs_eq⟩ := skipSpace_split cs
  rw [visible_eq, ← List.append_assoc] at cs_eq
  exact ⟨blanks ++ stretch, cs_eq, reads.append_left blank⟩

/-- Before the next mark stands a stretch that holds what was read, blanks included. -/
theorem holds_before {cs left rest : List Char} {j : Json} {mark : Char}
    (split : ∃ stretch, cs = stretch ++ left ∧ Reads stretch j)
    (marked : skipSpace left = mark :: rest) : ∃ t, cs = t ++ mark :: rest ∧ Holds t j := by
  obtain ⟨stretch, rfl, reads⟩ := split
  obtain ⟨blanks, blank, left_eq⟩ := skipSpace_split left
  rw [marked] at left_eq
  refine ⟨stretch ++ blanks, ?_, reads.holds.append_right blank⟩
  rw [left_eq, List.append_assoc]

theorem valuesSplit_succ {fuel : Nat} (itemsSplit : ItemsSplit fuel)
    (membersSplit : MembersSplit fuel) : ValuesSplit (fuel + 1) := by
  intro cs j rest scanned
  have takes := takes_of_scanValue scanned
  apply reads_of_skipSpace
  generalize skipSpace cs = visible at takes
  cases takes with
  | null => exact ⟨['n', 'u', 'l', 'l'], rfl, .of_takes rfl fun _ _ _ _ => .null⟩
  | true => exact ⟨['t', 'r', 'u', 'e'], rfl, .of_takes rfl fun _ _ _ _ => .true⟩
  | false => exact ⟨['f', 'a', 'l', 's', 'e'], rfl, .of_takes rfl fun _ _ _ _ => .false⟩
  | text scanned => exact reads_text_of_scanText scanned
  | natural scanned => exact reads_of_scanUnsigned scanned
  | other scanned => exact reads_of_scanUnsigned scanned
  | signed scanned => exact reads_signed_of_scanUnsigned scanned
  | @noItems inner _ closed =>
    obtain ⟨blanks, blank, inner_eq⟩ := skipSpace_split inner
    refine ⟨_, ?_, reads_array .nil blank⟩
    rw [inner_eq, closed]
    simp
  | items scanned =>
    obtain ⟨t, ts, rfl, holds⟩ := itemsSplit _ _ _ scanned
    refine ⟨_, ?_, reads_array holds blank_nil⟩
    simp
  | @noMembers inner _ closed =>
    obtain ⟨blanks, blank, inner_eq⟩ := skipSpace_split inner
    refine ⟨_, ?_, reads_object .nil blank⟩
    rw [inner_eq, closed]
    simp [between]
  | members scanned =>
    obtain ⟨t, ts, rfl, spells⟩ := membersSplit _ _ _ scanned
    refine ⟨_, ?_, reads_object spells blank_nil⟩
    simp

theorem itemsSplit_succ {fuel : Nat} (valuesSplit : ValuesSplit fuel)
    (itemsSplit : ItemsSplit fuel) : ItemsSplit (fuel + 1) := by
  intro cs items rest scanned
  rw [scanItems] at scanned
  obtain ⟨⟨item, left⟩, scannedItem, scanned⟩ := Option.bind_eq_some_iff.mp scanned
  have split := valuesSplit cs item left scannedItem
  simp only at scanned
  split at scanned
  · next others marked =>
    obtain ⟨⟨items, last⟩, scannedOthers, read⟩ := Option.bind_eq_some_iff.mp scanned
    cases read
    obtain ⟨t, rfl, holds⟩ := holds_before split marked
    obtain ⟨next, ts, rfl, holdsOthers⟩ := itemsSplit _ _ _ scannedOthers
    refine ⟨t, next :: ts, ?_, .cons holds holdsOthers⟩
    rw [List.intercalate_cons_cons, List.append_assoc, List.append_assoc]
    rfl
  · next marked =>
    cases scanned
    obtain ⟨t, rfl, holds⟩ := holds_before split marked
    refine ⟨t, [], ?_, .cons holds .nil⟩
    rw [List.intercalate_singleton]
  · cases scanned

theorem spells_ofList {name value : List Char} {m : Option String × Json}
    (holdsName : Holds name (text m.1)) (holdsValue : Holds value m.2) :
    ∃ t : MemberText, t.chars = name ++ ':' :: value ∧ Spells t m := by
  refine ⟨⟨String.ofList name, String.ofList value⟩, ?_, ?_, ?_⟩
  · rw [MemberText.chars, String.toList_ofList, String.toList_ofList]
  · rwa [String.toList_ofList]
  · rwa [String.toList_ofList]

theorem membersSplit_succ {fuel : Nat} (valuesSplit : ValuesSplit fuel)
    (membersSplit : MembersSplit fuel) : MembersSplit (fuel + 1) := by
  intro cs members rest scanned
  rw [scanMembers] at scanned
  split at scanned
  case h_2 => cases scanned
  next inner quoted =>
    obtain ⟨⟨key, afterKey⟩, scannedKey, scanned⟩ := Option.bind_eq_some_iff.mp scanned
    have keySplit : ∃ stretch, cs = stretch ++ afterKey ∧ Reads stretch (text key) :=
      reads_of_skipSpace (quoted ▸ reads_text_of_scanText scannedKey)
    simp only at scanned
    split at scanned
    case h_2 => cases scanned
    next afterColon colon =>
      obtain ⟨name, rfl, holdsName⟩ := holds_before keySplit colon
      obtain ⟨⟨value, left⟩, scannedValue, scanned⟩ := Option.bind_eq_some_iff.mp scanned
      have valueSplit := valuesSplit afterColon value left scannedValue
      simp only at scanned
      -- The value goes up to a comma, and other members follow, or up to the closing brace.
      split at scanned
      · next others marked =>
        obtain ⟨⟨members, last⟩, scannedOthers, read⟩ := Option.bind_eq_some_iff.mp scanned
        cases read
        obtain ⟨stretch, rfl, holdsValue⟩ := holds_before valueSplit marked
        obtain ⟨t, chars, spells⟩ := spells_ofList (m := (key, value)) holdsName holdsValue
        obtain ⟨next, ts, rfl, spellsOthers⟩ := membersSplit _ _ _ scannedOthers
        refine ⟨t, next :: ts, ?_, .cons spells spellsOthers⟩
        rw [MemberText.between_cons_cons, chars]
        simp only [List.append_assoc, List.cons_append]
      · next marked =>
        cases scanned
        obtain ⟨stretch, rfl, holdsValue⟩ := holds_before valueSplit marked
        obtain ⟨t, chars, spells⟩ := spells_ofList (m := (key, value)) holdsName holdsValue
        refine ⟨t, [], ?_, .cons spells .nil⟩
        rw [MemberText.between_singleton, chars, List.append_assoc]
        rfl
      · cases scanned

theorem splits (fuel : Nat) : ValuesSplit fuel ∧ ItemsSplit fuel ∧ MembersSplit fuel := by
  -- The three readers call each other, each with one unit of fuel less.
  induction fuel with
  | zero =>
    refine ⟨fun cs j rest scanned => ?_, fun cs items rest scanned => ?_,
      fun cs members rest scanned => ?_⟩
    · rw [scanValue] at scanned
      cases scanned
    · rw [scanItems] at scanned
      cases scanned
    · rw [scanMembers] at scanned
      cases scanned
  | succ fuel ih =>
    obtain ⟨valuesSplit, itemsSplit, membersSplit⟩ := ih
    exact ⟨valuesSplit_succ itemsSplit membersSplit, itemsSplit_succ valuesSplit itemsSplit,
      membersSplit_succ valuesSplit membersSplit⟩

/-! ### Whole texts -/

theorem read?_eq_some_iff_scanValue {s : String} {j : Json} :
    read? s = some j ↔
      ∃ rest, scanValue (s.toList.length + 1) s.toList = some (j, rest) ∧ Blank rest := by
  have blank_iff (rest : List Char) : (skipSpace rest).isEmpty = true ↔ Blank rest := by
    rw [List.isEmpty_iff, skipSpace, List.dropWhile_eq_nil_iff, Blank]
  simp only [read?, Option.bind_eq_bind, Option.bind_eq_some_iff, Prod.exists,
    Option.ite_none_right_eq_some, Option.some.injEq, blank_iff]
  constructor
  · rintro ⟨value, rest, scanned, blank, rfl⟩
    exact ⟨rest, scanned, blank⟩
  · rintro ⟨rest, scanned, blank⟩
    exact ⟨j, rest, scanned, blank, rfl⟩

theorem read?_eq_some_iff {s : String} {j : Json} : read? s = some j ↔ Holds s.toList j := by
  rw [read?_eq_some_iff_scanValue]
  constructor
  · rintro ⟨rest, scanned, blank⟩
    obtain ⟨stretch, whole, reads⟩ := (splits _).1 _ _ _ scanned
    rw [whole]
    exact reads.holds.append_right blank
  · intro holds
    obtain ⟨left, scanned, ended⟩ := holds (s.toList.length + 1) [] (Nat.le_succ _) ends_nil
    rw [List.append_nil] at scanned
    exact ⟨left, scanned, List.dropWhile_eq_nil_iff.mp ended⟩

/-! ### Members -/

namespace MemberText

def WellFormed (t : MemberText) : Prop :=
  (∃ name, read? t.name = some (text name)) ∧ ∃ value, read? t.value = some value

def Named (name : String) (t : MemberText) : Prop :=
  read? t.name = some (text (some name))

def member? (t : MemberText) : Option (Option String × Json) := do
  let .text name ← read? t.name | none
  let value ← read? t.value
  return (name, value)

variable {t : MemberText} {m : Option String × Json}

theorem member?_eq_some_iff :
    t.member? = some m ↔ read? t.name = some (text m.1) ∧ read? t.value = some m.2 := by
  obtain ⟨name, value⟩ := m
  rw [member?]
  constructor
  · intro found
    obtain ⟨j, readName, found⟩ := Option.bind_eq_some_iff.mp found
    cases j with
    | text name =>
      obtain ⟨value, readValue, same⟩ := Option.bind_eq_some_iff.mp found
      cases same
      exact ⟨readName, readValue⟩
    | _ => cases found
  · rintro ⟨readName, readValue⟩
    rw [readName, readValue]
    rfl

theorem spells_iff : t.Spells m ↔ t.member? = some m := by
  rw [Spells, member?_eq_some_iff, read?_eq_some_iff, read?_eq_some_iff]

theorem wellFormed_iff : t.WellFormed ↔ ∃ m, t.member? = some m := by
  simp only [WellFormed, member?_eq_some_iff, Prod.exists, exists_and_left, exists_and_right]

theorem named_iff (found : t.member? = some m) {name : String} :
    t.Named name ↔ m.1 = some name := by
  rw [Named, (member?_eq_some_iff.mp found).1, Option.some.injEq, text.injEq]

/-- `u` is `t` with blanks around its name and its value. -/
def Padded (t u : MemberText) : Prop :=
  ∃ a b c d, Blank a ∧ Blank b ∧ Blank c ∧ Blank d ∧
    u.name.toList = a ++ (t.name.toList ++ b) ∧ u.value.toList = c ++ (t.value.toList ++ d)

theorem Padded.refl (t : MemberText) : t.Padded t :=
  ⟨[], [], [], [], blank_nil, blank_nil, blank_nil, blank_nil,
    (List.append_nil _).symm, (List.append_nil _).symm⟩

theorem Padded.spells {u : MemberText} (padded : t.Padded u) (spells : t.Spells m) :
    u.Spells m := by
  obtain ⟨a, b, c, d, blankA, blankB, blankC, blankD, name, value⟩ := padded
  rw [Spells, name, value]
  exact ⟨(spells.1.append_right blankB).append_left blankA,
    (spells.2.append_right blankD).append_left blankC⟩

theorem forall₂_spells {ts us : List MemberText} (padded : List.Forall₂ Padded ts us)
    (wellFormed : ∀ t ∈ ts, t.WellFormed) :
    List.Forall₂ Spells us (ts.filterMap member?) := by
  induction padded with
  | nil => exact .nil
  | cons first _ ih =>
    rw [List.forall_mem_cons] at wellFormed
    obtain ⟨m, found⟩ := wellFormed_iff.mp wellFormed.1
    rw [List.filterMap_cons_some found]
    exact .cons (first.spells (spells_iff.mpr found)) (ih wellFormed.2)

end MemberText

/-! ### Texts of objects -/

/-- The text has the members `ts` between braces, in this order, with commas between. Blanks may
stand anywhere around them, their names and their values. -/
def IsObjectOf (ts : List MemberText) (s : String) : Prop :=
  ∃ us before inside after, List.Forall₂ MemberText.Padded ts us ∧
    Blank before ∧ Blank inside ∧ Blank after ∧
    s.toList = before ++ '{' :: (inside ++ (between us ++ '}' :: after))

theorem IsObjectOf.read?_eq {ts : List MemberText} {s : String} (isObject : IsObjectOf ts s)
    (wellFormed : ∀ t ∈ ts, t.WellFormed) :
    read? s = some (object (ts.filterMap MemberText.member?)) := by
  obtain ⟨us, before, inside, after, padded, blankBefore, blankInside, blankAfter, chars⟩ :=
    isObject
  have spells := MemberText.forall₂_spells padded wellFormed
  have holds :=
    ((reads_object spells blankInside).append_left blankBefore).holds.append_right blankAfter
  rw [read?_eq_some_iff, chars]
  simpa only [List.append_assoc, List.cons_append, List.nil_append] using holds

theorem exists_isObjectOf {s : String} {members : List (Option String × Json)}
    (read : read? s = some (object members)) :
    ∃ ts, IsObjectOf ts s ∧ List.Forall₂ Spells ts members := by
  obtain ⟨after, scanned, blankAfter⟩ := read?_eq_some_iff_scanValue.mp read
  obtain ⟨before, blankBefore, chars⟩ := skipSpace_split s.toList
  have takes := takes_of_scanValue scanned
  generalize skipSpace s.toList = visible at chars takes
  cases takes with
  | @noMembers inner _ closed =>
    obtain ⟨inside, blankInside, inner_eq⟩ := skipSpace_split inner
    rw [closed] at inner_eq
    rw [inner_eq] at chars
    exact ⟨[], ⟨[], before, inside, after, .nil, blankBefore, blankInside, blankAfter, chars⟩, .nil⟩
  | members scannedMembers =>
    obtain ⟨t, ts, rfl, spells⟩ := (splits _).2.2 _ _ _ scannedMembers
    have padded : List.Forall₂ MemberText.Padded (t :: ts) (t :: ts) :=
      List.forall₂_same.mpr fun t _ => .refl t
    exact ⟨t :: ts,
      ⟨t :: ts, before, [], after, padded, blankBefore, blank_nil, blankAfter, chars⟩, spells⟩

/-- The texts of objects are those that are put together from members. -/
theorem isObject_iff {s : String} :
    (∃ members, read? s = some (object members)) ↔
      ∃ ts, IsObjectOf ts s ∧ ∀ t ∈ ts, t.WellFormed := by
  constructor
  · rintro ⟨members, read⟩
    obtain ⟨ts, isObject, spells⟩ := exists_isObjectOf read
    have wellFormed : List.Forall₂ (fun t m => t.WellFormed ∧ Spells t m) ts members :=
      spells.imp fun t m spells =>
        ⟨MemberText.wellFormed_iff.mpr ⟨m, MemberText.spells_iff.mp spells⟩, spells⟩
    exact ⟨ts, isObject, ((List.forall₂_and_left ts members).mp wellFormed).1⟩
  · rintro ⟨ts, isObject, wellFormed⟩
    exact ⟨_, isObject.read?_eq wellFormed⟩

/-! ### Written objects -/

theorem isObjectOf_render (members : List (String × Json)) :
    IsObjectOf (members.map writtenMember) (record members).render := by
  have padded : List.Forall₂ MemberText.Padded (members.map writtenMember)
      (members.map writtenMember) := List.forall₂_same.mpr fun t _ => .refl t
  refine ⟨_, [], [], [], padded, blank_nil, blank_nil, blank_nil, ?_⟩
  rw [render, String.toList_ofList, write_record]
  rfl

theorem named_writtenMember (m : String × Json) : (writtenMember m).Named m.1 :=
  (Proper.str m.1).read?_render

theorem wellFormed_writtenMember {m : String × Json} (proper : m.2.Proper) :
    (writtenMember m).WellFormed :=
  ⟨⟨_, named_writtenMember m⟩, _, proper.read?_render⟩

end Passcode.Json
