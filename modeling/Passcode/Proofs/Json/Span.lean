import Mathlib.Data.List.Forall2
import Passcode.Proofs.Json.Number
import Passcode.Proofs.Json.Text

/-!
Stretches of JSON text. A stretch that holds a value does so wherever it stands, with blanks around
it; arrays and objects are put together from such stretches.
-/

set_option autoImplicit false

namespace Passcode.Json

/-! ### Blanks -/

def Blank (cs : List Char) : Prop :=
  ∀ c ∈ cs, isSpace c = true

theorem blank_nil : Blank [] := nofun

theorem isSpace_iff {c : Char} :
    isSpace c = true ↔ c = ' ' ∨ c = '\t' ∨ c = '\n' ∨ c = '\x0d' := by
  simp only [isSpace, Bool.or_eq_true, beq_iff_eq, or_assoc]

theorem delimits_of_isSpace {c : Char} (space : isSpace c = true) : Delimits c := by
  rcases isSpace_iff.mp space with rfl | rfl | rfl | rfl
  · decide
  · decide
  · decide
  · decide

theorem isSpace_of_isDigit {c : Char} (digit : c.isDigit = true) : isSpace c = false := by
  by_contra space
  have other := (delimits_of_isSpace (Bool.not_eq_false _ ▸ space)).1
  rw [digit] at other
  cases other

theorem skipSpace_cons {c : Char} {cs : List Char} (visible : isSpace c = false) :
    skipSpace (c :: cs) = c :: cs := by
  rw [skipSpace, List.dropWhile_cons, visible]
  rfl

theorem skipSpace_split (cs : List Char) : ∃ blanks, Blank blanks ∧ cs = blanks ++ skipSpace cs :=
  ⟨cs.takeWhile isSpace, fun _ => List.mem_takeWhile_imp, List.takeWhile_append_dropWhile.symm⟩

namespace Blank

variable {blanks : List Char}

theorem skipSpace_append (blank : Blank blanks) (cs : List Char) :
    skipSpace (blanks ++ cs) = skipSpace cs :=
  List.dropWhile_append_of_pos blank

theorem ends_append (blank : Blank blanks) {rest : List Char} (ends : Ends rest) :
    Ends (blanks ++ rest) :=
  Leads.append (fun c first => delimits_of_isSpace (blank c (List.mem_of_mem_head? first))) ends

theorem scanValue_append (blank : Blank blanks) (fuel : Nat) (cs : List Char) :
    scanValue fuel (blanks ++ cs) = scanValue fuel cs := by
  cases fuel with
  | zero => rw [scanValue, scanValue]
  | succ fuel => rw [scanValue, scanValue, blank.skipSpace_append]

theorem scanItems_append (blank : Blank blanks) (fuel : Nat) (cs : List Char) :
    scanItems fuel (blanks ++ cs) = scanItems fuel cs := by
  cases fuel with
  | zero => rw [scanItems, scanItems]
  | succ fuel => rw [scanItems, scanItems, blank.scanValue_append]

theorem scanMembers_append (blank : Blank blanks) (fuel : Nat) (cs : List Char) :
    scanMembers fuel (blanks ++ cs) = scanMembers fuel cs := by
  cases fuel with
  | zero => rw [scanMembers, scanMembers]
  | succ fuel => rw [scanMembers, scanMembers, blank.skipSpace_append]

end Blank

/-! ### One step of the reader -/

theorem expect?_eq_some_iff {word cs rest : List Char} :
    expect? word cs = some rest ↔ cs = word ++ rest := by
  induction word generalizing cs with
  | nil => rw [expect?, Option.some.injEq, List.nil_append]
  | cons w word ih =>
    cases cs with
    | nil => simp [expect?]
    | cons c cs =>
      rw [expect?, Option.ite_none_right_eq_some, ih, List.cons_append, List.cons.injEq]
      exact and_congr_left' eq_comm

/-- What the reader takes from the front of characters that do not start with a blank, and what it
leaves. The parts of an array or an object are read with what is left of the fuel. -/
inductive Takes (fuel : Nat) : List Char → Json → List Char → Prop
  | null {rest : List Char} : Takes fuel ('n' :: 'u' :: 'l' :: 'l' :: rest) null rest
  | true {rest : List Char} : Takes fuel ('t' :: 'r' :: 'u' :: 'e' :: rest) (bool true) rest
  | false {rest : List Char} :
      Takes fuel ('f' :: 'a' :: 'l' :: 's' :: 'e' :: rest) (bool false) rest
  | text {cs rest : List Char} {s : Option String} (scanned : scanText cs = some (s, rest)) :
      Takes fuel ('"' :: cs) (text s) rest
  | natural {cs rest : List Char} {n : Nat} (scanned : scanUnsigned cs = some (natural n, rest)) :
      Takes fuel cs (natural n) rest
  | other {cs rest : List Char} (scanned : scanUnsigned cs = some (otherNumber, rest)) :
      Takes fuel cs otherNumber rest
  | signed {cs rest : List Char} {j : Json} (scanned : scanUnsigned cs = some (j, rest)) :
      Takes fuel ('-' :: cs) otherNumber rest
  | noItems {cs rest : List Char} (closed : skipSpace cs = ']' :: rest) :
      Takes fuel ('[' :: cs) (array []) rest
  | items {cs rest : List Char} {items : List Json}
      (scanned : scanItems fuel cs = some (items, rest)) :
      Takes fuel ('[' :: cs) (array items) rest
  | noMembers {cs rest : List Char} (closed : skipSpace cs = '}' :: rest) :
      Takes fuel ('{' :: cs) (object []) rest
  | members {cs rest : List Char} {members : List (Option String × Json)}
      (scanned : scanMembers fuel cs = some (members, rest)) :
      Takes fuel ('{' :: cs) (object members) rest

theorem scanValue_of_scanUnsigned {cs starts rest : List Char} {j : Json}
    (same : skipSpace cs = starts) (scanned : scanUnsigned starts = some (j, rest)) (fuel : Nat) :
    scanValue (fuel + 1) cs = some (j, rest) := by
  obtain ⟨c, others, rfl, digit, -⟩ := scanUnsigned_split scanned
  rw [scanValue, same]
  split
  -- Only the last case is that of a number; the others expect a mark that is no digit.
  case h_8 => exact scanned
  all_goals
    next mark =>
      cases mark
      cases digit

theorem takes_of_scanValue {fuel : Nat} {cs rest : List Char} {j : Json}
    (scanned : scanValue (fuel + 1) cs = some (j, rest)) : Takes fuel (skipSpace cs) j rest := by
  rw [scanValue] at scanned
  split at scanned
  · next cs starts =>
    rw [starts]
    obtain ⟨left, word, read⟩ := Option.map_eq_some_iff.mp scanned
    cases read
    rw [expect?_eq_some_iff.mp word]
    exact .null
  · next cs starts =>
    rw [starts]
    obtain ⟨left, word, read⟩ := Option.map_eq_some_iff.mp scanned
    cases read
    rw [expect?_eq_some_iff.mp word]
    exact .true
  · next cs starts =>
    rw [starts]
    obtain ⟨left, word, read⟩ := Option.map_eq_some_iff.mp scanned
    cases read
    rw [expect?_eq_some_iff.mp word]
    exact .false
  · next cs starts =>
    rw [starts]
    obtain ⟨r, taken, read⟩ := Option.map_eq_some_iff.mp scanned
    cases read
    exact .text taken
  · next cs starts =>
    rw [starts]
    obtain ⟨r, taken, read⟩ := Option.map_eq_some_iff.mp scanned
    cases read
    exact .signed taken
  · next cs starts =>
    rw [starts]
    split at scanned
    · next closed =>
      cases scanned
      exact .noItems closed
    · obtain ⟨r, taken, read⟩ := Option.map_eq_some_iff.mp scanned
      cases read
      exact .items taken
  · next cs starts =>
    rw [starts]
    split at scanned
    · next closed =>
      cases scanned
      exact .noMembers closed
    · obtain ⟨r, taken, read⟩ := Option.map_eq_some_iff.mp scanned
      cases read
      exact .members taken
  · -- Whatever else stands in front can only be a number.
    obtain ⟨c, number, -, -, kind, -⟩ := scanUnsigned_split scanned
    rcases kind with rfl | ⟨n, rfl⟩
    · exact .other scanned
    · exact .natural scanned

theorem scanValue_of_closed {cs rest : List Char} (closed : skipSpace cs = ']' :: rest)
    (fuel : Nat) : scanValue fuel cs = none := by
  cases fuel with
  | zero => rw [scanValue]
  | succ fuel =>
    rw [scanValue, closed]
    rfl

theorem scanItems_open {fuel : Nat} {cs : List Char} {r : List Json × List Char}
    (scanned : scanItems fuel cs = some r) (rest : List Char) : skipSpace cs ≠ ']' :: rest := by
  intro closed
  cases fuel with
  | zero =>
    rw [scanItems] at scanned
    cases scanned
  | succ fuel =>
    rw [scanItems, scanValue_of_closed closed] at scanned
    cases scanned

theorem scanMembers_open {fuel : Nat} {cs : List Char} {r : List (Option String × Json) × List Char}
    (scanned : scanMembers fuel cs = some r) (rest : List Char) : skipSpace cs ≠ '}' :: rest := by
  intro closed
  cases fuel with
  | zero =>
    rw [scanMembers] at scanned
    cases scanned
  | succ fuel =>
    rw [scanMembers, closed] at scanned
    cases scanned

theorem scanValue_of_takes {fuel : Nat} {cs rest : List Char} {j : Json}
    (takes : Takes fuel (skipSpace cs) j rest) : scanValue (fuel + 1) cs = some (j, rest) := by
  generalize starts : skipSpace cs = visible at takes
  cases takes with
  | null =>
    rw [scanValue, starts]
    rfl
  | true =>
    rw [scanValue, starts]
    rfl
  | false =>
    rw [scanValue, starts]
    rfl
  | text scanned =>
    rw [scanValue, starts]
    simp only [scanned, Option.map_some]
  | natural scanned => exact scanValue_of_scanUnsigned starts scanned fuel
  | other scanned => exact scanValue_of_scanUnsigned starts scanned fuel
  | signed scanned =>
    rw [scanValue, starts]
    simp only [scanned, Option.map_some]
  | noItems closed =>
    rw [scanValue, starts]
    simp only [closed]
  | items scanned =>
    rw [scanValue, starts]
    simp only [scanned, Option.map_some]
    split
    · next closed => exact absurd closed (scanItems_open scanned _)
    · rfl
  | noMembers closed =>
    rw [scanValue, starts]
    simp only [closed]
  | members scanned =>
    rw [scanValue, starts]
    simp only [scanned, Option.map_some]
    split
    · next closed => exact absurd closed (scanMembers_open scanned _)
    · rfl

/-! ### Stretches that hold a value -/

/-- The stretch is read as `j` wherever it stands, and the reader stops right after it. A unit of
fuel for each of its characters is enough. -/
def Reads (cs : List Char) (j : Json) : Prop :=
  ∀ fuel rest, cs.length ≤ fuel → Ends rest → scanValue fuel (cs ++ rest) = some (j, rest)

/-- The stretch is read as `j` wherever it stands, and the reader leaves at most blanks of it. -/
def Holds (cs : List Char) (j : Json) : Prop :=
  ∀ fuel rest, cs.length ≤ fuel → Ends rest →
    ∃ left, scanValue fuel (cs ++ rest) = some (j, left) ∧ skipSpace left = skipSpace rest

namespace Reads

variable {c : Char} {cs : List Char} {j : Json}

theorem of_takes (visible : isSpace c = false)
    (takes : ∀ fuel rest, cs.length ≤ fuel → Ends rest → Takes fuel (c :: cs ++ rest) j rest) :
    Reads (c :: cs) j := by
  intro fuel rest enough ends
  rw [List.length_cons] at enough
  obtain ⟨fuel, rfl⟩ := Nat.exists_eq_add_one_of_ne_zero (Nat.ne_zero_of_lt enough)
  refine scanValue_of_takes ?_
  rw [List.cons_append, skipSpace_cons visible]
  exact takes fuel rest (Nat.le_of_succ_le_succ enough) ends

theorem holds (reads : Reads cs j) : Holds cs j :=
  fun fuel rest enough ends => ⟨rest, reads fuel rest enough ends, rfl⟩

theorem append_left (reads : Reads cs j) {blanks : List Char} (blank : Blank blanks) :
    Reads (blanks ++ cs) j := by
  intro fuel rest enough ends
  rw [List.length_append] at enough
  rw [List.append_assoc, blank.scanValue_append]
  exact reads fuel rest (by omega) ends

end Reads

namespace Holds

variable {cs blanks : List Char} {j : Json}

theorem append_left (holds : Holds cs j) (blank : Blank blanks) : Holds (blanks ++ cs) j := by
  intro fuel rest enough ends
  rw [List.length_append] at enough
  rw [List.append_assoc, blank.scanValue_append]
  exact holds fuel rest (by omega) ends

theorem append_right (holds : Holds cs j) (blank : Blank blanks) : Holds (cs ++ blanks) j := by
  intro fuel rest enough ends
  rw [List.length_append] at enough
  rw [List.append_assoc, ← blank.skipSpace_append rest]
  exact holds fuel (blanks ++ rest) (by omega) (blank.ends_append ends)

end Holds

/-! ### Arrays -/

theorem scanItems_intercalate {t : List Char} {ts : List (List Char)} {items : List Json}
    (holds : List.Forall₂ Holds (t :: ts) items) {fuel : Nat}
    (enough : ([','].intercalate (t :: ts)).length < fuel) (rest : List Char) :
    scanItems fuel ([','].intercalate (t :: ts) ++ ']' :: rest) = some (items, rest) := by
  obtain ⟨fuel, rfl⟩ := Nat.exists_eq_add_one_of_ne_zero (Nat.ne_zero_of_lt enough)
  induction ts generalizing t items fuel with
  | nil =>
    obtain ⟨item, _, first, last, rfl⟩ := List.forall₂_cons_left_iff.mp holds
    cases last
    rw [List.intercalate_singleton] at enough ⊢
    obtain ⟨left, scanned, ended⟩ := first fuel (']' :: rest) (by omega) (ends_cons (by decide))
    rw [scanItems, scanned]
    simp only [Option.bind_eq_bind, Option.bind_some, ended, skipSpace_cons (c := ']') rfl,
      Option.pure_def]
  | cons next ts ih =>
    obtain ⟨item, items, first, others, rfl⟩ := List.forall₂_cons_left_iff.mp holds
    rw [List.intercalate_cons_cons, List.length_append, List.length_append,
      List.length_singleton] at enough
    -- The comma pays for the unit of fuel that this step uses up.
    obtain ⟨fuel, rfl⟩ := Nat.exists_eq_add_one_of_ne_zero (n := fuel) (by omega)
    have scannedOthers := ih others fuel (by omega)
    obtain ⟨left, scanned, ended⟩ := first (fuel + 1)
      (',' :: ([','].intercalate (next :: ts) ++ ']' :: rest)) (by omega) (ends_cons (by decide))
    rw [List.intercalate_cons_cons, List.append_assoc, List.append_assoc, List.singleton_append,
      scanItems, scanned]
    simp only [Option.bind_eq_bind, Option.bind_some, ended, skipSpace_cons (c := ',') rfl,
      scannedOthers, Option.pure_def]

theorem reads_array {ts : List (List Char)} {items : List Json}
    (holds : List.Forall₂ Holds ts items) {blanks : List Char} (blank : Blank blanks) :
    Reads ('[' :: (blanks ++ ([','].intercalate ts ++ [']']))) (array items) := by
  refine Reads.of_takes rfl fun fuel rest enough _ => ?_
  rw [List.length_append, List.length_append, List.length_singleton] at enough
  rw [List.cons_append, List.append_assoc, List.append_assoc]
  cases ts with
  | nil =>
    cases holds
    exact .noItems ((blank.skipSpace_append _).trans (skipSpace_cons rfl))
  | cons t ts =>
    refine .items ?_
    rw [blank.scanItems_append]
    exact scanItems_intercalate holds (by omega) rest

/-! ### Objects -/

/-- A member of an object as it stands in a text: its name and its value, each with the blanks
around it. -/
structure MemberText where
  name : String
  value : String
  deriving DecidableEq

namespace MemberText

def chars (t : MemberText) : List Char :=
  t.name.toList ++ ':' :: t.value.toList

def Spells (t : MemberText) (m : Option String × Json) : Prop :=
  Holds t.name.toList (text m.1) ∧ Holds t.value.toList m.2

def between (ts : List MemberText) : List Char :=
  [','].intercalate (ts.map chars)

theorem between_singleton (t : MemberText) : between [t] = t.chars := by
  rw [between, List.map_singleton, List.intercalate_singleton]

theorem between_cons_cons (t next : MemberText) (ts : List MemberText) :
    between (t :: next :: ts) = t.chars ++ ',' :: between (next :: ts) := by
  rw [between, List.map_cons, List.map_cons, List.intercalate_cons_cons, List.append_assoc]
  rfl

end MemberText

theorem scanValue_eq_text {fuel : Nat} {cs rest : List Char} {s : Option String}
    (scanned : scanValue fuel cs = some (text s, rest)) :
    ∃ inner, skipSpace cs = '"' :: inner ∧ scanText inner = some (s, rest) := by
  cases fuel with
  | zero =>
    rw [scanValue] at scanned
    cases scanned
  | succ fuel =>
    have takes := takes_of_scanValue scanned
    generalize skipSpace cs = visible at takes ⊢
    cases takes with
    | text scanned => exact ⟨_, rfl, scanned⟩

theorem MemberText.Spells.scan {t : MemberText} {m : Option String × Json} (spells : t.Spells m)
    (fuel : Nat) (enough : t.chars.length ≤ fuel) (rest : List Char) (ends : Ends rest) :
    ∃ inner value left, skipSpace (t.chars ++ rest) = '"' :: inner ∧
      (∃ colon, scanText inner = some (m.1, colon) ∧ skipSpace colon = ':' :: value) ∧
      scanValue fuel value = some (m.2, left) ∧ skipSpace left = skipSpace rest := by
  obtain ⟨name, value⟩ := spells
  rw [chars, List.length_append, List.length_cons] at enough
  obtain ⟨colon, scannedName, endedName⟩ :=
    name fuel (':' :: (t.value.toList ++ rest)) (by omega) (ends_cons (by decide))
  obtain ⟨left, scannedValue, endedValue⟩ := value fuel rest (by omega) ends
  obtain ⟨inner, starts, scannedText⟩ := scanValue_eq_text scannedName
  refine ⟨inner, t.value.toList ++ rest, left, ?_, ⟨colon, scannedText, endedName⟩, scannedValue,
    endedValue⟩
  rw [chars, List.append_assoc, List.cons_append]
  exact starts

open MemberText (between)

theorem scanMembers_between {t : MemberText} {ts : List MemberText}
    {members : List (Option String × Json)}
    (spells : List.Forall₂ MemberText.Spells (t :: ts) members) {fuel : Nat}
    (enough : (between (t :: ts)).length < fuel) (rest : List Char) :
    scanMembers fuel (between (t :: ts) ++ '}' :: rest) = some (members, rest) := by
  obtain ⟨fuel, rfl⟩ := Nat.exists_eq_add_one_of_ne_zero (Nat.ne_zero_of_lt enough)
  induction ts generalizing t members fuel with
  | nil =>
    obtain ⟨m, _, first, last, rfl⟩ := List.forall₂_cons_left_iff.mp spells
    cases last
    rw [MemberText.between_singleton] at enough ⊢
    obtain ⟨inner, value, left, starts, ⟨colon, name, endedName⟩, scanned, ended⟩ :=
      first.scan fuel (Nat.le_of_lt_succ enough) ('}' :: rest) (ends_cons (by decide))
    rw [scanMembers, starts]
    simp only [name, Option.bind_eq_bind, Option.bind_some, endedName, scanned, ended,
      skipSpace_cons (c := '}') rfl, Option.pure_def]
  | cons next ts ih =>
    obtain ⟨m, members, first, others, rfl⟩ := List.forall₂_cons_left_iff.mp spells
    rw [MemberText.between_cons_cons, List.length_append, List.length_cons] at enough
    obtain ⟨fuel, rfl⟩ := Nat.exists_eq_add_one_of_ne_zero (n := fuel) (by omega)
    have scannedOthers := ih others fuel (by omega)
    obtain ⟨inner, value, left, starts, ⟨colon, name, endedName⟩, scanned, ended⟩ :=
      first.scan (fuel + 1) (by omega) (',' :: (between (next :: ts) ++ '}' :: rest))
        (ends_cons (by decide))
    rw [MemberText.between_cons_cons, List.append_assoc, List.cons_append, scanMembers, starts]
    simp only [name, Option.bind_eq_bind, Option.bind_some, endedName, scanned, ended,
      skipSpace_cons (c := ',') rfl, scannedOthers, Option.pure_def]

theorem reads_object {ts : List MemberText} {members : List (Option String × Json)}
    (spells : List.Forall₂ MemberText.Spells ts members) {blanks : List Char}
    (blank : Blank blanks) :
    Reads ('{' :: (blanks ++ (between ts ++ ['}']))) (object members) := by
  refine Reads.of_takes rfl fun fuel rest enough _ => ?_
  rw [List.length_append, List.length_append, List.length_singleton] at enough
  rw [List.cons_append, List.append_assoc, List.append_assoc]
  cases ts with
  | nil =>
    cases spells
    exact .noMembers ((blank.skipSpace_append _).trans (skipSpace_cons rfl))
  | cons t ts =>
    refine .members ?_
    rw [blank.scanMembers_append]
    exact scanMembers_between spells (by omega) rest

end Passcode.Json
