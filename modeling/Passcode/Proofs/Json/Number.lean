import Mathlib.Data.List.TakeWhile
import Passcode.Json.Reader
import Passcode.Proofs.Decimal

/-!
Numbers in JSON. A number goes as far as its characters do: what is read as one is read the same
wherever it stands, up to a character that cannot be part of it.
-/

set_option autoImplicit false

namespace Passcode.Json

/-! ### What may follow -/

def Leads (p : Char → Prop) (cs : List Char) : Prop :=
  ∀ c ∈ cs.head?, p c

namespace Leads

variable {p q : Char → Prop} {cs rest : List Char}

theorem nil : Leads p [] := nofun

theorem cons {c : Char} (holds : p c) : Leads p (c :: cs) := by
  intro d first
  rw [List.head?_cons] at first
  rwa [← Option.some.inj first]

theorem imp (leads : Leads p cs) (implies : ∀ c, p c → q c) : Leads q cs :=
  fun c first => implies c (leads c first)

theorem append (leads : Leads p cs) (following : Leads p rest) : Leads p (cs ++ rest) := by
  cases cs with
  | nil => exact following
  | cons c cs => exact cons (leads c rfl)

end Leads

def Delimits (c : Char) : Prop :=
  c.isDigit = false ∧ c ≠ '.' ∧ c ≠ 'e' ∧ c ≠ 'E'

instance (c : Char) : Decidable (Delimits c) :=
  inferInstanceAs (Decidable (_ ∧ _ ∧ _ ∧ _))

/-- What may follow a number without becoming part of it. -/
def Ends (rest : List Char) : Prop :=
  Leads Delimits rest

theorem ends_nil : Ends [] := Leads.nil

theorem ends_cons {c : Char} {rest : List Char} (delimits : Delimits c) : Ends (c :: rest) :=
  Leads.cons delimits

/-! ### Digits -/

theorem someDigits?_eq_some_iff {cs digits rest : List Char} :
    someDigits? cs = some (digits, rest) ↔
      cs = digits ++ rest ∧ digits ≠ [] ∧ (∀ c ∈ digits, c.isDigit = true) ∧
        Leads (·.isDigit = false) rest := by
  rw [someDigits?]
  constructor
  · intro taken
    split at taken
    · cases taken
    · next present =>
      cases taken
      refine ⟨List.takeWhile_append_dropWhile.symm, fun empty => present (List.isEmpty_iff.mpr empty),
        fun c => List.mem_takeWhile_imp, fun c first => ?_⟩
      have stops := List.head?_dropWhile_not Char.isDigit cs
      rw [first] at stops
      exact stops
  · rintro ⟨rfl, present, all, stops⟩
    have stopped : rest.takeWhile Char.isDigit = [] ∧ rest.dropWhile Char.isDigit = rest := by
      cases rest with
      | nil => exact ⟨rfl, rfl⟩
      | cons c rest =>
        have other : c.isDigit = false := stops c rfl
        simp only [List.takeWhile_cons, List.dropWhile_cons, other, Bool.false_eq_true, ↓reduceIte,
          and_self]
    rw [List.takeWhile_append_of_pos all, List.dropWhile_append_of_pos all, stopped.1, stopped.2,
      List.append_nil]
    exact if_neg (fun empty => present (List.isEmpty_iff.mp empty))

theorem someDigits?_of_taken {cs digits rest rest' : List Char}
    (taken : someDigits? cs = some (digits, rest)) (stops : Leads (·.isDigit = false) rest') :
    someDigits? (digits ++ rest') = some (digits, rest') := by
  obtain ⟨-, present, all, -⟩ := someDigits?_eq_some_iff.mp taken
  exact someDigits?_eq_some_iff.mpr ⟨rfl, present, all, stops⟩

theorem wholePart?_eq_some_iff {cs digits rest : List Char} :
    wholePart? cs = some (digits, rest) ↔
      someDigits? cs = some (digits, rest) ∧ ¬(digits.head? = some '0' ∧ digits.length ≠ 1) := by
  simp only [wholePart?, Option.bind_eq_bind, Option.bind_eq_some_iff, Prod.exists,
    Option.ite_none_left_eq_some, Option.some.injEq, Prod.mk.injEq]
  constructor
  · rintro ⟨digits, rest, taken, noLeadingZero, rfl, rfl⟩
    exact ⟨taken, noLeadingZero⟩
  · rintro ⟨taken, noLeadingZero⟩
    exact ⟨digits, rest, taken, noLeadingZero, rfl, rfl⟩

/-! ### Fractions and exponents -/

def EndsDigits (c : Char) : Prop :=
  c.isDigit = false ∧ c ≠ '.'

theorem Ends.endsDigits {rest : List Char} (ends : Ends rest) : Leads EndsDigits rest :=
  ends.imp fun _ delimits => ⟨delimits.1, delimits.2.1⟩

theorem skipFraction_of_endsDigits {rest : List Char} (ends : Leads EndsDigits rest) :
    skipFraction rest = some (false, rest) := by
  unfold skipFraction
  split
  · next cs => exact absurd rfl (ends '.' rfl).2
  · rfl

theorem skipFraction_split {cs rest : List Char} {found : Bool}
    (skipped : skipFraction cs = some (found, rest)) :
    ∃ fraction, cs = fraction ++ rest ∧ Leads (· = '.') fraction ∧
      ∀ rest', Leads EndsDigits rest' →
        skipFraction (fraction ++ rest') = some (found, rest') := by
  unfold skipFraction at skipped
  split at skipped
  · next cs =>
    obtain ⟨⟨digits, left⟩, taken, read⟩ := Option.map_eq_some_iff.mp skipped
    cases read
    obtain ⟨rfl, -⟩ := someDigits?_eq_some_iff.mp taken
    refine ⟨'.' :: digits, rfl, Leads.cons rfl, fun rest' ends => ?_⟩
    rw [List.cons_append, skipFraction, someDigits?_of_taken taken (ends.imp fun _ => And.left)]
    rfl
  · cases skipped
    exact ⟨[], rfl, Leads.nil, fun rest' => skipFraction_of_endsDigits⟩

theorem skipSign_split (cs : List Char) :
    ∃ sign, cs = sign ++ skipSign cs ∧
      ∀ c rest, c.isDigit = true → skipSign (sign ++ c :: rest) = c :: rest := by
  unfold skipSign
  split
  · exact ⟨['+'], rfl, fun _ _ _ => rfl⟩
  · exact ⟨['-'], rfl, fun _ _ _ => rfl⟩
  · refine ⟨[], rfl, fun c rest digit => ?_⟩
    simp only [List.nil_append]
    split
    · next plus =>
      cases plus
      cases digit
    · next minus =>
      cases minus
      cases digit
    · rfl

theorem skipExponent_of_ends {rest : List Char} (ends : Ends rest) :
    skipExponent rest = some (false, rest) := by
  cases rest with
  | nil => rfl
  | cons c rest =>
    obtain ⟨-, -, lower, upper⟩ := ends c rfl
    exact if_neg (not_or.mpr ⟨lower, upper⟩)

theorem skipExponent_split {cs rest : List Char} {found : Bool}
    (skipped : skipExponent cs = some (found, rest)) :
    ∃ exponent, cs = exponent ++ rest ∧ Leads (fun c => c = 'e' ∨ c = 'E') exponent ∧
      ∀ rest', Ends rest' → skipExponent (exponent ++ rest') = some (found, rest') := by
  unfold skipExponent at skipped
  split at skipped
  · next mark cs =>
    split at skipped
    · next letter =>
      obtain ⟨⟨digits, left⟩, taken, read⟩ := Option.map_eq_some_iff.mp skipped
      cases read
      obtain ⟨sign, signed, passes⟩ := skipSign_split cs
      obtain ⟨split, present, all, -⟩ := someDigits?_eq_some_iff.mp taken
      refine ⟨mark :: (sign ++ digits), ?_, Leads.cons letter, fun rest' ends => ?_⟩
      · rw [List.cons_append, List.append_assoc, ← split, ← signed]
      · obtain ⟨c, others, rfl⟩ := List.exists_cons_of_ne_nil present
        have unsigned := passes c (others ++ rest') (all c List.mem_cons_self)
        rw [List.cons_append, List.append_assoc, List.cons_append, skipExponent, if_pos letter,
          unsigned, ← List.cons_append, someDigits?_of_taken taken (ends.imp fun _ => And.left)]
        rfl
    · cases skipped
      exact ⟨[], rfl, Leads.nil, fun rest' => skipExponent_of_ends⟩
  · cases skipped
    exact ⟨[], rfl, Leads.nil, fun rest' => skipExponent_of_ends⟩

/-! ### Numbers -/

theorem scanUnsigned_split {cs rest : List Char} {j : Json}
    (scanned : scanUnsigned cs = some (j, rest)) :
    ∃ c number, cs = c :: number ++ rest ∧ c.isDigit = true ∧
      (j = otherNumber ∨ ∃ n, j = natural n) ∧
      ∀ rest', Ends rest' → scanUnsigned (c :: number ++ rest') = some (j, rest') := by
  simp only [scanUnsigned, Option.bind_eq_bind, Option.bind_eq_some_iff, Prod.exists,
    Option.pure_def, Option.some.injEq, Prod.mk.injEq] at scanned
  obtain ⟨digits, afterDigits, whole, hasFraction, afterFraction, skippedFraction, hasExponent,
    left, skippedExponent, number, rfl⟩ := scanned
  obtain ⟨taken, noLeadingZero⟩ := wholePart?_eq_some_iff.mp whole
  obtain ⟨rfl, present, all, -⟩ := someDigits?_eq_some_iff.mp taken
  obtain ⟨fraction, rfl, point, passesFraction⟩ := skipFraction_split skippedFraction
  obtain ⟨exponent, rfl, letter, passesExponent⟩ := skipExponent_split skippedExponent
  obtain ⟨c, others, rfl⟩ := List.exists_cons_of_ne_nil present
  refine ⟨c, others ++ (fraction ++ exponent), by simp, all c List.mem_cons_self, ?_, ?_⟩
  · subst number
    split
    · exact .inl rfl
    · exact .inr ⟨_, rfl⟩
  · -- Each part stops at the first character of the next one, whatever that is.
    intro rest' ends
    have afterwards : Leads EndsDigits (exponent ++ rest') := by
      refine Leads.append (letter.imp ?_) ends.endsDigits
      rintro c (rfl | rfl)
      · exact ⟨rfl, by decide⟩
      · exact ⟨rfl, by decide⟩
    have stops : Leads (·.isDigit = false) (fraction ++ (exponent ++ rest')) := by
      refine Leads.append (point.imp ?_) (afterwards.imp fun _ => And.left)
      rintro c rfl
      decide
    have wholeAgain := wholePart?_eq_some_iff.mpr ⟨someDigits?_of_taken taken stops, noLeadingZero⟩
    rw [← List.cons_append, List.append_assoc, List.append_assoc, scanUnsigned, wholeAgain]
    simp only [Option.bind_eq_bind, Option.bind_some, passesFraction _ afterwards,
      passesExponent _ ends, number, Option.pure_def]

theorem wholePart?_decimalDigits (n : Nat) {rest : List Char} (ends : Ends rest) :
    wholePart? (Text.decimalDigits n ++ rest) = some (Text.decimalDigits n, rest) := by
  have taken : someDigits? (Text.decimalDigits n ++ rest) = some (Text.decimalDigits n, rest) :=
    someDigits?_eq_some_iff.mpr ⟨rfl, Text.decimalDigits_ne_nil n,
      fun c => Text.isDigit_of_mem_decimalDigits, ends.imp fun _ => And.left⟩
  refine wholePart?_eq_some_iff.mpr ⟨taken, ?_⟩
  rintro ⟨zero, long⟩
  by_cases positive : n = 0
  · rw [positive, Text.decimalDigits_of_lt (by decide)] at long
    exact long rfl
  · exact Text.head?_decimalDigits positive zero

theorem scanUnsigned_decimalDigits (n : Nat) {rest : List Char} (ends : Ends rest) :
    scanUnsigned (Text.decimalDigits n ++ rest) = some (natural n, rest) := by
  rw [scanUnsigned, wholePart?_decimalDigits n ends]
  simp only [Option.bind_eq_bind, Option.bind_some, skipFraction_of_endsDigits ends.endsDigits,
    skipExponent_of_ends ends, Bool.or_self, Bool.false_eq_true, ↓reduceIte,
    Text.valueOf_decimalDigits, Option.pure_def]

end Passcode.Json
