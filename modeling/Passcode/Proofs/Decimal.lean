import Passcode.Text.Decimal

/-!
Written numbers. The decimal digits of a number are digits, name the number again and start with a
zero only where they are a single zero.
-/

set_option autoImplicit false

namespace Passcode.Text

private theorem digit_below_ten : ∀ d < 10,
    (Char.ofNat ('0'.toNat + d)).isDigit = true ∧
      digitValue (Char.ofNat ('0'.toNat + d)) = d := by
  decide

theorem isDigit_digitChar (n : Nat) : (digitChar n).isDigit = true :=
  (digit_below_ten (n % 10) (Nat.mod_lt n (by decide))).1

theorem digitValue_digitChar (n : Nat) : digitValue (digitChar n) = n % 10 :=
  (digit_below_ten (n % 10) (Nat.mod_lt n (by decide))).2

theorem valueOf_concat (cs : List Char) (c : Char) :
    valueOf (cs ++ [c]) = 10 * valueOf cs + digitValue c :=
  List.foldl_append

theorem decimalDigits_of_lt {n : Nat} (small : n < 10) : decimalDigits n = [digitChar n] := by
  rw [decimalDigits, if_pos small]

theorem decimalDigits_of_le {n : Nat} (large : 10 ≤ n) :
    decimalDigits n = decimalDigits (n / 10) ++ [digitChar n] := by
  rw [decimalDigits, if_neg (Nat.not_lt.mpr large)]

theorem isDigit_of_mem_decimalDigits {n : Nat} {c : Char} (member : c ∈ decimalDigits n) :
    c.isDigit = true := by
  induction n using Nat.strongRecOn with
  | ind n ih =>
    rcases Nat.lt_or_ge n 10 with small | large
    · rw [decimalDigits_of_lt small] at member
      rw [List.mem_singleton.mp member]
      exact isDigit_digitChar n
    · rw [decimalDigits_of_le large] at member
      rcases List.mem_append.mp member with earlier | last
      · exact ih (n / 10) (by omega) earlier
      · rw [List.mem_singleton.mp last]
        exact isDigit_digitChar n

theorem decimalDigits_ne_nil (n : Nat) : decimalDigits n ≠ [] := by
  rcases Nat.lt_or_ge n 10 with small | large
  · rw [decimalDigits_of_lt small]
    exact List.cons_ne_nil _ _
  · rw [decimalDigits_of_le large]
    exact List.append_ne_nil_of_right_ne_nil _ (List.cons_ne_nil _ _)

@[simp] theorem valueOf_decimalDigits (n : Nat) : valueOf (decimalDigits n) = n := by
  induction n using Nat.strongRecOn with
  | ind n ih =>
    rcases Nat.lt_or_ge n 10 with small | large
    · have last : valueOf [digitChar n] = digitValue (digitChar n) := Nat.zero_add _
      rw [decimalDigits_of_lt small, last, digitValue_digitChar]
      exact Nat.mod_eq_of_lt small
    · rw [decimalDigits_of_le large, valueOf_concat, ih (n / 10) (by omega), digitValue_digitChar]
      omega

theorem head?_decimalDigits {n : Nat} (positive : n ≠ 0) :
    (decimalDigits n).head? ≠ some '0' := by
  induction n using Nat.strongRecOn with
  | ind n ih =>
    rcases Nat.lt_or_ge n 10 with small | large
    · rw [decimalDigits_of_lt small, List.head?_cons]
      intro zero
      have value := digitValue_digitChar n
      rw [Option.some.inj zero, Nat.mod_eq_of_lt small] at value
      exact positive value.symm
    · have first := ih (n / 10) (by omega) (by omega)
      rw [decimalDigits_of_le large, List.head?_append]
      cases head : (decimalDigits (n / 10)).head? with
      | none => exact absurd (List.head?_eq_none_iff.mp head) (decimalDigits_ne_nil (n / 10))
      | some c =>
        rw [head] at first
        exact first

theorem eq_valueOf_of_decimal_eq {n : Nat} {s : String} (same : decimal n = s) :
    n = valueOf s.toList := by
  rw [← same, decimal, String.toList_ofList, valueOf_decimalDigits]

/-! ### Reading numbers -/

theorem natural?_eq_some_iff {cs : List Char} {n : Nat} :
    natural? cs = some n ↔ cs ≠ [] ∧ (∀ c ∈ cs, c.isDigit = true) ∧ valueOf cs = n := by
  rw [natural?]
  split
  · next bad =>
    refine iff_of_false nofun ?_
    rintro ⟨nonempty, digits, -⟩
    simp only [Bool.or_eq_true, List.isEmpty_iff, Bool.not_eq_true'] at bad
    rcases bad with empty | other
    · exact nonempty empty
    · rw [List.all_eq_true.mpr digits] at other
      cases other
  · next good =>
    simp only [Bool.or_eq_true, List.isEmpty_iff, Bool.not_eq_true', not_or, Bool.not_eq_false,
      List.all_eq_true] at good
    rw [Option.some.injEq]
    exact ⟨fun value => ⟨good.1, good.2, value⟩, fun number => number.2.2⟩

/-- The digits of a number after at most one plus sign. -/
def WritesNumber (cs : List Char) (n : Nat) : Prop :=
  ∃ sign digits, cs = sign ++ digits ∧ (sign = [] ∨ sign = ['+']) ∧ digits ≠ [] ∧
    (∀ c ∈ digits, c.isDigit = true) ∧ valueOf digits = n

theorem withoutPlus_split (cs : List Char) :
    ∃ sign, cs = sign ++ withoutPlus cs ∧ (sign = [] ∨ sign = ['+']) := by
  unfold withoutPlus
  split
  · exact ⟨['+'], rfl, .inr rfl⟩
  · exact ⟨[], rfl, .inl rfl⟩

theorem withoutPlus_of_digits {cs : List Char} (digits : ∀ c ∈ cs, c.isDigit = true) :
    withoutPlus cs = cs := by
  unfold withoutPlus
  split
  · have plus := digits '+' List.mem_cons_self
    cases plus
  · rfl

theorem natural?_withoutPlus_iff {cs : List Char} {n : Nat} :
    natural? (withoutPlus cs) = some n ↔ WritesNumber cs n := by
  rw [natural?_eq_some_iff]
  constructor
  · intro number
    obtain ⟨sign, split, plus⟩ := withoutPlus_split cs
    exact ⟨sign, withoutPlus cs, split, plus, number⟩
  · rintro ⟨sign, digits, rfl, rfl | rfl, number⟩
    · rw [List.nil_append, withoutPlus_of_digits number.2.1]
      exact number
    · exact number

theorem unsigned?_eq_some_iff {bound : Nat} {cs : List Char} {n : Nat} :
    unsigned? bound cs = some n ↔ WritesNumber cs n ∧ n < bound := by
  rw [unsigned?, Option.filter_eq_some_iff, natural?_withoutPlus_iff, decide_eq_true_eq]

theorem word32?_eq_some_iff {cs : List Char} {n : UInt32} :
    word32? cs = some n ↔ WritesNumber cs n.toNat := by
  rw [word32?, Option.map_eq_some_iff]
  simp only [unsigned?_eq_some_iff]
  constructor
  · rintro ⟨m, ⟨number, small⟩, rfl⟩
    rwa [UInt32.toNat_ofNat_of_lt' small]
  · intro number
    exact ⟨n.toNat, ⟨number, n.toNat_lt⟩, UInt32.ofNat_toNat⟩

theorem word64?_eq_some_iff {cs : List Char} {n : UInt64} :
    word64? cs = some n ↔ WritesNumber cs n.toNat := by
  rw [word64?, Option.map_eq_some_iff]
  simp only [unsigned?_eq_some_iff]
  constructor
  · rintro ⟨m, ⟨number, small⟩, rfl⟩
    rwa [UInt64.toNat_ofNat_of_lt' small]
  · intro number
    exact ⟨n.toNat, ⟨number, n.toNat_lt⟩, UInt64.ofNat_toNat⟩

theorem WritesNumber.ne_nil {cs : List Char} {n : Nat} (number : WritesNumber cs n) : cs ≠ [] := by
  obtain ⟨sign, digits, rfl, -, nonempty, -⟩ := number
  exact List.append_ne_nil_of_right_ne_nil _ nonempty

theorem writesNumber_decimalDigits (n : Nat) : WritesNumber (decimalDigits n) n :=
  ⟨[], decimalDigits n, rfl, .inl rfl, decimalDigits_ne_nil n,
    fun _ => isDigit_of_mem_decimalDigits, valueOf_decimalDigits n⟩

end Passcode.Text
