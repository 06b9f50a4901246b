import Mathlib.Data.List.TakeWhile
import Passcode.Text.Blank

/-!
Trimming. What is not blank stays when a text is trimmed, so a text shows something exactly if
something is left of it. A text stays as it is exactly if neither of its ends is blank.
-/

set_option autoImplicit false

namespace Passcode.Text

theorem isDigit_iff_toNat {c : Char} : c.isDigit = true ↔ 48 ≤ c.toNat ∧ c.toNat ≤ 57 := by
  rw [Char.isDigit, Bool.and_eq_true, decide_eq_true_eq, decide_eq_true_eq]
  exact Iff.rfl

theorem isBlank_of_isDigit {c : Char} (digit : c.isDigit = true) : isBlank c = false := by
  obtain ⟨low, high⟩ := isDigit_iff_toNat.mp digit
  simp only [isBlank, Bool.or_eq_false_iff, Bool.and_eq_false_iff, decide_eq_false_iff_not,
    beq_eq_false_iff_ne]
  omega

theorem mem_dropWhile_of_not {p : Char → Bool} {c : Char} {cs : List Char} (member : c ∈ cs)
    (kept : p c = false) : c ∈ cs.dropWhile p := by
  have split : cs.takeWhile p ++ cs.dropWhile p = cs := List.takeWhile_append_dropWhile
  rw [← split, List.mem_append] at member
  rcases member with taken | dropped
  · have refused := List.mem_takeWhile_imp taken
    simp [kept] at refused
  · exact dropped

theorem mem_dropEnd_of_not {p : Char → Bool} {c : Char} {cs : List Char} (member : c ∈ cs)
    (kept : p c = false) : c ∈ dropEnd p cs := by
  rw [dropEnd, List.mem_reverse]
  exact mem_dropWhile_of_not (List.mem_reverse.mpr member) kept

theorem mem_trimChars_of_not_blank {c : Char} {cs : List Char} (member : c ∈ cs)
    (shown : isBlank c = false) : c ∈ trimChars cs :=
  mem_dropEnd_of_not (mem_dropWhile_of_not member shown) shown

theorem trimChars_eq_nil_iff {cs : List Char} :
    trimChars cs = [] ↔ ∀ c ∈ cs, isBlank c = true := by
  constructor
  · intro gone c member
    cases shown : isBlank c with
    | true => rfl
    | false =>
      have kept := mem_trimChars_of_not_blank member shown
      simp [gone] at kept
  · intro blank
    have dropped : cs.dropWhile isBlank = [] := List.dropWhile_eq_nil_iff.mpr blank
    simp [trimChars, dropEnd, dropped]

theorem dropEnd_split (p : Char → Bool) (cs : List Char) :
    ∃ right, cs = dropEnd p cs ++ right ∧ ∀ c ∈ right, p c = true := by
  refine ⟨(cs.reverse.takeWhile p).reverse, ?_, ?_⟩
  · rw [dropEnd, ← List.reverse_append, List.takeWhile_append_dropWhile, List.reverse_reverse]
  · intro c member
    exact List.mem_takeWhile_imp (List.mem_reverse.mp member)

theorem trimChars_split (cs : List Char) :
    ∃ left right, cs = left ++ trimChars cs ++ right ∧ ∀ c ∈ left ++ right, isBlank c = true := by
  obtain ⟨right, split, blank⟩ := dropEnd_split isBlank (cs.dropWhile isBlank)
  refine ⟨cs.takeWhile isBlank, right, ?_, ?_⟩
  · rw [List.append_assoc, trimChars, ← split, List.takeWhile_append_dropWhile]
  · rintro c member
    rcases List.mem_append.mp member with first | last
    · exact List.mem_takeWhile_imp first
    · exact blank c last

theorem mem_of_mem_trimChars {c : Char} {cs : List Char} (member : c ∈ trimChars cs) :
    c ∈ cs := by
  obtain ⟨left, right, split, -⟩ := trimChars_split cs
  rw [split]
  exact List.mem_append_left right (List.mem_append_right left member)

theorem trimChars_append {left core right : List Char}
    (outer : ∀ c ∈ left ++ right, isBlank c = true) (nonempty : core ≠ [])
    (inner : ∀ c ∈ core, isBlank c = false) :
    trimChars (left ++ core ++ right) = core := by
  have starts (cs rest : List Char) (nonempty : cs ≠ []) (inner : ∀ c ∈ cs, isBlank c = false) :
      (cs ++ rest).dropWhile isBlank = cs ++ rest := by
    obtain ⟨c, cs, rfl⟩ := List.exists_cons_of_ne_nil nonempty
    exact List.dropWhile_cons_of_neg (Bool.eq_false_iff.mp (inner c List.mem_cons_self))
  have blankLeft : ∀ c ∈ left, isBlank c = true :=
    fun c member => outer c (List.mem_append_left right member)
  have blankRight : ∀ c ∈ right.reverse, isBlank c = true :=
    fun c member => outer c (List.mem_append_right left (List.mem_reverse.mp member))
  have reversed := starts core.reverse [] (List.reverse_ne_nil_iff.mpr nonempty)
    (fun c member => inner c (List.mem_reverse.mp member))
  rw [List.append_nil] at reversed
  rw [trimChars, List.append_assoc, List.dropWhile_append_of_pos blankLeft,
    starts core right nonempty inner, dropEnd, List.reverse_append,
    List.dropWhile_append_of_pos blankRight, reversed, List.reverse_reverse]

/-! ### Clear ends -/

/-- The text does not start with a character that `p` accepts. -/
def StartsClear (p : Char → Bool) (cs : List Char) : Prop :=
  ∀ c ∈ cs.head?, p c = false

def EndsClear (p : Char → Bool) (cs : List Char) : Prop :=
  ∀ c ∈ cs.getLast?, p c = false

theorem startsClear_reverse_iff {p : Char → Bool} {cs : List Char} :
    StartsClear p cs.reverse ↔ EndsClear p cs := by
  rw [StartsClear, EndsClear, List.head?_reverse]

theorem startsClear_dropWhile (p : Char → Bool) (cs : List Char) :
    StartsClear p (cs.dropWhile p) := by
  intro c first
  have stopped := List.head?_dropWhile_not p cs
  rw [Option.mem_def.mp first] at stopped
  exact stopped

theorem dropWhile_eq_self_iff_startsClear {p : Char → Bool} {cs : List Char} :
    cs.dropWhile p = cs ↔ StartsClear p cs := by
  constructor
  · intro same
    rw [← same]
    exact startsClear_dropWhile p cs
  · intro starts
    cases cs with
    | nil => rfl
    | cons c cs => exact List.dropWhile_cons_of_neg (Bool.eq_false_iff.mp (starts c rfl))

theorem endsClear_dropEnd (p : Char → Bool) (cs : List Char) : EndsClear p (dropEnd p cs) := by
  rw [← startsClear_reverse_iff, dropEnd, List.reverse_reverse]
  exact startsClear_dropWhile p cs.reverse

theorem dropEnd_eq_self_iff {p : Char → Bool} {cs : List Char} :
    dropEnd p cs = cs ↔ EndsClear p cs := by
  rw [← startsClear_reverse_iff, ← dropWhile_eq_self_iff_startsClear, dropEnd,
    List.reverse_eq_iff]

theorem StartsClear.dropEnd {p : Char → Bool} {cs : List Char} (starts : StartsClear p cs)
    (q : Char → Bool) : StartsClear p (dropEnd q cs) := by
  obtain ⟨right, split, -⟩ := dropEnd_split q cs
  intro c first
  apply starts c
  rw [split, List.head?_append, Option.mem_def.mp first]
  rfl

theorem startsClear_trimChars (cs : List Char) : StartsClear isBlank (trimChars cs) :=
  (startsClear_dropWhile isBlank cs).dropEnd isBlank

theorem endsClear_trimChars (cs : List Char) : EndsClear isBlank (trimChars cs) :=
  endsClear_dropEnd isBlank (cs.dropWhile isBlank)

theorem trimChars_eq_self_iff {cs : List Char} :
    trimChars cs = cs ↔ StartsClear isBlank cs ∧ EndsClear isBlank cs := by
  constructor
  · intro same
    rw [← same]
    exact ⟨startsClear_trimChars cs, endsClear_trimChars cs⟩
  · rintro ⟨starts, ends⟩
    rw [trimChars, dropWhile_eq_self_iff_startsClear.mpr starts, dropEnd_eq_self_iff.mpr ends]

theorem length_dropEnd_le (p : Char → Bool) (cs : List Char) :
    (dropEnd p cs).length ≤ cs.length := by
  obtain ⟨right, split, -⟩ := dropEnd_split p cs
  have lengths := congrArg List.length split
  rw [List.length_append] at lengths
  omega

/-! ### Texts that show nothing -/

theorem showsNothing_iff {s : String} : showsNothing s = true ↔ trim s = "" := by
  have empty : trim s = "" ↔ trimChars s.toList = [] := by
    rw [trim]
    constructor
    · intro same
      have chars := congrArg String.toList same
      rwa [String.toList_ofList] at chars
    · intro same
      rw [same]
  rw [empty, trimChars_eq_nil_iff, showsNothing, List.all_eq_true]

theorem trim_ne_empty_iff {s : String} : trim s ≠ "" ↔ showsNothing s = false := by
  rw [ne_eq, ← showsNothing_iff, Bool.not_eq_true]

theorem showsNothing_trim {s : String} (shown : showsNothing s = false) :
    showsNothing (trim s) = false := by
  rw [showsNothing, List.all_eq_false] at shown ⊢
  obtain ⟨c, member, visible⟩ := shown
  refine ⟨c, ?_, visible⟩
  rw [trim, String.toList_ofList]
  exact mem_trimChars_of_not_blank member (Bool.eq_false_iff.mpr visible)

theorem orElse_of_shown {s : String} (shown : trim s ≠ "") (fallback : String) :
    orElse s fallback = s := by
  rw [orElse, trim_ne_empty_iff.mp shown]
  rfl

theorem trim_orElse_ne_empty (s : String) {fallback : String} (shown : trim fallback ≠ "") :
    trim (orElse s fallback) ≠ "" := by
  rw [orElse]
  split
  · exact shown
  · next visible => exact trim_ne_empty_iff.mpr (Bool.not_eq_true _ ▸ visible)

end Passcode.Text
