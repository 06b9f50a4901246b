import Mathlib.Data.List.Basic
import Passcode.Proofs.Blank
import Passcode.Text.Casing

/-!
Lower case keeps what a text shows: no character that is not blank has a blank, or nothing, for its
lower case. Nor does it bring in separators, and what is in lower case is its own lower case.
-/

set_option autoImplicit false

namespace Passcode.Text

/-! ### Blank characters by number -/

def blankRanges : List (Nat × Nat) := [
  (9, 13), (0x20, 0x20), (0x85, 0x85), (0xA0, 0xA0), (0x1680, 0x1680), (0x2000, 0x200A),
  (0x2028, 0x2029), (0x202F, 0x202F), (0x205F, 0x205F), (0x3000, 0x3000)]

def sparesBlanks (first last : Nat) : Bool :=
  blankRanges.all fun r => last < r.1 || r.2 < first

theorem toNat_ofNat_eq_or (n : Nat) : (Char.ofNat n).toNat = n ∨ (Char.ofNat n).toNat = 0 := by
  by_cases valid : n.isValidChar
  · left
    rw [Char.ofNat, dif_pos valid]
    rfl
  · right
    rw [Char.ofNat, dif_neg valid]
    rfl

theorem exists_mem_blankRanges {c : Char} (blank : isBlank c = true) :
    ∃ r ∈ blankRanges, r.1 ≤ c.toNat ∧ c.toNat ≤ r.2 := by
  simp only [isBlank, Bool.or_eq_true, Bool.and_eq_true, decide_eq_true_eq, beq_iff_eq] at blank
  simp only [blankRanges, List.mem_cons, List.not_mem_nil, or_false, exists_eq_or_imp,
    exists_eq_left, Nat.le_antisymm_iff] at blank ⊢
  grind

theorem isBlank_ofNat_eq_false {first last n : Nat} (spares : sparesBlanks first last = true)
    (above : first ≤ n) (below : n ≤ last) : isBlank (Char.ofNat n) = false := by
  rw [Bool.eq_false_iff]
  intro blank
  obtain ⟨r, member, low, high⟩ := exists_mem_blankRanges blank
  have positive : ∀ r ∈ blankRanges, 0 < r.1 := by decide
  have spared := List.all_eq_true.mp spares r member
  simp only [Bool.or_eq_true, decide_eq_true_eq] at spared
  have reached := positive r member
  rcases toNat_ofNat_eq_or n with same | zero
  · omega
  · omega

/-! ### Single characters -/

theorem sparesBlanks_lowerRuns :
    ∀ r ∈ lowerRuns, sparesBlanks r.image (r.image + (r.last - r.first)) = true := by
  rw [← List.all_eq_true]
  decide +kernel

theorem sparesBlanks_lowerExpansions :
    ∀ entry ∈ lowerExpansions, entry.2 ≠ [] ∧ ∀ n ∈ entry.2, sparesBlanks n n = true := by
  decide

/-- Where the lower case of a character comes from: there is none but itself, an expansion gives it,
or a run does. -/
theorem mem_lowerChar {c d : Char} (member : d ∈ lowerChar c) :
    (lowerChar c = [c] ∧ d = c) ∨
    (∃ entry ∈ lowerExpansions, ∃ n ∈ entry.2, d = Char.ofNat n) ∨
    (∃ r ∈ lowerRuns, r.covers c.toNat = true ∧
      d = Char.ofNat (r.image + (c.toNat - r.first))) := by
  rw [lowerChar, caseImage] at member ⊢
  split at member
  · next number image found =>
    obtain ⟨n, place, rfl⟩ := List.mem_map.mp member
    exact .inr (.inl ⟨_, List.mem_of_find?_eq_some found, n, place, rfl⟩)
  · split at member
    · next r found =>
      have covered := List.find?_some found
      have image := List.mem_singleton.mp member
      exact .inr (.inr ⟨r, List.mem_of_find?_eq_some found, covered, image⟩)
    · exact .inl ⟨rfl, List.mem_singleton.mp member⟩

theorem lowerChar_ne_nil (c : Char) : lowerChar c ≠ [] := by
  rw [lowerChar, caseImage]
  split
  · next number image found =>
    have nonempty := (sparesBlanks_lowerExpansions _ (List.mem_of_find?_eq_some found)).1
    simpa using nonempty
  · split
    · exact List.cons_ne_nil _ _
    · exact List.cons_ne_nil _ _

theorem lowerChar_shown {c : Char} (shown : isBlank c = false) :
    lowerChar c ≠ [] ∧ ∀ d ∈ lowerChar c, isBlank d = false := by
  refine ⟨lowerChar_ne_nil c, ?_⟩
  intro d member
  rcases mem_lowerChar member with ⟨-, rfl⟩ | ⟨entry, listed, n, place, rfl⟩ |
    ⟨r, listed, covered, rfl⟩
  · exact shown
  · have spares := (sparesBlanks_lowerExpansions entry listed).2 n place
    exact isBlank_ofNat_eq_false spares (Nat.le_refl n) (Nat.le_refl n)
  · simp only [CaseRun.covers, Bool.and_eq_true, decide_eq_true_eq] at covered
    exact isBlank_ofNat_eq_false (sparesBlanks_lowerRuns r listed) (by omega) (by omega)

/-! ### Separators -/

theorem comma_lt_of_mem_lowerRuns : ∀ r ∈ lowerRuns, ','.toNat < r.image := by
  decide +kernel

theorem eq_comma_of_mem_lowerChar {c : Char} (member : ',' ∈ lowerChar c) : c = ',' := by
  have other (n : Nat) (above : ','.toNat < n) : ',' ≠ Char.ofNat n := by
    intro same
    have number := congrArg Char.toNat same
    have positive : 0 < ','.toNat := by decide
    rcases toNat_ofNat_eq_or n with equal | zero
    · omega
    · omega
  rcases mem_lowerChar member with ⟨-, same⟩ | ⟨entry, listed, n, place, same⟩ |
    ⟨r, listed, covered, same⟩
  · exact same.symm
  · have above : ∀ entry ∈ lowerExpansions, ∀ n ∈ entry.2, ','.toNat < n := by decide
    exact absurd same (other n (above entry listed n place))
  · have above := comma_lt_of_mem_lowerRuns r listed
    exact absurd same (other _ (by omega))

/-! ### What is in lower case -/

/-- Neither an expansion nor a run has the number. -/
def IsOwnLower (n : Nat) : Prop :=
  (∀ entry ∈ lowerExpansions, entry.1 ≠ n) ∧ ∀ r ∈ lowerRuns, r.covers n = false

instance (n : Nat) : Decidable (IsOwnLower n) :=
  inferInstanceAs (Decidable (_ ∧ _))

theorem lowerChar_of_isOwnLower {c : Char} (own : IsOwnLower c.toNat) : lowerChar c = [c] := by
  have unlisted : lowerExpansions.find? (·.1 == c.toNat) = none := by
    rw [List.find?_eq_none]
    intro entry listed
    simpa using own.1 entry listed
  have uncovered : lowerRuns.find? (·.covers c.toNat) = none := by
    rw [List.find?_eq_none]
    intro r listed
    simpa using own.2 r listed
  rw [lowerChar, caseImage, unlisted, uncovered]

/-- No image of `r` is covered by `q`: all are before it, behind it, or between its steps. -/
def CaseRun.misses (r q : CaseRun) : Bool :=
  Nat.blt (r.image + (r.last - r.first)) q.first || Nat.blt q.last r.image ||
    ((r.first == r.last || r.step % 2 == 0) && q.step % 2 == 0 && (r.image + q.first) % 2 == 1)

theorem CaseRun.covers_image_of_misses {r q : CaseRun} {n : Nat} (misses : r.misses q = true)
    (covered : r.covers n = true) : q.covers (r.image + (n - r.first)) = false := by
  rw [Bool.eq_false_iff]
  intro image
  simp only [CaseRun.covers, Bool.and_eq_true, decide_eq_true_eq, beq_iff_eq] at covered image
  simp only [CaseRun.misses, Bool.or_eq_true, Bool.and_eq_true, Nat.blt_eq,
    beq_iff_eq] at misses
  obtain ⟨⟨above, below⟩, onStep⟩ := covered
  obtain ⟨⟨imageAbove, imageBelow⟩, imageOnStep⟩ := image
  rcases misses with (before | behind) | ⟨⟨even, evenStep⟩, odd⟩
  · omega
  · omega
  · -- Both distances are even, so the image and the start of `q` are of the same parity.
    have distance : 2 ∣ n - r.first := by
      rcases even with single | evenStep
      · omega
      · exact Nat.dvd_trans (Nat.dvd_of_mod_eq_zero evenStep) (Nat.dvd_of_mod_eq_zero onStep)
    have imageDistance : 2 ∣ r.image + (n - r.first) - q.first :=
      Nat.dvd_trans (Nat.dvd_of_mod_eq_zero evenStep) (Nat.dvd_of_mod_eq_zero imageOnStep)
    omega

theorem misses_of_mem_lowerRuns : ∀ r ∈ lowerRuns, ∀ q ∈ lowerRuns, r.misses q = true := by
  simp only [← List.all_eq_true]
  decide +kernel

theorem lowerExpansions_outside : ∀ entry ∈ lowerExpansions, ∀ r ∈ lowerRuns,
    entry.1 < r.image ∨ r.image + (r.last - r.first) < entry.1 := by
  decide +kernel

theorem isOwnLower_image {r : CaseRun} {n : Nat} (listed : r ∈ lowerRuns)
    (covered : r.covers n = true) : IsOwnLower (r.image + (n - r.first)) := by
  constructor
  · intro entry place same
    have outside := lowerExpansions_outside entry place r listed
    simp only [CaseRun.covers, Bool.and_eq_true, decide_eq_true_eq] at covered
    omega
  · intro q other
    exact CaseRun.covers_image_of_misses (misses_of_mem_lowerRuns r listed q other) covered

theorem lowerChar_ofNat {n : Nat} (own : IsOwnLower n) :
    lowerChar (Char.ofNat n) = [Char.ofNat n] := by
  apply lowerChar_of_isOwnLower
  rcases toNat_ofNat_eq_or n with same | zero
  · rw [same]
    exact own
  · have nullOwn : IsOwnLower 0 := by decide +kernel
    rw [zero]
    exact nullOwn

theorem lowerChar_of_mem_lowerChar {c d : Char} (member : d ∈ lowerChar c) :
    lowerChar d = [d] := by
  rcases mem_lowerChar member with ⟨own, rfl⟩ | ⟨entry, listed, n, place, rfl⟩ |
    ⟨r, listed, covered, rfl⟩
  · exact own
  · have own : ∀ entry ∈ lowerExpansions, ∀ n ∈ entry.2, IsOwnLower n := by decide +kernel
    exact lowerChar_ofNat (own entry listed n place)
  · exact lowerChar_ofNat (isOwnLower_image listed covered)

/-! ### Whole texts -/

/-- The lower case of `c` at some place of a text: only that of a sigma depends on the place. -/
def IsLowerOf (c : Char) (image : List Char) : Prop :=
  image = lowerChar c ∨ c = 'Σ' ∧ image = ['ς']

theorem lowerChar_sigma : lowerChar 'Σ' = ['σ'] := by
  decide +kernel

theorem lowerFrom_cons (before : List Char) (c : Char) (rest : List Char) :
    ∃ image, IsLowerOf c image ∧
      lowerFrom before (c :: rest) = image ++ lowerFrom (c :: before) rest := by
  rw [lowerFrom]
  split
  · next sigma =>
    subst sigma
    split
    · exact ⟨['ς'], .inr ⟨rfl, rfl⟩, rfl⟩
    · exact ⟨['σ'], .inl lowerChar_sigma.symm, rfl⟩
  · exact ⟨lowerChar c, .inl rfl, rfl⟩

theorem IsLowerOf.shown {c : Char} {image : List Char} (lower : IsLowerOf c image)
    (shown : isBlank c = false) : image ≠ [] ∧ ∀ d ∈ image, isBlank d = false := by
  rcases lower with rfl | ⟨-, rfl⟩
  · exact lowerChar_shown shown
  · refine ⟨List.cons_ne_nil _ _, ?_⟩
    intro d member
    rw [List.mem_singleton.mp member]
    rfl

theorem lowerFrom_shown {c : Char} {cs : List Char} (member : c ∈ cs) (shown : isBlank c = false)
    (before : List Char) : ∃ d ∈ lowerFrom before cs, isBlank d = false := by
  induction cs generalizing before with
  | nil => cases member
  | cons first rest ih =>
    obtain ⟨image, lower, split⟩ := lowerFrom_cons before first rest
    rw [split]
    rcases List.mem_cons.mp member with same | later
    · subst same
      obtain ⟨nonempty, all⟩ := lower.shown shown
      obtain ⟨d, place⟩ := List.exists_mem_of_ne_nil _ nonempty
      exact ⟨d, List.mem_append_left _ place, all d place⟩
    · obtain ⟨d, place, visible⟩ := ih later (first :: before)
      exact ⟨d, List.mem_append_right _ place, visible⟩

theorem showsNothing_lower {s : String} (shown : showsNothing s = false) :
    showsNothing (lower s) = false := by
  rw [showsNothing, List.all_eq_false] at shown
  obtain ⟨c, member, visible⟩ := shown
  obtain ⟨d, image, kept⟩ := lowerFrom_shown member (Bool.eq_false_iff.mpr visible) []
  rw [showsNothing, List.all_eq_false, lower, String.toList_ofList]
  exact ⟨d, image, Bool.eq_false_iff.mp kept⟩

theorem startsClear_lowerFrom {cs : List Char} (starts : StartsClear isBlank cs)
    (before : List Char) : StartsClear isBlank (lowerFrom before cs) := by
  cases cs with
  | nil => exact starts
  | cons c rest =>
    obtain ⟨image, lower, split⟩ := lowerFrom_cons before c rest
    obtain ⟨nonempty, all⟩ := lower.shown (starts c rfl)
    intro d first
    rw [split, List.head?_append_of_ne_nil image nonempty] at first
    exact all d (List.mem_of_mem_head? first)

theorem lowerFrom_concat (before front : List Char) (c : Char) :
    ∃ start image, IsLowerOf c image ∧ lowerFrom before (front ++ [c]) = start ++ image := by
  induction front generalizing before with
  | nil =>
    obtain ⟨image, lower, split⟩ := lowerFrom_cons before c []
    refine ⟨[], image, lower, ?_⟩
    rw [List.nil_append, split, lowerFrom, List.append_nil, List.nil_append]
  | cons first front ih =>
    obtain ⟨start, image, lower, later⟩ := ih (first :: before)
    obtain ⟨here, -, split⟩ := lowerFrom_cons before first (front ++ [c])
    refine ⟨here ++ start, image, lower, ?_⟩
    rw [List.cons_append, split, later, List.append_assoc]

theorem endsClear_lowerFrom {cs : List Char} (ends : EndsClear isBlank cs)
    (before : List Char) : EndsClear isBlank (lowerFrom before cs) := by
  rcases List.eq_nil_or_concat' cs with rfl | ⟨front, c, rfl⟩
  · exact ends
  · obtain ⟨start, image, lower, split⟩ := lowerFrom_concat before front c
    obtain ⟨nonempty, all⟩ := lower.shown (ends c List.getLast?_concat)
    intro d last
    rw [split, List.getLast?_append_of_ne_nil start nonempty] at last
    exact all d (List.mem_of_getLast? last)

theorem trim_lower_trim (s : String) : trim (lower (trim s)) = lower (trim s) := by
  have starts := startsClear_lowerFrom (startsClear_trimChars s.toList) []
  have ends := endsClear_lowerFrom (endsClear_trimChars s.toList) []
  have same := trimChars_eq_self_iff.mpr ⟨starts, ends⟩
  rw [trim, lower, trim, String.toList_ofList, String.toList_ofList, lowerChars, same]

theorem comma_mem_of_mem_lowerFrom {before cs : List Char} (member : ',' ∈ lowerFrom before cs) :
    ',' ∈ cs := by
  induction cs generalizing before with
  | nil => cases member
  | cons c rest ih =>
    obtain ⟨image, lower, split⟩ := lowerFrom_cons before c rest
    rw [split, List.mem_append] at member
    rcases member with here | later
    · rcases lower with rfl | ⟨-, rfl⟩
      · rw [eq_comma_of_mem_lowerChar here]
        exact List.mem_cons_self
      · have other : ',' ∉ ['ς'] := by decide
        exact absurd here other
    · exact List.mem_cons_of_mem c (ih later)

theorem lowerChar_of_mem_lowerFrom {before cs : List Char} {d : Char}
    (member : d ∈ lowerFrom before cs) : lowerChar d = [d] := by
  induction cs generalizing before with
  | nil => cases member
  | cons c rest ih =>
    obtain ⟨image, lower, split⟩ := lowerFrom_cons before c rest
    rw [split, List.mem_append] at member
    rcases member with here | later
    · rcases lower with rfl | ⟨-, rfl⟩
      · exact lowerChar_of_mem_lowerChar here
      · rw [List.mem_singleton.mp here]
        decide +kernel
    · exact ih later

theorem lowerFrom_of_own {cs : List Char} (own : ∀ c ∈ cs, lowerChar c = [c])
    (before : List Char) : lowerFrom before cs = cs := by
  induction cs generalizing before with
  | nil => rfl
  | cons c rest ih =>
    have first := own c List.mem_cons_self
    have small : c ≠ 'Σ' := by
      rintro rfl
      rw [lowerChar_sigma] at first
      revert first
      decide
    have later := ih (fun d member => own d (List.mem_cons_of_mem c member)) (c :: before)
    rw [lowerFrom, if_neg small, first, later]
    rfl

theorem lower_lower (s : String) : lower (lower s) = lower s := by
  have own : ∀ d ∈ lowerFrom [] s.toList, lowerChar d = [d] :=
    fun _ => lowerChar_of_mem_lowerFrom
  rw [lower, lower, String.toList_ofList, lowerChars, lowerChars, lowerFrom_of_own own]

theorem lower_trim_lower_trim (s : String) : lower (trim (lower (trim s))) = lower (trim s) := by
  rw [trim_lower_trim, lower_lower]

end Passcode.Text
