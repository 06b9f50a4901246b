import Passcode.Gateway.Header
import Passcode.Proofs.Blank
import Passcode.Proofs.Decimal

/-!
The counters beside a reply. Each is read off the first header of its name alone, whose value has to
be a number, spelled with digits after at most one plus sign and with nothing but spaces and tabs
around it.
-/

set_option autoImplicit false

namespace Passcode.Gateway

/-! ### The first header of a name -/

def FirstHas (name : String) (headers : Headers) (value : String) : Prop :=
  ∃ before own after, headers = before ++ (own, value) :: after ∧ sameName own name = true ∧
    ∀ h ∈ before, sameName h.1 name = false

theorem header?_eq_some_iff {name value : String} {headers : Headers} :
    header? name headers = some value ↔ FirstHas name headers value := by
  rw [header?, Option.map_eq_some_iff]
  simp only [List.find?_eq_some_iff_append, Bool.not_eq_true']
  constructor
  · rintro ⟨⟨own, value⟩, ⟨same, before, after, split, others⟩, rfl⟩
    exact ⟨before, own, after, split, same, others⟩
  · rintro ⟨before, own, after, split, same, others⟩
    exact ⟨(own, value), ⟨same, before, after, split, others⟩, rfl⟩

theorem header?_congr {name : String} {headers others : Headers}
    (same : headers.filter (sameName ·.1 name) = others.filter (sameName ·.1 name)) :
    header? name headers = header? name others := by
  rw [header?, header?, ← List.head?_filter, ← List.head?_filter, same]

/-! ### Numbers in headers -/

def isGap (c : Char) : Bool :=
  c == ' ' || c == '\t'

theorem isGap_iff {c : Char} : isGap c = true ↔ isVisible c = true ∧ Text.isBlank c = true := by
  constructor
  · intro gap
    rcases (Bool.or_eq_true _ _).mp gap with space | tab
    · rw [beq_iff_eq.mp space]
      decide
    · rw [beq_iff_eq.mp tab]
      decide
  · rintro ⟨visible, blank⟩
    simp only [isVisible, Bool.or_eq_true, beq_iff_eq, Bool.and_eq_true,
      decide_eq_true_eq] at visible
    rcases visible with tab | ⟨low, high⟩
    · rw [tab]
      decide
    · -- Of the blanks, only the space is printable ASCII.
      have space : c.toNat = 0x20 := by
        simp only [Text.isBlank, Bool.or_eq_true, Bool.and_eq_true, decide_eq_true_eq,
          beq_iff_eq] at blank
        omega
      have same : c = ' ' := Char.toNat_inj.mp space
      rw [same]
      decide

theorem isVisible_of_isDigit {c : Char} (digit : c.isDigit = true) :
    isVisible c = true ∧ Text.isBlank c = false := by
  refine ⟨?_, Text.isBlank_of_isDigit digit⟩
  obtain ⟨low, high⟩ := Text.isDigit_iff_toNat.mp digit
  simp only [isVisible, Bool.or_eq_true, Bool.and_eq_true, decide_eq_true_eq]
  omega

theorem isVisible_of_writesNumber {cs : List Char} {n : Nat} (number : Text.WritesNumber cs n) :
    ∀ c ∈ cs, isVisible c = true ∧ Text.isBlank c = false := by
  obtain ⟨sign, digits, rfl, plus, -, all, -⟩ := number
  intro c member
  rcases List.mem_append.mp member with first | digit
  · rcases plus with rfl | rfl
    · cases first
    · rw [List.mem_singleton.mp first]
      decide
  · exact isVisible_of_isDigit (all c digit)

/-- The digits of `n`, of which the first may be zeros, after at most one plus sign and between
spaces and tabs. -/
def WritesCount (value : String) (n : UInt32) : Prop :=
  ∃ left number right, value.toList = left ++ number ++ right ∧
    (∀ c ∈ left ++ right, isGap c = true) ∧ Text.WritesNumber number n.toNat

theorem count?_eq_some_iff {value : String} {n : UInt32} :
    count? value = some n ↔ WritesCount value n := by
  rw [count?]
  constructor
  · intro counted
    split at counted
    · next visible =>
      obtain ⟨left, right, split, blank⟩ := Text.trimChars_split value.toList
      -- What was trimmed away is blank, and of what is visible only gaps are.
      refine ⟨left, _, right, split, ?_, Text.word32?_eq_some_iff.mp counted⟩
      intro c member
      have inside : c ∈ value.toList := by
        rw [split, List.append_assoc]
        rcases List.mem_append.mp member with first | last
        · exact List.mem_append_left _ first
        · exact List.mem_append_right _ (List.mem_append_right _ last)
      exact isGap_iff.mpr ⟨List.all_eq_true.mp visible c inside, blank c member⟩
    · cases counted
  · rintro ⟨left, number, right, split, gaps, writes⟩
    have core := isVisible_of_writesNumber writes
    have visible : value.toList.all isVisible = true := by
      rw [List.all_eq_true, split]
      intro c member
      rcases List.mem_append.mp member with before | last
      · rcases List.mem_append.mp before with first | inside
        · exact (isGap_iff.mp (gaps c (List.mem_append_left _ first))).1
        · exact (core c inside).1
      · exact (isGap_iff.mp (gaps c (List.mem_append_right _ last))).1
    have trimmed : Text.trimChars value.toList = number := by
      rw [split]
      exact Text.trimChars_append (fun c member => (isGap_iff.mp (gaps c member)).2)
        writes.ne_nil fun c member => (core c member).2
    rw [if_pos visible, trimmed]
    exact Text.word32?_eq_some_iff.mpr writes

/-! ### The counters of a reply -/

/-- How the counter of the given name is read off the headers of a reply. -/
structure ReadsCount (name : String) (counter : Headers → Option UInt32) : Prop where
  reported_iff : ∀ headers n,
    counter headers = some n ↔ ∃ value, FirstHas name headers value ∧ WritesCount value n
  /-- A later header of the same name does not stand in for the first. -/
  unreported : ∀ headers value, FirstHas name headers value → (∀ n, ¬WritesCount value n) →
    counter headers = none
  /-- What is written in decimal is read back, whatever spaces and tabs are around it. -/
  written : ∀ headers left right (n : UInt32), (∀ c ∈ left ++ right, isGap c = true) →
    FirstHas name headers (String.ofList (left ++ Text.decimalDigits n.toNat ++ right)) →
      counter headers = some n
  /-- Headers with other names have no influence. -/
  apart : ∀ headers others,
    headers.filter (sameName ·.1 name) = others.filter (sameName ·.1 name) →
      counter headers = counter others

theorem readsCount_header? (name : String) :
    ReadsCount name fun headers => (header? name headers).bind count? := by
  have reported (headers : Headers) (n : UInt32) : (header? name headers).bind count? = some n ↔
      ∃ value, FirstHas name headers value ∧ WritesCount value n := by
    rw [Option.bind_eq_some_iff]
    simp only [header?_eq_some_iff, count?_eq_some_iff]
  refine ⟨reported, ?_, ?_, ?_⟩
  · intro headers value first malformed
    have uncounted : count? value = none :=
      Option.eq_none_iff_forall_ne_some.mpr fun n counted =>
        malformed n (count?_eq_some_iff.mp counted)
    rw [header?_eq_some_iff.mpr first, Option.bind_some, uncounted]
  · intro headers left right n gaps first
    refine (reported headers n).mpr ⟨_, first, left, _, right, ?_, gaps,
      Text.writesNumber_decimalDigits n.toNat⟩
    exact String.toList_ofList
  · intro headers others same
    rw [header?_congr same]

theorem sameName_iff {a b : String} :
    sameName a b = true ↔ a.toList.map Char.toLower = b.toList.map Char.toLower :=
  beq_iff_eq

/-- Each counter is read exactly, and no header counts for both. -/
theorem quotaOf_reads_counts :
    ReadsCount phoneHeader (fun headers => (quotaOf headers).phone) ∧
      ReadsCount ipHeader (fun headers => (quotaOf headers).ip) ∧
      ∀ name, ¬(sameName name phoneHeader = true ∧ sameName name ipHeader = true) := by
  refine ⟨readsCount_header? phoneHeader, readsCount_header? ipHeader, ?_⟩
  rintro name ⟨phone, ip⟩
  have clash := (sameName_iff.mp phone).symm.trans (sameName_iff.mp ip)
  exact absurd clash (by decide)

/-- The first header of the name counts, in whatever case it is written. -/
example :
    quotaOf [("X-RateLimit-Remaining-Phone", "\t+007 "), ("x-ratelimit-remaining-phone", "8"),
      ("X-RateLimit-Remaining-IP", "-1"), ("x-ratelimit-remaining-ip", "9")] =
      { phone := some 7, ip := none } := by
  decide +kernel

end Passcode.Gateway
