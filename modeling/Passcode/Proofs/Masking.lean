import Mathlib.Data.List.DropRight
import Passcode.Proofs.Typing

/-!
Masking. A mask is cut out of the digits of a number by offsets that always lie within them; it
shows six digits or none, and two numbers have different masks only where these differ.
-/

set_option autoImplicit false

namespace Passcode

/-! ### Cutting by bytes -/

namespace Text

/-- The text between two byte offsets; none unless they are in order, within the text and where a
character begins or the text ends. -/
def slice? (s : String) (start stop : Nat) : Option String :=
  if h : start ≤ stop ∧ String.Pos.Raw.IsValid s ⟨start⟩ ∧ String.Pos.Raw.IsValid s ⟨stop⟩ then
    some (s.extract (s.pos ⟨start⟩ h.2.1) (s.pos ⟨stop⟩ h.2.2))
  else
    none

theorem slice?_append (before piece after : String) :
    slice? (before ++ piece ++ after) before.utf8ByteSize (before ++ piece).utf8ByteSize =
      some piece := by
  have ordered : before.utf8ByteSize ≤ (before ++ piece).utf8ByteSize := by
    rw [String.utf8ByteSize_append]
    exact Nat.le_add_right _ _
  have start : before.rawEndPos.IsValid (before ++ piece ++ after) :=
    (String.Pos.Raw.isValid_rawEndPos.append_right piece).append_right after
  have stop : (before ++ piece).rawEndPos.IsValid (before ++ piece ++ after) :=
    String.Pos.Raw.isValid_rawEndPos.append_right after
  have bytes : (before ++ piece ++ after).toByteArray.extract before.utf8ByteSize
      (before ++ piece).utf8ByteSize = piece.toByteArray :=
    calc
      _ = (before.toByteArray ++ (piece.toByteArray ++ after.toByteArray)).extract
          (before.utf8ByteSize + 0) (before.utf8ByteSize + piece.utf8ByteSize) := by
        rw [String.append_assoc, String.toByteArray_append, String.toByteArray_append,
          String.utf8ByteSize_append, Nat.add_zero]
      _ = (piece.toByteArray ++ after.toByteArray).extract 0 piece.utf8ByteSize :=
        ByteArray.extract_append_size_add' String.size_toByteArray.symm
      _ = piece.toByteArray := ByteArray.extract_append_eq_left String.size_toByteArray.symm
  rw [slice?, dif_pos ⟨ordered, start, stop⟩]
  exact congrArg some (String.toByteArray_inj.mp bytes)

theorem utf8ByteSize_of_digits {s : String} (digits : ∀ c ∈ s.toList, c.isDigit = true) :
    s.utf8ByteSize = s.toList.length := by
  rw [← length_bytes, length_bytes_of_digits digits]

theorem slice?_of_digits {s : String} {before piece after : List Char}
    (whole : s.toList = before ++ piece ++ after) (digits : ∀ c ∈ s.toList, c.isDigit = true) :
    slice? s before.length (before.length + piece.length) = some (String.ofList piece) := by
  have front : ∀ c ∈ (String.ofList (before ++ piece)).toList, c.isDigit = true := by
    intro c member
    rw [String.toList_ofList] at member
    exact digits c (whole ▸ List.mem_append_left after member)
  have first : ∀ c ∈ (String.ofList before).toList, c.isDigit = true := by
    intro c member
    rw [String.toList_ofList] at member front
    exact front c (List.mem_append_left piece member)
  have cut := slice?_append (String.ofList before) (String.ofList piece) (String.ofList after)
  rwa [← String.ofList_append, ← String.ofList_append, ← whole, String.ofList_toList,
    utf8ByteSize_of_digits first, utf8ByteSize_of_digits front, String.toList_ofList,
    String.toList_ofList, List.length_append] at cut

theorem slice?_front {s : String} {front rest : List Char} (whole : s.toList = front ++ rest)
    (digits : ∀ c ∈ s.toList, c.isDigit = true) :
    slice? s 0 front.length = some (String.ofList front) := by
  have split : s.toList = [] ++ front ++ rest := whole
  have cut := slice?_of_digits split digits
  rw [List.length_nil, Nat.zero_add] at cut
  exact cut

theorem slice?_back {s : String} {rest back : List Char} (whole : s.toList = rest ++ back)
    (digits : ∀ c ∈ s.toList, c.isDigit = true) :
    slice? s (s.utf8ByteSize - back.length) s.utf8ByteSize = some (String.ofList back) := by
  have split : s.toList = rest ++ back ++ [] := by rw [List.append_nil, whole]
  have size : s.utf8ByteSize = rest.length + back.length := by
    rw [utf8ByteSize_of_digits digits, whole, List.length_append]
  rw [size, Nat.add_sub_cancel]
  exact slice?_of_digits split digits

def digitsIn (s : String) : List Char :=
  s.toList.filter Char.isDigit

theorem toList_digitsOnly (limit : Nat) (s : String) :
    (digitsOnly limit s).toList = (digitsIn s).take limit :=
  String.toList_ofList

theorem digitsIn_digitsOnly (limit : Nat) (s : String) :
    digitsIn (digitsOnly limit s) = (digitsIn s).take limit := by
  rw [digitsIn, List.filter_eq_self.mpr (isDigits_digitsOnly limit s).2, toList_digitsOnly]

end Text

/-! ### What a mask shows -/

namespace Phone

open Text (digitsIn)

theorem toList_mask (phone : String) :
    (mask phone).toList = if 7 ≤ (digitsIn phone).length then
      (digitsIn phone).take 2 ++ hidden ++ (digitsIn phone).rtake 4 else hidden := by
  have shape : mask phone = if 7 ≤ (digitsIn phone).length then
      String.ofList ((digitsIn phone).take 2 ++ hidden ++ (digitsIn phone).rtake 4)
    else String.ofList hidden := rfl
  rw [shape, apply_ite String.toList, String.toList_ofList, String.toList_ofList]

theorem toList_mask_of_lt {phone : String} (few : (digitsIn phone).length < 7) :
    (mask phone).toList = hidden := by
  rw [toList_mask, if_neg (Nat.not_le.mpr few)]

theorem toList_mask_of_le {phone : String} (many : 7 ≤ (digitsIn phone).length) :
    (mask phone).toList = (digitsIn phone).take 2 ++ hidden ++ (digitsIn phone).rtake 4 := by
  rw [toList_mask, if_pos many]

theorem mask_congr {phone other : String} (same : digitsIn phone = digitsIn other) :
    mask phone = mask other := by
  rw [← String.toList_inj, toList_mask, toList_mask, same]

/-- Two digits in front and four at the end are shown, and what is hidden between them is never
empty. -/
theorem exists_parts {phone : String} (many : 7 ≤ (digitsIn phone).length) :
    ∃ first between last, digitsIn phone = first ++ between ++ last ∧
      first.length = 2 ∧ between ≠ [] ∧ last.length = 4 ∧
      (mask phone).toList = first ++ hidden ++ last := by
  have shown := toList_mask_of_le many
  generalize digitsIn phone = ds at many shown
  have apart : 2 ≤ ds.length - 4 := by omega
  have front : (ds.take (ds.length - 4)).take 2 = ds.take 2 := by
    rw [List.take_take, Nat.min_eq_left apart]
  refine ⟨ds.take 2, (ds.take (ds.length - 4)).drop 2, ds.rtake 4, ?_, ?_, ?_, ?_, shown⟩
  · rw [← front, List.take_append_drop, List.rtake, List.take_append_drop]
  · rw [List.length_take]
    omega
  · apply List.ne_nil_of_length_pos
    rw [List.length_drop, List.length_take]
    omega
  · rw [List.rtake, List.length_drop]
    omega

theorem length_mask_of_le {phone : String} (many : 7 ≤ (digitsIn phone).length) :
    (mask phone).toList.length = 10 := by
  obtain ⟨first, between, last, -, two, -, four, shown⟩ := exists_parts many
  rw [shown, List.length_append, List.length_append, two, four]
  rfl

theorem eq_star_of_mem_hidden {c : Char} (member : c ∈ hidden) : c = '*' := by
  have stars : hidden = List.replicate 4 '*' := rfl
  exact List.eq_of_mem_replicate (stars ▸ member)

theorem eq_star_or_isDigit_of_mem_mask {phone : String} {c : Char}
    (member : c ∈ (mask phone).toList) : c = '*' ∨ c.isDigit = true := by
  rcases Nat.lt_or_ge (digitsIn phone).length 7 with few | many
  · rw [toList_mask_of_lt few] at member
    exact .inl (eq_star_of_mem_hidden member)
  · obtain ⟨first, between, last, whole, -, -, -, shown⟩ := exists_parts many
    have digit (inside : c ∈ first ++ between ++ last) : c.isDigit = true :=
      (List.mem_filter.mp (whole ▸ inside)).2
    rw [shown, List.mem_append, List.mem_append] at member
    rcases member with (front | stars) | back
    · exact .inr (digit (List.mem_append_left last (List.mem_append_left between front)))
    · exact .inl (eq_star_of_mem_hidden stars)
    · exact .inr (digit (List.mem_append_right (first ++ between) back))

theorem countP_mask_le (phone : String) : (mask phone).toList.countP Char.isDigit ≤ 6 := by
  have stars : hidden.countP Char.isDigit = 0 := rfl
  rcases Nat.lt_or_ge (digitsIn phone).length 7 with few | many
  · rw [toList_mask_of_lt few, stars]
    exact Nat.zero_le 6
  · obtain ⟨first, between, last, -, two, -, four, shown⟩ := exists_parts many
    have front : first.countP Char.isDigit ≤ first.length := List.countP_le_length
    have back : last.countP Char.isDigit ≤ last.length := List.countP_le_length
    rw [shown, List.countP_append, List.countP_append, stars]
    omega

/-! ### What a mask tells apart -/

/-- Both have fewer than seven digits, or both have seven or more and agree in the first two and the
last four. -/
def Alike (phone other : String) : Prop :=
  (digitsIn phone).length < 7 ∧ (digitsIn other).length < 7 ∨
    7 ≤ (digitsIn phone).length ∧ 7 ≤ (digitsIn other).length ∧
      (digitsIn phone).take 2 = (digitsIn other).take 2 ∧
      (digitsIn phone).rtake 4 = (digitsIn other).rtake 4

instance (phone other : String) : Decidable (Alike phone other) :=
  inferInstanceAs (Decidable (_ ∨ _))

theorem Alike.le_iff {phone other : String} (alike : Alike phone other) :
    7 ≤ (digitsIn phone).length ↔ 7 ≤ (digitsIn other).length := by
  rcases alike with ⟨few, fewOther⟩ | ⟨many, manyOther, -⟩
  · exact iff_of_false (Nat.not_le.mpr few) (Nat.not_le.mpr fewOther)
  · exact iff_of_true many manyOther

theorem mask_ne_of_lt_of_le {phone other : String} (few : (digitsIn phone).length < 7)
    (many : 7 ≤ (digitsIn other).length) : mask phone ≠ mask other := by
  intro same
  have four : (mask phone).toList.length = 4 := by
    rw [toList_mask_of_lt few]
    rfl
  have ten := length_mask_of_le many
  rw [← same, four] at ten
  contradiction

theorem mask_eq_iff_of_le {phone other : String} (many : 7 ≤ (digitsIn phone).length)
    (manyOther : 7 ≤ (digitsIn other).length) :
    mask phone = mask other ↔ (digitsIn phone).take 2 = (digitsIn other).take 2 ∧
      (digitsIn phone).rtake 4 = (digitsIn other).rtake 4 := by
  rw [← String.toList_inj, toList_mask_of_le many, toList_mask_of_le manyOther]
  constructor
  · intro same
    have length : ((digitsIn phone).take 2 ++ hidden).length =
        ((digitsIn other).take 2 ++ hidden).length := by
      rw [List.length_append, List.length_append, List.length_take, List.length_take]
      omega
    obtain ⟨front, back⟩ := List.append_inj same length
    exact ⟨List.append_cancel_right front, back⟩
  · rintro ⟨front, back⟩
    rw [front, back]

theorem mask_eq_iff {phone other : String} : mask phone = mask other ↔ Alike phone other := by
  rcases Nat.lt_or_ge (digitsIn phone).length 7 with few | many <;>
    rcases Nat.lt_or_ge (digitsIn other).length 7 with fewOther | manyOther
  · rw [← String.toList_inj, toList_mask_of_lt few, toList_mask_of_lt fewOther]
    exact iff_of_true rfl (.inl ⟨few, fewOther⟩)
  · refine iff_of_false (mask_ne_of_lt_of_le few manyOther) fun alike => ?_
    exact Nat.not_le.mpr few (alike.le_iff.mpr manyOther)
  · refine iff_of_false (mask_ne_of_lt_of_le fewOther many).symm fun alike => ?_
    exact Nat.not_le.mpr fewOther (alike.le_iff.mp many)
  · rw [mask_eq_iff_of_le many manyOther]
    constructor
    · intro same
      exact .inr ⟨many, manyOther, same⟩
    · rintro (⟨less, -⟩ | ⟨-, -, same⟩)
      · omega
      · exact same

/-! ### Cutting a mask -/

/-- The mask as it is cut out of at most `limit` digits by byte offsets; none where an offset is
negative, past the end or inside a character. -/
def cutMask? (limit : Nat) (phone : String) : Option String :=
  let digits := Text.digitsOnly limit phone
  let size := digits.utf8ByteSize
  if 7 ≤ size then do
    -- Without four digits the offset of the last four would lie in front of the text.
    guard (4 ≤ size)
    let first ← Text.slice? digits 0 2
    let last ← Text.slice? digits (size - 4) size
    return first ++ "****" ++ last
  else
    return "****"

theorem cutMask?_eq (limit : Nat) (phone : String) :
    cutMask? limit phone = some (mask (Text.digitsOnly limit phone)) := by
  have digits := (Text.isDigits_digitsOnly limit phone).2
  have stars : "****".toList = hidden := rfl
  rw [cutMask?]
  generalize Text.digitsOnly limit phone = ds at digits
  have chars : digitsIn ds = ds.toList := List.filter_eq_self.mpr digits
  have size : ds.utf8ByteSize = (digitsIn ds).length := by
    rw [Text.utf8ByteSize_of_digits digits, chars]
  rcases Nat.lt_or_ge (digitsIn ds).length 7 with few | many
  · rw [if_neg (by omega)]
    refine congrArg some (String.toList_inj.mp ?_)
    rw [toList_mask_of_lt few, stars]
  · obtain ⟨first, between, last, whole, two, -, four, shown⟩ := exists_parts many
    rw [chars] at whole
    have front : Text.slice? ds 0 2 = some (String.ofList first) := by
      rw [List.append_assoc] at whole
      exact two ▸ Text.slice?_front whole digits
    have back : Text.slice? ds (ds.utf8ByteSize - 4) ds.utf8ByteSize =
        some (String.ofList last) := four ▸ Text.slice?_back whole digits
    have enough : guard (4 ≤ ds.utf8ByteSize) = some () := if_pos (by omega)
    rw [if_pos (by omega), enough, front, back]
    refine congrArg some (String.toList_inj.mp ?_)
    rw [shown, String.toList_append, String.toList_append, stars, String.toList_ofList,
      String.toList_ofList]

theorem cutMask?_eq_mask {limit : Nat} {phone : String} (room : (digitsIn phone).length ≤ limit) :
    cutMask? limit phone = some (mask phone) := by
  have same : digitsIn (Text.digitsOnly limit phone) = digitsIn phone := by
    rw [Text.digitsIn_digitsOnly, List.take_of_length_le room]
  rw [cutMask?_eq, mask_congr same]

/-- What a mask hides and shows of a text, and which texts have it in common. -/
structure HidesAllButSix (phone : String) : Prop where
  cut : ∀ limit, (cutMask? limit phone).isSome = true
  uncut : ∀ limit, (digitsIn phone).length ≤ limit → cutMask? limit phone = some (mask phone)
  few : (mask phone).toList.countP Char.isDigit ≤ 6
  hidden : ∀ c ∈ (mask phone).toList, c = '*' ∨ c.isDigit = true
  /-- Where there are seven digits or more, two in front and four at the end are shown. -/
  shown : 7 ≤ (digitsIn phone).length → ∃ first between last,
    digitsIn phone = first ++ between ++ last ∧ first.length = 2 ∧ between ≠ [] ∧
      last.length = 4 ∧ (mask phone).toList = first ++ Phone.hidden ++ last
  same : ∀ other, mask phone = mask other ↔ Alike phone other

/-- A mask can be cut out of the digits of every text and shows at most six of them. Two texts have
the same mask exactly if what is shown of them is the same, whatever else is in them. -/
theorem mask_hides_all_but_six (phone : String) : HidesAllButSix phone where
  cut limit := by
    rw [cutMask?_eq, Option.isSome_some]
  uncut limit := cutMask?_eq_mask
  few := countP_mask_le phone
  hidden c := eq_star_or_isDigit_of_mem_mask
  shown := exists_parts
  same other := mask_eq_iff

/-- Eleven digits and seven, with other marks between them, under one mask. -/
theorem one_mask_for_other_lengths :
    ((digitsIn "+84 912-345-678").length ≤ 18446744073709551615 ∧
      cutMask? 18446744073709551615 "+84 912-345-678" = some (mask "+84 912-345-678")) ∧
      (7 ≤ (digitsIn "+84 912-345-678").length ∧ ∃ first between last,
        digitsIn "+84 912-345-678" = first ++ between ++ last ∧ first.length = 2 ∧
          between ≠ [] ∧ last.length = 4 ∧
          (mask "+84 912-345-678").toList = first ++ hidden ++ last) ∧
      Alike "+84 912-345-678" "(84) 9/٣/5678" ∧
      mask "+84 912-345-678" = mask "(84) 9/٣/5678" := by
  have room : (digitsIn "+84 912-345-678").length ≤ 18446744073709551615 := by decide
  have many : 7 ≤ (digitsIn "+84 912-345-678").length := by decide
  have alike : Alike "+84 912-345-678" "(84) 9/٣/5678" := by decide
  have hides := mask_hides_all_but_six "+84 912-345-678"
  exact ⟨⟨room, hides.uncut _ room⟩, ⟨many, hides.shown many⟩, alike, (hides.same _).mpr alike⟩

/-- Digits of other scripts neither count nor show. -/
example : mask "٠٩ 0912.345.678 ٣" = "09****5678" := by decide

end Phone
end Passcode
