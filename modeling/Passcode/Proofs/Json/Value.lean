import Passcode.Proofs.Json.Span

/-!
Values in JSON. A value whose texts and numbers have a written form of their own is read back from
it, whatever it contains.
-/

set_option autoImplicit false

namespace Passcode.Json

open MemberText (between)

/-- All texts of the value are proper Unicode, and all its numbers are natural numbers. -/
inductive Proper : Json → Prop
  | null : Proper null
  | bool (b : Bool) : Proper (bool b)
  | natural (n : Nat) : Proper (natural n)
  | str (s : String) : Proper (str s)
  | array {items : List Json} (proper : ∀ item ∈ items, Proper item) : Proper (array items)
  | record {members : List (String × Json)} (proper : ∀ m ∈ members, Proper m.2) :
      Proper (record members)

def keyed (m : String × Json) : Option String × Json :=
  (some m.1, m.2)

/-! ### Arrays and objects by their parts -/

theorem write_append_writeItems (item : Json) (items : List Json) :
    item.write ++ writeItems items = [','].intercalate ((item :: items).map write) ++ [']'] := by
  induction items generalizing item with
  | nil => rw [writeItems, List.map_singleton, List.intercalate_singleton]
  | cons next items ih =>
    rw [writeItems, ih]
    simp only [List.map_cons, List.intercalate_cons_cons, List.append_assoc, List.cons_append,
      List.nil_append]

theorem write_array (items : List Json) :
    (array items).write = '[' :: ([','].intercalate (items.map write) ++ [']']) := by
  cases items with
  | nil => rfl
  | cons item items => rw [write, write_append_writeItems]

def writtenMember (m : String × Json) : MemberText where
  name := String.ofList (writeText m.1)
  value := m.2.render

theorem chars_writtenMember (m : String × Json) :
    (writtenMember m).chars = writeText m.1 ++ ':' :: m.2.write := by
  rw [writtenMember, MemberText.chars, String.toList_ofList, render, String.toList_ofList]

theorem write_append_writeMembers (m : String × Json) (members : List (String × Json)) :
    writeText m.1 ++ ':' :: (m.2.write ++ writeMembers (members.map keyed)) =
      between ((m :: members).map writtenMember) ++ ['}'] := by
  induction members generalizing m with
  | nil =>
    rw [List.map_nil, writeMembers, List.map_singleton, MemberText.between_singleton,
      chars_writtenMember, List.append_assoc]
    rfl
  | cons next members ih =>
    rw [List.map_cons, keyed, writeMembers, writeKey, ih]
    simp only [List.map_cons, MemberText.between_cons_cons, chars_writtenMember, List.append_assoc,
      List.cons_append]

theorem write_record (members : List (String × Json)) :
    (record members).write =
      '{' :: (between (members.map writtenMember) ++ ['}']) := by
  cases members with
  | nil => rfl
  | cons m members =>
    have members_eq : record (m :: members) = object ((some m.1, m.2) :: members.map keyed) := rfl
    rw [members_eq, write, writeKey, write_append_writeMembers]

/-! ### Reading back -/

/-- The written form is read back wherever it stands. -/
def ReadBack (j : Json) : Prop :=
  Reads j.write j

theorem readBack_null : ReadBack null :=
  .of_takes rfl fun _ _ _ _ => .null

theorem readBack_bool (b : Bool) : ReadBack (bool b) := by
  cases b with
  | true => exact .of_takes rfl fun _ _ _ _ => .true
  | false => exact .of_takes rfl fun _ _ _ _ => .false

theorem readBack_natural (n : Nat) : ReadBack (natural n) := by
  obtain ⟨c, cs, digits⟩ := List.exists_cons_of_ne_nil (Text.decimalDigits_ne_nil n)
  have digit : c.isDigit = true := Text.isDigit_of_mem_decimalDigits (digits ▸ List.mem_cons_self)
  rw [ReadBack, write, digits]
  refine .of_takes (isSpace_of_isDigit digit) fun _ rest _ ends => .natural ?_
  rw [← digits]
  exact scanUnsigned_decimalDigits n ends

theorem readBack_str (s : String) : ReadBack (str s) := by
  rw [ReadBack, str, write, writeText]
  refine .of_takes rfl fun _ rest _ _ => ?_
  rw [List.cons_append, List.append_assoc]
  exact .text (scanText_escaped s rest)

theorem readBack_array {items : List Json} (readBack : ∀ item ∈ items, ReadBack item) :
    ReadBack (array items) := by
  rw [ReadBack, write_array]
  refine reads_array ?_ blank_nil
  exact List.forall₂_map_left_iff.mpr
    (List.forall₂_same.mpr fun item member => (readBack item member).holds)

theorem readBack_record {members : List (String × Json)}
    (readBack : ∀ m ∈ members, ReadBack m.2) : ReadBack (record members) := by
  rw [ReadBack, write_record]
  refine reads_object ?_ blank_nil
  refine List.forall₂_map_left_iff.mpr (List.forall₂_map_right_iff.mpr
    (List.forall₂_same.mpr fun m member => ⟨?_, ?_⟩))
  · rw [writtenMember, String.toList_ofList]
    exact (readBack_str m.1).holds
  · rw [writtenMember, render, String.toList_ofList]
    exact (readBack m member).holds

theorem Proper.readBack {j : Json} (proper : j.Proper) : ReadBack j := by
  induction proper with
  | null => exact readBack_null
  | bool b => exact readBack_bool b
  | natural n => exact readBack_natural n
  | str s => exact readBack_str s
  | array proper ih => exact readBack_array ih
  | record proper ih => exact readBack_record ih

theorem Proper.read?_render {j : Json} (proper : j.Proper) : read? j.render = some j := by
  have read := proper.readBack (j.write.length + 1) [] (Nat.le_succ _) ends_nil
  rw [List.append_nil] at read
  rw [read?, render, String.toList_ofList, read]
  rfl

end Passcode.Json
