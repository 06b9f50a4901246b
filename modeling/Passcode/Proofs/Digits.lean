import Passcode.Code
import Passcode.Phone

/-!
What is stored of a typed phone number or code, and what is accepted as one, consists of decimal
digits alone.
-/

set_option autoImplicit false

namespace Passcode

def Text.IsDigits (limit : Nat) (s : String) : Prop :=
  s.toList.length ≤ limit ∧ ∀ c ∈ s.toList, c.isDigit = true

namespace Text

theorem isDigits_empty (limit : Nat) : IsDigits limit "" := by
  constructor
  · exact Nat.zero_le limit
  · intro c member
    exact absurd member List.not_mem_nil

theorem isDigits_digitsOnly (limit : Nat) (raw : String) :
    IsDigits limit (digitsOnly limit raw) := by
  simp only [IsDigits, digitsOnly, keepDigits, String.toList_ofList]
  constructor
  · exact List.length_take_le limit _
  · intro c member
    exact (List.mem_filter.mp (List.mem_of_mem_take member)).2

end Text

theorem Phone.isDigits_of_isValid {phone : String} (valid : Phone.isValid phone = true) :
    Text.IsDigits Phone.length phone := by
  unfold Phone.isValid at valid
  split at valid
  · next carrier rest characters =>
    simp only [Bool.and_eq_true, beq_iff_eq, List.all_eq_true, List.contains_iff_mem] at valid
    obtain ⟨⟨carrierMem, count⟩, digits⟩ := valid
    have carrierDigit : carrier.isDigit = true := by
      have all : Phone.carrierDigits.all Char.isDigit = true := rfl
      exact List.all_eq_true.mp all carrier carrierMem
    rw [Text.IsDigits, characters]
    constructor
    · simp only [List.length_cons, count, Phone.length]
      omega
    · intro c member
      rcases List.mem_cons.mp member with rfl | member
      · rfl
      · rcases List.mem_cons.mp member with rfl | member
        · exact carrierDigit
        · exact digits c member
  · exact absurd valid Bool.false_ne_true

theorem Code.isValid_iff {code : String} :
    Code.isValid code = true ↔ code.toList.length = 6 ∧ ∀ c ∈ code.toList, c.isDigit = true := by
  simp only [Code.isValid, Code.length, Bool.and_eq_true, beq_iff_eq, List.all_eq_true]

theorem Code.isDigits_of_isValid {code : String} (valid : Code.isValid code = true) :
    Text.IsDigits Code.length code := by
  simp only [Code.isValid, Bool.and_eq_true, beq_iff_eq, List.all_eq_true] at valid
  exact ⟨Nat.le_of_eq valid.1, valid.2⟩

end Passcode
