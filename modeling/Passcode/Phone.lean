import Passcode.Text.Digits

/-!
Mobile numbers in domestic form: ten digits, a zero, a carrier digit and eight more.
-/

set_option autoImplicit false

namespace Passcode.Phone

def length : Nat := 10

def normalize (raw : String) : String :=
  Text.digitsOnly length raw

/-- The digits that may follow the leading zero. -/
def carrierDigits : List Char := ['3', '5', '7', '8', '9']

/-- Exactly ten characters, `0`, a carrier digit and eight digits; nothing is normalized first. -/
def isValid (phone : String) : Bool :=
  match phone.toList with
  | '0' :: carrier :: rest =>
    carrierDigits.contains carrier && rest.length == 8 && rest.all Char.isDigit
  | _ => false

def hidden : List Char := ['*', '*', '*', '*']

/-- The first two and the last four digits, for display; fewer than seven digits are all hidden. -/
def mask (phone : String) : String :=
  let digits := phone.toList.filter Char.isDigit
  if 7 ≤ digits.length then
    String.ofList (digits.take 2 ++ hidden ++ digits.drop (digits.length - 4))
  else
    String.ofList hidden

end Passcode.Phone
