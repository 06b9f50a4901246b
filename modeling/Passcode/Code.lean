import Passcode.Text.Decimal
import Passcode.Text.Digits

/-!
One-time codes: six decimal digits.
-/

set_option autoImplicit false

namespace Passcode.Code

def length : Nat := 6

def normalize (raw : String) : String :=
  Text.digitsOnly length raw

def isValid (code : String) : Bool :=
  code.toList.length == length && code.toList.all Char.isDigit

def ofNumber (n : Fin 1000000) : String :=
  String.ofList (Text.fixedDigits length n.val)

end Passcode.Code
