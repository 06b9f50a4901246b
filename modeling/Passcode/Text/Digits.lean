/-!
The decimal digits of a typed text. Only the ten ASCII digits count.
-/

set_option autoImplicit false

namespace Passcode.Text

def keepDigits (limit : Nat) (cs : List Char) : List Char :=
  (cs.filter Char.isDigit).take limit

def digitsOnly (limit : Nat) (raw : String) : String :=
  String.ofList (keepDigits limit raw.toList)

end Passcode.Text
