import Passcode.Text.Alphanumeric.Table
import Passcode.Text.Ranges

/-!
Letters and numbers of every script.
-/

set_option autoImplicit false

namespace Passcode.Text

def isAlphanumeric (c : Char) : Bool :=
  inRanges alphanumericRanges c

end Passcode.Text
