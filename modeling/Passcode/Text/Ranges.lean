/-!
Sets of characters given by ranges of their numbers, both ends included.
-/

set_option autoImplicit false

namespace Passcode.Text

def inRanges (ranges : List (Nat × Nat)) (c : Char) : Bool :=
  ranges.any fun r => r.1 ≤ c.toNat && c.toNat ≤ r.2

end Passcode.Text
