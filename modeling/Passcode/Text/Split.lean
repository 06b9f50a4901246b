/-!
Cutting a text at every occurrence of a separator.
-/

set_option autoImplicit false

namespace Passcode.Text

/-- The stretches between separators, in order; there is always at least one. -/
def splitChars (sep : Char) : List Char → List (List Char)
  | [] => [[]]
  | c :: cs =>
    if c = sep then [] :: splitChars sep cs
    else match splitChars sep cs with
      | [] => [[c]]
      | first :: rest => (c :: first) :: rest

end Passcode.Text
