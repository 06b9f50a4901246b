/-!
JSON values, as far as records need them: a number is known only where it is written as a plain
natural number, and a text only where it is proper Unicode.
-/

set_option autoImplicit false

namespace Passcode

inductive Json where
  | null
  | bool (b : Bool)
  /-- A number written with digits alone. -/
  | natural (n : Nat)
  /-- A number with a sign, a fraction or an exponent. -/
  | otherNumber
  /-- `none` is a text in which an escape names half of a surrogate pair. -/
  | text (s : Option String)
  | array (items : List Json)
  | object (members : List (Option String × Json))

namespace Json

def str (s : String) : Json :=
  text (some s)

def record (members : List (String × Json)) : Json :=
  object (members.map fun m => (some m.1, m.2))

end Json

end Passcode
