/-!
Blank characters, what is dropped at either end of a text, and texts that show nothing.
-/

set_option autoImplicit false

namespace Passcode.Text

/-- The characters with the property White_Space. -/
def isBlank (c : Char) : Bool :=
  let n := c.toNat
  (9 ≤ n && n ≤ 13) || n == 0x20 || n == 0x85 || n == 0xA0 || n == 0x1680 ||
    (0x2000 ≤ n && n ≤ 0x200A) || n == 0x2028 || n == 0x2029 || n == 0x202F || n == 0x205F ||
    n == 0x3000

def dropEnd (p : Char → Bool) (cs : List Char) : List Char :=
  (cs.reverse.dropWhile p).reverse

def trimChars (cs : List Char) : List Char :=
  dropEnd isBlank (cs.dropWhile isBlank)

def trim (s : String) : String :=
  String.ofList (trimChars s.toList)

def withoutTrailing (c : Char) (s : String) : String :=
  String.ofList (dropEnd (· == c) s.toList)

def withoutMark : List Char → List Char
  | c :: cs => if c.toNat = 0xFEFF then cs else c :: cs
  | [] => []

def showsNothing (s : String) : Bool :=
  s.toList.all isBlank

/-- `s` itself, or `fallback` where `s` shows nothing. -/
def orElse (s fallback : String) : String :=
  if showsNothing s then fallback else s

end Passcode.Text
