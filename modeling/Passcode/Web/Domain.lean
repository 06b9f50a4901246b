import Passcode.Text.Casing
import Passcode.Text.Normal
import Passcode.Text.Split
import Passcode.Web.Domain.Table
import Passcode.Web.Label
import Passcode.Web.Percent
import Passcode.Web.Punycode

/-!
Names of hosts. A name is lower case once characters that only look different have been folded
together, and an encoded label has to be the encoding of something.
-/

set_option autoImplicit false

namespace Passcode.Web

/-- ASCII characters that end a host or have another meaning in a URL. -/
def isDelimiter (c : Char) : Bool :=
  c.toNat ≤ 0x20 || c.toNat == 0x7F || "%#/:<>?@[\\]^|".toList.contains c

def isRefused (c : Char) : Bool :=
  isDelimiter c || Text.inRanges refusedRanges c

def fold (c : Char) : List Char :=
  if Text.inRanges ignoredRanges c then []
  else if Text.inRanges capitalRanges c then [c]
  else (Text.caseImage [] foldedRuns c).flatMap Text.lowerChar

/-- A character that a name may hold and that stands for itself. -/
def isSettled (c : Char) : Bool :=
  !isRefused c && !Text.inRanges mappedRanges c && fold c == [c]

/-- The plain form of a label. One that is marked as encoded decodes to settled characters in their
composed form, not all of them ASCII. -/
def plainLabel? : List Char → Option (List Char)
  | 'x' :: 'n' :: '-' :: '-' :: encoded =>
    (Punycode.decode? encoded).filter fun label =>
      label.any (0x7F < ·.toNat) && label.all isSettled && Text.isComposed label
  | label => some label

def domain? (cs : List Char) : Option (List Char) := do
  let given ← textOfBytes? (percentDecode cs)
  let name := given.flatMap fold
  let labels ← (Text.splitChars '.' name).mapM plainLabel?
  if given.any isRefused || name.any isDelimiter || name.isEmpty || !labelsAllowed labels then none
  else some name

end Passcode.Web
