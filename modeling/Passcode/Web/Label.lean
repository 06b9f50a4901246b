import Passcode.Text.Ranges
import Passcode.Web.Label.Table

/-!
What a label of a host name may look like: where joiners and marks may stand, and how text from left
to right and from right to left may meet.
-/

set_option autoImplicit false

namespace Passcode.Web

/-! ### Marks and joiners -/

def isAttached (c : Char) : Bool :=
  Text.inRanges attachedRanges c

def nonJoiner : Char := '\u200c'

def joiner : Char := '\u200d'

/-- The nearest character that is not attached to another is in one of the tables. -/
def meets (tables : List (List (Nat × Nat))) (cs : List Char) : Bool :=
  match cs.dropWhile isAttached with
  | [] => false
  | c :: _ => tables.any (Text.inRanges · c)

/-- A joiner stands after a virama. One that keeps letters apart may also stand between letters that
would join. -/
def joinerAllowed (c : Char) (before after : List Char) : Bool :=
  before.head?.any (Text.inRanges viramaRanges) ||
    c == nonJoiner && meets [joiningAfterRanges, joiningBothRanges] before &&
      meets [joiningBeforeRanges, joiningBothRanges] after

def joinersAllowed (before : List Char) : List Char → Bool
  | [] => true
  | c :: after =>
    (c != nonJoiner && c != joiner || joinerAllowed c before after) &&
      joinersAllowed (c :: before) after

def startAllowed (label : List Char) : Bool :=
  !label.head?.any (Text.inRanges markRanges)

/-! ### Directions -/

inductive Direction where
  | left
  | right
  /-- Digits within text from right to left. -/
  | arabic
  /-- Digits within text of either direction. -/
  | european
  | attached
  | neutral
  deriving DecidableEq, Repr

def direction (c : Char) : Direction :=
  if Text.inRanges leftRanges c then .left
  else if Text.inRanges rightRanges c then .right
  else if Text.inRanges arabicRanges c then .arabic
  else if Text.inRanges europeanRanges c then .european
  else if isAttached c then .attached
  else .neutral

/-- Part of the label is written from right to left. -/
def turns (label : List Char) : Bool :=
  (label.map direction).any fun d => d == .right || d == .arabic

/-- The directions of a label agree: it has one direction, shown by its first character, and ends
with a letter or digit of that direction. Of digits it holds one kind only. -/
def directionsAgree (label : List Char) : Bool :=
  let ds := label.map direction
  let last := ds.reverse.find? (· != .attached)
  match ds.head? with
  | none => true
  | some .left =>
    ds.all (fun d => d != .right && d != .arabic) && (last == some .left || last == some .european)
  | some .right =>
    ds.all (· != .left) && !(ds.contains .arabic && ds.contains .european) &&
      (last == some .right || last == some .arabic || last == some .european)
  | some _ => false

/-! ### Labels of one name -/

def labelsAllowed (labels : List (List Char)) : Bool :=
  labels.all (fun label => startAllowed label && joinersAllowed [] label) &&
    (!labels.any turns || labels.all directionsAgree)

end Passcode.Web
