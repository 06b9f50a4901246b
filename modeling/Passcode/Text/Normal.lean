import Passcode.Text.Normal.Table

/-!
The composed form of a text: every character that can be put together from those before and the
marks behind it is, and the marks that are left are in order.
-/

set_option autoImplicit false

namespace Passcode.Text

/-- Marks of different classes change places freely, those of one class do not. -/
def classOf (c : Char) : Nat :=
  ((classRuns.find? fun r => r.1 ≤ c.toNat && c.toNat ≤ r.2.1).map (·.2.2)).getD 0

/-! ### Taking apart -/

/-- The first syllable of Hangul; the others follow, for each initial and each vowel one with every
final or without. -/
def hangul : Nat := 0xAC00

def finals : Nat := 28

def syllables : Nat := 19 * 21 * finals

def jamo (index : Nat) : List Nat :=
  let final := index % finals
  [0x1100 + index / (21 * finals), 0x1161 + index / finals % 21] ++
    if final = 0 then [] else [0x11A7 + final]

def parts (c : Char) : List Char :=
  if hangul ≤ c.toNat && c.toNat < hangul + syllables then
    (jamo (c.toNat - hangul)).map Char.ofNat
  else match composites.find? (·.1 == c.toNat) with
    | some (_, parts) => parts.map Char.ofNat
    | none => [c]

/-- Puts a character in front, behind the marks of a lower class if it is a mark itself. -/
def place (c : Char) : List Char → List Char
  | [] => [c]
  | d :: ds => if 0 < classOf d && classOf d < classOf c then d :: place c ds else c :: d :: ds

def takeApart (cs : List Char) : List Char :=
  (cs.flatMap parts).foldr place []

/-! ### Putting together -/

def join? (c d : Char) : Option Char :=
  let whole := parts c ++ [d]
  match whole.map Char.toNat with
  | [initial, vowel] =>
    if 0x1100 ≤ initial && initial < 0x1113 && 0x1161 ≤ vowel && vowel < 0x1176 then
      some (Char.ofNat (hangul + ((initial - 0x1100) * 21 + (vowel - 0x1161)) * finals))
    else listed whole
  | [_, _, final] =>
    if hangul ≤ c.toNat && c.toNat < hangul + syllables && 0x11A8 ≤ final && final < 0x11C3 then
      some (Char.ofNat (c.toNat + (final - 0x11A7)))
    else listed whole
  | _ => listed whole
where
  listed (whole : List Char) : Option Char :=
    (composites.find? (·.2 == whole.map Char.toNat)).map fun e => Char.ofNat e.1

/-- Joins a starting character with what follows, as far as it goes. The reversed marks `passed`
stand between them; one that is not of a lower class keeps the next character away. -/
def putTogether (start : Char) (passed : List Char) : List Char → List Char
  | [] => start :: passed.reverse
  | c :: cs =>
    let reached := passed.head?.all fun mark => classOf mark < classOf c
    match if reached then join? start c else none with
    | some joined => putTogether joined passed cs
    | none =>
      if classOf c = 0 then start :: passed.reverse ++ putTogether c [] cs
      else putTogether start (c :: passed) cs

def compose (cs : List Char) : List Char :=
  let apart := takeApart cs
  let marks := apart.takeWhile (0 < classOf ·)
  match apart.drop marks.length with
  | [] => marks
  | c :: rest => marks ++ putTogether c [] rest

/-- The text is in its composed form. -/
def isComposed (cs : List Char) : Bool :=
  compose cs == cs

end Passcode.Text
