import Passcode.Text.Casing.Table
import Passcode.Text.Ranges

/-!
Lower and upper case of whole texts. One character may become several, and the lower case of a
capital sigma depends on the letters around it.
-/

set_option autoImplicit false

namespace Passcode.Text

def CaseRun.covers (r : CaseRun) (n : Nat) : Bool :=
  r.first ≤ n && n ≤ r.last && (n - r.first) % r.step == 0

/-- The image of `c` in a table of expansions and runs; `c` itself where neither has it. -/
def caseImage (expansions : List (Nat × List Nat)) (runs : List CaseRun) (c : Char) : List Char :=
  match expansions.find? (·.1 == c.toNat) with
  | some (_, image) => image.map Char.ofNat
  | none =>
    match runs.find? (·.covers c.toNat) with
    | some r => [Char.ofNat (r.image + (c.toNat - r.first))]
    | none => [c]

def lowerChar (c : Char) : List Char :=
  caseImage lowerExpansions lowerRuns c

def upperChar (c : Char) : List Char :=
  caseImage upperExpansions upperRuns c

def isCased (c : Char) : Bool :=
  inRanges casedRanges c

def isCaseIgnorable (c : Char) : Bool :=
  inRanges caseIgnorableRanges c

/-- The first character that is not ignored is a cased one. -/
def meetsCased (cs : List Char) : Bool :=
  match cs.dropWhile isCaseIgnorable with
  | [] => false
  | c :: _ => isCased c

/-- Lower case of what follows the reversed text `before`. A capital sigma becomes a final one
where a word ends: a cased letter before it and none after. -/
def lowerFrom (before : List Char) : List Char → List Char
  | [] => []
  | c :: rest =>
    if c = 'Σ' then
      (if meetsCased before && !meetsCased rest then 'ς' else 'σ') :: lowerFrom (c :: before) rest
    else
      lowerChar c ++ lowerFrom (c :: before) rest

def lowerChars (cs : List Char) : List Char :=
  lowerFrom [] cs

def lower (s : String) : String :=
  String.ofList (lowerChars s.toList)

def upper (s : String) : String :=
  String.ofList (s.toList.flatMap upperChar)

def lowerAscii (s : String) : String :=
  String.ofList (s.toList.map Char.toLower)

end Passcode.Text
