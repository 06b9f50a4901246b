import Passcode.Json.Value
import Passcode.Text.Decimal
import Passcode.Text.Hex

/-!
Reading JSON text. Blanks are the four of the format; nothing may follow the value. A reader takes
what it needs from the front of the remaining characters and returns the rest.
-/

set_option autoImplicit false

namespace Passcode.Json

def isSpace (c : Char) : Bool :=
  c == ' ' || c == '\t' || c == '\n' || c == '\x0d'

def skipSpace (cs : List Char) : List Char :=
  cs.dropWhile isSpace

def expect? : List Char → List Char → Option (List Char)
  | [], cs => some cs
  | _ :: _, [] => none
  | w :: word, c :: cs => if w = c then expect? word cs else none

/-! ### Texts -/

def hex4? (a b c d : Char) : Option Nat := do
  let a ← Text.hexValue? a
  let b ← Text.hexValue? b
  let c ← Text.hexValue? c
  let d ← Text.hexValue? d
  return ((a * 16 + b) * 16 + c) * 16 + d

/-- What stands between quotation marks, piece by piece. -/
inductive Piece where
  | char (c : Char)
  /-- A sixteen-bit unit given by its number. -/
  | unit (u : Nat)

def shortEscape? (c : Char) : Option Char :=
  if c = '"' ∨ c = '\\' ∨ c = '/' then some c
  else if c = 'b' then some '\x08'
  else if c = 'f' then some '\x0c'
  else if c = 'n' then some '\n'
  else if c = 'r' then some '\x0d'
  else if c = 't' then some '\t'
  else none

/-- The pieces up to the closing quotation mark. Control characters have to be escaped. -/
def scanPieces : List Char → Option (List Piece × List Char)
  | [] => none
  | '"' :: cs => some ([], cs)
  | '\\' :: 'u' :: a :: b :: c :: d :: cs => do
    let u ← hex4? a b c d
    let (pieces, rest) ← scanPieces cs
    return (.unit u :: pieces, rest)
  | '\\' :: c :: cs => do
    let c ← shortEscape? c
    let (pieces, rest) ← scanPieces cs
    return (.char c :: pieces, rest)
  | c :: cs =>
    if c.toNat < 0x20 ∨ c = '\\' then none
    else do
      let (pieces, rest) ← scanPieces cs
      return (.char c :: pieces, rest)

def isHighUnit (u : Nat) : Bool := 0xD800 ≤ u && u ≤ 0xDBFF

def isLowUnit (u : Nat) : Bool := 0xDC00 ≤ u && u ≤ 0xDFFF

/-- The characters that the pieces spell; a high unit has to be followed by a low one. -/
def joinPieces : List Piece → Option (List Char)
  | [] => some []
  | .char c :: pieces => (joinPieces pieces).map (c :: ·)
  | .unit u :: .unit v :: pieces =>
    if isHighUnit u then
      if isLowUnit v then
        (joinPieces pieces).map (Char.ofNat (0x10000 + (u - 0xD800) * 0x400 + (v - 0xDC00)) :: ·)
      else none
    else if isLowUnit u then none
    else (joinPieces (.unit v :: pieces)).map (Char.ofNat u :: ·)
  | .unit u :: pieces =>
    if isHighUnit u ∨ isLowUnit u then none
    else (joinPieces pieces).map (Char.ofNat u :: ·)

def scanText (cs : List Char) : Option (Option String × List Char) := do
  let (pieces, rest) ← scanPieces cs
  return ((joinPieces pieces).map String.ofList, rest)

/-! ### Numbers -/

def someDigits? (cs : List Char) : Option (List Char × List Char) :=
  let digits := cs.takeWhile Char.isDigit
  if digits.isEmpty then none else some (digits, cs.dropWhile Char.isDigit)

/-- A whole number: a zero alone, or digits that do not start with one. -/
def wholePart? (cs : List Char) : Option (List Char × List Char) := do
  let (digits, rest) ← someDigits? cs
  if digits.head? = some '0' ∧ digits.length ≠ 1 then none else some (digits, rest)

/-- Passes over a fraction, if there is one; `true` if there was. -/
def skipFraction : List Char → Option (Bool × List Char)
  | '.' :: cs => (someDigits? cs).map fun r => (true, r.2)
  | cs => some (false, cs)

def skipSign : List Char → List Char
  | '+' :: cs => cs
  | '-' :: cs => cs
  | cs => cs

def skipExponent : List Char → Option (Bool × List Char)
  | c :: cs =>
    if c = 'e' ∨ c = 'E' then (someDigits? (skipSign cs)).map fun r => (true, r.2)
    else some (false, c :: cs)
  | [] => some (false, [])

def scanUnsigned (cs : List Char) : Option (Json × List Char) := do
  let (digits, rest) ← wholePart? cs
  let (fraction, rest) ← skipFraction rest
  let (exponent, rest) ← skipExponent rest
  return (if fraction || exponent then .otherNumber else .natural (Text.valueOf digits), rest)

/-! ### Values -/

mutual

/-- A value at the front of the remaining characters. Each step of the reader uses up one unit of
fuel and at least one character. -/
def scanValue : Nat → List Char → Option (Json × List Char)
  | 0, _ => none
  | fuel + 1, cs =>
    match skipSpace cs with
    | 'n' :: cs => (expect? ['u', 'l', 'l'] cs).map fun rest => (.null, rest)
    | 't' :: cs => (expect? ['r', 'u', 'e'] cs).map fun rest => (.bool true, rest)
    | 'f' :: cs => (expect? ['a', 'l', 's', 'e'] cs).map fun rest => (.bool false, rest)
    | '"' :: cs => (scanText cs).map fun r => (.text r.1, r.2)
    | '-' :: cs => (scanUnsigned cs).map fun r => (.otherNumber, r.2)
    | '[' :: cs =>
      match skipSpace cs with
      | ']' :: rest => some (.array [], rest)
      | _ => (scanItems fuel cs).map fun r => (.array r.1, r.2)
    | '{' :: cs =>
      match skipSpace cs with
      | '}' :: rest => some (.object [], rest)
      | _ => (scanMembers fuel cs).map fun r => (.object r.1, r.2)
    | cs => scanUnsigned cs

def scanItems : Nat → List Char → Option (List Json × List Char)
  | 0, _ => none
  | fuel + 1, cs => do
    let (item, rest) ← scanValue fuel cs
    match skipSpace rest with
    | ',' :: rest =>
      let (items, rest) ← scanItems fuel rest
      return (item :: items, rest)
    | ']' :: rest => return ([item], rest)
    | _ => none

def scanMembers : Nat → List Char → Option (List (Option String × Json) × List Char)
  | 0, _ => none
  | fuel + 1, cs =>
    match skipSpace cs with
    | '"' :: rest => do
      let (key, rest) ← scanText rest
      match skipSpace rest with
      | ':' :: rest =>
        let (value, rest) ← scanValue fuel rest
        match skipSpace rest with
        | ',' :: rest =>
          let (members, rest) ← scanMembers fuel rest
          return ((key, value) :: members, rest)
        | '}' :: rest => return ([(key, value)], rest)
        | _ => none
      | _ => none
    | _ => none

end

def read? (s : String) : Option Json := do
  let cs := s.toList
  let (j, rest) ← scanValue (cs.length + 1) cs
  if (skipSpace rest).isEmpty then some j else none

end Passcode.Json
