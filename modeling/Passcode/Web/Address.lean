import Passcode.Text.Decimal
import Passcode.Text.Hex
import Passcode.Text.Split

/-!
Numeric addresses of hosts: four bytes between dots, each in one of three bases, or eight
sixteen-bit units between colons.
-/

set_option autoImplicit false

namespace Passcode.Web

/-! ### Four bytes -/

def numeral? (base : Nat) (cs : List Char) : Option Nat :=
  cs.foldl
    (fun n c => do
      let d ← Text.hexValue? c
      if d < base then return base * (← n) + d else none)
    (some 0)

/-- A part of an address: hexadecimal after `0x`, octal after `0`, decimal otherwise. -/
def part? : List Char → Option Nat
  | [] => none
  | '0' :: 'x' :: cs => numeral? 16 cs
  | '0' :: 'X' :: cs => numeral? 16 cs
  | '0' :: c :: cs => numeral? 8 (c :: cs)
  | cs => numeral? 10 cs

def dottedParts (cs : List Char) : List (List Char) :=
  let parts := Text.splitChars '.' cs
  if 1 < parts.length ∧ parts.getLast? = some [] then parts.dropLast else parts

/-- Some name servers read such a name as an address, so it has to be one. -/
def endsInNumber (cs : List Char) : Bool :=
  match (dottedParts cs).getLast? with
  | none => false
  | some last => (!last.isEmpty && last.all Char.isDigit) || (part? last).isSome

/-- An address of up to four parts. Each is a byte but the last, which fills what is left. -/
def address4? (cs : List Char) : Option Nat := do
  let parts ← (dottedParts cs).mapM part?
  let last ← parts.getLast?
  let bytes := parts.dropLast
  if 4 < parts.length ∨ bytes.any (255 < ·) ∨ Nat.pow 256 (4 - bytes.length) ≤ last then none
  else some (bytes.foldl (fun n b => 256 * n + b) 0 * Nat.pow 256 (4 - bytes.length) + last)

/-! ### Eight units -/

def plainByte? (cs : List Char) : Option Nat := do
  let n ← Text.natural? cs
  if n ≤ 255 ∧ Text.decimalDigits n = cs then some n else none

def dottedUnits? (cs : List Char) : Option (List Nat) := do
  match ← (Text.splitChars '.' cs).mapM plainByte? with
  | [a, b, c, d] => some [256 * a + b, 256 * c + d]
  | _ => none

def unit? (cs : List Char) : Option Nat :=
  if cs.isEmpty ∨ 4 < cs.length then none else numeral? 16 cs

/-- The units between colons; the last two may be written as four bytes where that is allowed. -/
def units? (dotted : Bool) (cs : List Char) : Option (List Nat) :=
  if cs.isEmpty then some []
  else do
    let groups := Text.splitChars ':' cs
    let last ← groups.getLast?
    let init ← groups.dropLast.mapM unit?
    if dotted && last.contains '.' then return init ++ (← dottedUnits? last)
    else return init ++ [← unit? last]

def cutColons : List Char → Option (List Char × List Char)
  | ':' :: ':' :: cs => some ([], cs)
  | c :: cs => (cutColons cs).map fun r => (c :: r.1, r.2)
  | [] => none

/-- An address of eight units, of which a run of zeros may be left out between two colons. -/
def address6? (cs : List Char) : Option (List Nat) :=
  match cutColons cs with
  | none => (units? true cs).filter (·.length = 8)
  | some (before, after) => do
    let high ← units? false before
    let low ← units? true after
    if high.length + low.length < 8 then
      some (high ++ List.replicate (8 - (high.length + low.length)) 0 ++ low)
    else none

end Passcode.Web
