/-!
Unsigned numbers in decimal. Reading allows one plus sign and any number of leading zeros;
writing gives the shortest form.
-/

set_option autoImplicit false

namespace Passcode.Text

def digitValue (c : Char) : Nat :=
  c.toNat - '0'.toNat

def valueOf (cs : List Char) : Nat :=
  cs.foldl (fun n c => 10 * n + digitValue c) 0

/-- Reads a text of one or more digits and nothing else. -/
def natural? (cs : List Char) : Option Nat :=
  if cs.isEmpty || !cs.all Char.isDigit then none else some (valueOf cs)

def withoutPlus : List Char → List Char
  | '+' :: cs => cs
  | cs => cs

/-- Reads a number below `bound`, with or without a plus sign. -/
def unsigned? (bound : Nat) (cs : List Char) : Option Nat :=
  (natural? (withoutPlus cs)).filter (· < bound)

def word32? (cs : List Char) : Option UInt32 :=
  (unsigned? UInt32.size cs).map UInt32.ofNat

def word64? (cs : List Char) : Option UInt64 :=
  (unsigned? UInt64.size cs).map UInt64.ofNat

def digitChar (n : Nat) : Char :=
  Char.ofNat ('0'.toNat + n % 10)

def decimalDigits (n : Nat) : List Char :=
  if n < 10 then [digitChar n] else decimalDigits (n / 10) ++ [digitChar n]

def decimal (n : Nat) : String :=
  String.ofList (decimalDigits n)

/-- The last `width` decimal digits of `n`, with leading zeros. -/
def fixedDigits : Nat → Nat → List Char
  | 0, _ => []
  | width + 1, n => fixedDigits width (n / 10) ++ [digitChar n]

end Passcode.Text
