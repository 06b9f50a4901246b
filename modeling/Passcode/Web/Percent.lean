import Passcode.Text.Hex

/-!
Percent encoding: a byte may be written as a percent sign and two hexadecimal digits.
-/

set_option autoImplicit false

namespace Passcode.Web

/-- The bytes that a text stands for. A percent sign without two digits stands for itself. -/
def percentDecode : List Char → List UInt8
  | [] => []
  | '%' :: a :: b :: cs =>
    match Text.hexValue? a, Text.hexValue? b with
    | some high, some low => UInt8.ofNat (16 * high + low) :: percentDecode cs
    | _, _ => String.utf8EncodeChar '%' ++ percentDecode (a :: b :: cs)
  | c :: cs => String.utf8EncodeChar c ++ percentDecode cs

def textOfBytes? (bytes : List UInt8) : Option (List Char) :=
  (String.fromUTF8? ⟨bytes.toArray⟩).map String.toList

def percentByte (b : UInt8) : List Char :=
  ['%', (Text.hexDigit (b.toNat / 16)).toUpper, (Text.hexDigit (b.toNat % 16)).toUpper]

def isUnprintable (c : Char) : Bool :=
  c.toNat < 0x20 || 0x7E < c.toNat

def percentEncode (reserved cs : List Char) : List Char :=
  cs.flatMap fun c =>
    if isUnprintable c || reserved.contains c then
      (String.utf8EncodeChar c).flatMap percentByte
    else [c]

end Passcode.Web
