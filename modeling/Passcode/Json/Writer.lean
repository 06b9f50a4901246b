import Passcode.Json.Value
import Passcode.Text.Decimal
import Passcode.Text.Hex

/-!
JSON text without blanks. Only quotation marks, backslashes and control characters are escaped.
-/

set_option autoImplicit false

namespace Passcode.Json

def escape (c : Char) : List Char :=
  if c = '"' then ['\\', '"']
  else if c = '\\' then ['\\', '\\']
  else if c = '\x08' then ['\\', 'b']
  else if c = '\x0c' then ['\\', 'f']
  else if c = '\n' then ['\\', 'n']
  else if c = '\x0d' then ['\\', 'r']
  else if c = '\t' then ['\\', 't']
  else if c.toNat < 0x20 then
    ['\\', 'u', '0', '0', Text.hexDigit (c.toNat / 16), Text.hexDigit (c.toNat % 16)]
  else [c]

def writeText (s : String) : List Char :=
  '"' :: (s.toList.flatMap escape ++ ['"'])

/-- A text that is not proper Unicode, and a number whose value is not known, have no written
form of their own and are written as `null`. -/
def nullText : List Char := ['n', 'u', 'l', 'l']

def writeKey : Option String → List Char
  | some s => writeText s
  | none => nullText

mutual

def write : Json → List Char
  | null => nullText
  | bool true => ['t', 'r', 'u', 'e']
  | bool false => ['f', 'a', 'l', 's', 'e']
  | natural n => Text.decimalDigits n
  | otherNumber => nullText
  | text (some s) => writeText s
  | text none => nullText
  | array [] => ['[', ']']
  | array (item :: items) => '[' :: (write item ++ writeItems items)
  | object [] => ['{', '}']
  | object ((key, value) :: members) =>
    '{' :: (writeKey key ++ ':' :: (write value ++ writeMembers members))

def writeItems : List Json → List Char
  | [] => [']']
  | item :: items => ',' :: (write item ++ writeItems items)

def writeMembers : List (Option String × Json) → List Char
  | [] => ['}']
  | (key, value) :: members =>
    ',' :: (writeKey key ++ ':' :: (write value ++ writeMembers members))

end

def render (j : Json) : String :=
  String.ofList j.write

end Passcode.Json
