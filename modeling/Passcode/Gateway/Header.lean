import Passcode.Quota
import Passcode.Text.Blank
import Passcode.Text.Decimal

/-!
The counters that come as headers of a reply.
-/

set_option autoImplicit false

namespace Passcode.Gateway

abbrev Headers := List (String × String)

def phoneHeader : String := "x-ratelimit-remaining-phone"

def ipHeader : String := "x-ratelimit-remaining-ip"

/-- Two names that differ in the case of ASCII letters alone are the same header. -/
def sameName (a b : String) : Bool :=
  a.toList.map Char.toLower == b.toList.map Char.toLower

def header? (name : String) (headers : Headers) : Option String :=
  (headers.find? fun h => sameName h.1 name).map Prod.snd

def isVisible (c : Char) : Bool :=
  c == '\t' || (0x20 ≤ c.toNat && c.toNat ≤ 0x7E)

/-- A counter: visible text that is a number once it is trimmed. -/
def count? (value : String) : Option UInt32 :=
  if value.toList.all isVisible then Text.word32? (Text.trimChars value.toList) else none

/-- The counters of a reply; one that is missing or malformed is not reported. -/
def quotaOf (headers : Headers) : Quota where
  phone := (header? phoneHeader headers).bind count?
  ip := (header? ipHeader headers).bind count?

end Passcode.Gateway
