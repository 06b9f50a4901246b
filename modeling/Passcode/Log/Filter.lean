import Passcode.Log.Pattern
import Passcode.Settings.Logging

/-!
Filters for what is logged: directives between commas, each with a target, a span, a level or
several of these. Only their form is checked.
-/

set_option autoImplicit false

namespace Passcode.Log

def levelNames : List String := ["error", "warn", "info", "debug", "trace", "off"]

def isLevel (cs : List Char) : Bool :=
  match Text.unsigned? UInt64.size cs with
  | some n => n ≤ 5
  | none => levelNames.contains (String.ofList (cs.map Char.toLower))

/-! ### Fields -/

def isDecimal (cs : List Char) : Bool :=
  let mantissa := cs.takeWhile fun c => c ≠ 'e' ∧ c ≠ 'E'
  let whole := mantissa.takeWhile (· ≠ '.')
  let fraction := (mantissa.dropWhile (· ≠ '.')).drop 1
  let signed := (cs.dropWhile fun c => c ≠ 'e' ∧ c ≠ 'E').drop 1
  let power := if signed.head? = some '+' ∨ signed.head? = some '-' then signed.drop 1 else signed
  (whole ++ fraction).all Char.isDigit && !(whole ++ fraction).isEmpty &&
    (mantissa.length == cs.length || (Text.natural? power).isSome)

/-- A number with a plus sign; other numbers are patterns, too. -/
def isPlusNumber : List Char → Bool
  | '+' :: cs =>
    isDecimal cs || ["inf", "infinity", "nan"].contains (String.ofList (cs.map Char.toLower))
  | _ => false

/-- A field has a text; what it is compared with stands between the first two equals signs. -/
def fieldAllowed (cs : List Char) : Bool :=
  match Text.splitChars '=' cs with
  | _ :: value :: _ => Pattern.allowed value || isPlusNumber value
  | _ => !cs.isEmpty

/-! ### Directives -/

/-- Where in a directive a character stands. Texts are remembered by where they start. -/
inductive Place where
  | start
  | target
  | span
  | field (start : Nat)
  | fields
  | spanEnd
  | level (start : Nat)
  deriving DecidableEq, Repr

def slice (cs : List Char) (first last : Nat) : List Char :=
  (cs.drop first).take (last - first)

def Place.next? (text : List Char) (i : Nat) : Place → Char → Option Place
  | start, c =>
    if c = '[' then some span
    else if c = '-' ∨ c = ':' ∨ c = '_' ∨ Text.isAlphanumeric c then some target
    else none
  | target, c =>
    if c = '=' then some (level (i + 1)) else if c = '[' then some span else some target
  | span, c =>
    if c = ']' then some spanEnd else if c = '\x7b' then some (field (i + 1)) else some span
  | field first, c =>
    if c ≠ '\x7d' then some (field first)
    else if fieldAllowed (slice text first i) then some fields
    else none
  | fields, c => if c = ']' then some spanEnd else none
  | spanEnd, c => if c = '=' then some (level (i + 1)) else none
  | level first, _ => some (level first)

/-- A directive may end here. A level may be left out after its equals sign. -/
def Place.isEnd (text : List Char) : Place → Bool
  | target | spanEnd => true
  | level first => (text.drop first).isEmpty || isLevel (text.drop first)
  | _ => false

def walk (text : List Char) : Nat → Place → List Char → Option Place
  | _, place, [] => some place
  | i, place, c :: cs => do walk text (i + 1) (← place.next? text i c) cs

/-- Blanks around a directive are passed over, but the texts in it are counted from its very first
character. -/
def directiveAllowed (text : List Char) : Bool :=
  match walk text 0 .start (Text.trimChars text) with
  | some place => place.isEnd text
  | none => false

def filterAllowed (s : String) : Bool :=
  (Text.splitChars ',' s.toList).all fun cs => cs.isEmpty || directiveAllowed cs

/-! ### The filter of a program -/

def filterVariable : String := "RUST_LOG"

inductive FilterError where
  | invalidLevel
  | alreadyInstalled
  deriving DecidableEq, Repr

/-- A program has a filter if its variable or its settings hold one; the variable goes first. -/
def checkFilter (logging : Settings.Logging) (lookup : Settings.Lookup) :
    Except FilterError Unit :=
  if ((lookup filterVariable).map filterAllowed).getD false || filterAllowed logging.level then
    .ok ()
  else .error .invalidLevel

def install (installed : Bool) (logging : Settings.Logging) (lookup : Settings.Lookup) :
    Except FilterError Unit := do
  checkFilter logging lookup
  if installed then .error .alreadyInstalled

end Passcode.Log
