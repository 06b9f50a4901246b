import Passcode.Text.Blank
import Passcode.Text.Casing

/-!
Settings that are one word of a fixed list. Blanks around the word and the case of ASCII letters do
not matter.
-/

set_option autoImplicit false

namespace Passcode.Settings

abbrev Lookup := String → Option String

def nonempty? (s : String) : Option String :=
  if s.isEmpty then none else some s

/-- A word that is not on the list. -/
structure UnknownWord where
  /-- What the list is of. -/
  kind : String
  word : String
  deriving DecidableEq, Repr

def UnknownWord.message (e : UnknownWord) : String :=
  "unknown " ++ e.kind ++ " '" ++ e.word ++ "'"

def wordOf (s : String) : String :=
  Text.lowerAscii (Text.trim s)

def choose {α : Type} (kind : String) (words : List (String × α)) (s : String) :
    Except UnknownWord α :=
  match words.lookup (wordOf s) with
  | some x => .ok x
  | none => .error ⟨kind, wordOf s⟩

end Passcode.Settings
