import Passcode.Settings.Word

/-!
The environment a program runs in.
-/

set_option autoImplicit false

namespace Passcode.Settings

inductive Environment where
  | development
  | staging
  | production
  deriving DecidableEq, Repr

namespace Environment

def name : Environment → String
  | development => "development"
  | staging => "staging"
  | production => "production"

def words : List (String × Environment) := [
  ("development", development), ("dev", development), ("local", development),
  ("staging", staging), ("stage", staging), ("test", staging),
  ("production", production), ("prod", production)]

def parse : String → Except UnknownWord Environment :=
  choose "environment" words

def isProduction (e : Environment) : Bool :=
  e == production

def fileName (e : Environment) : String :=
  ".env." ++ e.name

/-- The variables that may name the environment; the first that is set decides. -/
def variableNames : List String := ["ENVIRONMENT", "ENV", "RUST_ENV"]

/-- The environment that is named; development where none is, or no known one. -/
def ofVars (lookup : Lookup) : Environment :=
  match (variableNames.findSome? lookup).map parse with
  | some (.ok e) => e
  | _ => development

end Environment

end Passcode.Settings
