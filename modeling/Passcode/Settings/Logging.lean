import Passcode.Settings.Environment

/-!
What is logged and how it is laid out.
-/

set_option autoImplicit false

namespace Passcode.Settings

inductive LogFormat where
  | json
  | pretty
  | compact
  deriving DecidableEq, Repr

namespace LogFormat

def name : LogFormat → String
  | json => "json"
  | pretty => "pretty"
  | compact => "compact"

def words : List (String × LogFormat) :=
  [("json", json), ("pretty", pretty), ("compact", compact)]

def parse : String → Except UnknownWord LogFormat :=
  choose "log format" words

end LogFormat

structure Logging where
  /-- A level or a list of directives. -/
  level : String
  format : LogFormat := .pretty
  deriving DecidableEq, Repr

namespace Logging

/-- What is logged by default: the less, the closer to production. -/
def standard : Environment → Logging
  | .development => ⟨"debug", .pretty⟩
  | .staging => ⟨"info", .json⟩
  | .production => ⟨"warn", .json⟩

def ofVars (environment : Environment) (lookup : Lookup) : Logging where
  level :=
    ((lookup "LOG_LEVEL").bind fun s => nonempty? (Text.trim s)).getD (standard environment).level
  format :=
    ((lookup "LOG_FORMAT").bind fun s => (LogFormat.parse s).toOption).getD
      (standard environment).format

end Logging

end Passcode.Settings
