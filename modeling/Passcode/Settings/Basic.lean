import Passcode.Settings.Client
import Passcode.Settings.Logging

/-!
All settings of a program.
-/

set_option autoImplicit false

namespace Passcode

structure Settings where
  environment : Settings.Environment := .development
  client : Settings.Client := {}
  logging : Settings.Logging := .standard .development
  deriving DecidableEq, Repr

/-- The settings in the variables; the environment decides what is logged by default. -/
def Settings.ofVars (lookup : Settings.Lookup) : Settings :=
  let environment := Settings.Environment.ofVars lookup
  { environment
    client := .ofVars lookup
    logging := .ofVars environment lookup }

end Passcode
