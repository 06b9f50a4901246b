import Passcode.Settings.Client

/-!
Which kind of service the settings ask for.
-/

set_option autoImplicit false

namespace Passcode.Settings

inductive Provider where
  /-- A service behind an HTTP interface. -/
  | gateway
  /-- A service held in memory. -/
  | issuer
  deriving DecidableEq, Repr

/-- The service that the settings name; one that is not known is held in memory. -/
def Client.providerKind (c : Client) : Provider :=
  if c.provider = "http" then .gateway else .issuer

end Passcode.Settings
