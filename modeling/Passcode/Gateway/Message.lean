import Passcode.Gateway.Header
import Passcode.Text.Blank

/-!
What goes over the network to the service and what comes back.
-/

set_option autoImplicit false

namespace Passcode.Gateway

structure Post where
  method : String := "POST"
  target : String
  contentType : String := "application/json"
  body : String
  deriving DecidableEq, Repr

structure Reply where
  status : Nat
  headers : Headers := []
  /-- The text that the bytes stand for in the encoding that the reply names. -/
  body : String := ""
  deriving DecidableEq, Repr

namespace Reply

/-- A status that ends an exchange. Others below 200 only announce a reply, and none has more than
three digits. -/
def isFinal (r : Reply) : Bool :=
  r.status == 101 || (200 ≤ r.status && r.status ≤ 999)

def isSuccess (r : Reply) : Bool :=
  200 ≤ r.status && r.status ≤ 299

/-- The body as it is read, less a mark of the encoding. Some statuses come without one. -/
def text (r : Reply) : String :=
  if [101, 204, 304].contains r.status then "" else String.ofList (Text.withoutMark r.body.toList)

end Reply

end Passcode.Gateway
