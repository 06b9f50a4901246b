import Passcode.Gateway.Message
import Passcode.Web.Url
import Passcode.Wire.Exchange

/-!
The service behind an HTTP interface. Every body is an envelope, and the counters of a send come as
headers of its reply.
-/

set_option autoImplicit false

namespace Passcode.Gateway

/-! ### What a reply means -/

def unreachable : Failure :=
  .network "transport"

def unreadable : Failure :=
  .network "invalid response body"

def withoutData : Failure :=
  .network "response body carried no data"

/-- A reply read as a refusal; its status stands in for a body that cannot be read. -/
def refusal (r : Reply) : ErrorBody :=
  (Wire.decode? r.text).getD ⟨Text.decimal r.status, ""⟩

def payload {α : Type} [Wire α] (r : Reply) : Except Failure α :=
  match (Wire.decode? r.text : Option (Envelope α)) with
  | none => .error unreadable
  | some e =>
    if !e.isSuccess then .error (.rejected e.errorBody)
    else match e.data with
      | none => .error withoutData
      | some x => .ok x

def receipt (r : Reply) : Except Failure SendReceipt :=
  if r.isSuccess then
    (payload r).map fun x : SendReceipt => { x with quota := quotaOf r.headers }
  else .error (.rejected (refusal r))

/-- A wrong code is answered as a bad request that carries the verdict. -/
def wrongCode? (r : Reply) : Option Verdict := do
  let e : Envelope Verdict ← Wire.decode? r.text
  if r.status = 400 ∧ e.code = ResultCode.verificationFailed then e.data else none

def verdict (r : Reply) : Except Failure Verdict :=
  match wrongCode? r with
  | some v => .ok v
  | none => if r.isSuccess then payload r else .error (.rejected (refusal r))

/-! ### The service -/

def sendPath : String := "/otp/send"

def verifyPath : String := "/otp/verify"

/-- What the paths are appended to: a URL less the slashes at its end. -/
def baseOf (url : String) : String :=
  Text.withoutTrailing '/' url

def target? (base path : String) : Option String := do
  let url ← Web.Url.parse? (baseOf base ++ path)
  if url.scheme = "http" ∨ url.scheme = "https" then some url.target else none

def exchange {α : Type} (base path body : String) (reply : Option Reply)
    (meaning : Reply → Except Failure α) (posts : List Post) : Except Failure α × List Post :=
  match target? base path with
  | none => (.error unreachable, posts)
  | some target =>
    let posts := posts ++ [{ target, body }]
    match reply.filter Reply.isFinal with
    | none => (.error unreachable, posts)
    | some r => (meaning r, posts)

/-- The service at a base URL, for one call that gets the given reply. -/
def service (base : String) (reply : Option Reply) : Service (List Post) where
  name := "http"
  send request posts :=
    (exchange base sendPath (Wire.encode request) reply receipt posts).map some id
  verify request := exchange base verifyPath (Wire.encode request) reply verdict

end Passcode.Gateway
