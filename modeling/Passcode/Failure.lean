/-!
What goes wrong between a session and its service, as the service reports it.
-/

set_option autoImplicit false

namespace Passcode

structure ErrorBody where
  code : String
  message : String := ""
  deriving DecidableEq, Repr

/-- A call to the service that gave no usable answer. -/
inductive Failure where
  /-- No answer of the service was received or understood. -/
  | network (detail : String)
  | rejected (body : ErrorBody)
  deriving DecidableEq, Repr

def Failure.display : Failure → String
  | .network detail => "Network failure: " ++ detail
  | .rejected body => "Service rejected request: " ++ body.message ++ " (" ++ body.code ++ ")"

/-! Codes with a meaning of their own. -/

namespace ResultCode

def success : String := "0"
def invalidPhone : String := "2005"
def expired : String := "10006"
def verificationFailed : String := "10007"
def attemptsExceeded : String := "10008"
def sendFailed : String := "10009"
def rateLimited : String := "10010"

end ResultCode

end Passcode
