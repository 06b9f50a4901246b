import Passcode.Failure
import Passcode.Text.Blank

/-!
What a user is told when a step of the verification fails. `Problem.ofFailure` is the only place
where the two codes that end a request are recognised.
-/

set_option autoImplicit false

namespace Passcode

inductive Problem where
  | invalidPhone
  | invalidCode
  /-- A code was submitted before one was requested. -/
  | codeNotRequested
  | network
  /-- The service's own code and message. -/
  | rejected (code message : String)
  | expired
  | attemptsExceeded
  deriving DecidableEq, Repr

namespace Problem

inductive Kind where
  | invalidPhone
  | invalidCode
  | networkFailure
  | serviceRejected
  | expired
  | attemptsExceeded
  deriving DecidableEq, Repr

def kind : Problem → Kind
  | invalidPhone => .invalidPhone
  | invalidCode | codeNotRequested => .invalidCode
  | network => .networkFailure
  | rejected _ _ => .serviceRejected
  | expired => .expired
  | attemptsExceeded => .attemptsExceeded

def message : Problem → String
  | invalidPhone => "Please enter a valid Vietnam phone number (e.g., 0912345678)"
  | invalidCode => "Please enter a 6-digit OTP code"
  | codeNotRequested => "Please request an OTP before verifying"
  | network => "Network error. Please try again."
  | rejected _ message => message
  | expired => "OTP expired. Please request a new one."
  | attemptsExceeded => "Too many failed attempts. Please request a new OTP."

def serviceCode : Problem → Option String
  | rejected code _ => some code
  | _ => none

/-- The request is used up and a new code has to be sent. -/
def forcesRestart : Problem → Bool
  | expired | attemptsExceeded => true
  | _ => false

/-- Found without asking the service. -/
def isLocal : Problem → Bool
  | invalidPhone | invalidCode | codeNotRequested => true
  | _ => false

def sendFailedMessage : String := "Failed to send OTP"

def verifyFailedMessage : String := "Failed to verify OTP"

/-- What a failure of the service means to the user; `fallback` replaces a message that shows
nothing. -/
def ofFailure (fallback : String) : Failure → Problem
  | .network _ => network
  | .rejected body =>
    if body.code = ResultCode.expired then expired
    else if body.code = ResultCode.attemptsExceeded then attemptsExceeded
    else rejected body.code (Text.orElse body.message fallback)

end Problem

end Passcode
