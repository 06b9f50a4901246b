import Passcode.Exchange
import Passcode.Problem
import Passcode.Text.Casing

/-!
What is known about one verification: the step it is at, what was typed, the countdown of the
current code and the last message.
-/

set_option autoImplicit false

namespace Passcode

inductive Step where
  /-- A phone number has to be given and a code sent to it. -/
  | awaitingPhone
  /-- A code was sent and has to be confirmed. -/
  | awaitingCode
  deriving DecidableEq, Repr

inductive Notice where
  | sent (channel maskedPhone : String)
  | verified
  deriving DecidableEq, Repr

def Notice.text : Notice → String
  | sent channel maskedPhone => "OTP sent via " ++ Text.upper channel ++ " to " ++ maskedPhone
  | verified => "Phone number verified successfully!"

namespace Countdown

def defaultTtl : UInt32 := 300

/-- Seconds that have to pass before a code of that validity may be sent again. -/
def cooldown : UInt32 := 60

def resendThreshold : UInt32 := defaultTtl - cooldown

end Countdown

/-- The initial state has nothing typed, no request and no messages. -/
structure State where
  step : Step := .awaitingPhone
  phone : String := ""
  code : String := ""
  /-- The request that a code would confirm; empty before the first. -/
  requestId : String := ""
  /-- Seconds left for the current code. -/
  ttl : UInt32 := 0
  /-- Attempts left for the current code, as last reported. -/
  attemptsLeft : Option UInt32 := none
  problem : Option Problem := none
  notice : Option Notice := none
  quota : Quota := {}
  deriving DecidableEq, Repr

namespace State

def resendAllowed (s : State) : Bool :=
  s.ttl ≤ Countdown.resendThreshold

def resendAvailableIn (s : State) : UInt32 :=
  if s.ttl ≤ Countdown.resendThreshold then 0 else s.ttl - Countdown.resendThreshold

def codeExpired (s : State) : Bool :=
  s.step == .awaitingCode && s.ttl == 0

def clearMessages (s : State) : State :=
  { s with problem := none, notice := none }

def tick (s : State) : State :=
  { s with ttl := if s.ttl = 0 then 0 else s.ttl - 1 }

/-- The request is used up. Only the phone number and the messages stay. -/
def restart (s : State) : State :=
  { phone := s.phone, problem := s.problem, notice := s.notice }

def sent (s : State) (phone : String) (receipt : SendReceipt) : State :=
  { s with
    step := .awaitingCode
    phone
    code := ""
    requestId := receipt.requestId
    ttl := receipt.ttl
    attemptsLeft := none
    notice := some (.sent receipt.channel receipt.maskedPhone)
    quota := s.quota.observe receipt.quota }

end State

end Passcode
