import Passcode.Code
import Passcode.Phone
import Passcode.Session.State

/-!
A verification session as a transition system. A call has two halves: starting it may hand a
request to the service, and the service's answer, or the caller's loss of interest, ends it. Between
the halves the session is busy. A reset moves the session to a new epoch, and whatever is still
outstanding from an older epoch can no longer touch it.
-/

set_option autoImplicit false

namespace Passcode

structure Session where
  /-- Channels to ask for, in order. -/
  channels : List String := []
  state : State := {}
  /-- The epoch of the call that holds the session, while one is outstanding. -/
  pending : Option UInt64 := none
  epoch : UInt64 := 0
  deriving DecidableEq, Repr

inductive Ignored where
  | busy
  | coolingDown
  /-- The session was reset while the request was outstanding. -/
  | stale
  deriving DecidableEq, Repr

inductive Outcome where
  | sent
  | verified
  /-- The service did not accept the code. -/
  | rejected (attemptsLeft : Option UInt32)
  | ignored (why : Ignored)
  | failed (problem : Problem)
  deriving DecidableEq, Repr

/-- A request in the hands of the service, with the epoch it was made in. -/
structure Call (ρ : Type) where
  epoch : UInt64
  request : ρ
  deriving DecidableEq, Repr

inductive Start (ρ : Type) where
  | ended (outcome : Outcome)
  | asked (call : Call ρ)
  deriving DecidableEq, Repr

namespace Session

/-- A call is outstanding that no reset has superseded. -/
def busy (s : Session) : Bool :=
  s.pending.isSome

/-! ### Typing, time and reset -/

/-- A typed phone number is stored only where one is awaited and nothing is outstanding. -/
def typePhone (s : Session) (raw : String) : Session :=
  if !s.busy && s.state.step == .awaitingPhone then
    { s with state := { s.state with phone := Phone.normalize raw } }
  else s

def typeCode (s : Session) (raw : String) : Session :=
  if !s.busy then { s with state := { s.state with code := Code.normalize raw } } else s

def tick (s : Session) : Session :=
  { s with state := s.state.tick }

def reset (s : Session) : Session :=
  { s with state := {}, pending := none, epoch := s.epoch + 1 }

/-! ### Starting a call -/

/-- Every action that is not ignored forgets the messages first. -/
def clearMessages (s : Session) : Session :=
  { s with state := s.state.clearMessages }

def withCode (s : Session) (code : String) : Session :=
  { s with state := { s.state with code } }

def fail (s : Session) (problem : Problem) : Session × Outcome :=
  ({ s with state := { s.state with problem := some problem } }, .failed problem)

def refuse {ρ : Type} (s : Session) (problem : Problem) : Session × Start ρ :=
  ((s.fail problem).1, .ended (.failed problem))

def ask {ρ : Type} (s : Session) (request : ρ) : Session × Start ρ :=
  ({ s with pending := some s.epoch }, .asked ⟨s.epoch, request⟩)

def requestCode (s : Session) (phone : String) : Session × Start SendRequest :=
  let s := s.clearMessages
  if Phone.isValid phone then s.ask ⟨phone, s.channels⟩ else s.refuse .invalidPhone

def startSend (s : Session) (phone : String) : Session × Start SendRequest :=
  if s.busy then (s, .ended (.ignored .busy)) else s.requestCode phone

def startResend (s : Session) : Session × Start SendRequest :=
  if s.busy then (s, .ended (.ignored .busy))
  else if !s.state.resendAllowed then (s, .ended (.ignored .coolingDown))
  else (s.withCode "").requestCode s.state.phone

def startVerify (s : Session) (code : String) : Session × Start VerifyRequest :=
  if s.busy then (s, .ended (.ignored .busy))
  else
    let s := s.clearMessages
    if s.state.step ≠ .awaitingCode then s.refuse .codeNotRequested
    else if !Code.isValid code then s.refuse .invalidCode
    else
      let s := s.withCode code
      s.ask ⟨s.state.phone, code, s.state.requestId⟩

/-! ### Ending a call -/

def release (s : Session) : Session :=
  { s with pending := none }

def finishSend (s : Session) (call : Call SendRequest) (answer : Except Failure SendReceipt) :
    Session × Outcome :=
  if call.epoch ≠ s.epoch then (s, .ignored .stale)
  else
    let s := s.release
    match answer with
    | .ok receipt =>
      if receipt.requestId = "" then
        s.fail (.rejected ResultCode.sendFailed Problem.sendFailedMessage)
      else ({ s with state := s.state.sent call.request.phone receipt }, .sent)
    | .error failure => s.fail (.ofFailure Problem.sendFailedMessage failure)

/-- A verdict on the current code. -/
def applyVerdict (s : Session) (verdict : Verdict) : Session × Outcome :=
  if verdict.verified then
    ({ s with state := { s.state with notice := some .verified } }, .verified)
  else
    let attemptsLeft := verdict.attemptsLeft.or s.state.attemptsLeft
    let problem := .rejected ResultCode.verificationFailed
      (Text.orElse verdict.message Problem.verifyFailedMessage)
    ({ s with state := { s.state with attemptsLeft, problem := some problem } },
      .rejected attemptsLeft)

def restart (s : Session) : Session :=
  { s with state := s.state.restart }

/-- The answer to a verification. It counts only for the request it was made for. -/
def finishVerify (s : Session) (call : Call VerifyRequest) (answer : Except Failure Verdict) :
    Session × Outcome :=
  if call.epoch ≠ s.epoch ∨ call.request.requestId ≠ s.state.requestId then (s, .ignored .stale)
  else
    let s := s.release
    match answer with
    | .ok verdict => s.applyVerdict verdict
    | .error failure =>
      let problem := Problem.ofFailure Problem.verifyFailedMessage failure
      if problem.forcesRestart then s.restart.fail problem else s.fail problem

/-- The caller drops a call of `epoch`. A session that a later call holds is left alone. -/
def abandon (s : Session) (epoch : UInt64) : Session :=
  if s.pending = some epoch ∧ s.epoch = epoch then s.release else s

/-! ### Whole calls -/

variable {σ : Type}

/-- Carries a send that was started to its end. If the service breaks off, the call is dropped with
it and returns nothing. -/
def completeSend (service : Service σ) (world : σ) :
    Session × Start SendRequest → Session × Option Outcome × σ
  | (s, .ended outcome) => (s, some outcome, world)
  | (s, .asked call) =>
    match service.send call.request world with
    | (none, world) => (s.abandon call.epoch, none, world)
    | (some answer, world) =>
      let (s, outcome) := s.finishSend call answer
      (s, some outcome, world)

def completeVerify (service : Service σ) (world : σ) :
    Session × Start VerifyRequest → Session × Outcome × σ
  | (s, .ended outcome) => (s, outcome, world)
  | (s, .asked call) =>
    let (answer, world) := service.verify call.request world
    let (s, outcome) := s.finishVerify call answer
    (s, outcome, world)

def send (s : Session) (service : Service σ) (phone : String) (world : σ) :
    Session × Option Outcome × σ :=
  completeSend service world (s.startSend phone)

def resend (s : Session) (service : Service σ) (world : σ) : Session × Option Outcome × σ :=
  completeSend service world s.startResend

def verify (s : Session) (service : Service σ) (code : String) (world : σ) :
    Session × Outcome × σ :=
  completeVerify service world (s.startVerify code)

/-! ### What a display shows -/

def resendAllowed (s : Session) : Bool :=
  !s.busy && s.state.resendAllowed

end Session

/-- Everything a display reads from a session. -/
structure View where
  state : State
  busy : Bool
  resendAllowed : Bool
  resendAvailableIn : UInt32
  deriving DecidableEq, Repr

def Session.view (s : Session) : View where
  state := s.state
  busy := s.busy
  resendAllowed := !s.busy && s.state.resendAllowed
  resendAvailableIn := s.state.resendAvailableIn

end Passcode
