import Passcode.Failure
import Passcode.Quota

/-!
What a session and its service hand each other: requests, receipts and verdicts.
-/

set_option autoImplicit false

namespace Passcode

structure SendRequest where
  phone : String
  /-- Channels to try in order; the service chooses where there are none. -/
  channels : List String := []
  deriving DecidableEq, Repr

structure SendReceipt where
  /-- The channel that was used. -/
  channel : String
  /-- Names this delivery in the verification that follows. -/
  requestId : String
  /-- Seconds for which the code is valid. -/
  ttl : UInt32
  maskedPhone : String
  /-- Counters that came beside the receipt. -/
  quota : Quota := {}
  deriving DecidableEq, Repr

structure VerifyRequest where
  phone : String
  code : String
  requestId : String
  deriving DecidableEq, Repr

/-- The service's judgement of a submitted code. -/
structure Verdict where
  verified : Bool
  message : String := ""
  attemptsLeft : Option UInt32 := none
  deriving DecidableEq, Repr

/-- The frame of every body the service sends. -/
structure Envelope (α : Type) where
  code : String
  message : String := ""
  data : Option α := none
  deriving DecidableEq, Repr

namespace Envelope

variable {α : Type}

def success (message : String) (data : α) : Envelope α :=
  ⟨ResultCode.success, message, some data⟩

def withCode (code message : String) (data : α) : Envelope α :=
  ⟨code, message, some data⟩

def error (code message : String) : Envelope α :=
  ⟨code, message, none⟩

def isSuccess (e : Envelope α) : Bool :=
  e.code == ResultCode.success

def errorBody (e : Envelope α) : ErrorBody :=
  ⟨e.code, e.message⟩

end Envelope

/-- Something that delivers and checks codes, with a state `σ` of its own. -/
structure Service (σ : Type) where
  name : String
  /-- Without an answer, the call breaks off. -/
  send : SendRequest → σ → Option (Except Failure SendReceipt) × σ
  verify : VerifyRequest → σ → Except Failure Verdict × σ

end Passcode
