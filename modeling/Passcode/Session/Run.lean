import Passcode.Session.Basic

/-!
Runs of a session: calls that overlap, are answered late or are dropped, with typing, time and
resets in between. A call that goes out gets the next number, under which it is answered or dropped.
-/

set_option autoImplicit false

namespace Passcode

inductive OpenCall where
  | send (call : Call SendRequest)
  | verify (call : Call VerifyRequest)
  deriving DecidableEq, Repr

def OpenCall.epoch : OpenCall → UInt64
  | send call => call.epoch
  | verify call => call.epoch

inductive Request where
  | send (request : SendRequest)
  | verify (request : VerifyRequest)
  deriving DecidableEq, Repr

inductive Event where
  | startSend (phone : String)
  | startResend
  | startVerify (code : String)
  | answerSend (number : Nat) (answer : Except Failure SendReceipt)
  | answerVerify (number : Nat) (answer : Except Failure Verdict)
  | abandon (number : Nat)
  | typePhone (raw : String)
  | typeCode (raw : String)
  | tick
  | reset

/-- What one event shows to the caller and to the service. -/
structure Effect where
  /-- The result of a call that ended with the event. -/
  outcome : Option Outcome := none
  /-- The request that was handed over. -/
  request : Option Request := none
  /-- What is stored once something was typed. -/
  stored : Option String := none
  /-- The seconds that are left once one has passed. -/
  left : Option UInt32 := none
  deriving DecidableEq, Repr

structure Run where
  session : Session := {}
  /-- How many calls have gone out, and the number of the next. -/
  asked : Nat := 0
  calls : List (Nat × OpenCall) := []
  deriving DecidableEq, Repr

namespace Run

def new (channels : List String) : Run :=
  { session := { channels } }

def call? (r : Run) (number : Nat) : Option OpenCall :=
  r.calls.lookup number

def started {ρ : Type} (r : Run) (toCall : Call ρ → OpenCall) (toRequest : ρ → Request) :
    Session × Start ρ → Run × Effect
  | (session, .ended outcome) => ({ r with session }, { outcome := some outcome })
  | (session, .asked call) =>
    (⟨session, r.asked + 1, (r.asked, toCall call) :: r.calls⟩,
      { request := some (toRequest call.request) })

def settled (r : Run) (number : Nat) (session : Session) : Run :=
  { r with session, calls := r.calls.filter (·.1 != number) }

/-- Answers to calls that are not outstanding change nothing. -/
def step (r : Run) : Event → Run × Effect
  | .startSend phone => r.started .send .send (r.session.startSend phone)
  | .startResend => r.started .send .send r.session.startResend
  | .startVerify code => r.started .verify .verify (r.session.startVerify code)
  | .answerSend number answer =>
    match r.call? number with
    | some (.send call) =>
      let (session, outcome) := r.session.finishSend call answer
      (r.settled number session, { outcome := some outcome })
    | _ => (r, {})
  | .answerVerify number answer =>
    match r.call? number with
    | some (.verify call) =>
      let (session, outcome) := r.session.finishVerify call answer
      (r.settled number session, { outcome := some outcome })
    | _ => (r, {})
  | .abandon number =>
    match r.call? number with
    | some call => (r.settled number (r.session.abandon call.epoch), {})
    | none => (r, {})
  | .typePhone raw =>
    let session := r.session.typePhone raw
    ({ r with session }, { stored := some session.state.phone })
  | .typeCode raw =>
    let session := r.session.typeCode raw
    ({ r with session }, { stored := some session.state.code })
  | .tick =>
    let session := r.session.tick
    ({ r with session }, { left := some session.state.ttl })
  | .reset => ({ r with session := r.session.reset }, {})

def after (r : Run) (events : List Event) : Run :=
  events.foldl (fun r e => (r.step e).1) r

end Run

/-- An event as it is seen from outside: what it shows, and the view it leaves behind. -/
structure Observation where
  event : Event
  effect : Effect
  view : View

namespace Run

def observe (r : Run) : List Event → List Observation
  | [] => []
  | e :: events => ⟨e, (r.step e).2, (r.step e).1.session.view⟩ :: (r.step e).1.observe events

end Run

end Passcode
