import Passcode.Session.Basic

/-!
The ticker that counts a session down. It wakes once a period, and it ends at the first moment at
which the session has no owner any more. Time is counted in milliseconds.
-/

set_option autoImplicit false

namespace Passcode.Countdown

def standardPeriod : Nat := 1000

/-- A ticker that wakes later than this no longer keeps to its old schedule. -/
def tolerance : Nat := 5

/-- The moment after one that was due at `due` and met at `now`. -/
def nextDue (period now due : Nat) : Nat :=
  if due + tolerance < now then now + period else due + period

inductive Task where
  | running (due : Nat)
  /-- The session was found to be gone. -/
  | finished
  | aborted
  /-- A period of zero is refused. -/
  | panicked
  deriving DecidableEq, Repr

/-- A ticker, the clock and the session while it has an owner. -/
structure Ticker where
  period : Nat
  now : Nat := 0
  task : Task
  session : Option Session
  deriving DecidableEq, Repr

namespace Ticker

def spawn (period now : Nat) (session : Session) : Ticker where
  period
  now
  task := if period = 0 then .panicked else .running (now + period)
  session := some session

/-- What the ticker does at a moment that is due, with the moment after it at `next`. -/
def meet (t : Ticker) (next : Nat) : Ticker :=
  match t.session with
  | none => { t with task := .finished }
  | some session => { t with task := .running next, session := some session.tick }

def wake (t : Ticker) (due : Nat) : Ticker :=
  t.meet (nextDue t.period t.now due)

/-- Every moment that is due by now is met now, at most `fuel` of them. -/
def catchUp : Nat → Ticker → Ticker
  | 0, t => t
  | fuel + 1, t =>
    match t.task with
    | .running due => if due ≤ t.now then catchUp fuel (t.wake due) else t
    | _ => t

/-- The clock jumps by `ms`, and the ticker finds itself late for what was due meanwhile. -/
def jump (t : Ticker) (ms : Nat) : Ticker :=
  catchUp (ms + 1) { t with now := t.now + ms }

/-- The clock runs up to `target`, and at most `fuel` due moments are each met in time. -/
def runTo (target : Nat) : Nat → Ticker → Ticker
  | 0, t => { t with now := target }
  | fuel + 1, t =>
    match t.task with
    | .running due =>
      if due ≤ target then runTo target fuel ({ t with now := due }.wake due)
      else { t with now := target }
    | _ => { t with now := target }

def sleep (t : Ticker) (ms : Nat) : Ticker :=
  runTo (t.now + ms) (ms + 1) t

def abort (t : Ticker) : Ticker :=
  match t.task with
  | .running _ => { t with task := .aborted }
  | _ => t

def dropSession (t : Ticker) : Ticker :=
  { t with session := none }

def onSession (t : Ticker) (f : Session → Session) : Ticker :=
  { t with session := t.session.map f }

end Ticker

end Passcode.Countdown
