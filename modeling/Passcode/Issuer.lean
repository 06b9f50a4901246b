import Passcode.Code
import Passcode.Exchange
import Passcode.Phone
import Passcode.Text.Casing

/-!
A service held in memory: it issues codes, judges them, lets them expire and limits how often one
phone number may ask. Moments and durations are in nanoseconds. The moments of the calls are handed
in, as are the random choices.
-/

set_option autoImplicit false

namespace Passcode.Issuer

def maxAttempts : UInt32 := 5

def standardMaxSends : UInt32 := 5

def standardWindow : Nat := 3600

def second : Nat := 1000000000

/-- A clock of sixty-three bits for the seconds. -/
def standardHorizon : Nat := 9223372036854775808 * second

structure Settings where
  /-- Every call fails as if the service could not be reached. -/
  failing : Bool := false
  /-- How long a code is valid. -/
  validity : Nat := 300 * second
  /-- Sends allowed to one phone number in one window. -/
  maxSends : UInt32 := standardMaxSends
  /-- How long a window lasts. -/
  window : Nat := standardWindow * second
  /-- The clock tells the moments before this one. -/
  horizon : Nat := standardHorizon
  deriving DecidableEq, Repr

structure IssuedCode where
  phone : String
  code : String
  /-- Wrong codes submitted so far. -/
  attempts : UInt32 := 0
  expiresAt : Nat
  deriving DecidableEq, Repr

structure SendWindow where
  startedAt : Nat
  count : UInt32 := 0
  deriving DecidableEq, Repr

structure Store where
  /-- By request id. -/
  codes : List (String × IssuedCode) := []
  /-- By phone number. -/
  windows : List (String × SendWindow) := []
  /-- Codes sent so far; the counter wraps around. -/
  sends : UInt64 := 0
  deriving DecidableEq, Repr

structure Draw where
  requestId : String
  number : Fin 1000000
  deriving DecidableEq, Repr

def erase {α : Type} (key : String) (entries : List (String × α)) : List (String × α) :=
  entries.filter (·.1 != key)

def insert {α : Type} (key : String) (value : α) (entries : List (String × α)) :
    List (String × α) :=
  (key, value) :: erase key entries

def Store.issuedCode? (store : Store) (requestId : String) : Option String :=
  (store.codes.lookup requestId).map IssuedCode.code

/-- The channels it can deliver over; the first is taken where none is asked for. -/
def knownChannels : List String := ["zalo", "sms"]

def standardChannel : String := "zalo"

/-- The first known channel of the list, without regard to case. -/
def pickChannel (preferred : List String) : String :=
  ((preferred.map Text.lower).find? knownChannels.contains).getD standardChannel

def SendWindow.isOver (settings : Settings) (now : Nat) (w : SendWindow) : Bool :=
  settings.window ≤ now - w.startedAt

/-- Drops codes and windows that have run out. -/
def evict (settings : Settings) (now : Nat) (store : Store) : Store :=
  { store with
    codes := store.codes.filter fun e => now < e.2.expiresAt
    windows := store.windows.filter fun e => !e.2.isOver settings now }

def windowFor (settings : Settings) (now : Nat) (phone : String) (store : Store) : SendWindow :=
  match store.windows.lookup phone with
  | some w => if w.isOver settings now then { startedAt := now } else w
  | none => { startedAt := now }

def tooManyRequests : Failure :=
  .rejected ⟨ResultCode.rateLimited, "Too many OTP requests for this phone number"⟩

def invalidPhone : Failure :=
  .rejected ⟨ResultCode.invalidPhone, "Invalid phone number"⟩

def notFound : Failure :=
  .rejected ⟨ResultCode.expired, "OTP not found or expired"⟩

def attemptsExceeded : Failure :=
  .rejected ⟨ResultCode.attemptsExceeded, "Maximum verification attempts exceeded"⟩

def unreachable : Failure :=
  .network "Simulated OTP service failure"

/-- Seconds as a thirty-two bit number; more than it holds counts as the most it holds. -/
def ttlOf (seconds : Nat) : UInt32 :=
  UInt32.ofNat (min seconds (UInt32.size - 1))

/-- When a code that is issued now runs out, if the clock can tell that moment. -/
def expiry? (settings : Settings) (now : Nat) : Option Nat :=
  if now + settings.validity < settings.horizon then some (now + settings.validity) else none

/-- Issues a code, unless the phone number has used up its window, which `window` finds once what
has run out is dropped. A code whose end the clock cannot tell breaks the call off; by then the send
is counted. -/
def sendCounting (window : Store → SendWindow) (settings : Settings) (now : Nat) (draw : Draw)
    (request : SendRequest) (store : Store) : Option (Except Failure SendReceipt) × Store :=
  if settings.failing then (some (.error unreachable), store)
  else if !Phone.isValid request.phone then (some (.error invalidPhone), store)
  else
    let store := evict settings now store
    let window := window store
    if settings.maxSends ≤ window.count then
      (some (.error tooManyRequests),
        { store with windows := insert request.phone window store.windows })
    else
      let window := { window with count := window.count + 1 }
      let store := { store with windows := insert request.phone window store.windows }
      match expiry? settings now with
      | none => (none, store)
      | some expiresAt =>
        let issued : IssuedCode :=
          { phone := request.phone, code := Code.ofNumber draw.number, expiresAt }
        let receipt : SendReceipt := {
          channel := pickChannel request.channels
          requestId := draw.requestId
          ttl := ttlOf (settings.validity / second)
          maskedPhone := Phone.mask request.phone
          quota := { phone := some (settings.maxSends - window.count) } }
        (some (.ok receipt), { store with
          codes := insert draw.requestId issued store.codes
          sends := store.sends + 1 })

def send (settings : Settings) (now : Nat) (draw : Draw) (request : SendRequest) (store : Store) :
    Option (Except Failure SendReceipt) × Store :=
  sendCounting (windowFor settings now request.phone) settings now draw request store

/-- Judges a submitted code. A request that is unknown, belongs to another phone number or has run
out is not found; one with too many wrong codes is closed. -/
def verify (settings : Settings) (now : Nat) (request : VerifyRequest) (store : Store) :
    Except Failure Verdict × Store :=
  if settings.failing then (.error unreachable, store)
  else match store.codes.lookup request.requestId with
    | none => (.error notFound, store)
    | some issued =>
      let closed := { store with codes := erase request.requestId store.codes }
      if issued.phone ≠ request.phone then (.error notFound, store)
      else if issued.expiresAt ≤ now then (.error notFound, closed)
      else if maxAttempts ≤ issued.attempts then (.error attemptsExceeded, closed)
      else if issued.code = request.code then
        (.ok { verified := true, message := "OTP verified successfully" }, closed)
      else
        let issued := { issued with attempts := issued.attempts + 1 }
        (.ok {
            verified := false
            message := "Invalid OTP code"
            attemptsLeft := some (maxAttempts - issued.attempts) },
          { store with codes := insert request.requestId issued store.codes })

def service (settings : Settings) (now : Nat) (draw : Draw) : Service Store where
  name := "mock"
  send := send settings now draw
  verify := verify settings now

end Passcode.Issuer
