import Passcode.Proofs.Gateway.Reply
import Passcode.Proofs.Session.Whole

/-!
Sends over the network, from the reply to the session: which replies move the user on to the code
step, and what is taken from them. A reply is what is left once redirects were followed.
-/

set_option autoImplicit false

namespace Passcode.Gateway

open Session

variable {r : Reply}

/-! ### Receipts -/

theorem receipt_of_success (success : r.isSuccess = true) :
    receipt r = (payload r).map fun x : SendReceipt => { x with quota := quotaOf r.headers } := by
  rw [receipt, if_pos success]

theorem receipt_of_failure (failure : r.isSuccess = false) :
    receipt r = .error (.rejected (refusal r)) := by
  rw [receipt, if_neg (Bool.eq_false_iff.mp failure)]

theorem receipt_eq_ok_iff {y : SendReceipt} :
    receipt r = .ok y ↔ r.isSuccess = true ∧
      ∃ x : SendReceipt, payload r = .ok x ∧ { x with quota := quotaOf r.headers } = y := by
  cases success : r.isSuccess with
  | false =>
    rw [receipt_of_failure success]
    exact ⟨nofun, nofun⟩
  | true =>
    rw [receipt_of_success success]
    cases (payload r : Except Failure SendReceipt) with
    | error failure => exact ⟨nofun, nofun⟩
    | ok x => simp [Except.map]

/-- A success whose envelope accepts the send and carries the receipt `x`, which names a request. -/
def Delivers (r : Reply) (x : SendReceipt) : Prop :=
  r.isSuccess = true ∧ x.requestId ≠ "" ∧ ∃ e : Envelope SendReceipt,
    Wire.decode? r.text = some e ∧ e.code = ResultCode.success ∧ e.data = some x

theorem receipt_of_delivers {x : SendReceipt} (delivers : Delivers r x) :
    receipt r = .ok { x with quota := quotaOf r.headers } := by
  obtain ⟨success, -, accepted⟩ := delivers
  exact receipt_eq_ok_iff.mpr ⟨success, x, payload_eq_ok_iff.mpr accepted, rfl⟩

theorem receipt_named_iff :
    (∃ y, receipt r = .ok y ∧ y.requestId ≠ "") ↔ ∃ x, Delivers r x := by
  constructor
  · rintro ⟨y, received, named⟩
    obtain ⟨success, x, carried, rfl⟩ := receipt_eq_ok_iff.mp received
    exact ⟨x, success, named, payload_eq_ok_iff.mp carried⟩
  · rintro ⟨x, delivers⟩
    exact ⟨_, receipt_of_delivers delivers, delivers.2.1⟩

/-! ### From the reply to the session -/

/-- What is left of a session and what is returned once a send to `phone` was answered by the reply
that arrived, if one did. -/
structure Advances (s : Session) (phone : String) (arrived : Option Reply) (after : Session)
    (outcome : Option Outcome) : Prop where
  returns : outcome.isSome = true
  sent_iff : outcome = some .sent ↔ ∃ r x, arrived = some r ∧ Delivers r x
  /-- The counters are those of the headers, whatever else the body has. -/
  moves : ∀ r x, arrived = some r → Delivers r x →
    after.state.step = .awaitingCode ∧ after.state.phone = phone ∧
      after.state.requestId = x.requestId ∧ after.state.ttl = x.ttl ∧
      after.state.quota = s.state.quota.observe (quotaOf r.headers)
  /-- Headers and data of any other reply are passed over. -/
  stays : (¬∃ r x, arrived = some r ∧ Delivers r x) →
    after.state.step = s.state.step ∧ after.state.phone = s.state.phone ∧
      after.state.requestId = s.state.requestId ∧ after.state.ttl = s.state.ttl ∧
      after.state.attemptsLeft = s.state.attemptsLeft ∧ after.state.quota = s.state.quota

private theorem advances_of_sends {s after : Session} {phone code : String}
    {arrived : Option Reply} {outcome : Option Outcome}
    (sends : Sends s phone code (some (arrived.elim (.error unreachable) receipt)) after outcome) :
    Advances s phone arrived after outcome := by
  have sent_iff : outcome = some .sent ↔ ∃ r x, arrived = some r ∧ Delivers r x := by
    rw [sends.returns_sent_iff]
    cases arrived with
    | none => simp
    | some r =>
      simp only [Option.elim_some, Option.some.injEq, exists_and_left, exists_eq_left']
      exact receipt_named_iff
  refine ⟨sends.isSome_eq, sent_iff, ?_, ?_⟩
  · rintro r x rfl delivers
    rw [Option.elim_some, receipt_of_delivers delivers] at sends
    rw [sends.state_of_receipt delivers.2.1]
    exact ⟨rfl, rfl, rfl, rfl, rfl⟩
  · intro undelivered
    obtain ⟨problem, -, kept⟩ := sends.stands (mt sent_iff.mp undelivered)
    rw [kept]
    exact ⟨rfl, rfl, rfl, rfl, rfl, rfl⟩

/-- Whatever led to the session, a send to a valid phone number, or a resend after the cooldown,
moves the user on exactly by a reply that delivers a receipt. Any other reply, and none, leaves the
request that stood as it was. -/
theorem send_advances_iff_delivers {s : Session} (free : s.busy = false) (base : String)
    (reply : Option Reply) (posts : List Post) :
    (∀ phone, Phone.isValid phone = true →
      Advances s phone (arrival base sendPath reply) (s.send (service base reply) phone posts).1
        (s.send (service base reply) phone posts).2.1) ∧
    (s.state.resendAllowed = true → Phone.isValid s.state.phone = true →
      Advances s s.state.phone (arrival base sendPath reply)
        (s.resend (service base reply) posts).1 (s.resend (service base reply) posts).2.1) := by
  constructor
  · intro phone valid
    have sends := send_sends free valid (service base reply) posts
    rw [service_send_fst] at sends
    exact advances_of_sends sends
  · intro allowed valid
    have sends := resend_sends free allowed valid (service base reply) posts
    rw [service_send_fst] at sends
    exact advances_of_sends sends

/-- The same body and counters, under a status of failure and under one of success: only the second
reply replaces the request and the counter. -/
theorem resend_advances_after_refusal :
    let s : Session :=
      { state := {
          step := .awaitingCode, phone := "0912345678", requestId := "R1", ttl := 200
          quota := { phone := some 3 } } }
    let receipt : SendReceipt := ⟨"sms", "R2", 300, "09****5678", {}⟩
    let refused : Reply :=
      { status := 429
        headers := [("X-RateLimit-Remaining-Phone", "0")]
        body := Wire.encode (Envelope.success "OTP sent" receipt) }
    let sent : Reply := { refused with status := 200 }
    s.busy = false ∧ Phone.isValid "0987654321" = true ∧ s.state.resendAllowed = true ∧
      Phone.isValid s.state.phone = true ∧
      (s.send (service "http://host" (some refused)) "0987654321" []).1.state.requestId = "R1" ∧
      (s.resend (service "http://host" (some sent)) []).2.1 = some .sent ∧
      (s.resend (service "http://host" (some sent)) []).1.state.requestId = "R2" := by
  intro s receipt refused sent
  have free : s.busy = false := rfl
  have allowed : s.state.resendAllowed = true := by decide
  have valid : Phone.isValid s.state.phone = true := by decide
  have other : Phone.isValid "0987654321" = true := by decide
  have arrives : arrival "http://host" sendPath (some sent) = some sent := by decide +kernel
  have delivers : Delivers sent receipt :=
    ⟨by decide, by decide, Envelope.success "OTP sent" receipt, by decide +kernel, rfl, rfl⟩
  have undelivered : ¬∃ r x, arrival "http://host" sendPath (some refused) = some r ∧
      Delivers r x := by
    rintro ⟨r, x, arrived, success, -⟩
    obtain rfl : refused = r := Option.some.inj (arrival_eq_some_iff.mp arrived).2.1
    exact absurd success (by decide)
  have first := (send_advances_iff_delivers free "http://host" (some refused) []).1 _ other
  have second := (send_advances_iff_delivers free "http://host" (some sent) []).2 allowed valid
  exact ⟨free, other, allowed, valid, (first.stays undelivered).2.2.1,
    second.sent_iff.mpr ⟨sent, receipt, arrives, delivers⟩,
    (second.moves sent receipt arrives delivers).2.2.1⟩

end Passcode.Gateway
