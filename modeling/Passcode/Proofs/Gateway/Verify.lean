import Passcode.Proofs.Gateway.Reply
import Passcode.Proofs.Session.Whole

/-!
Verifications over the network, from the reply to the session: which replies send the user back to
the phone step, and which confirm a phone. A reply is what is left once redirects were followed.
-/

set_option autoImplicit false

namespace Passcode.Gateway

open Session

variable {s : Session} {code : String}

theorem verify_settles_arrival (free : s.busy = false) (step : s.state.step = .awaitingCode)
    (valid : Code.isValid code = true) (base : String) (reply : Option Reply)
    (posts : List Post) :
    Settles s code ((arrival base verifyPath reply).elim (.error unreachable) verdict)
      (s.verify (service base reply) code posts).1
      (s.verify (service base reply) code posts).2.1 := by
  have settled := verify_settles free step valid (service base reply) posts
  rw [service_verify_fst] at settled
  exact settled

/-! ### Back to the phone step -/

/-- Whatever led to the session, the user is sent back to the phone step exactly by a reply that
ends the request. Short of that the request stands, and a failure that explains nothing is told by
its status. -/
theorem verify_restarts_iff_endsRequest (free : s.busy = false)
    (step : s.state.step = .awaitingCode) (valid : Code.isValid code = true) (base : String)
    (reply : Option Reply) (posts : List Post) :
    ((s.verify (service base reply) code posts).1.state.step = .awaitingPhone ↔
      ∃ r, arrival base verifyPath reply = some r ∧ EndsRequest r) ∧
    ((¬∃ r, arrival base verifyPath reply = some r ∧ EndsRequest r) →
      (s.verify (service base reply) code posts).1.state.step = s.state.step ∧
      (s.verify (service base reply) code posts).1.state.phone = s.state.phone ∧
      (s.verify (service base reply) code posts).1.state.requestId = s.state.requestId ∧
      (s.verify (service base reply) code posts).1.state.ttl = s.state.ttl) ∧
    (∀ r, arrival base verifyPath reply = some r → Unexplained r →
      (s.verify (service base reply) code posts).2.1 =
        .failed (.rejected (Text.decimal r.status) Problem.verifyFailedMessage) ∧
      (s.verify (service base reply) code posts).1.state.problem =
        some (.rejected (Text.decimal r.status) Problem.verifyFailedMessage)) := by
  have settled := verify_settles_arrival free step valid base reply posts
  have restarts : (s.verify (service base reply) code posts).1.state.step = .awaitingPhone ↔
      ∃ r, arrival base verifyPath reply = some r ∧ EndsRequest r := by
    rw [settled.restarts_iff step]
    cases arrives : arrival base verifyPath reply with
    | none => simp [unreachable]
    | some r =>
      simp only [Option.elim_some, Option.some.injEq, exists_eq_left']
      exact verdict_rejected_usedUp_iff (isFinal_of_arrival arrives)
  refine ⟨restarts, fun stays => settled.stands (mt restarts.mp stays), ?_⟩
  intro r arrives unexplained
  have short := Reply.status_le_of_isFinal (isFinal_of_arrival arrives)
  rw [arrives, Option.elim_some, verdict_of_unexplained unexplained] at settled
  rw [← ofFailure_decimal short Problem.verifyFailedMessage]
  exact settled.tells

theorem verify_restarts_after_refusal :
    let s : Session :=
      { state := { step := .awaitingCode, phone := "0912345678", requestId := "R1", ttl := 300 } }
    let used : Reply := { status := 400, body := Wire.encode (ErrorBody.mk "10008" "Locked") }
    let blank : Reply := { status := 503 }
    s.busy = false ∧ s.state.step = .awaitingCode ∧ Code.isValid "123456" = true ∧
      (s.verify (service "http://host" (some used)) "123456" []).1.state.step = .awaitingPhone ∧
      (s.verify (service "http://host" (some blank)) "123456" []).1.state.problem =
        some (.rejected "503" "Failed to verify OTP") := by
  intro s used blank
  have free : s.busy = false := rfl
  have step : s.state.step = .awaitingCode := rfl
  have valid : Code.isValid "123456" = true := by decide
  have ended : EndsRequest used :=
    .inr ⟨by decide, ⟨"10008", "Locked"⟩, by decide +kernel, .inr rfl⟩
  have unexplained : Unexplained blank := ⟨by decide, by decide +kernel, by decide⟩
  have restarts := (verify_restarts_iff_endsRequest free step valid "http://host" (some used) []).1
  have tells := (verify_restarts_iff_endsRequest free step valid "http://host" (some blank) []).2.2
  have told := (tells blank (by decide +kernel) unexplained).2
  have status : Text.decimal blank.status = "503" := by decide +kernel
  rw [status] at told
  exact ⟨free, step, valid, restarts.mpr ⟨used, by decide +kernel, ended⟩, told⟩

/-! ### Confirmation -/

def Confirms (r : Reply) : Prop :=
  r.isSuccess = true ∧ ∃ (e : Envelope Verdict) (v : Verdict), Wire.decode? r.text = some e ∧
    e.code = ResultCode.success ∧ e.data = some v ∧ v.verified = true

/-- A bad request that names the code of a wrong code, but whose data say that the phone is
verified. -/
def ContradictsItself (r : Reply) : Prop :=
  r.status = 400 ∧ ∃ (e : Envelope Verdict) (v : Verdict), Wire.decode? r.text = some e ∧
    e.code = ResultCode.verificationFailed ∧ e.data = some v ∧ v.verified = true

theorem verdict_verified_iff {r : Reply} :
    (∃ v, verdict r = .ok v ∧ v.verified = true) ↔ Confirms r ∨ ContradictsItself r := by
  simp only [verdict_eq_ok_iff, Confirms, ContradictsItself]
  constructor
  · rintro ⟨v, ⟨e, read, carried, ⟨success, code⟩ | ⟨status, code⟩⟩, verified⟩
    · exact .inl ⟨success, e, v, read, code, carried, verified⟩
    · exact .inr ⟨status, e, v, read, code, carried, verified⟩
  · rintro (⟨success, e, v, read, code, carried, verified⟩ |
      ⟨status, e, v, read, code, carried, verified⟩)
    · exact ⟨v, ⟨e, read, carried, .inl ⟨success, code⟩⟩, verified⟩
    · exact ⟨v, ⟨e, read, carried, .inr ⟨status, code⟩⟩, verified⟩

/-- A phone is confirmed exactly where a complete code is submitted on the code step and the reply
that arrives confirms it, or contradicts itself: the verdict beside a wrong code is taken at its
word. -/
theorem verify_confirms_iff (s : Session) (code base : String) (reply : Option Reply)
    (posts : List Post) :
    (s.verify (service base reply) code posts).2.1 = .verified ↔
      s.busy = false ∧ s.state.step = .awaitingCode ∧ Code.isValid code = true ∧
        ∃ r, arrival base verifyPath reply = some r ∧ (Confirms r ∨ ContradictsItself r) := by
  have judged (free : s.busy = false) (step : s.state.step = .awaitingCode)
      (valid : Code.isValid code = true) :
      (s.verify (service base reply) code posts).2.1 = .verified ↔
        ∃ r, arrival base verifyPath reply = some r ∧ (Confirms r ∨ ContradictsItself r) := by
    rw [(verify_settles_arrival free step valid base reply posts).returns_verified_iff]
    cases arrival base verifyPath reply with
    | none => simp
    | some r =>
      simp only [Option.elim_some, Option.some.injEq, exists_eq_left']
      exact verdict_verified_iff
  constructor
  · intro confirmed
    obtain ⟨free, step, valid⟩ := asked_of_verified confirmed
    exact ⟨free, step, valid, (judged free step valid).mp confirmed⟩
  · rintro ⟨free, step, valid, arrives⟩
    exact (judged free step valid).mpr arrives

theorem verified_by_wrong_code :
    let sent : Reply :=
      { status := 200
        body := Wire.encode (Envelope.success "" (SendReceipt.mk "sms" "R1" 300 "" {})) }
    let wrong : Reply :=
      { status := 400
        body := Wire.encode (Envelope.withCode "10007" "Invalid OTP code"
          (Verdict.mk true "Invalid OTP code" none)) }
    let s := (({} : Session).send (service "http://host" (some sent)) "0912345678" []).1
    (s.verify (service "http://host" (some wrong)) "123456" []).2.1 = .verified ∧
      ¬Confirms wrong := by
  intro sent wrong s
  have reached : s =
      { state := {
          step := .awaitingCode, phone := "0912345678", requestId := "R1", ttl := 300,
          notice := some (.sent "sms" "") } } := by
    decide +kernel
  rw [reached]
  exact ⟨by decide +kernel, fun confirms => absurd confirms.1 (by decide)⟩

end Passcode.Gateway
