import Passcode.Proofs.Gateway.Verify
import Passcode.Proofs.Wire.RoundTrip

/-!
Wrong codes over the network. A verdict that stands beside the code of a wrong code reaches the
session only with a bad request; under a status of success the same text is taken for a refusal, and
the attempts it reports are lost.
-/

set_option autoImplicit false

namespace Passcode.Gateway

open Session

variable {r : Reply} {message : String} {v : Verdict}

theorem verificationFailed_ne_success : ResultCode.verificationFailed ≠ ResultCode.success := by
  decide

theorem verdict_of_badRequest (status : r.status = 400)
    (carries : Wire.decode? r.text =
      some (Envelope.withCode ResultCode.verificationFailed message v)) : verdict r = .ok v :=
  verdict_eq_ok_iff.mpr ⟨_, carries, rfl, .inr ⟨status, rfl⟩⟩

theorem verdict_eq_ok_iff_badRequest
    (carries : Wire.decode? r.text =
      some (Envelope.withCode ResultCode.verificationFailed message v)) :
    verdict r = .ok v ↔ r.status = 400 := by
  refine ⟨?_, fun status => verdict_of_badRequest status carries⟩
  intro judged
  obtain ⟨e, read, -, ⟨-, code⟩ | ⟨status, -⟩⟩ := verdict_eq_ok_iff.mp judged
  · obtain rfl := Option.some.inj (carries.symm.trans read)
    exact absurd code verificationFailed_ne_success
  · exact status

theorem verdict_of_wrongCode_of_success (success : r.isSuccess = true)
    (carries : Wire.decode? r.text =
      some (Envelope.withCode ResultCode.verificationFailed message v)) :
    verdict r = .error (.rejected ⟨ResultCode.verificationFailed, message⟩) := by
  rw [verdict_of_success success]
  exact payload_of_refused carries verificationFailed_ne_success

theorem ofFailure_wrongCode (fallback : String) :
    Problem.ofFailure fallback (.rejected ⟨ResultCode.verificationFailed, message⟩) =
      .rejected ResultCode.verificationFailed (Text.orElse message fallback) := by
  have unexpired : ResultCode.verificationFailed ≠ ResultCode.expired := by decide
  have within : ResultCode.verificationFailed ≠ ResultCode.attemptsExceeded := by decide
  rw [Problem.ofFailure, if_neg unexpired, if_neg within]

/-- What a session makes of a wrong code's reply that it takes for a verdict. -/
structure CountsAttempts (s : Session) (v : Verdict) (after : Session) (outcome : Outcome) :
    Prop where
  returned : outcome = .rejected (v.attemptsLeft.or s.state.attemptsLeft)
  recorded : after.state.attemptsLeft = v.attemptsLeft.or s.state.attemptsLeft

/-- What it makes of one that it takes for a refusal. -/
structure LosesAttempts (s : Session) (message : String) (after : Session) (outcome : Outcome) :
    Prop where
  returned : outcome = .failed (.rejected ResultCode.verificationFailed
    (Text.orElse message Problem.verifyFailedMessage))
  kept : after.state.attemptsLeft = s.state.attemptsLeft

/-- The verdict that a reply carries beside the code of a wrong code is the answer exactly if the
status is that of a bad request, and then a session that is told of a wrong code counts its
attempts. Under a status of success the answer is a refusal, and the attempts are lost. -/
theorem wrong_code_judged_iff_badRequest {base : String}
    (arrives : arrival base verifyPath (some r) = some r)
    (carries : Wire.decode? r.text =
      some (Envelope.withCode ResultCode.verificationFailed message v)) :
    (∀ request posts, ((service base (some r)).verify request posts).1 = .ok v ↔
      r.status = 400) ∧
    (r.isSuccess = true → ∀ request posts, ((service base (some r)).verify request posts).1 =
      .error (.rejected ⟨ResultCode.verificationFailed, message⟩)) ∧
    ∀ (s : Session) (code : String) (posts : List Post), s.busy = false →
      s.state.step = .awaitingCode → Code.isValid code = true →
        (r.status = 400 → v.verified = false → CountsAttempts s v
          (s.verify (service base (some r)) code posts).1
          (s.verify (service base (some r)) code posts).2.1) ∧
        (r.isSuccess = true → LosesAttempts s message
          (s.verify (service base (some r)) code posts).1
          (s.verify (service base (some r)) code posts).2.1) := by
  have answers (request : VerifyRequest) (posts : List Post) :
      ((service base (some r)).verify request posts).1 = verdict r := by
    rw [service_verify_fst, arrives, Option.elim_some]
  refine ⟨?_, ?_, ?_⟩
  · intro request posts
    rw [answers]
    exact verdict_eq_ok_iff_badRequest carries
  · intro success request posts
    rw [answers]
    exact verdict_of_wrongCode_of_success success carries
  · intro s code posts free step valid
    have settled := verify_settles_arrival free step valid base (some r) posts
    rw [arrives, Option.elim_some] at settled
    constructor
    · intro status refused
      rw [verdict_of_badRequest status carries] at settled
      obtain ⟨returned, recorded⟩ := settled.rejects refused
      exact ⟨returned, recorded⟩
    · intro success
      rw [verdict_of_wrongCode_of_success success carries] at settled
      refine ⟨?_, ?_⟩
      · rw [settled.tells.1, ofFailure_wrongCode]
      · rw [settled.state_of_failure (by rw [ofFailure_wrongCode]; rfl)]

private theorem isSome_target? : (target? "http://host" verifyPath).isSome = true := by
  decide +kernel

/-- One text under both statuses, to a session that knows of three attempts: two are left after the
bad request, and still three after the success. -/
theorem wrong_code_counted_as_badRequest :
    let v : Verdict := ⟨false, "Invalid OTP code", some 2⟩
    let e := Envelope.withCode "10007" "Invalid OTP code" v
    let s : Session :=
      { state := {
          step := .awaitingCode, phone := "0912345678", requestId := "R1", ttl := 300
          attemptsLeft := some 3 } }
    let bad : Reply := { status := 400, body := Wire.encode e }
    let ok : Reply := { status := 200, body := Wire.encode e }
    arrival "http://host" verifyPath (some bad) = some bad ∧
      arrival "http://host" verifyPath (some ok) = some ok ∧
      Wire.decode? bad.text = some e ∧ Wire.decode? ok.text = some e ∧
      CountsAttempts s v (s.verify (service "http://host" (some bad)) "123456" []).1
        (s.verify (service "http://host" (some bad)) "123456" []).2.1 ∧
      LosesAttempts s "Invalid OTP code" (s.verify (service "http://host" (some ok)) "123456" []).1
        (s.verify (service "http://host" (some ok)) "123456" []).2.1 := by
  intro v e s bad ok
  have arrivesBad : arrival "http://host" verifyPath (some bad) = some bad :=
    arrival_eq_some_iff.mpr ⟨isSome_target?, rfl, rfl⟩
  have arrivesOk : arrival "http://host" verifyPath (some ok) = some ok :=
    arrival_eq_some_iff.mpr ⟨isSome_target?, rfl, rfl⟩
  have textBad : bad.text = Wire.encode e := Reply.text_encode rfl rfl
  have textOk : ok.text = Wire.encode e := Reply.text_encode rfl rfl
  have read : Wire.decode? (Wire.encode e) = some e := Wire.decode?_encode e
  have carriesBad : Wire.decode? bad.text = some e := by rw [textBad, read]
  have carriesOk : Wire.decode? ok.text = some e := by rw [textOk, read]
  have valid : Code.isValid "123456" = true := by decide
  have counts := (wrong_code_judged_iff_badRequest arrivesBad carriesBad).2.2 s "123456" [] rfl rfl
    valid
  have loses := (wrong_code_judged_iff_badRequest arrivesOk carriesOk).2.2 s "123456" [] rfl rfl
    valid
  exact ⟨arrivesBad, arrivesOk, carriesBad, carriesOk, counts.1 rfl rfl, loses.2 (by decide)⟩

theorem wrong_code_failed_under_success :
    let v : Verdict := ⟨false, "Invalid OTP code", some 2⟩
    let e := Envelope.withCode "10007" "Invalid OTP code" v
    let r : Reply := { status := 200, body := Wire.encode e }
    Wire.decode? r.text = some e ∧
      ((service "http://host" (some r)).verify ⟨"0912345678", "123456", "R1"⟩ []).1 ≠ .ok v := by
  intro v e r
  have text : r.text = Wire.encode e := Reply.text_encode rfl rfl
  have carries : Wire.decode? r.text = some e := by
    rw [text]
    exact Wire.decode?_encode e
  have arrives : arrival "http://host" verifyPath (some r) = some r :=
    arrival_eq_some_iff.mpr ⟨isSome_target?, rfl, rfl⟩
  refine ⟨carries, ?_⟩
  rw [service_verify_fst, arrives, Option.elim_some,
    verdict_of_wrongCode_of_success (by decide) carries]
  exact nofun

end Passcode.Gateway
