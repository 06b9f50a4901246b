import Passcode.Proofs.Session.Turn

/-!
Calls that run to their end with nothing in between: what is left of the session and what is
returned, by the answer of the service alone.
-/

set_option autoImplicit false

namespace Passcode.Session

/-- The session while the service is asked; `code` is what stays typed. -/
private def asking (s : Session) (code : String) : Session :=
  { s with
    state := { s.state with code, problem := none, notice := none }
    pending := some s.epoch }

/-! ### Verifications -/

inductive Settles (s : Session) (code : String) :
    Except Failure Verdict → Session → Outcome → Prop
  | verified {verdict : Verdict} (accepted : verdict.verified = true) :
      Settles s code (.ok verdict)
        { s with
          state := { s.state with code, problem := none, notice := some .verified }
          pending := none }
        .verified
  | rejected {verdict : Verdict} (refused : verdict.verified = false) :
      Settles s code (.ok verdict)
        { s with
          state := { s.state with
            code
            attemptsLeft := verdict.attemptsLeft.or s.state.attemptsLeft
            problem := some (.rejected ResultCode.verificationFailed
              (Text.orElse verdict.message Problem.verifyFailedMessage))
            notice := none }
          pending := none }
        (.rejected (verdict.attemptsLeft.or s.state.attemptsLeft))
  | failed {failure : Failure} {problem : Problem}
      (told : problem = .ofFailure Problem.verifyFailedMessage failure)
      (stands : problem.forcesRestart = false) :
      Settles s code (.error failure)
        { s with
          state := { s.state with code, problem := some problem, notice := none }
          pending := none }
        (.failed problem)
  /-- The request is used up, and the user is sent back to the phone step. -/
  | restarted {failure : Failure} {problem : Problem}
      (told : problem = .ofFailure Problem.verifyFailedMessage failure)
      (burnt : problem.forcesRestart = true) :
      Settles s code (.error failure)
        { s with
          state := { s.state.restart with problem := some problem, notice := none }
          pending := none }
        (.failed problem)

variable {σ : Type} {s : Session} {code : String}

private theorem finishVerify_asking (s : Session) (code : String) {call : Call VerifyRequest}
    (current : call.epoch = s.epoch) (bound : call.request.requestId = s.state.requestId)
    (answer : Except Failure Verdict) :
    Settles s code answer ((s.asking code).finishVerify call answer).1
      ((s.asking code).finishVerify call answer).2 := by
  rcases finishVerify_cases (s := s.asking code) current bound answer with
    ⟨verdict, rfl, judged⟩ | ⟨failure, problem, rfl, told, ⟨burnt, restarted⟩ | ⟨stands, failed⟩⟩
  · rw [judged]
    rcases (s.asking code).release.applyVerdict_cases verdict with
      ⟨accepted, verified⟩ | ⟨refused, rejected⟩
    · rw [verified]
      exact .verified accepted
    · rw [rejected]
      exact .rejected refused
  · rw [restarted]
    exact .restarted told burnt
  · rw [failed]
    exact .failed told stands

theorem verify_settles (free : s.busy = false) (step : s.state.step = .awaitingCode)
    (valid : Code.isValid code = true) (service : Service σ) (world : σ) :
    Settles s code (service.verify ⟨s.state.phone, code, s.state.requestId⟩ world).1
      (s.verify service code world).1 (s.verify service code world).2.1 := by
  rw [verify, startVerify_of_valid free step valid]
  exact finishVerify_asking s code rfl rfl _

namespace Settles

variable {answer : Except Failure Verdict} {after : Session} {outcome : Outcome}

theorem free (settled : Settles s code answer after outcome) : after.busy = false := by
  cases settled with
  | _ => rfl

theorem ne_sent (settled : Settles s code answer after outcome) : outcome ≠ .sent := by
  cases settled with
  | _ => exact Outcome.noConfusion

theorem phone_eq (settled : Settles s code answer after outcome) :
    after.state.phone = s.state.phone := by
  cases settled with
  | _ => rfl

theorem returns_verified_iff (settled : Settles s code answer after outcome) :
    outcome = .verified ↔ ∃ verdict, answer = .ok verdict ∧ verdict.verified = true := by
  cases settled with
  | verified accepted => exact ⟨fun _ => ⟨_, rfl, accepted⟩, fun _ => rfl⟩
  | rejected refused =>
    refine ⟨nofun, ?_⟩
    rintro ⟨verdict, answered, accepted⟩
    rw [← Except.ok.inj answered, refused] at accepted
    cases accepted
  | failed told stands => exact ⟨nofun, nofun⟩
  | restarted told burnt => exact ⟨nofun, nofun⟩

theorem restarts_iff (settled : Settles s code answer after outcome)
    (step : s.state.step = .awaitingCode) :
    after.state.step = .awaitingPhone ↔
      ∃ body, answer = .error (.rejected body) ∧
        (body.code = ResultCode.expired ∨ body.code = ResultCode.attemptsExceeded) := by
  have kept : s.state.step ≠ .awaitingPhone := by rw [step]; exact Step.noConfusion
  cases settled with
  | verified accepted => exact ⟨fun moved => absurd moved kept, nofun⟩
  | rejected refused => exact ⟨fun moved => absurd moved kept, nofun⟩
  | failed told stands =>
    subst told
    refine ⟨fun moved => absurd moved kept, ?_⟩
    rintro ⟨body, refused, used⟩
    rw [Problem.forcesRestart_ofFailure.mpr ⟨body, Except.error.inj refused, used⟩] at stands
    cases stands
  | restarted told burnt =>
    subst told
    obtain ⟨body, rfl, used⟩ := Problem.forcesRestart_ofFailure.mp burnt
    exact ⟨fun _ => ⟨body, rfl, used⟩, fun _ => rfl⟩

theorem stands (settled : Settles s code answer after outcome)
    (stays : after.state.step ≠ .awaitingPhone) :
    after.state.step = s.state.step ∧ after.state.phone = s.state.phone ∧
      after.state.requestId = s.state.requestId ∧ after.state.ttl = s.state.ttl := by
  cases settled with
  | verified accepted => exact ⟨rfl, rfl, rfl, rfl⟩
  | rejected refused => exact ⟨rfl, rfl, rfl, rfl⟩
  | failed told stands => exact ⟨rfl, rfl, rfl, rfl⟩
  | restarted told burnt => exact absurd rfl stays

theorem rejects {verdict : Verdict} (settled : Settles s code (.ok verdict) after outcome)
    (refused : verdict.verified = false) :
    outcome = .rejected (verdict.attemptsLeft.or s.state.attemptsLeft) ∧
      after.state.attemptsLeft = verdict.attemptsLeft.or s.state.attemptsLeft := by
  cases settled with
  | verified accepted =>
    rw [refused] at accepted
    cases accepted
  | rejected refused => exact ⟨rfl, rfl⟩

theorem state_of_failure {failure : Failure}
    (settled : Settles s code (.error failure) after outcome)
    (stands : (Problem.ofFailure Problem.verifyFailedMessage failure).forcesRestart = false) :
    after.state =
      { s.state with
        code
        problem := some (.ofFailure Problem.verifyFailedMessage failure)
        notice := none } := by
  cases settled with
  | failed told _ => subst told; rfl
  | restarted told burnt =>
    rw [← told, burnt] at stands
    cases stands

theorem tells {failure : Failure} (settled : Settles s code (.error failure) after outcome) :
    outcome = .failed (.ofFailure Problem.verifyFailedMessage failure) ∧
      after.state.problem = some (.ofFailure Problem.verifyFailedMessage failure) := by
  cases settled with
  | failed told stands => subst told; exact ⟨rfl, rfl⟩
  | restarted told burnt => subst told; exact ⟨rfl, rfl⟩

end Settles

theorem asked_of_verified {service : Service σ} {world : σ}
    (confirmed : (s.verify service code world).2.1 = .verified) :
    s.busy = false ∧ s.state.step = .awaitingCode ∧ Code.isValid code = true := by
  rcases s.startVerify_cases code with ⟨-, started⟩ | ⟨-, -, started⟩ | ⟨-, -, -, started⟩ |
    ⟨free, step, valid, -⟩
  · rw [verify, started] at confirmed
    cases confirmed
  · rw [verify, started] at confirmed
    cases confirmed
  · rw [verify, started] at confirmed
    cases confirmed
  · exact ⟨free, step, valid⟩

/-! ### Sends -/

/-- What a send to `phone` comes to where the service is asked; `code` is what stays typed. -/
inductive Sends (s : Session) (phone code : String) :
    Option (Except Failure SendReceipt) → Session → Option Outcome → Prop
  | sent {receipt : SendReceipt} (named : receipt.requestId ≠ "") :
      Sends s phone code (some (.ok receipt))
        { s with
          state := { s.state with problem := none }.sent phone receipt
          pending := none }
        (some .sent)
  | failed {answer : Except Failure SendReceipt} {problem : Problem}
      (fault : SendFault answer problem) :
      Sends s phone code (some answer)
        { s with
          state := { s.state with code, problem := some problem, notice := none }
          pending := none }
        (some (.failed problem))
  | broken :
      Sends s phone code none
        { s with
          state := { s.state with code, problem := none, notice := none }
          pending := none }
        none

variable {phone : String}

private theorem completeSend_asking (s : Session) (code : String) (call : Call SendRequest)
    (current : call.epoch = s.epoch) (service : Service σ) (world : σ) :
    let result := completeSend service world (s.asking code, .asked call)
    Sends s call.request.phone code (service.send call.request world).1 result.1 result.2.1 ∧
      result.2.2 = (service.send call.request world).2 := by
  rw [completeSend]
  obtain ⟨answer, after⟩ := service.send call.request world
  refine ⟨?_, ?_⟩
  · cases answer with
    | none =>
      -- Nothing came in between, so the call that is dropped is the one that holds the session.
      have holds : (s.asking code).abandon call.epoch = (s.asking code).release := by
        rw [abandon, if_pos]
        exact ⟨congrArg some current.symm, current.symm⟩
      simp only [holds]
      exact .broken
    | some answer =>
      rcases finishSend_cases (s := s.asking code) current answer with
        ⟨receipt, rfl, named, sent⟩ | ⟨problem, cause, failed⟩
      · simp only [sent]
        exact .sent named
      · simp only [failed]
        rcases cause with ⟨receipt, rfl, unnamed, rfl⟩ | ⟨failure, rfl, rfl⟩
        · exact .failed (.unnamed unnamed)
        · exact .failed (.failure failure)
  · cases answer with
    | none => rfl
    | some answer => rfl

theorem send_sends (free : s.busy = false) (valid : Phone.isValid phone = true)
    (service : Service σ) (world : σ) :
    Sends s phone s.state.code (service.send ⟨phone, s.channels⟩ world).1
      (s.send service phone world).1 (s.send service phone world).2.1 := by
  rw [send, startSend_of_free free, requestCode_of_valid valid]
  exact (completeSend_asking s s.state.code ⟨s.epoch, phone, s.channels⟩ rfl service world).1

theorem resend_sends (free : s.busy = false) (allowed : s.state.resendAllowed = true)
    (valid : Phone.isValid s.state.phone = true) (service : Service σ) (world : σ) :
    Sends s s.state.phone "" (service.send ⟨s.state.phone, s.channels⟩ world).1
      (s.resend service world).1 (s.resend service world).2.1 := by
  rw [resend, startResend_of_allowed free allowed, requestCode_of_valid valid]
  exact (completeSend_asking s "" ⟨s.epoch, s.state.phone, s.channels⟩ rfl service world).1

namespace Sends

variable {answer : Option (Except Failure SendReceipt)} {after : Session}
  {outcome : Option Outcome}

theorem free (sends : Sends s phone code answer after outcome) : after.busy = false := by
  cases sends with
  | _ => rfl

theorem returns_sent_iff (sends : Sends s phone code answer after outcome) :
    outcome = some .sent ↔
      ∃ receipt, answer = some (.ok receipt) ∧ receipt.requestId ≠ "" := by
  cases sends with
  | sent named => exact ⟨fun _ => ⟨_, rfl, named⟩, fun _ => rfl⟩
  | failed fault =>
    refine ⟨nofun, ?_⟩
    rintro ⟨receipt, received, named⟩
    obtain rfl := Option.some.inj received
    cases fault with
    | unnamed unnamed => exact absurd unnamed named
  | broken => exact ⟨nofun, nofun⟩

theorem state_of_receipt {receipt : SendReceipt}
    (sends : Sends s phone code (some (.ok receipt)) after outcome)
    (named : receipt.requestId ≠ "") :
    after.state = { s.state with problem := none }.sent phone receipt := by
  cases sends with
  | sent named => rfl
  | failed fault =>
    cases fault with
    | unnamed unnamed => exact absurd unnamed named

theorem stands (sends : Sends s phone code answer after outcome) (other : outcome ≠ some .sent) :
    ∃ problem, outcome = problem.map .failed ∧
      after.state = { s.state with code, problem, notice := none } := by
  cases sends with
  | sent named => exact absurd rfl other
  | @failed answer problem fault => exact ⟨some problem, rfl, rfl⟩
  | broken => exact ⟨none, rfl, rfl⟩

theorem isSome_eq (sends : Sends s phone code answer after outcome) :
    outcome.isSome = answer.isSome := by
  cases sends with
  | _ => rfl

end Sends

/-! ### Calls that may not reach the service -/

/-- How a send ends from a session that is not busy: the request that is handed over, if one is,
and what is left of the session and of the service. -/
inductive SendCourse (s : Session) (service : Service σ) (world : σ) :
    Option SendRequest → Session × Option Outcome × σ → Prop
  /-- The call goes no further than the session. -/
  | within {code : String} {problem : Option Problem} {notice : Option Notice} {outcome : Outcome}
      (unsent : outcome ≠ .sent) :
      SendCourse s service world none
        ({ s with state := { s.state with code, problem, notice } }, some outcome, world)
  | asked {phone code : String} {after : Session} {outcome : Option Outcome}
      (sends : Sends s phone code (service.send ⟨phone, s.channels⟩ world).1 after outcome) :
      SendCourse s service world (some ⟨phone, s.channels⟩)
        (after, outcome, (service.send ⟨phone, s.channels⟩ world).2)

inductive VerifyCourse (s : Session) (service : Service σ) (world : σ) :
    Option VerifyRequest → Session × Outcome × σ → Prop
  | within {problem : Problem} :
      VerifyCourse s service world none
        ({ s with state := { s.state with problem := some problem, notice := none } },
          .failed problem, world)
  | asked {code : String} {after : Session} {outcome : Outcome}
      (step : s.state.step = .awaitingCode)
      (settled : Settles s code (service.verify ⟨s.state.phone, code, s.state.requestId⟩ world).1
        after outcome) :
      VerifyCourse s service world (some ⟨s.state.phone, code, s.state.requestId⟩)
        (after, outcome, (service.verify ⟨s.state.phone, code, s.state.requestId⟩ world).2)

def handedOver {ρ : Type} : Session × Start ρ → Option ρ
  | (_, .ended _) => none
  | (_, .asked call) => some call.request

private theorem sendCourse_asking (s : Session) (code phone : String) (service : Service σ)
    (world : σ) :
    SendCourse s service world (some ⟨phone, s.channels⟩)
      (completeSend service world (s.asking code, .asked ⟨s.epoch, phone, s.channels⟩)) := by
  obtain ⟨sends, left⟩ :=
    completeSend_asking s code ⟨s.epoch, phone, s.channels⟩ rfl service world
  generalize completeSend service world (s.asking code, .asked ⟨s.epoch, phone, s.channels⟩) =
    result at sends left ⊢
  obtain ⟨after, outcome, world'⟩ := result
  obtain rfl := left
  exact .asked sends

theorem send_course (free : s.busy = false) (service : Service σ) (phone : String) (world : σ) :
    SendCourse s service world (handedOver (s.startSend phone)) (s.send service phone world) := by
  cases valid : Phone.isValid phone with
  | false =>
    rw [send, startSend_of_free free, requestCode_of_invalid valid]
    exact .within Outcome.noConfusion
  | true =>
    rw [send, startSend_of_free free, requestCode_of_valid valid]
    exact sendCourse_asking s s.state.code phone service world

theorem resend_course (free : s.busy = false) (service : Service σ) (world : σ) :
    SendCourse s service world (handedOver s.startResend) (s.resend service world) := by
  cases allowed : s.state.resendAllowed with
  | false =>
    rw [resend, startResend_of_cooling free allowed]
    exact .within Outcome.noConfusion
  | true =>
    cases valid : Phone.isValid s.state.phone with
    | false =>
      rw [resend, startResend_of_allowed free allowed, requestCode_of_invalid valid]
      exact .within Outcome.noConfusion
    | true =>
      rw [resend, startResend_of_allowed free allowed, requestCode_of_valid valid]
      exact sendCourse_asking s "" s.state.phone service world

theorem verify_course (free : s.busy = false) (service : Service σ) (code : String) (world : σ) :
    VerifyCourse s service world (handedOver (s.startVerify code))
      (s.verify service code world) := by
  rcases s.state.step.eq_awaitingPhone_or_eq_awaitingCode with step | step
  · rw [verify, startVerify_of_awaitingPhone free step]
    exact .within
  · cases valid : Code.isValid code with
    | false =>
      rw [verify, startVerify_of_invalid free step valid]
      exact .within
    | true =>
      rw [verify, startVerify_of_valid free step valid]
      exact .asked step (finishVerify_asking s code rfl rfl _)

end Passcode.Session
