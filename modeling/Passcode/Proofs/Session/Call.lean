import Passcode.Session.Basic

/-!
How a call can start and how it can end, case by case. Everything a step does to a session is
spelled out here once, guards included; later modules do not open the steps again.
-/

set_option autoImplicit false

namespace Passcode

theorem Step.eq_awaitingPhone_or_eq_awaitingCode (step : Step) :
    step = .awaitingPhone ∨ step = .awaitingCode := by
  cases step with
  | awaitingPhone => exact Or.inl rfl
  | awaitingCode => exact Or.inr rfl

namespace Session

variable {s : Session}

@[simp] theorem busy_eq_true_iff : s.busy = true ↔ s.pending ≠ none := by
  simp [busy, Option.isSome_iff_ne_none]

@[simp] theorem busy_eq_false_iff : s.busy = false ↔ s.pending = none := by
  simp [busy]

/-! ### While a call is outstanding -/

theorem typePhone_of_busy (held : s.busy = true) (raw : String) : s.typePhone raw = s := by
  simp only [typePhone, held, Bool.not_true, Bool.false_and, Bool.false_eq_true, ↓reduceIte]

theorem typeCode_of_busy (held : s.busy = true) (raw : String) : s.typeCode raw = s := by
  simp only [typeCode, held, Bool.not_true, Bool.false_eq_true, ↓reduceIte]

theorem startSend_of_busy (held : s.busy = true) (phone : String) :
    s.startSend phone = (s, .ended (.ignored .busy)) := by
  rw [startSend, if_pos held]

theorem startResend_of_busy (held : s.busy = true) :
    s.startResend = (s, .ended (.ignored .busy)) := by
  rw [startResend, if_pos held]

theorem startVerify_of_busy (held : s.busy = true) (code : String) :
    s.startVerify code = (s, .ended (.ignored .busy)) := by
  rw [startVerify, if_pos held]

/-! ### Starting a call -/

theorem requestCode_of_valid {phone : String} (valid : Phone.isValid phone = true) :
    s.requestCode phone =
      ({ s with state := s.state.clearMessages, pending := some s.epoch },
        .asked ⟨s.epoch, phone, s.channels⟩) := by
  rw [requestCode, if_pos valid]
  rfl

theorem requestCode_of_invalid {phone : String} (invalid : Phone.isValid phone = false) :
    s.requestCode phone =
      ({ s with state := { s.state with problem := some .invalidPhone, notice := none } },
        .ended (.failed .invalidPhone)) := by
  rw [requestCode, if_neg (Bool.eq_false_iff.mp invalid)]
  rfl

theorem startSend_of_free (free : s.busy = false) (phone : String) :
    s.startSend phone = s.requestCode phone := by
  rw [startSend, if_neg (Bool.eq_false_iff.mp free)]

theorem startResend_of_cooling (free : s.busy = false) (cooling : s.state.resendAllowed = false) :
    s.startResend = (s, .ended (.ignored .coolingDown)) := by
  rw [startResend, if_neg (Bool.eq_false_iff.mp free), if_pos ((Bool.not_eq_true' _).mpr cooling)]

theorem startResend_of_allowed (free : s.busy = false) (allowed : s.state.resendAllowed = true) :
    s.startResend = (s.withCode "").requestCode s.state.phone := by
  simp only [startResend, free, allowed, Bool.not_true, Bool.false_eq_true, ↓reduceIte]

theorem startVerify_of_awaitingPhone (free : s.busy = false) (step : s.state.step = .awaitingPhone)
    (code : String) :
    s.startVerify code =
      ({ s with state := { s.state with problem := some .codeNotRequested, notice := none } },
        .ended (.failed .codeNotRequested)) := by
  have unrequested : s.clearMessages.state.step ≠ .awaitingCode := by
    rw [show s.clearMessages.state.step = .awaitingPhone from step]
    exact Step.noConfusion
  rw [startVerify, if_neg (Bool.eq_false_iff.mp free)]
  exact if_pos unrequested

theorem startVerify_of_invalid (free : s.busy = false) (step : s.state.step = .awaitingCode)
    {code : String} (invalid : Code.isValid code = false) :
    s.startVerify code =
      ({ s with state := { s.state with problem := some .invalidCode, notice := none } },
        .ended (.failed .invalidCode)) := by
  have requested : ¬s.clearMessages.state.step ≠ .awaitingCode := not_not_intro step
  rw [startVerify, if_neg (Bool.eq_false_iff.mp free)]
  exact (if_neg requested).trans (if_pos ((Bool.not_eq_true' _).mpr invalid))

theorem startVerify_of_valid (free : s.busy = false) (step : s.state.step = .awaitingCode)
    {code : String} (valid : Code.isValid code = true) :
    s.startVerify code =
      ({ s with
          state := { s.state with code, problem := none, notice := none }
          pending := some s.epoch },
        .asked ⟨s.epoch, s.state.phone, code, s.state.requestId⟩) := by
  have requested : ¬s.clearMessages.state.step ≠ .awaitingCode := not_not_intro step
  have complete : ¬(!Code.isValid code) = true := by rw [valid]; exact Bool.noConfusion
  rw [startVerify, if_neg (Bool.eq_false_iff.mp free)]
  exact (if_neg requested).trans (if_neg complete)

theorem requestCode_cases (s : Session) (phone : String) :
    (Phone.isValid phone = true ∧
      s.requestCode phone =
        ({ s with state := s.state.clearMessages, pending := some s.epoch },
          .asked ⟨s.epoch, phone, s.channels⟩)) ∨
    (Phone.isValid phone = false ∧
      s.requestCode phone =
        ({ s with state := { s.state with problem := some .invalidPhone, notice := none } },
          .ended (.failed .invalidPhone))) := by
  cases valid : Phone.isValid phone with
  | true => exact Or.inl ⟨rfl, requestCode_of_valid valid⟩
  | false => exact Or.inr ⟨rfl, requestCode_of_invalid valid⟩

theorem startSend_cases (s : Session) (phone : String) :
    (s.busy = true ∧ s.startSend phone = (s, .ended (.ignored .busy))) ∨
    (s.busy = false ∧ s.startSend phone = s.requestCode phone) := by
  cases held : s.busy with
  | true => exact Or.inl ⟨rfl, startSend_of_busy held phone⟩
  | false => exact Or.inr ⟨rfl, startSend_of_free held phone⟩

theorem startResend_cases (s : Session) :
    (s.busy = true ∧ s.startResend = (s, .ended (.ignored .busy))) ∨
    (s.busy = false ∧ s.state.resendAllowed = false ∧
      s.startResend = (s, .ended (.ignored .coolingDown))) ∨
    (s.busy = false ∧ s.state.resendAllowed = true ∧
      s.startResend = (s.withCode "").requestCode s.state.phone) := by
  cases held : s.busy with
  | true => exact Or.inl ⟨rfl, startResend_of_busy held⟩
  | false =>
    cases allowed : s.state.resendAllowed with
    | false => exact Or.inr (Or.inl ⟨rfl, rfl, startResend_of_cooling held allowed⟩)
    | true => exact Or.inr (Or.inr ⟨rfl, rfl, startResend_of_allowed held allowed⟩)

theorem startVerify_cases (s : Session) (code : String) :
    (s.busy = true ∧ s.startVerify code = (s, .ended (.ignored .busy))) ∨
    (s.busy = false ∧ s.state.step = .awaitingPhone ∧
      s.startVerify code =
        ({ s with state := { s.state with problem := some .codeNotRequested, notice := none } },
          .ended (.failed .codeNotRequested))) ∨
    (s.busy = false ∧ s.state.step = .awaitingCode ∧ Code.isValid code = false ∧
      s.startVerify code =
        ({ s with state := { s.state with problem := some .invalidCode, notice := none } },
          .ended (.failed .invalidCode))) ∨
    (s.busy = false ∧ s.state.step = .awaitingCode ∧ Code.isValid code = true ∧
      s.startVerify code =
        ({ s with
            state := { s.state with code, problem := none, notice := none }
            pending := some s.epoch },
          .asked ⟨s.epoch, s.state.phone, code, s.state.requestId⟩)) := by
  cases held : s.busy with
  | true => exact Or.inl ⟨rfl, startVerify_of_busy held code⟩
  | false =>
    rcases s.state.step.eq_awaitingPhone_or_eq_awaitingCode with step | step
    · exact Or.inr (Or.inl ⟨rfl, step, startVerify_of_awaitingPhone held step code⟩)
    · cases valid : Code.isValid code with
      | false =>
        exact Or.inr (Or.inr (Or.inl ⟨rfl, step, rfl, startVerify_of_invalid held step valid⟩))
      | true =>
        exact Or.inr (Or.inr (Or.inr ⟨rfl, step, rfl, startVerify_of_valid held step valid⟩))

/-! ### Ending a call -/

theorem finishSend_of_stale {call : Call SendRequest} (stale : call.epoch ≠ s.epoch)
    (answer : Except Failure SendReceipt) : s.finishSend call answer = (s, .ignored .stale) := by
  rw [finishSend, if_pos stale]

theorem finishSend_of_receipt {call : Call SendRequest} (current : call.epoch = s.epoch)
    {receipt : SendReceipt} (named : receipt.requestId ≠ "") :
    s.finishSend call (.ok receipt) =
      ({ s with state := s.state.sent call.request.phone receipt, pending := none }, .sent) := by
  rw [finishSend, if_neg (not_not_intro current)]
  exact if_neg named

theorem finishSend_of_unnamed {call : Call SendRequest} (current : call.epoch = s.epoch)
    {receipt : SendReceipt} (unnamed : receipt.requestId = "") :
    s.finishSend call (.ok receipt) =
      s.release.fail (.rejected ResultCode.sendFailed Problem.sendFailedMessage) := by
  rw [finishSend, if_neg (not_not_intro current)]
  exact if_pos unnamed

theorem finishSend_of_failure {call : Call SendRequest} (current : call.epoch = s.epoch)
    (failure : Failure) :
    s.finishSend call (.error failure) =
      s.release.fail (.ofFailure Problem.sendFailedMessage failure) := by
  rw [finishSend, if_neg (not_not_intro current)]

theorem finishSend_cases {call : Call SendRequest} (current : call.epoch = s.epoch)
    (answer : Except Failure SendReceipt) :
    (∃ receipt, answer = .ok receipt ∧ receipt.requestId ≠ "" ∧
      s.finishSend call answer =
        ({ s with state := s.state.sent call.request.phone receipt, pending := none }, .sent)) ∨
    (∃ problem,
      ((∃ receipt, answer = .ok receipt ∧ receipt.requestId = "" ∧
          problem = .rejected ResultCode.sendFailed Problem.sendFailedMessage) ∨
        (∃ failure, answer = .error failure ∧
          problem = .ofFailure Problem.sendFailedMessage failure)) ∧
      s.finishSend call answer =
        ({ s with state := { s.state with problem := some problem }, pending := none },
          .failed problem)) := by
  cases answer with
  | error failure =>
    exact Or.inr ⟨_, Or.inr ⟨failure, rfl, rfl⟩, finishSend_of_failure current failure⟩
  | ok receipt =>
    by_cases unnamed : receipt.requestId = ""
    · exact Or.inr
        ⟨_, Or.inl ⟨receipt, rfl, unnamed, rfl⟩, finishSend_of_unnamed current unnamed⟩
    · exact Or.inl ⟨receipt, rfl, unnamed, finishSend_of_receipt current unnamed⟩

theorem applyVerdict_cases (s : Session) (verdict : Verdict) :
    (verdict.verified = true ∧
      s.applyVerdict verdict =
        ({ s with state := { s.state with notice := some .verified } }, .verified)) ∨
    (verdict.verified = false ∧
      s.applyVerdict verdict =
        ({ s with
            state := { s.state with
              attemptsLeft := verdict.attemptsLeft.or s.state.attemptsLeft
              problem := some (.rejected ResultCode.verificationFailed
                (Text.orElse verdict.message Problem.verifyFailedMessage)) } },
          .rejected (verdict.attemptsLeft.or s.state.attemptsLeft))) := by
  cases verified : verdict.verified with
  | true => exact Or.inl ⟨rfl, by simp only [applyVerdict, verified, ↓reduceIte]⟩
  | false =>
    exact Or.inr ⟨rfl, by simp only [applyVerdict, verified, Bool.false_eq_true, ↓reduceIte]⟩

theorem finishVerify_of_stale {call : Call VerifyRequest} (stale : call.epoch ≠ s.epoch)
    (answer : Except Failure Verdict) : s.finishVerify call answer = (s, .ignored .stale) := by
  rw [finishVerify, if_pos (Or.inl stale)]

/-- An answer to a request that was replaced would leave the slot taken. -/
theorem finishVerify_of_replaced {call : Call VerifyRequest}
    (replaced : call.request.requestId ≠ s.state.requestId) (answer : Except Failure Verdict) :
    s.finishVerify call answer = (s, .ignored .stale) := by
  rw [finishVerify, if_pos (Or.inr replaced)]

private theorem finishVerify_fence {call : Call VerifyRequest} (current : call.epoch = s.epoch)
    (bound : call.request.requestId = s.state.requestId) :
    ¬(call.epoch ≠ s.epoch ∨ call.request.requestId ≠ s.state.requestId) :=
  not_or.mpr ⟨not_not_intro current, not_not_intro bound⟩

theorem finishVerify_of_verdict {call : Call VerifyRequest} (current : call.epoch = s.epoch)
    (bound : call.request.requestId = s.state.requestId) (verdict : Verdict) :
    s.finishVerify call (.ok verdict) = s.release.applyVerdict verdict := by
  rw [finishVerify, if_neg (finishVerify_fence current bound)]

theorem finishVerify_of_failure {call : Call VerifyRequest} (current : call.epoch = s.epoch)
    (bound : call.request.requestId = s.state.requestId) (failure : Failure) :
    s.finishVerify call (.error failure) =
      (if (Problem.ofFailure Problem.verifyFailedMessage failure).forcesRestart
        then s.release.restart else s.release).fail
          (.ofFailure Problem.verifyFailedMessage failure) := by
  rw [finishVerify, if_neg (finishVerify_fence current bound)]
  simp only
  split
  · rfl
  · rfl

theorem finishVerify_cases {call : Call VerifyRequest} (current : call.epoch = s.epoch)
    (bound : call.request.requestId = s.state.requestId) (answer : Except Failure Verdict) :
    (∃ verdict, answer = .ok verdict ∧
      s.finishVerify call answer = s.release.applyVerdict verdict) ∨
    (∃ failure problem, answer = .error failure ∧
      problem = Problem.ofFailure Problem.verifyFailedMessage failure ∧
      ((problem.forcesRestart = true ∧
          s.finishVerify call answer =
            ({ s with state := { s.state.restart with problem := some problem }, pending := none },
              .failed problem)) ∨
        (problem.forcesRestart = false ∧
          s.finishVerify call answer =
            ({ s with state := { s.state with problem := some problem }, pending := none },
              .failed problem)))) := by
  cases answer with
  | ok verdict => exact Or.inl ⟨verdict, rfl, finishVerify_of_verdict current bound verdict⟩
  | error failure =>
    refine Or.inr ⟨failure, _, rfl, rfl, ?_⟩
    rw [finishVerify_of_failure current bound failure]
    cases forced : (Problem.ofFailure Problem.verifyFailedMessage failure).forcesRestart with
    | true => exact Or.inl ⟨rfl, rfl⟩
    | false => exact Or.inr ⟨rfl, rfl⟩

/-! ### The slot after a call -/

theorem finishSend_keeps (s : Session) (call : Call SendRequest)
    (answer : Except Failure SendReceipt) :
    (s.finishSend call answer).1.epoch = s.epoch ∧
      (s.finishSend call answer).1.channels = s.channels := by
  by_cases current : call.epoch = s.epoch
  · rcases finishSend_cases current answer with ⟨_, -, -, sent⟩ | ⟨_, -, failed⟩
    · rw [sent]
      exact ⟨rfl, rfl⟩
    · rw [failed]
      exact ⟨rfl, rfl⟩
  · rw [finishSend_of_stale current]
    exact ⟨rfl, rfl⟩

theorem finishSend_pending {call : Call SendRequest} (current : call.epoch = s.epoch)
    (answer : Except Failure SendReceipt) : (s.finishSend call answer).1.pending = none := by
  rcases finishSend_cases current answer with ⟨_, -, -, sent⟩ | ⟨_, -, failed⟩
  · rw [sent]
  · rw [failed]

theorem applyVerdict_keeps (s : Session) (verdict : Verdict) :
    s.applyVerdict verdict =
      ({ s with state := (s.applyVerdict verdict).1.state }, (s.applyVerdict verdict).2) := by
  rcases s.applyVerdict_cases verdict with ⟨-, verified⟩ | ⟨-, rejected⟩
  · rw [verified]
  · rw [rejected]

theorem finishVerify_keeps (s : Session) (call : Call VerifyRequest)
    (answer : Except Failure Verdict) :
    (s.finishVerify call answer).1.epoch = s.epoch ∧
      (s.finishVerify call answer).1.channels = s.channels := by
  by_cases current : call.epoch = s.epoch
  · by_cases bound : call.request.requestId = s.state.requestId
    · rcases finishVerify_cases current bound answer with
        ⟨verdict, -, judged⟩ | ⟨_, _, -, -, ⟨-, burnt⟩ | ⟨-, failed⟩⟩
      · rw [judged, applyVerdict_keeps]
        exact ⟨rfl, rfl⟩
      · rw [burnt]
        exact ⟨rfl, rfl⟩
      · rw [failed]
        exact ⟨rfl, rfl⟩
    · rw [finishVerify_of_replaced bound]
      exact ⟨rfl, rfl⟩
  · rw [finishVerify_of_stale current]
    exact ⟨rfl, rfl⟩

theorem finishVerify_pending {call : Call VerifyRequest} (current : call.epoch = s.epoch)
    (bound : call.request.requestId = s.state.requestId) (answer : Except Failure Verdict) :
    (s.finishVerify call answer).1.pending = none := by
  rcases finishVerify_cases current bound answer with
    ⟨verdict, -, judged⟩ | ⟨_, _, -, -, ⟨-, burnt⟩ | ⟨-, failed⟩⟩
  · rw [judged, applyVerdict_keeps]
    rfl
  · rw [burnt]
  · rw [failed]

theorem abandon_keeps (s : Session) (epoch : UInt64) :
    (s.abandon epoch).epoch = s.epoch ∧ (s.abandon epoch).channels = s.channels := by
  unfold abandon
  split
  · exact ⟨rfl, rfl⟩
  · exact ⟨rfl, rfl⟩

theorem finishVerify_ne_stale {call : Call VerifyRequest} (current : call.epoch = s.epoch)
    (bound : call.request.requestId = s.state.requestId) (answer : Except Failure Verdict) :
    (s.finishVerify call answer).2 ≠ .ignored .stale := by
  rcases finishVerify_cases current bound answer with
    ⟨verdict, -, judged⟩ | ⟨_, _, -, -, ⟨-, burnt⟩ | ⟨-, failed⟩⟩
  · rw [judged]
    rcases s.release.applyVerdict_cases verdict with ⟨-, verified⟩ | ⟨-, rejected⟩
    · rw [verified]
      exact Outcome.noConfusion
    · rw [rejected]
      exact Outcome.noConfusion
  · rw [burnt]
    exact Outcome.noConfusion
  · rw [failed]
    exact Outcome.noConfusion

theorem abandon_of_stale {epoch : UInt64} (stale : epoch ≠ s.epoch) : s.abandon epoch = s := by
  rw [abandon, if_neg (fun matched => stale matched.2.symm)]

theorem abandon_of_held (held : s.pending = some s.epoch) : s.abandon s.epoch = s.release := by
  rw [abandon, if_pos ⟨held, rfl⟩]

end Session

end Passcode
