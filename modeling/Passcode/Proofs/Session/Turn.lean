import Passcode.Proofs.Session.Atomic

/-!
What one event returns and what it leaves of the state, all at once. Every event takes one of the
turns below, with the guards under which it does; what a run keeps, counts or records is read off
them.
-/

set_option autoImplicit false

namespace Passcode

/-! ### Problems that come from the service -/

namespace Problem

theorem forcesRestart_ofFailure {fallback : String} {failure : Failure} :
    (ofFailure fallback failure).forcesRestart = true ↔
      ∃ body, failure = .rejected body ∧
        (body.code = ResultCode.expired ∨ body.code = ResultCode.attemptsExceeded) := by
  cases failure with
  | network detail => simp only [ofFailure, forcesRestart, Bool.false_eq_true, reduceCtorEq,
      false_and, exists_false]
  | rejected body =>
    simp only [ofFailure, Failure.rejected.injEq, exists_eq_left']
    split
    · next expired => simp only [forcesRestart, expired, true_or]
    · next fresh =>
      split
      · next exceeded => simp only [forcesRestart, exceeded, or_true]
      · next other => simp only [forcesRestart, Bool.false_eq_true, fresh, other, or_self]

theorem isLocal_ofFailure (fallback : String) (failure : Failure) :
    (ofFailure fallback failure).isLocal = false := by
  cases failure with
  | network detail => rfl
  | rejected body =>
    simp only [ofFailure]
    split
    · rfl
    · split
      · rfl
      · rfl

theorem ofFailure_of_expired {fallback : String} {body : ErrorBody}
    (code : body.code = ResultCode.expired) : ofFailure fallback (.rejected body) = .expired := by
  rw [ofFailure, if_pos code]

theorem ofFailure_of_attemptsExceeded {fallback : String} {body : ErrorBody}
    (code : body.code = ResultCode.attemptsExceeded) :
    ofFailure fallback (.rejected body) = .attemptsExceeded := by
  have other : body.code ≠ ResultCode.expired := by rw [code]; decide
  rw [ofFailure, if_neg other, if_pos code]

end Problem

/-! ### Turns -/

/-- `e` hands over `request`, and leaves `code` as the typed code. -/
inductive Event.Asks (s : Session) : Event → String → Request → Prop
  | send {phone : String} (valid : Phone.isValid phone = true) :
      Asks s (.startSend phone) s.state.code (.send ⟨phone, s.channels⟩)
  | resend (allowed : s.state.resendAllowed = true) (valid : Phone.isValid s.state.phone = true) :
      Asks s .startResend "" (.send ⟨s.state.phone, s.channels⟩)
  | verify {code : String} (step : s.state.step = .awaitingCode)
      (valid : Code.isValid code = true) :
      Asks s (.startVerify code) code (.verify ⟨s.state.phone, code, s.state.requestId⟩)

/-- `e` is turned down with `problem` before the service is asked. -/
inductive Event.TurnedDown (s : Session) : Event → String → Problem → Prop
  | send {phone : String} (invalid : Phone.isValid phone = false) :
      TurnedDown s (.startSend phone) s.state.code .invalidPhone
  | resend (allowed : s.state.resendAllowed = true)
      (invalid : Phone.isValid s.state.phone = false) :
      TurnedDown s .startResend "" .invalidPhone
  | unrequested {code : String} (step : s.state.step = .awaitingPhone) :
      TurnedDown s (.startVerify code) s.state.code .codeNotRequested
  | verify {code : String} (step : s.state.step = .awaitingCode)
      (invalid : Code.isValid code = false) :
      TurnedDown s (.startVerify code) s.state.code .invalidCode

theorem Event.Asks.isStart {s : Session} {e : Event} {code : String} {request : Request}
    (asks : e.Asks s code request) : e.isStart = true := by
  cases asks with
  | send valid => rfl
  | resend allowed valid => rfl
  | verify step valid => rfl

theorem Event.TurnedDown.isStart {s : Session} {e : Event} {code : String} {problem : Problem}
    (turned : e.TurnedDown s code problem) : e.isStart = true := by
  cases turned with
  | send invalid => rfl
  | resend allowed invalid => rfl
  | unrequested step => rfl
  | verify step invalid => rfl

inductive SendFault : Except Failure SendReceipt → Problem → Prop
  | unnamed {receipt : SendReceipt} (unnamed : receipt.requestId = "") :
      SendFault (.ok receipt) (.rejected ResultCode.sendFailed Problem.sendFailedMessage)
  | failure (failure : Failure) :
      SendFault (.error failure) (.ofFailure Problem.sendFailedMessage failure)

/-- What one event returns and what it leaves of the session. -/
inductive Turn (r : Run) : Event → Effect → Session → Prop
  /-- Nothing is returned and the state stays: typing is not accepted, a call is dropped, or there
  is no such call. -/
  | quiet {e : Event} {effect : Effect} {session : Session} (keeps : e.isReset = false)
      (still : e.isTick = false) (outcome : effect.outcome = none)
      (request : effect.request = none) (state : session.state = r.session.state) :
      Turn r e effect session
  | typedPhone (raw : String) (free : r.session.busy = false)
      (step : r.session.state.step = .awaitingPhone) :
      Turn r (.typePhone raw) { stored := some (Phone.normalize raw) }
        { r.session with state := { r.session.state with phone := Phone.normalize raw } }
  | typedCode (raw : String) (free : r.session.busy = false) :
      Turn r (.typeCode raw) { stored := some (Code.normalize raw) }
        (r.session.withCode (Code.normalize raw))
  | ticks : Turn r .tick { left := some r.session.tick.state.ttl } r.session.tick
  | leaves : Turn r .reset {} r.session.reset
  | ignored {e : Event} (why : Ignored) (starts : e.isStart = true) :
      Turn r e { outcome := some (.ignored why) } r.session
  | stale {e : Event} {number : Nat} {call : OpenCall} (about : e.number? = some number)
      (found : r.call? number = some call) :
      Turn r e { outcome := some (.ignored .stale) } r.session
  | turnedDown {e : Event} {code : String} {problem : Problem} (free : r.session.busy = false)
      (turned : e.TurnedDown r.session code problem) :
      Turn r e { outcome := some (.failed problem) }
        { r.session with
          state := { r.session.state with code, problem := some problem, notice := none } }
  | asked {e : Event} {code : String} {request : Request} (free : r.session.busy = false)
      (asks : e.Asks r.session code request) :
      Turn r e { request := some request }
        { r.session with
          state := { r.session.state with code, problem := none, notice := none }
          pending := some r.session.epoch }
  | sent {number : Nat} {call : Call SendRequest} {receipt : SendReceipt}
      (found : r.call? number = some (.send call)) (current : call.epoch = r.session.epoch)
      (named : receipt.requestId ≠ "") :
      Turn r (.answerSend number (.ok receipt)) { outcome := some .sent }
        { r.session with
          state := r.session.state.sent call.request.phone receipt
          pending := none }
  | sendFailed {number : Nat} {call : Call SendRequest} {answer : Except Failure SendReceipt}
      {problem : Problem} (found : r.call? number = some (.send call))
      (current : call.epoch = r.session.epoch) (fault : SendFault answer problem) :
      Turn r (.answerSend number answer) { outcome := some (.failed problem) }
        { r.session with
          state := { r.session.state with problem := some problem }
          pending := none }
  | verified {number : Nat} {call : Call VerifyRequest} {verdict : Verdict}
      (found : r.call? number = some (.verify call)) (current : call.epoch = r.session.epoch)
      (accepted : verdict.verified = true) :
      Turn r (.answerVerify number (.ok verdict)) { outcome := some .verified }
        { r.session with
          state := { r.session.state with notice := some .verified }
          pending := none }
  | rejected {number : Nat} {call : Call VerifyRequest} {verdict : Verdict}
      (found : r.call? number = some (.verify call)) (current : call.epoch = r.session.epoch)
      (refused : verdict.verified = false) :
      Turn r (.answerVerify number (.ok verdict))
        { outcome := some (.rejected (verdict.attemptsLeft.or r.session.state.attemptsLeft)) }
        { r.session with
          state := { r.session.state with
            attemptsLeft := verdict.attemptsLeft.or r.session.state.attemptsLeft
            problem := some (.rejected ResultCode.verificationFailed
              (Text.orElse verdict.message Problem.verifyFailedMessage)) }
          pending := none }
  | verifyFailed {number : Nat} {call : Call VerifyRequest} {failure : Failure} {problem : Problem}
      (found : r.call? number = some (.verify call)) (current : call.epoch = r.session.epoch)
      (told : problem = .ofFailure Problem.verifyFailedMessage failure)
      (stands : problem.forcesRestart = false) :
      Turn r (.answerVerify number (.error failure)) { outcome := some (.failed problem) }
        { r.session with
          state := { r.session.state with problem := some problem }
          pending := none }
  /-- The request is used up, and the user is sent back to the phone step. -/
  | restarted {number : Nat} {call : Call VerifyRequest} {failure : Failure} {problem : Problem}
      (found : r.call? number = some (.verify call)) (current : call.epoch = r.session.epoch)
      (told : problem = .ofFailure Problem.verifyFailedMessage failure)
      (burnt : problem.forcesRestart = true) :
      Turn r (.answerVerify number (.error failure)) { outcome := some (.failed problem) }
        { r.session with
          state := { r.session.state.restart with problem := some problem }
          pending := none }

namespace Turn

variable {r : Run} {e : Event} {effect : Effect} {session : Session}

theorem asks (turn : Turn r e effect session) {request : Request}
    (handed : effect.request = some request) :
    r.session.busy = false ∧ ∃ code, e.Asks r.session code request ∧
      session =
        { r.session with
          state := { r.session.state with code, problem := none, notice := none }
          pending := some r.session.epoch } := by
  cases turn with
  | asked free asks =>
    obtain rfl := Option.some.inj handed
    exact ⟨free, _, asks, rfl⟩
  | quiet keeps still outcome request state =>
    rw [request] at handed
    cases handed
  | _ => cases handed

end Turn

namespace Run

variable {r : Run} {number : Nat}

private theorem turn_requestCode {e : Event} {s : Session} {phone code : String}
    (free : r.session.busy = false) (same : s = r.session.withCode code)
    (asks : Phone.isValid phone = true →
      e.Asks r.session code (.send ⟨phone, r.session.channels⟩))
    (turned : Phone.isValid phone = false → e.TurnedDown r.session code .invalidPhone) :
    Turn r e (r.started .send .send (s.requestCode phone)).2
      (r.started .send .send (s.requestCode phone)).1.session := by
  subst same
  rcases (r.session.withCode code).requestCode_cases phone with ⟨valid, asked⟩ | ⟨invalid, refused⟩
  · rw [asked]
    exact .asked free (asks valid)
  · rw [refused]
    exact .turnedDown free (turned invalid)

private theorem turn_startSend (phone : String) :
    Turn r (.startSend phone) (r.started .send .send (r.session.startSend phone)).2
      (r.started .send .send (r.session.startSend phone)).1.session := by
  rcases r.session.startSend_cases phone with ⟨-, busy⟩ | ⟨free, started⟩
  · rw [busy]
    exact .ignored .busy rfl
  · rw [started]
    exact turn_requestCode free rfl .send .send

private theorem turn_startResend :
    Turn r .startResend (r.started .send .send r.session.startResend).2
      (r.started .send .send r.session.startResend).1.session := by
  rcases r.session.startResend_cases with ⟨-, busy⟩ | ⟨-, -, cooling⟩ | ⟨free, allowed, started⟩
  · rw [busy]
    exact .ignored .busy rfl
  · rw [cooling]
    exact .ignored .coolingDown rfl
  · rw [started]
    exact turn_requestCode free rfl (.resend allowed) (.resend allowed)

private theorem turn_startVerify (code : String) :
    Turn r (.startVerify code) (r.started .verify .verify (r.session.startVerify code)).2
      (r.started .verify .verify (r.session.startVerify code)).1.session := by
  rcases r.session.startVerify_cases code with
    ⟨-, busy⟩ | ⟨free, step, refused⟩ | ⟨free, step, invalid, refused⟩ | ⟨free, step, valid, asked⟩
  · rw [busy]
    exact .ignored .busy rfl
  · rw [refused]
    exact .turnedDown free (.unrequested step)
  · rw [refused]
    exact .turnedDown free (.verify step invalid)
  · rw [asked]
    exact .asked free (.verify step valid)

private theorem turn_answerSend {call : Call SendRequest}
    (found : r.call? number = some (.send call)) (answer : Except Failure SendReceipt) :
    Turn r (.answerSend number answer) { outcome := some (r.session.finishSend call answer).2 }
      (r.session.finishSend call answer).1 := by
  by_cases current : call.epoch = r.session.epoch
  · rcases Session.finishSend_cases current answer with
      ⟨receipt, rfl, named, sent⟩ | ⟨problem, cause, failed⟩
    · rw [sent]
      exact .sent found current named
    · rw [failed]
      rcases cause with ⟨receipt, rfl, unnamed, rfl⟩ | ⟨failure, rfl, rfl⟩
      · exact .sendFailed found current (.unnamed unnamed)
      · exact .sendFailed found current (.failure failure)
  · rw [Session.finishSend_of_stale current]
    exact .stale rfl found

private theorem turn_answerVerify {call : Call VerifyRequest}
    (found : r.call? number = some (.verify call)) (answer : Except Failure Verdict) :
    Turn r (.answerVerify number answer) { outcome := some (r.session.finishVerify call answer).2 }
      (r.session.finishVerify call answer).1 := by
  by_cases current : call.epoch = r.session.epoch
  · by_cases bound : call.request.requestId = r.session.state.requestId
    · rcases Session.finishVerify_cases current bound answer with
        ⟨verdict, rfl, judged⟩ |
        ⟨failure, problem, rfl, told, ⟨burnt, restarted⟩ | ⟨stands, failed⟩⟩
      · rw [judged]
        rcases r.session.release.applyVerdict_cases verdict with
          ⟨accepted, verified⟩ | ⟨refused, rejected⟩
        · rw [verified]
          exact .verified found current accepted
        · rw [rejected]
          exact .rejected found current refused
      · rw [restarted]
        exact .restarted found current told burnt
      · rw [failed]
        exact .verifyFailed found current told stands
    · rw [Session.finishVerify_of_replaced bound]
      exact .stale rfl found
  · rw [Session.finishVerify_of_stale current]
    exact .stale rfl found

/-- Every event takes one of the turns. -/
theorem step_turn (r : Run) (e : Event) : Turn r e (r.step e).2 (r.step e).1.session := by
  cases e with
  | startSend phone => exact turn_startSend phone
  | startResend => exact turn_startResend
  | startVerify code => exact turn_startVerify code
  | answerSend number answer =>
    simp only [step]
    split
    · next call found => exact turn_answerSend found answer
    · exact .quiet rfl rfl rfl rfl rfl
  | answerVerify number answer =>
    simp only [step]
    split
    · next call found => exact turn_answerVerify found answer
    · exact .quiet rfl rfl rfl rfl rfl
  | abandon number =>
    simp only [step]
    split
    · next call found =>
      -- It may free the slot, of which the state knows nothing.
      refine .quiet rfl rfl rfl rfl ?_
      simp only [settled, Session.abandon]
      split
      · rfl
      · rfl
    · exact .quiet rfl rfl rfl rfl rfl
  | typePhone raw =>
    simp only [step, Session.typePhone]
    split
    · next accepted =>
      simp only [Bool.and_eq_true, Bool.not_eq_true', beq_iff_eq] at accepted
      exact .typedPhone raw accepted.1 accepted.2
    · exact .quiet rfl rfl rfl rfl rfl
  | typeCode raw =>
    simp only [step, Session.typeCode]
    split
    · next free => exact .typedCode raw ((Bool.not_eq_true' _).mp free)
    · exact .quiet rfl rfl rfl rfl rfl
  | tick => exact .ticks
  | reset => exact .leaves

end Run

end Passcode
