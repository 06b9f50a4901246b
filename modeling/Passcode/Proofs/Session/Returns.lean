import Passcode.Proofs.Session.Cooldown

/-!
What a call returns. It agrees with what the session shows from then on and with what the call asked
of the service, on every way a call can end; and a call asks exactly where it may.
-/

set_option autoImplicit false

namespace Passcode

/-- The outcome of the call that `start` started agrees with the change from `s` to `t`, with which
the call returns, and with what the start asked of the service. -/
def Outcome.Agrees (s t : Session) (start : Observation) : Outcome → Prop
  | .ignored _ => t.state = s.state ∧ t.busy = s.busy
  | .failed problem => t.state.problem = some problem ∧ t.state.notice = none ∧
      (problem.isLocal = true ↔ start.effect.request = none)
  | .sent | .verified => t.state.problem = none ∧ t.state.notice ≠ none
  | .rejected attemptsLeft => t.state.notice = none ∧
      (∃ message, t.state.problem = some (.rejected "10007" message)) ∧
      attemptsLeft = t.state.attemptsLeft

theorem Event.TurnedDown.isLocal {s : Session} {e : Event} {code : String} {problem : Problem}
    (turned : e.TurnedDown s code problem) : problem.isLocal = true := by
  cases turned with
  | send invalid => rfl
  | resend allowed invalid => rfl
  | unrequested step => rfl
  | verify step invalid => rfl

theorem SendFault.isLocal {answer : Except Failure SendReceipt} {problem : Problem}
    (fault : SendFault answer problem) : problem.isLocal = false := by
  cases fault with
  | unnamed unnamed => rfl
  | failure failure => exact Problem.isLocal_ofFailure _ failure

namespace Run

variable {r : Run} {history : List Observation} {e : Event} {effect : Effect} {session : Session}
  {view : View}

/-- A call that the service has answered did ask, so what it agrees with may rest on that. -/
private theorem agrees_of_call {s t : Session} {number : Nat} {call : OpenCall} {o : Observation}
    {outcome : Outcome} (recorded : Recorded history r) (found : r.call? number = some call)
    (about : o.event.number? = some number)
    (agrees : ∀ start : Observation, start.effect.request ≠ none → outcome.Agrees s t start) :
    ∃ start, o.origin history = some start ∧ outcome.Agrees s t start := by
  obtain ⟨start, place, -, asked⟩ := recorded.origin found about
  exact ⟨start, place, agrees start asked⟩

private theorem isLocal_iff_of_asked {problem : Problem} {start : Observation}
    (remote : problem.isLocal = false) (asked : start.effect.request ≠ none) :
    problem.isLocal = true ↔ start.effect.request = none := by
  simp only [remote, Bool.false_eq_true, asked]

private theorem agrees_of_turn (turn : Turn r e effect session) (fenced : r.Fenced)
    (sound : r.Sound) (recorded : Recorded history r) {outcome : Outcome}
    (returned : effect.outcome = some outcome) :
    ∃ start, Observation.origin history ⟨e, effect, view⟩ = some start ∧
      outcome.Agrees r.session session start := by
  cases turn with
  | quiet keeps still silent request state => cases silent.symm.trans returned
  | typedPhone raw free step => cases returned
  | typedCode raw free => cases returned
  | ticks => cases returned
  | leaves => cases returned
  | ignored why starts =>
    cases returned
    exact ⟨_, Observation.origin_of_isStart starts, rfl, rfl⟩
  | stale about found =>
    cases returned
    exact agrees_of_call recorded found about fun _ _ => ⟨rfl, rfl⟩
  | turnedDown free turned =>
    cases returned
    exact ⟨_, Observation.origin_of_isStart turned.isStart, rfl, rfl,
      iff_of_true turned.isLocal rfl⟩
  | asked free asks => cases returned
  | sent found current named =>
    cases returned
    have silent := sound.silent fenced found current
    exact agrees_of_call recorded found rfl fun _ _ => ⟨silent.1, Option.some_ne_none _⟩
  | sendFailed found current fault =>
    cases returned
    have silent := sound.silent fenced found current
    exact agrees_of_call recorded found rfl fun _ asked =>
      ⟨rfl, silent.2, isLocal_iff_of_asked fault.isLocal asked⟩
  | verified found current accepted =>
    cases returned
    have silent := sound.silent fenced found current
    exact agrees_of_call recorded found rfl fun _ _ => ⟨silent.1, Option.some_ne_none _⟩
  | rejected found current refused =>
    cases returned
    have silent := sound.silent fenced found current
    exact agrees_of_call recorded found rfl fun _ _ => ⟨silent.2, ⟨_, rfl⟩, rfl⟩
  | verifyFailed found current told stands =>
    cases returned
    have silent := sound.silent fenced found current
    have remote : Problem.isLocal _ = false := told ▸ Problem.isLocal_ofFailure _ _
    exact agrees_of_call recorded found rfl fun _ asked =>
      ⟨rfl, silent.2, isLocal_iff_of_asked remote asked⟩
  | restarted found current told burnt =>
    cases returned
    have silent := sound.silent fenced found current
    have remote : Problem.isLocal _ = false := told ▸ Problem.isLocal_ofFailure _ _
    exact agrees_of_call recorded found rfl fun _ asked =>
      ⟨rfl, silent.2, isLocal_iff_of_asked remote asked⟩

/-! ### When the service is asked -/

private theorem step_request_of_asks (free : r.session.busy = false) {code : String}
    {request : Request} (asks : e.Asks r.session code request) :
    (r.step e).2.request = some request := by
  cases asks with
  | send valid =>
    rw [step, Session.startSend_of_free free, Session.requestCode_of_valid valid]
    rfl
  | resend allowed valid =>
    rw [step, Session.startResend_of_allowed free allowed, Session.requestCode_of_valid valid]
    rfl
  | verify late valid =>
    rw [step, Session.startVerify_of_valid free late valid]
    rfl

theorem step_request_iff (r : Run) (e : Event) :
    (r.step e).2.request ≠ none ↔
      r.session.busy = false ∧ ∃ code request, e.Asks r.session code request := by
  constructor
  · intro handed
    obtain ⟨request, same⟩ := Option.ne_none_iff_exists'.mp handed
    obtain ⟨free, code, asks, -⟩ := (r.step_turn e).asks same
    exact ⟨free, code, request, asks⟩
  · rintro ⟨free, code, request, asks⟩
    rw [step_request_of_asks free asks]
    exact Option.some_ne_none request

/-- What calls return agrees with what is recorded and asked, and they ask where they may. -/
structure Returns (history : List Observation) (r : Run) : Prop where
  agrees : ∀ e outcome, (r.step e).2.outcome = some outcome →
    ∃ start, (r.see e).origin history = some start ∧
      outcome.Agrees r.session (r.step e).1.session start
  send : ∀ phone, (r.step (.startSend phone)).2.request ≠ none ↔
    r.session.busy = false ∧ Phone.isValid phone = true
  resend : (r.step .startResend).2.request ≠ none ↔
    r.session.busy = false ∧ r.session.state.ttl.toNat ≤ 240 ∧
      Phone.isValid r.session.state.phone = true
  verify : ∀ code, (r.step (.startVerify code)).2.request ≠ none ↔
    r.session.busy = false ∧ r.session.state.step = .awaitingCode ∧
      code.toList.length = 6 ∧ ∀ c ∈ code.toList, c.isDigit = true

theorem returns_of_sound (fenced : r.Fenced) (sound : r.Sound) (recorded : Recorded history r) :
    Returns history r where
  agrees e outcome returned := agrees_of_turn (r.step_turn e) fenced sound recorded returned
  send phone := by
    rw [step_request_iff]
    refine and_congr_right fun _ => ⟨?_, fun valid => ⟨_, _, .send valid⟩⟩
    rintro ⟨code, request, asks⟩
    cases asks with
    | send valid => exact valid
  resend := by
    rw [step_request_iff, ← State.resendAllowed_iff]
    refine and_congr_right fun _ => ⟨?_, fun h => ⟨_, _, .resend h.1 h.2⟩⟩
    rintro ⟨code, request, asks⟩
    cases asks with
    | resend allowed valid => exact ⟨allowed, valid⟩
  verify code := by
    rw [step_request_iff, ← Code.isValid_iff]
    refine and_congr_right fun _ => ⟨?_, fun h => ⟨_, _, .verify h.1 h.2⟩⟩
    rintro ⟨typed, request, asks⟩
    cases asks with
    | verify late valid => exact ⟨late, valid⟩

/-- Every call of every run returns what it records. -/
theorem returns_of_few_resets (channels : List String) (events : List Event)
    (few : resets events < UInt64.size) :
    Returns ((new channels).observe events) ((new channels).after events) :=
  returns_of_sound (reachable_fenced channels few) (reachable_sound channels few)
    (reachable_recorded channels few)

theorem returns_with_wrong_code :
    let receipt : SendReceipt := ⟨"sms", "R1", 300, "09****5678", ⟨some 4, none⟩⟩
    let events : List Event := [.startSend "0912345678", .answerSend 0 (.ok receipt),
      .startVerify "123456"]
    resets events < UInt64.size ∧
      (((new []).after events).step (.answerVerify 1 (.ok ⟨false, "", some 2⟩))).2.outcome =
        some (.rejected (some 2)) ∧
      Returns ((new []).observe events) ((new []).after events) :=
  ⟨by decide, by decide, returns_of_few_resets [] _ (by decide)⟩

end Run

end Passcode
