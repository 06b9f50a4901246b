import Passcode.Proofs.Session.Sound
import Passcode.Proofs.Session.Trace

/-!
What the steps of a call leave alone. A send that comes to nothing leaves no trace but a message,
and a verification at most the code, the attempts that are left and a message, unless the service
rejects it with one of the two codes for which the request is used up.
-/

set_option autoImplicit false

namespace Passcode

/-- The service rejects a verification with `code`, and the answer is not stale. -/
def Observation.RejectedWith (o : Observation) (code : String) : Prop :=
  ∃ number body outcome, o.event = .answerVerify number (.error (.rejected body)) ∧
    body.code = code ∧ o.effect.outcome = some outcome ∧ outcome ≠ .ignored .stale

/-- What `o`, a step of the call that `start` started, makes of the state. -/
structure Contained (s t : State) (start : Event) (o : Observation) : Prop where
  send : ∀ phone, start = .startSend phone → o.effect.outcome ≠ some .sent →
    t = { s with problem := t.problem, notice := t.notice }
  resend : start = .startResend → o.effect.outcome ≠ some .sent →
    t = { s with code := t.code, problem := t.problem, notice := t.notice }
  /-- The attempts that are left only change to a count that comes with a refusal. -/
  verify : ∀ code, start = .startVerify code →
    ¬o.RejectedWith "10006" → ¬o.RejectedWith "10008" →
      t = { s with
        code := t.code, attemptsLeft := t.attemptsLeft, problem := t.problem, notice := t.notice } ∧
      (t.attemptsLeft = s.attemptsLeft ∨
        ∃ number verdict, o.event = .answerVerify number (.ok verdict) ∧
          verdict.verified = false ∧ o.effect.outcome = some (.rejected t.attemptsLeft) ∧
          t.attemptsLeft ≠ none ∧ verdict.attemptsLeft = t.attemptsLeft)
  expired : o.RejectedWith "10006" → t = { phone := s.phone, problem := some .expired }
  attemptsExceeded : o.RejectedWith "10008" →
    t = { phone := s.phone, problem := some .attemptsExceeded }

structure Moves (s t : State) (o : Observation) : Prop where
  back : s.step = .awaitingCode →
    (t.step = .awaitingPhone ↔
      o.event = .reset ∨ o.RejectedWith "10006" ∨ o.RejectedWith "10008")
  forth : s.step = .awaitingPhone →
    (t.step = .awaitingCode ↔ o.effect.outcome = some .sent)

namespace Run

variable {r : Run} {history : List Observation} {e : Event} {effect : Effect} {session : Session}
  {view : View}

/-! ### Rejections that use up the request -/

private theorem state_of_rejectedWith (turn : Turn r e effect session) {code : String}
    (rejected : Observation.RejectedWith ⟨e, effect, view⟩ code)
    (sentinel : code = ResultCode.expired ∨ code = ResultCode.attemptsExceeded) :
    ∃ body, body.code = code ∧
      (∃ number call, r.call? number = some (.verify call) ∧ call.epoch = r.session.epoch) ∧
      session.state =
        { r.session.state.restart with
          problem := some (.ofFailure Problem.verifyFailedMessage (.rejected body)) } := by
  obtain ⟨number, body, outcome, event, named, returned, current⟩ := rejected
  have burnt :
      (Problem.ofFailure Problem.verifyFailedMessage (.rejected body)).forcesRestart = true :=
    Problem.forcesRestart_ofFailure.mpr ⟨body, rfl, named ▸ sentinel⟩
  simp only at event returned
  subst event
  cases turn with
  | quiet keeps still silent request state =>
    rw [silent] at returned
    cases returned
  | ignored why starts => cases starts
  | stale about found =>
    cases returned
    exact absurd rfl current
  | turnedDown free turned => cases turned
  | asked free asks => cases asks
  | verifyFailed found fresh told stands =>
    rw [told, burnt] at stands
    cases stands
  | restarted found fresh told burnt => exact ⟨body, named, ⟨_, _, found, fresh⟩, by rw [told]⟩

private theorem rejectedWith_of_burnt {number : Nat} {failure : Failure} {problem : Problem}
    (burnt : (Problem.ofFailure Problem.verifyFailedMessage failure).forcesRestart = true)
    {o : Observation} (event : o.event = .answerVerify number (.error failure))
    (outcome : o.effect.outcome = some (.failed problem)) :
    o.RejectedWith "10006" ∨ o.RejectedWith "10008" := by
  obtain ⟨body, rfl, expired | exceeded⟩ := Problem.forcesRestart_ofFailure.mp burnt
  · exact Or.inl ⟨number, body, _, event, expired, outcome, Outcome.noConfusion⟩
  · exact Or.inr ⟨number, body, _, event, exceeded, outcome, Outcome.noConfusion⟩

/-! ### The steps of a call -/

/-- What a step of the call that `start` started leaves of the state `s`. -/
private inductive OwnStep (s : State) (start : Event) : Event → Effect → State → Prop
  | messages {e : Event} {effect : Effect} (problem : Option Problem) (notice : Option Notice) :
      OwnStep s start e effect { s with problem, notice }
  | code {e : Event} {effect : Effect} (code : String) (problem : Option Problem)
      (notice : Option Notice) (typed : ∀ phone, start ≠ .startSend phone) :
      OwnStep s start e effect { s with code, problem, notice }
  | sent {e : Event} {effect : Effect} {t : State} (outcome : effect.outcome = some .sent)
      (send : ∀ code, start ≠ .startVerify code) : OwnStep s start e effect t
  | refused {number : Nat} {verdict : Verdict} {code : String} (problem : Option Problem)
      (verify : start = .startVerify code) (refused : verdict.verified = false) :
      OwnStep s start (.answerVerify number (.ok verdict))
        { outcome := some (.rejected (verdict.attemptsLeft.or s.attemptsLeft)) }
        { s with attemptsLeft := verdict.attemptsLeft.or s.attemptsLeft, problem }
  | restarted {number : Nat} {failure : Failure} {problem : Problem} {code : String} {t : State}
      (verify : start = .startVerify code)
      (burnt : (Problem.ofFailure Problem.verifyFailedMessage failure).forcesRestart = true) :
      OwnStep s start (.answerVerify number (.error failure))
        { outcome := some (.failed problem) } t

private theorem ownStep_of_turn (turn : Turn r e effect session) (recorded : Recorded history r)
    {start : Observation} (place : Observation.origin history ⟨e, effect, view⟩ = some start) :
    OwnStep r.session.state start.event e effect session.state := by
  cases turn with
  | quiet keeps still outcome request state =>
    rw [state]
    exact .messages _ _
  -- Events that belong to no call have no start to be traced back to.
  | typedPhone raw free step => cases place
  | typedCode raw free => cases place
  | ticks => cases place
  | leaves => cases place
  | ignored why starts => exact .messages _ _
  | stale about found => exact .messages _ _
  | turnedDown free turned =>
    cases turned with
    | send invalid => exact .messages _ _
    | resend allowed invalid =>
      cases place
      exact .code _ _ _ (fun _ => Event.noConfusion)
    | unrequested step => exact .messages _ _
    | verify step invalid => exact .messages _ _
  | asked free asks =>
    cases asks with
    | send valid => exact .messages _ _
    | resend allowed valid =>
      cases place
      exact .code _ _ _ (fun _ => Event.noConfusion)
    | verify step valid =>
      cases place
      exact .code _ _ _ (fun _ => Event.noConfusion)
  | sent found current named => exact .sent rfl (recorded.startedBy found place rfl).ne_startVerify
  | sendFailed found current fault => exact .messages _ _
  | verified found current accepted => exact .messages _ _
  | rejected found current refused =>
    exact .refused _ (recorded.startedBy found place rfl).event_of_verify refused
  | verifyFailed found current told stands => exact .messages _ _
  | restarted found current told burnt =>
    exact .restarted (recorded.startedBy found place rfl).event_of_verify (told ▸ burnt)

private theorem contained_of_ownStep {s t : State} {start : Event}
    (own : OwnStep s start e effect t)
    (expired : Observation.RejectedWith ⟨e, effect, view⟩ "10006" →
      t = { phone := s.phone, problem := some .expired })
    (attemptsExceeded : Observation.RejectedWith ⟨e, effect, view⟩ "10008" →
      t = { phone := s.phone, problem := some .attemptsExceeded }) :
    Contained s t start ⟨e, effect, view⟩ := by
  refine ⟨?_, ?_, ?_, expired, attemptsExceeded⟩
  · intro phone send unsent
    cases own with
    | messages problem notice => rfl
    | code code problem notice typed => exact absurd send (typed phone)
    | sent outcome verify => exact absurd outcome unsent
    | refused problem verify refused =>
      rw [send] at verify
      cases verify
    | restarted verify burnt =>
      rw [send] at verify
      cases verify
  · intro resend unsent
    cases own with
    | messages problem notice => rfl
    | code code problem notice typed => rfl
    | sent outcome verify => exact absurd outcome unsent
    | refused problem verify refused =>
      rw [resend] at verify
      cases verify
    | restarted verify burnt =>
      rw [resend] at verify
      cases verify
  · intro code verify notExpired notExceeded
    cases own with
    | messages problem notice => exact ⟨rfl, Or.inl rfl⟩
    | code code problem notice typed => exact ⟨rfl, Or.inl rfl⟩
    | sent outcome send => exact absurd verify (send code)
    | @refused number verdict _ problem _ refused =>
      refine ⟨rfl, ?_⟩
      -- A refusal without a count keeps the one that is stored.
      cases reported : verdict.attemptsLeft with
      | none => exact Or.inl (Option.none_or)
      | some count =>
        refine Or.inr ⟨number, verdict, rfl, refused, ?_, ?_, ?_⟩
        · rfl
        · rw [Option.some_or]
          exact Option.some_ne_none count
        · rw [reported, Option.some_or]
    | restarted _ burnt =>
      have neither := not_or.mpr ⟨notExpired, notExceeded⟩
      exact (neither (rejectedWith_of_burnt burnt rfl rfl)).elim

/-! ### The step of a session -/

private theorem moves_of_turn (turn : Turn r e effect session) :
    Moves r.session.state session.state ⟨e, effect, view⟩ where
  back late := by
    constructor
    · intro early
      cases turn with
      | quiet keeps still silent request state =>
        rw [state, late] at early
        cases early
      | leaves => exact Or.inl rfl
      | sent => cases early
      | restarted found current told burnt =>
        exact Or.inr (rejectedWith_of_burnt (told ▸ burnt) rfl rfl)
      | _ => exact absurd (late.symm.trans early) Step.noConfusion
    · rintro (reset | expired | exceeded)
      · simp only at reset
        subst reset
        cases turn with
        | quiet keeps => cases keeps
        | leaves => rfl
        | ignored why starts => cases starts
        | stale about found => cases about
        | turnedDown free turned => cases turned
        | asked free asks => cases asks
      · obtain ⟨body, -, -, state⟩ := state_of_rejectedWith turn expired (Or.inl rfl)
        rw [state]
        rfl
      · obtain ⟨body, -, -, state⟩ := state_of_rejectedWith turn exceeded (Or.inr rfl)
        rw [state]
        rfl
  forth early := by
    constructor
    · intro late
      cases turn with
      | quiet keeps still silent request state =>
        rw [state, early] at late
        cases late
      | leaves => cases late
      | sent => rfl
      | restarted => cases late
      | _ => exact absurd (early.symm.trans late) Step.noConfusion
    · intro outcome
      cases turn with
      | quiet keeps still silent request state => cases silent.symm.trans outcome
      | sent => rfl
      | _ => cases outcome

/-- The calls of a run leave its state alone but for what they are about. -/
structure Intact (history : List Observation) (r : Run) : Prop where
  own : ∀ e start, (r.see e).origin history = some start →
    Contained r.session.state (r.step e).1.session.state start.event (r.see e)
  /-- Every answer to an outstanding call and every loss of one is a step of some call. -/
  traced : ∀ e number call, r.call? number = some call → e.number? = some number →
    ∃ start, (r.see e).origin history = some start
  moves : ∀ e, Moves r.session.state (r.step e).1.session.state (r.see e)

private theorem renewed_of_rejectedWith (fenced : r.Fenced) (sound : r.Sound)
    (turn : Turn r e effect session) {code : String}
    (rejected : Observation.RejectedWith ⟨e, effect, view⟩ code)
    (sentinel : code = ResultCode.expired ∨ code = ResultCode.attemptsExceeded) :
    ∃ body, body.code = code ∧
      session.state =
        { phone := r.session.state.phone
          problem := some (.ofFailure Problem.verifyFailedMessage (.rejected body)) } := by
  obtain ⟨body, named, ⟨number, call, found, current⟩, state⟩ :=
    state_of_rejectedWith turn rejected sentinel
  have silent := (sound.silent fenced found current).2
  refine ⟨body, named, ?_⟩
  rw [state, State.restart, silent]

theorem intact_of_sound (fenced : r.Fenced) (sound : r.Sound) (recorded : Recorded history r) :
    Intact history r where
  own e start place := by
    have turn := r.step_turn e
    refine contained_of_ownStep (ownStep_of_turn turn recorded place) ?_ ?_
    · intro expired
      obtain ⟨body, named, state⟩ := renewed_of_rejectedWith fenced sound turn expired (Or.inl rfl)
      rw [state, Problem.ofFailure_of_expired named]
    · intro exceeded
      obtain ⟨body, named, state⟩ := renewed_of_rejectedWith fenced sound turn exceeded (Or.inr rfl)
      rw [state, Problem.ofFailure_of_attemptsExceeded named]
  traced e number call found about := by
    obtain ⟨start, place, -⟩ := recorded.origin found (o := r.see e) about
    exact ⟨start, place⟩
  moves e := moves_of_turn (r.step_turn e)

/-- Failures leave every reachable session intact, and only the two codes send the user back. -/
theorem intact_of_few_resets (channels : List String) (events : List Event)
    (few : resets events < UInt64.size) :
    Intact ((new channels).observe events) ((new channels).after events) :=
  intact_of_sound (reachable_fenced channels few) (reachable_sound channels few)
    (reachable_recorded channels few)

theorem intact_before_expiry :
    let receipt : SendReceipt := ⟨"sms", "R1", 300, "09****5678", ⟨some 4, none⟩⟩
    let events : List Event := [.startSend "0912345678", .answerSend 0 (.ok receipt),
      .startVerify "123456", .tick]
    let expiry : Event := .answerVerify 1 (.error (.rejected ⟨"10006", "not found"⟩))
    resets events < UInt64.size ∧
      (((new []).after events).step expiry).1.session.state =
        { phone := "0912345678", problem := some .expired } ∧
      Intact ((new []).observe events) ((new []).after events) :=
  ⟨by decide, by decide, intact_of_few_resets [] _ (by decide)⟩

end Run

end Passcode
