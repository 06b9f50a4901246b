import Passcode.Proofs.Blank
import Passcode.Proofs.Session.Returns

/-!
What a user is told. Every problem that a session shows was recorded by one event and stays until
another event takes it away, so it says what that event reported; its text is never blank, and
nothing the network says ever reaches it.
-/

set_option autoImplicit false

namespace Passcode

/-! ### Problems and their causes -/

/-- `shown` stands for a message of the service: it is the message, unless that is blank. -/
structure Conveys (message shown : String) : Prop where
  kept : Text.trim message ≠ "" → shown = message
  visible : Text.trim shown ≠ ""

theorem conveys_orElse (message : String) {fallback : String} (visible : Text.trim fallback ≠ "") :
    Conveys message (Text.orElse message fallback) where
  kept shown := Text.orElse_of_shown shown fallback
  visible := Text.trim_orElse_ne_empty message visible

/-- What the user is told of a failure. Two codes have a meaning of their own; any other is passed
on. -/
inductive Failure.ToldAs : Failure → Problem → Prop
  | network (detail : String) : ToldAs (.network detail) .network
  | expired {body : ErrorBody} (code : body.code = "10006") : ToldAs (.rejected body) .expired
  | attemptsExceeded {body : ErrorBody} (code : body.code = "10008") :
      ToldAs (.rejected body) .attemptsExceeded
  | rejected {body : ErrorBody} {message : String} (alive : body.code ≠ "10006")
      (allowed : body.code ≠ "10008") (conveys : Conveys body.message message) :
      ToldAs (.rejected body) (.rejected body.code message)

def Event.failure? : Event → Option Failure
  | .answerSend _ (.error failure) => some failure
  | .answerVerify _ (.error failure) => some failure
  | _ => none

inductive Event.Records : Event → Problem → Prop
  | input {e : Event} {problem : Problem} (starts : e.isStart = true)
      (found : problem.isLocal = true) : Records e problem
  | failure {e : Event} {failure : Failure} {problem : Problem}
      (reported : e.failure? = some failure) (told : failure.ToldAs problem) : Records e problem
  | unnamed {number : Nat} {receipt : SendReceipt} (unnamed : receipt.requestId = "") :
      Records (.answerSend number (.ok receipt)) (.rejected "10009" "Failed to send OTP")
  | notAccepted {number : Nat} {verdict : Verdict} {message : String}
      (refused : verdict.verified = false) (conveys : Conveys verdict.message message) :
      Records (.answerVerify number (.ok verdict)) (.rejected "10007" message)

theorem Problem.toldAs_ofFailure {fallback : String} (visible : Text.trim fallback ≠ "")
    (failure : Failure) : failure.ToldAs (ofFailure fallback failure) := by
  cases failure with
  | network detail => exact .network detail
  | rejected body =>
    simp only [ofFailure]
    split
    · next expired => exact .expired expired
    · next alive =>
      split
      · next exceeded => exact .attemptsExceeded exceeded
      · next allowed => exact .rejected alive allowed (conveys_orElse body.message visible)

namespace Problem

theorem trim_message_ne_empty_of_isLocal {problem : Problem} (found : problem.isLocal = true) :
    Text.trim problem.message ≠ "" := by
  cases problem with
  | invalidPhone => decide
  | invalidCode => decide
  | codeNotRequested => decide
  | _ => cases found

theorem trim_sendFailedMessage : Text.trim sendFailedMessage ≠ "" := by decide

theorem trim_verifyFailedMessage : Text.trim verifyFailedMessage ≠ "" := by decide

end Problem

namespace Event.Records

variable {e : Event} {problem : Problem}

theorem visible (records : e.Records problem) : Text.trim problem.message ≠ "" := by
  cases records with
  | input starts found => exact Problem.trim_message_ne_empty_of_isLocal found
  | failure reported told =>
    cases told with
    | network detail => decide
    | expired code => decide
    | attemptsExceeded code => decide
    | rejected alive allowed conveys => exact conveys.visible
  | unnamed unnamed => decide
  | notAccepted refused conveys => exact conveys.visible

theorem code_ne {code message : String} (records : e.Records (.rejected code message)) :
    code ≠ "10006" ∧ code ≠ "10008" := by
  cases records with
  | input starts found => cases found
  | failure reported told =>
    cases told with
    | rejected alive allowed conveys => exact ⟨alive, allowed⟩
  | unnamed unnamed => decide
  | notAccepted refused conveys => decide

theorem exists_expired (records : e.Records .expired) :
    ∃ body, e.failure? = some (.rejected body) ∧ body.code = "10006" := by
  cases records with
  | input starts found => cases found
  | failure reported told =>
    cases told with
    | expired code => exact ⟨_, reported, code⟩

theorem exists_attemptsExceeded (records : e.Records .attemptsExceeded) :
    ∃ body, e.failure? = some (.rejected body) ∧ body.code = "10008" := by
  cases records with
  | input starts found => cases found
  | failure reported told =>
    cases told with
    | attemptsExceeded code => exact ⟨_, reported, code⟩

end Event.Records

/-! ### One event -/

theorem Turn.problem {r : Run} {e : Event} {effect : Effect} {session : Session}
    (turn : Turn r e effect session) :
    session.state.problem = r.session.state.problem ∨ session.state.problem = none ∨
      ∃ problem, session.state.problem = some problem ∧ e.Records problem := by
  cases turn with
  | quiet keeps still outcome request state =>
    left
    rw [state]
  | typedPhone raw free step => exact Or.inl rfl
  | typedCode raw free => exact Or.inl rfl
  | ticks => exact Or.inl rfl
  | leaves => exact Or.inr (Or.inl rfl)
  | ignored why starts => exact Or.inl rfl
  | stale about found => exact Or.inl rfl
  | turnedDown free turned =>
    exact Or.inr (Or.inr ⟨_, rfl, .input turned.isStart turned.isLocal⟩)
  | asked free asks => exact Or.inr (Or.inl rfl)
  | sent found current named => exact Or.inl rfl
  | sendFailed found current fault =>
    refine Or.inr (Or.inr ⟨_, rfl, ?_⟩)
    cases fault with
    | unnamed unnamed => exact .unnamed unnamed
    | failure failure =>
      exact .failure rfl (Problem.toldAs_ofFailure Problem.trim_sendFailedMessage failure)
  | verified found current accepted => exact Or.inl rfl
  | rejected found current refused =>
    refine Or.inr (Or.inr ⟨_, rfl, .notAccepted refused ?_⟩)
    exact conveys_orElse _ Problem.trim_verifyFailedMessage
  | verifyFailed found current told stands =>
    subst told
    refine Or.inr (Or.inr ⟨_, rfl, .failure rfl ?_⟩)
    exact Problem.toldAs_ofFailure Problem.trim_verifyFailedMessage _
  | restarted found current told burnt =>
    subst told
    refine Or.inr (Or.inr ⟨_, rfl, .failure rfl ?_⟩)
    exact Problem.toldAs_ofFailure Problem.trim_verifyFailedMessage _

/-! ### Whole runs -/

/-- The problem of a state was recorded by an event of the history and has been shown ever since. -/
def Accounted (history : List Observation) (s : State) : Prop :=
  ∀ problem, s.problem = some problem →
    ∃ before o since, history = before ++ o :: since ∧ o.event.Records problem ∧
      ∀ later ∈ o :: since, later.view.state.problem = some problem

theorem Accounted.exists_records {history : List Observation} {s : State}
    (accounted : Accounted history s) {problem : Problem} (shown : s.problem = some problem) :
    ∃ o ∈ history, o.event.Records problem := by
  obtain ⟨before, o, since, split, records, -⟩ := accounted problem shown
  have member : o ∈ before ++ o :: since := List.mem_append_right before List.mem_cons_self
  rw [← split] at member
  exact ⟨o, member, records⟩

namespace Run

variable {r : Run} {history : List Observation}

theorem step_accounted (h : Accounted history r.session.state) (e : Event) :
    Accounted (history ++ [r.see e]) (r.step e).1.session.state := by
  intro problem recorded
  have shown : (r.see e).view.state.problem = some problem := recorded
  rcases (r.step_turn e).problem with kept | gone | ⟨own, same, records⟩
  · obtain ⟨before, o, since, split, records, stands⟩ := h problem (kept.symm.trans recorded)
    refine ⟨before, o, since ++ [r.see e], ?_, records, ?_⟩
    · rw [split, List.append_assoc, List.cons_append]
    · intro later member
      rw [← List.cons_append, List.mem_append, List.mem_singleton] at member
      rcases member with earlier | last
      · exact stands later earlier
      · rw [last]
        exact shown
  · rw [gone] at recorded
    cases recorded
  · obtain rfl : own = problem := Option.some.inj (same.symm.trans recorded)
    refine ⟨history, r.see e, [], rfl, records, ?_⟩
    intro later member
    rw [List.mem_singleton.mp member]
    exact shown

theorem reachable_accounted (channels : List String) {events : List Event}
    (few : resets events < UInt64.size) :
    Accounted ((new channels).observe events) ((new channels).after events).session.state := by
  refine observe_reachable (P := fun history r => Accounted history r.session.state)
    (fun _ _ e accounted => step_accounted accounted e) ?_ few
  intro problem recorded
  cases recorded

theorem step_problem_of_failure (fenced : r.Fenced) {number : Nat} {call : OpenCall} {e : Event}
    {failure : Failure} (found : r.call? number = some call) (settles : e.Settles number call)
    (current : call.epoch = r.session.epoch) (reported : e.failure? = some failure) :
    ∃ problem, (r.step e).1.session.state.problem = some problem ∧ failure.ToldAs problem := by
  cases settles with
  | answerSend call answer =>
    cases answer with
    | ok receipt => cases reported
    | error reason =>
      obtain rfl : reason = failure := Option.some.inj reported
      rw [step_answerSend found, Session.finishSend_of_failure current]
      exact ⟨_, rfl, Problem.toldAs_ofFailure Problem.trim_sendFailedMessage reason⟩
  | answerVerify call answer =>
    cases answer with
    | ok verdict => cases reported
    | error reason =>
      obtain rfl : reason = failure := Option.some.inj reported
      have bound := fenced.bound_verify found current
      rw [step_answerVerify found, Session.finishVerify_of_failure current bound]
      exact ⟨_, rfl, Problem.toldAs_ofFailure Problem.trim_verifyFailedMessage reason⟩
  | abandon call => cases reported

end Run

/-! ### What the network says -/

/-- The failure without what the network says about it. -/
def Failure.masked : Failure → Failure
  | .network _ => .network ""
  | .rejected body => .rejected body

def Event.masked : Event → Event
  | .answerSend number (.error failure) => .answerSend number (.error failure.masked)
  | .answerVerify number (.error failure) => .answerVerify number (.error failure.masked)
  | e => e

theorem Problem.ofFailure_masked (fallback : String) (failure : Failure) :
    ofFailure fallback failure.masked = ofFailure fallback failure := by
  cases failure with
  | network detail => rfl
  | rejected body => rfl

namespace Session

theorem finishSend_masked (s : Session) (call : Call SendRequest) (failure : Failure) :
    s.finishSend call (.error failure.masked) = s.finishSend call (.error failure) := by
  simp only [finishSend, Problem.ofFailure_masked]

theorem finishVerify_masked (s : Session) (call : Call VerifyRequest) (failure : Failure) :
    s.finishVerify call (.error failure.masked) = s.finishVerify call (.error failure) := by
  simp only [finishVerify, Problem.ofFailure_masked]

end Session

namespace Run

variable {r : Run} {history : List Observation}

theorem step_masked (r : Run) (e : Event) : r.step e.masked = r.step e := by
  cases e with
  | answerSend number answer =>
    cases answer with
    | ok receipt => rfl
    | error failure => simp only [Event.masked, step, Session.finishSend_masked]
  | answerVerify number answer =>
    cases answer with
    | ok verdict => rfl
    | error failure => simp only [Event.masked, step, Session.finishVerify_masked]
  | _ => rfl

theorem after_masked (r : Run) (events : List Event) :
    r.after (events.map Event.masked) = r.after events := by
  induction events generalizing r with
  | nil => rfl
  | cons e events ih => rw [List.map_cons, after_cons, after_cons, step_masked, ih]

def shown (r : Run) (events : List Event) : List (Effect × View) :=
  (r.observe events).map fun o => (o.effect, o.view)

theorem shown_masked (r : Run) (events : List Event) :
    r.shown (events.map Event.masked) = r.shown events := by
  induction events generalizing r with
  | nil => rfl
  | cons e events ih =>
    have later := ih (r.step e).1
    simp only [shown] at later
    simp only [shown, List.map_cons, observe, step_masked, later]

/-! ### What a session shows -/

/-- What a session shows as its problem, after the history of its events. -/
structure Explained (history : List Observation) (r : Run) : Prop where
  accounted : Accounted history r.session.state
  visible : ∀ problem, r.session.state.problem = some problem → Text.trim problem.message ≠ ""
  expired : r.session.state.problem = some .expired →
    ∃ o ∈ history, ∃ body, o.event.failure? = some (.rejected body) ∧ body.code = "10006"
  attemptsExceeded : r.session.state.problem = some .attemptsExceeded →
    ∃ o ∈ history, ∃ body, o.event.failure? = some (.rejected body) ∧ body.code = "10008"
  /-- A code that is passed on has no meaning of its own. -/
  passedOn : ∀ code message, r.session.state.problem = some (.rejected code message) →
    code ≠ "10006" ∧ code ≠ "10008"
  /-- What fails is told at once, unless a reset has superseded the call. -/
  told : ∀ number call e failure, r.call? number = some call → e.Settles number call →
    e.failure? = some failure →
      (call.epoch = r.session.epoch →
        ∃ problem, (r.step e).1.session.state.problem = some problem ∧ failure.ToldAs problem) ∧
      (call.epoch ≠ r.session.epoch → (r.step e).1.session = r.session)

theorem explained_of_accounted (fenced : r.Fenced) (accounted : Accounted history r.session.state) :
    Explained history r where
  accounted := accounted
  visible problem shown := by
    obtain ⟨o, -, records⟩ := accounted.exists_records shown
    exact records.visible
  expired shown := by
    obtain ⟨o, member, records⟩ := accounted.exists_records shown
    exact ⟨o, member, records.exists_expired⟩
  attemptsExceeded shown := by
    obtain ⟨o, member, records⟩ := accounted.exists_records shown
    exact ⟨o, member, records.exists_attemptsExceeded⟩
  passedOn code message shown := by
    obtain ⟨o, -, records⟩ := accounted.exists_records shown
    exact records.code_ne
  told number call e failure found settles reported :=
    ⟨fun current => step_problem_of_failure fenced found settles current reported,
      fun stale => step_session_of_stale found settles stale⟩

/-- Whatever the service answers, a user is told what went wrong, and nothing of what the network
says. -/
theorem explained_of_few_resets (channels : List String) (events : List Event)
    (few : resets events < UInt64.size) :
    Explained ((new channels).observe events) ((new channels).after events) ∧
      ∀ others : List Event, others.map Event.masked = events.map Event.masked →
        (new channels).after others = (new channels).after events ∧
          (new channels).shown others = (new channels).shown events := by
  refine ⟨explained_of_accounted (reachable_fenced channels few)
    (reachable_accounted channels few), ?_⟩
  intro others same
  constructor
  · rw [← after_masked (new channels) others, same, after_masked]
  · rw [← shown_masked (new channels) others, same, shown_masked]

/-- The code ran out, and the service says so without a word. -/
theorem explained_with_blank_message :
    let receipt : SendReceipt := ⟨"sms", "R1", 300, "09****5678", {}⟩
    let events : List Event := [.startSend "0912345678",
      .answerSend 0 (.error (.rejected ⟨"10009", " \u3000"⟩)), .startSend "0912345678",
      .answerSend 1 (.ok receipt), .startVerify "123456",
      .answerVerify 2 (.error (.rejected ⟨"10006", ""⟩))]
    resets events < UInt64.size ∧
      ((new []).after (events.take 2)).session.state.problem =
        some (.rejected "10009" "Failed to send OTP") ∧
      ((new []).after events).session.state.problem = some .expired ∧
      Explained ((new []).observe events) ((new []).after events) :=
  ⟨by decide, by decide, by decide, (explained_of_few_resets [] _ (by decide)).1⟩

end Run

end Passcode
