import Passcode.Proofs.Session.Turn

/-!
What a successful send forgets. Whatever a session went through, and by whichever way a code is
asked for, the receipt leaves the same state behind; only a counter that it does not report is
older.
-/

set_option autoImplicit false

namespace Passcode

namespace State

def delivered (phone : String) (receipt : SendReceipt) (quota : Quota) : State where
  step := .awaitingCode
  phone
  requestId := receipt.requestId
  ttl := receipt.ttl
  notice := some (.sent receipt.channel receipt.maskedPhone)
  quota

theorem sent_of_silent {s : State} (silent : s.problem = none) (phone : String)
    (receipt : SendReceipt) :
    s.sent phone receipt = delivered phone receipt (s.quota.observe receipt.quota) := by
  obtain ⟨_, _, _, _, _, _, problem, _, _⟩ := s
  obtain rfl : problem = none := silent
  rfl

end State

namespace Run

variable {r : Run}

def sparesEpoch (r : Run) (e : Event) : Bool :=
  !e.isReset && (e.number?.bind r.call?).all (·.epoch != r.session.epoch)

def undisturbed (r : Run) : List Event → Bool
  | [] => true
  | e :: events => r.sparesEpoch e && (r.step e).1.undisturbed events

theorem sparesEpoch_iff {e : Event} :
    r.sparesEpoch e = true ↔ e.isReset = false ∧ ∀ number call, e.number? = some number →
      r.call? number = some call → call.epoch ≠ r.session.epoch := by
  rw [sparesEpoch, Bool.and_eq_true, Bool.not_eq_true', Option.all_eq_true]
  simp only [Option.bind_eq_some_iff, bne_iff_ne]
  constructor
  · rintro ⟨keeps, older⟩
    exact ⟨keeps, fun number call about found => older call ⟨number, about, found⟩⟩
  · rintro ⟨keeps, older⟩
    exact ⟨keeps, fun call ⟨number, about, found⟩ => older number call about found⟩

/-! ### While the service is asked -/

/-- `call` is outstanding under `number` and of the current epoch. No problem is shown, and the
counters are still `quota`. -/
structure AwaitsReceipt (r : Run) (number : Nat) (call : Call SendRequest) (quota : Quota) :
    Prop where
  found : r.call? number = some (.send call)
  current : call.epoch = r.session.epoch
  held : r.session.busy = true
  silent : r.session.state.problem = none
  quota_eq : r.session.state.quota = quota

namespace AwaitsReceipt

variable {number : Nat} {call : Call SendRequest} {quota : Quota}

theorem step (h : r.AwaitsReceipt number call quota) {e : Event} (spares : r.sparesEpoch e = true) :
    (r.step e).1.AwaitsReceipt number call quota := by
  obtain ⟨keeps, older⟩ := sparesEpoch_iff.mp spares
  have elsewhere : e.number? ≠ some number := fun about => older number _ about h.found h.current
  have found := (step_call?_of_busy h.held keeps elsewhere).trans h.found
  cases time : e.isTick with
  | true =>
    cases e with
    | tick => exact ⟨found, h.current, h.held, h.silent, h.quota_eq⟩
    | _ => cases time
  | false =>
    have same := step_session_of_busy h.held keeps time older
    refine ⟨found, ?_, ?_, ?_, ?_⟩
    all_goals rw [same]
    · exact h.current
    · exact h.held
    · exact h.silent
    · exact h.quota_eq

theorem after (h : r.AwaitsReceipt number call quota) {events : List Event}
    (spared : r.undisturbed events = true) : (r.after events).AwaitsReceipt number call quota := by
  induction events generalizing r with
  | nil => exact h
  | cons e events ih =>
    rw [undisturbed, Bool.and_eq_true] at spared
    exact ih (h.step spared.1) spared.2

theorem receive (h : r.AwaitsReceipt number call quota) {receipt : SendReceipt}
    (named : receipt.requestId ≠ "") :
    (r.step (.answerSend number (.ok receipt))).2.outcome = some .sent ∧
      (r.step (.answerSend number (.ok receipt))).1.session.state =
        .delivered call.request.phone receipt (quota.observe receipt.quota) := by
  rw [step_answerSend h.found, Session.finishSend_of_receipt h.current named]
  refine ⟨rfl, ?_⟩
  rw [← h.quota_eq]
  exact State.sent_of_silent h.silent _ _

end AwaitsReceipt

theorem awaitsReceipt_of_asks {e : Event} {code phone : String} (free : r.session.busy = false)
    (asks : e.Asks r.session code (.send ⟨phone, r.session.channels⟩)) :
    (r.step e).1.AwaitsReceipt r.asked ⟨r.session.epoch, phone, r.session.channels⟩
      r.session.state.quota := by
  cases asks with
  | send valid =>
    rw [step, Session.startSend_of_free free, Session.requestCode_of_valid valid]
    exact ⟨List.lookup_cons_self, rfl, rfl, rfl, rfl⟩
  | resend allowed valid =>
    rw [step, Session.startResend_of_allowed free allowed, Session.requestCode_of_valid valid]
    exact ⟨List.lookup_cons_self, rfl, rfl, rfl, rfl⟩

/-! ### Two sends -/

/-- A code is asked for `phone` while nothing is outstanding, by a send or by a resend after the
cooldown, and what happens `meanwhile` disturbs it not. -/
structure Sending (r : Run) (phone : String) (start : Event) (meanwhile : List Event) : Prop where
  free : r.session.busy = false
  asks : ∃ code, start.Asks r.session code (.send ⟨phone, r.session.channels⟩)
  undisturbed : (r.step start).1.undisturbed meanwhile = true

/-- What is left of the run, and returned, once `receipt` answers the call that went out with
`start`. -/
def received (r : Run) (start : Event) (meanwhile : List Event) (receipt : SendReceipt) :
    Run × Effect :=
  (r.after (start :: meanwhile)).step (.answerSend r.asked (.ok receipt))

theorem Sending.received {phone : String} {start : Event} {meanwhile : List Event}
    (sending : r.Sending phone start meanwhile) {receipt : SendReceipt}
    (named : receipt.requestId ≠ "") :
    (r.received start meanwhile receipt).2.outcome = some .sent ∧
      (r.received start meanwhile receipt).1.session.state =
        .delivered phone receipt (r.session.state.quota.observe receipt.quota) := by
  obtain ⟨code, asks⟩ := sending.asks
  exact ((awaitsReceipt_of_asks sending.free asks).after sending.undisturbed).receive named

theorem sending_new (channels : List String) {phone : String} (valid : Phone.isValid phone = true) :
    (new channels).Sending phone (.startSend phone) [] :=
  ⟨rfl, ⟨_, .send valid⟩, rfl⟩

/-- Whatever two runs went through, the same receipt for the same phone number leaves the same
state behind, which is also that of a new session; a counter that the receipt does not report
keeps the value that each session had. -/
theorem sent_forgets_past {r t : Run} {phone : String} {startR startT : Event}
    {meanwhileR meanwhileT : List Event} (first : r.Sending phone startR meanwhileR)
    (second : t.Sending phone startT meanwhileT) {receipt : SendReceipt}
    (named : receipt.requestId ≠ "") :
    let r' := r.received startR meanwhileR receipt
    let t' := t.received startT meanwhileT receipt
    r'.2.outcome = some .sent ∧ t'.2.outcome = some .sent ∧
      { r'.1.session.state with quota := {} } = { t'.1.session.state with quota := {} } ∧
      (∀ counter ∈ [Quota.phone, Quota.ip],
        counter r'.1.session.state.quota =
            (counter receipt.quota).or (counter r.session.state.quota) ∧
          counter t'.1.session.state.quota =
            (counter receipt.quota).or (counter t.session.state.quota)) ∧
      ∀ channels, ((new channels).received (.startSend phone) [] receipt).1.session.state =
        { r'.1.session.state with quota := receipt.quota } := by
  intro r' t'
  obtain ⟨sentR, stateR⟩ := first.received named
  obtain ⟨sentT, stateT⟩ := second.received named
  refine ⟨sentR, sentT, ?_, ?_, ?_⟩
  · rw [stateR, stateT]
    rfl
  · intro counter member
    rw [stateR, stateT]
    simp only [List.mem_cons, List.not_mem_nil, or_false] at member
    rcases member with rfl | rfl
    · exact ⟨rfl, rfl⟩
    · exact ⟨rfl, rfl⟩
  · -- A new session takes part as a third run, which knows of no counters before the receipt.
    intro channels
    obtain ⟨code, asks⟩ := first.asks
    have valid : Phone.isValid phone = true := by
      cases asks with
      | send valid => exact valid
      | resend allowed valid => exact valid
    rw [((sending_new channels valid).received named).2, stateR]
    have unreported : (new channels).session.state.quota.observe receipt.quota = receipt.quota := by
      show Quota.mk (receipt.quota.phone.or none) (receipt.quota.ip.or none) = receipt.quota
      rw [Option.or_none, Option.or_none]
    rw [unreported]
    rfl

theorem resent_forgets_wrong_code :
    let receipt : SendReceipt := ⟨"zalo", "R2", 300, "09****5678", ⟨none, some 9⟩⟩
    let r := (new []).after [.startSend "0912345678",
      .answerSend 0 (.ok ⟨"sms", "R1", 240, "09****5678", ⟨some 3, some 4⟩⟩),
      .startVerify "123456", .answerVerify 1 (.ok ⟨false, "", some 2⟩)]
    let t := (new ["zalo"]).after [.startSend "0987654321", .reset, .startVerify "123456"]
    r.Sending "0912345678" .startResend [.tick, .typeCode "1", .startVerify "123456"] ∧
      t.Sending "0912345678" (.startSend "0912345678") [.abandon 0] ∧ receipt.requestId ≠ "" ∧
      { (r.received .startResend [.tick, .typeCode "1", .startVerify "123456"]
          receipt).1.session.state with quota := {} } =
        { (t.received (.startSend "0912345678") [.abandon 0] receipt).1.session.state with
          quota := {} } := by
  intro receipt r t
  have first : r.Sending "0912345678" .startResend [.tick, .typeCode "1", .startVerify "123456"] :=
    ⟨by decide, ⟨_, .resend (by decide) (by decide)⟩, by decide⟩
  have second : t.Sending "0912345678" (.startSend "0912345678") [.abandon 0] :=
    ⟨by decide, ⟨_, .send (by decide)⟩, by decide⟩
  have named : receipt.requestId ≠ "" := by decide
  exact ⟨first, second, named, (sent_forgets_past first second named).2.2.1⟩

end Run

end Passcode
