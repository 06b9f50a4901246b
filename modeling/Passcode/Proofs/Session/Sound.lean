import Passcode.Proofs.Digits
import Passcode.Proofs.Session.Slot

/-!
What holds of a session at every moment: how the step, the request, the countdown and the messages
go together, whatever was typed, answered or dropped before.
-/

set_option autoImplicit false

namespace Passcode

/-- The state of a session is consistent. -/
structure Session.Sound (s : Session) : Prop where
  /-- A request is known exactly where a code is awaited. -/
  requested : s.state.step = .awaitingCode ↔ s.state.requestId ≠ ""
  validPhone : s.state.step = .awaitingCode → Phone.isValid s.state.phone = true
  /-- Nothing is left of an earlier request where a phone number is awaited. -/
  blank : s.state.step = .awaitingPhone →
    s.state.ttl = 0 ∧ s.state.attemptsLeft = none ∧ s.state.quota.phone = none ∧
      s.state.quota.ip = none ∧ s.state.notice = none
  phoneDigits : Text.IsDigits 10 s.state.phone
  codeDigits : Text.IsDigits 6 s.state.code
  oneMessage : s.state.problem = none ∨ s.state.notice = none
  /-- There is no message while a call is outstanding. -/
  silent : s.busy = true → s.state.problem = none ∧ s.state.notice = none

/-- A call that went out was for a valid phone number, or confirms a request. -/
def OpenCall.WellFormed : OpenCall → Prop
  | .send call => Phone.isValid call.request.phone = true
  | .verify call => call.request.requestId ≠ ""

namespace Session

variable {s : Session}

theorem new_sound (channels : List String) (epoch : UInt64) : Sound { channels, epoch } where
  requested := by simp only [reduceCtorEq, ne_eq, not_true_eq_false]
  validPhone step := Step.noConfusion step
  blank _ := ⟨rfl, rfl, rfl, rfl, rfl⟩
  phoneDigits := Text.isDigits_empty 10
  codeDigits := Text.isDigits_empty 6
  oneMessage := .inl rfl
  silent _ := ⟨rfl, rfl⟩

namespace Sound

theorem step_eq_awaitingCode (h : s.Sound) (requested : s.state.requestId ≠ "") :
    s.state.step = .awaitingCode :=
  h.requested.mpr requested

theorem phone_step_no_notice (h : s.Sound) (step : s.state.step = .awaitingPhone) :
    s.state.notice = none :=
  (h.blank step).2.2.2.2

/-! ### Parts of a state replaced -/

/-- Messages may be replaced by at most one, which is good news only on the code step and absent
while the slot is taken. -/
theorem withMessages (h : s.Sound) {problem : Option Problem} {notice : Option Notice}
    {pending : Option UInt64} (one : problem = none ∨ notice = none)
    (early : s.state.step = .awaitingPhone → notice = none)
    (silent : pending ≠ none → problem = none ∧ notice = none) :
    Sound { s with state := { s.state with problem, notice }, pending } where
  requested := h.requested
  validPhone := h.validPhone
  blank step := by
    obtain ⟨ttl, attempts, phone, ip, -⟩ := h.blank step
    exact ⟨ttl, attempts, phone, ip, early step⟩
  phoneDigits := h.phoneDigits
  codeDigits := h.codeDigits
  oneMessage := one
  silent busy := silent (busy_eq_true_iff.mp busy)

theorem withCode (h : s.Sound) {code : String} (digits : Text.IsDigits 6 code) :
    (s.withCode code).Sound where
  requested := h.requested
  validPhone := h.validPhone
  blank := h.blank
  phoneDigits := h.phoneDigits
  codeDigits := digits
  oneMessage := h.oneMessage
  silent := h.silent

theorem withAttempts (h : s.Sound) (step : s.state.step = .awaitingCode)
    (attemptsLeft : Option UInt32) : Sound { s with state := { s.state with attemptsLeft } } where
  requested := h.requested
  validPhone := h.validPhone
  blank early := by
    rw [step] at early
    cases early
  phoneDigits := h.phoneDigits
  codeDigits := h.codeDigits
  oneMessage := h.oneMessage
  silent := h.silent

theorem release (h : s.Sound) : s.release.Sound where
  requested := h.requested
  validPhone := h.validPhone
  blank := h.blank
  phoneDigits := h.phoneDigits
  codeDigits := h.codeDigits
  oneMessage := h.oneMessage
  silent busy := absurd rfl (busy_eq_true_iff.mp busy)

theorem restart (h : s.Sound) (silent : s.state.notice = none) : s.restart.Sound where
  requested := by simp only [Session.restart, State.restart, reduceCtorEq, ne_eq, not_true_eq_false]
  validPhone step := Step.noConfusion step
  blank _ := ⟨rfl, rfl, rfl, rfl, silent⟩
  phoneDigits := h.phoneDigits
  codeDigits := Text.isDigits_empty 6
  oneMessage := h.oneMessage
  silent := h.silent

/-! ### Typing and time -/

theorem typePhone (h : s.Sound) (raw : String) : (s.typePhone raw).Sound := by
  unfold Session.typePhone
  split
  · next accepted =>
    simp only [Bool.and_eq_true, beq_iff_eq] at accepted
    have step : s.state.step = .awaitingPhone := accepted.2
    refine { h with validPhone := ?_, phoneDigits := Text.isDigits_digitsOnly 10 raw }
    intro late
    exact absurd (step.symm.trans late) Step.noConfusion
  · exact h

theorem typeCode (h : s.Sound) (raw : String) : (s.typeCode raw).Sound := by
  unfold Session.typeCode
  split
  · exact h.withCode (Text.isDigits_digitsOnly 6 raw)
  · exact h

theorem tick (h : s.Sound) : s.tick.Sound where
  requested := h.requested
  validPhone := h.validPhone
  blank step := by
    obtain ⟨ttl, rest⟩ := h.blank step
    exact ⟨by simp only [Session.tick, State.tick, ttl, ↓reduceIte], rest⟩
  phoneDigits := h.phoneDigits
  codeDigits := h.codeDigits
  oneMessage := h.oneMessage
  silent := h.silent

/-! ### Starting a call -/

theorem requestCode (h : s.Sound) (free : s.pending = none) (phone : String) :
    (s.requestCode phone).1.Sound := by
  rcases s.requestCode_cases phone with ⟨-, asked⟩ | ⟨-, refused⟩
  · rw [asked]
    exact h.withMessages (.inl rfl) (fun _ => rfl) (fun _ => ⟨rfl, rfl⟩)
  · rw [refused]
    exact h.withMessages (.inr rfl) (fun _ => rfl) (fun taken => absurd free taken)

theorem startSend (h : s.Sound) (phone : String) : (s.startSend phone).1.Sound := by
  rcases s.startSend_cases phone with ⟨-, busy⟩ | ⟨free, started⟩
  · rw [busy]
    exact h
  · rw [started]
    exact h.requestCode (busy_eq_false_iff.mp free) phone

theorem startResend (h : s.Sound) : s.startResend.1.Sound := by
  rcases s.startResend_cases with ⟨-, busy⟩ | ⟨-, -, cooling⟩ | ⟨free, -, started⟩
  · rw [busy]
    exact h
  · rw [cooling]
    exact h
  · rw [started]
    exact (h.withCode (Text.isDigits_empty 6)).requestCode (busy_eq_false_iff.mp free) _

theorem startVerify (h : s.Sound) (code : String) : (s.startVerify code).1.Sound := by
  rcases s.startVerify_cases code with
    ⟨-, busy⟩ | ⟨free, -, refused⟩ | ⟨free, -, -, refused⟩ | ⟨-, -, valid, asked⟩
  · rw [busy]
    exact h
  · rw [refused]
    exact h.withMessages (.inr rfl) (fun _ => rfl)
      (fun taken => absurd (busy_eq_false_iff.mp free) taken)
  · rw [refused]
    exact h.withMessages (.inr rfl) (fun _ => rfl)
      (fun taken => absurd (busy_eq_false_iff.mp free) taken)
  · rw [asked]
    exact (h.withCode (Code.isDigits_of_isValid valid)).withMessages (.inl rfl) (fun _ => rfl)
      (fun _ => ⟨rfl, rfl⟩)

/-! ### Ending a call -/

/-- Whatever was known before, a code that was sent makes for a consistent state. -/
private theorem of_sent (silent : s.state.problem = none) {phone : String}
    (valid : Phone.isValid phone = true) {receipt : SendReceipt}
    (named : receipt.requestId ≠ "") :
    Sound { s with state := s.state.sent phone receipt, pending := none } where
  requested := ⟨fun _ => named, fun _ => rfl⟩
  validPhone _ := valid
  blank step := Step.noConfusion step
  phoneDigits := Phone.isDigits_of_isValid valid
  codeDigits := Text.isDigits_empty 6
  oneMessage := .inl silent
  silent busy := absurd rfl (busy_eq_true_iff.mp busy)

theorem finishSend (h : s.Sound) {call : Call SendRequest}
    (held : call.epoch = s.epoch → s.pending ≠ none)
    (valid : Phone.isValid call.request.phone = true) (answer : Except Failure SendReceipt) :
    (s.finishSend call answer).1.Sound := by
  by_cases current : call.epoch = s.epoch
  · obtain ⟨noProblem, noNotice⟩ := h.silent (busy_eq_true_iff.mpr (held current))
    rcases finishSend_cases current answer with ⟨receipt, -, named, sent⟩ | ⟨problem, -, failed⟩
    · rw [sent]
      exact of_sent noProblem valid named
    · rw [failed]
      exact h.withMessages (.inr noNotice) h.phone_step_no_notice (fun taken => absurd rfl taken)
  · rw [finishSend_of_stale current]
    exact h

theorem applyVerdict (h : s.Sound) (silent : s.state.problem = none ∧ s.state.notice = none)
    (free : s.pending = none) (step : s.state.step = .awaitingCode) (verdict : Verdict) :
    (s.applyVerdict verdict).1.Sound := by
  rcases s.applyVerdict_cases verdict with ⟨-, verified⟩ | ⟨-, rejected⟩
  · rw [verified]
    refine h.withMessages (.inl silent.1) ?_ (fun taken => absurd free taken)
    intro early
    exact absurd (early.symm.trans step) Step.noConfusion
  · rw [rejected]
    have counted := h.withAttempts step (verdict.attemptsLeft.or s.state.attemptsLeft)
    exact counted.withMessages (.inr silent.2) (fun _ => silent.2)
      (fun taken => absurd free taken)

theorem finishVerify (h : s.Sound) {call : Call VerifyRequest}
    (held : call.epoch = s.epoch → s.pending ≠ none) (named : call.request.requestId ≠ "")
    (answer : Except Failure Verdict) : (s.finishVerify call answer).1.Sound := by
  by_cases current : call.epoch = s.epoch
  · by_cases bound : call.request.requestId = s.state.requestId
    · have silent := h.silent (busy_eq_true_iff.mpr (held current))
      rcases finishVerify_cases current bound answer with
        ⟨verdict, -, judged⟩ | ⟨_, _, -, -, ⟨-, burnt⟩ | ⟨-, failed⟩⟩
      · have step := h.step_eq_awaitingCode (bound ▸ named)
        rw [judged]
        exact h.release.applyVerdict silent rfl step verdict
      · rw [burnt]
        exact (h.restart silent.2).withMessages (.inr silent.2) (fun _ => silent.2)
          (fun taken => absurd rfl taken)
      · rw [failed]
        exact h.withMessages (.inr silent.2) h.phone_step_no_notice (fun taken => absurd rfl taken)
    · rw [finishVerify_of_replaced bound]
      exact h
  · rw [finishVerify_of_stale current]
    exact h

theorem abandon (h : s.Sound) (epoch : UInt64) : (s.abandon epoch).Sound := by
  unfold Session.abandon
  split
  · exact h.release
  · exact h

end Sound

end Session

/-! ### Runs -/

namespace Run

variable {r : Run}

structure Sound (r : Run) : Prop where
  session : r.session.Sound
  calls : ∀ c ∈ r.calls, c.2.WellFormed

theorem new_sound (channels : List String) : (new channels).Sound where
  session := Session.new_sound channels 0
  calls _ mem := absurd mem List.not_mem_nil

namespace Sound

private theorem started {ρ : Type} (h : r.Sound) {toCall : Call ρ → OpenCall}
    {toRequest : ρ → Request} {start : Session × Start ρ} (session : start.1.Sound)
    (asked : ∀ call, start.2 = .asked call → (toCall call).WellFormed) :
    (r.started toCall toRequest start).1.Sound := by
  obtain ⟨s, outcome | call⟩ := start
  · exact ⟨session, h.calls⟩
  · refine ⟨session, ?_⟩
    intro c mem
    rcases List.mem_cons.mp mem with rfl | mem
    · exact asked call rfl
    · exact h.calls c mem

private theorem settled (h : r.Sound) (number : Nat) {session : Session} (sound : session.Sound) :
    (r.settled number session).Sound :=
  ⟨sound, fun c mem => h.calls c (List.mem_filter.mp mem).1⟩

private theorem requestCode_asked {s : Session} {phone : String} {call : Call SendRequest}
    (asked : (s.requestCode phone).2 = .asked call) : (OpenCall.send call).WellFormed := by
  rcases s.requestCode_cases phone with ⟨valid, started⟩ | ⟨-, refused⟩
  · rw [started] at asked
    cases asked
    exact valid
  · rw [refused] at asked
    cases asked

private theorem startSend (h : r.Sound) (phone : String) :
    (r.step (.startSend phone)).1.Sound := by
  refine h.started (h.session.startSend phone) ?_
  intro call asked
  rcases r.session.startSend_cases phone with ⟨-, busy⟩ | ⟨-, started⟩
  · rw [busy] at asked
    cases asked
  · rw [started] at asked
    exact requestCode_asked asked

private theorem startResend (h : r.Sound) : (r.step .startResend).1.Sound := by
  refine h.started h.session.startResend ?_
  intro call asked
  rcases r.session.startResend_cases with ⟨-, busy⟩ | ⟨-, -, cooling⟩ | ⟨-, -, started⟩
  · rw [busy] at asked
    cases asked
  · rw [cooling] at asked
    cases asked
  · rw [started] at asked
    exact requestCode_asked asked

private theorem startVerify (h : r.Sound) (code : String) :
    (r.step (.startVerify code)).1.Sound := by
  refine h.started (h.session.startVerify code) ?_
  intro call asked
  rcases r.session.startVerify_cases code with
    ⟨-, busy⟩ | ⟨-, -, refused⟩ | ⟨-, -, -, refused⟩ | ⟨-, step, -, started⟩
  · rw [busy] at asked
    cases asked
  · rw [refused] at asked
    cases asked
  · rw [refused] at asked
    cases asked
  · rw [started] at asked
    cases asked
    exact h.session.requested.mp step

private theorem held (fenced : r.Fenced) {number : Nat} {call : OpenCall}
    (found : r.call? number = some call) :
    call.epoch = r.session.epoch → r.session.pending ≠ none := by
  intro current free
  rw [(fenced.held found current).1] at free
  cases free

theorem silent (h : r.Sound) (fenced : r.Fenced) {number : Nat} {call : OpenCall}
    (found : r.call? number = some call) (current : call.epoch = r.session.epoch) :
    r.session.state.problem = none ∧ r.session.state.notice = none :=
  h.session.silent (Session.busy_eq_true_iff.mpr (held fenced found current))

theorem step (h : r.Sound) (fenced : r.Fenced) (e : Event) : (r.step e).1.Sound := by
  cases e with
  | startSend phone => exact h.startSend phone
  | startResend => exact h.startResend
  | startVerify code => exact h.startVerify code
  | answerSend number answer =>
    simp only [Run.step]
    split
    · next call found =>
      have valid := h.calls _ (mem_of_call? found)
      exact h.settled number (h.session.finishSend (held fenced found) valid answer)
    · exact h
  | answerVerify number answer =>
    simp only [Run.step]
    split
    · next call found =>
      have named := h.calls _ (mem_of_call? found)
      exact h.settled number (h.session.finishVerify (held fenced found) named answer)
    · exact h
  | abandon number =>
    simp only [Run.step]
    split
    · next call found => exact h.settled number (h.session.abandon call.epoch)
    · exact h
  | typePhone raw => exact ⟨h.session.typePhone raw, h.calls⟩
  | typeCode raw => exact ⟨h.session.typeCode raw, h.calls⟩
  | tick => exact ⟨h.session.tick, h.calls⟩
  | reset => exact ⟨Session.new_sound r.session.channels (r.session.epoch + 1), h.calls⟩

end Sound

theorem after_sound (h : r.Sound) (fenced : r.Fenced) (events : List Event)
    (few : r.session.epoch.toNat + resets events < UInt64.size) : (r.after events).Sound := by
  have both : (r.after events).Fenced ∧ (r.after events).Sound := by
    refine after_preserves (P := fun r => r.Fenced ∧ r.Sound) ?_ events ⟨fenced, h⟩ few
    intro r e holds room
    exact ⟨step_fenced holds.1 room, holds.2.step holds.1 e⟩
  exact both.2

theorem reachable_sound (channels : List String) {events : List Event}
    (few : resets events < UInt64.size) : ((new channels).after events).Sound := by
  refine after_sound (new_sound channels) (new_fenced channels) events ?_
  rw [show (new channels).session.epoch.toNat = 0 from rfl, Nat.zero_add]
  exact few

/-- Every session that is reached without its epochs wrapping around is consistent. -/
theorem session_sound_of_few_resets (channels : List String) (events : List Event)
    (few : resets events < UInt64.size) : ((new channels).after events).session.Sound :=
  (reachable_sound channels few).session

theorem session_sound_with_late_answer :
    let receipt : SendReceipt := ⟨"sms", "R1", 300, "09****5678", {}⟩
    let events : List Event := [.startSend "0912345678", .reset, .startSend "0912345678",
      .answerSend 1 (.ok receipt), .startVerify "123456", .answerSend 0 (.ok receipt), .tick]
    resets events < UInt64.size ∧
      ((new []).after events).session.state.step = .awaitingCode ∧
      ((new []).after events).session.busy = true ∧ ((new []).after events).session.Sound :=
  ⟨by decide, by decide, by decide, session_sound_of_few_resets [] _ (by decide)⟩

end Run

end Passcode
