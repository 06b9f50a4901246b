import Passcode.Proofs.Lookup
import Passcode.Proofs.Session.Call
import Passcode.Session.Run

/-!
Histories of a session: how outstanding calls are looked up, what one event does to them and to the
slot they compete for, and how what every event preserves carries over to a whole history.
-/

set_option autoImplicit false

namespace Passcode

def Event.isReset : Event → Bool
  | .reset => true
  | _ => false

def Event.number? : Event → Option Nat
  | .answerSend number _ | .answerVerify number _ | .abandon number => some number
  | _ => none

def resets (events : List Event) : Nat :=
  events.countP Event.isReset

theorem resets_append (before after : List Event) :
    resets (before ++ after) = resets before + resets after :=
  List.countP_append

theorem resets_cons (e : Event) (events : List Event) :
    resets (e :: events) = resets [e] + resets events :=
  resets_append [e] events

theorem resets_of_keeps {e : Event} (keeps : e.isReset = false) : resets [e] = 0 := by
  simp only [resets, List.countP_singleton, keeps, Bool.false_eq_true, ↓reduceIte]

/-- The event answers `call` under its number, or drops it. -/
inductive Event.Settles (number : Nat) : OpenCall → Event → Prop
  | answerSend (call : Call SendRequest) (answer : Except Failure SendReceipt) :
      Settles number (.send call) (.answerSend number answer)
  | answerVerify (call : Call VerifyRequest) (answer : Except Failure Verdict) :
      Settles number (.verify call) (.answerVerify number answer)
  | abandon (call : OpenCall) : Settles number call (.abandon number)

theorem Event.Settles.isReset_eq_false {e : Event} {number : Nat} {call : OpenCall}
    (settled : e.Settles number call) : e.isReset = false := by
  cases settled with
  | answerSend call answer => rfl
  | answerVerify call answer => rfl
  | abandon call => rfl

theorem Event.Settles.number?_eq {number : Nat} {call : OpenCall} {e : Event}
    (settled : e.Settles number call) : e.number? = some number := by
  cases settled with
  | answerSend call answer => rfl
  | answerVerify call answer => rfl
  | abandon call => rfl

/-- A verification is bound to a request; a send is not. -/
def OpenCall.BoundTo (requestId : String) : OpenCall → Prop
  | .send _ => True
  | .verify call => call.request.requestId = requestId

namespace Run

variable {r : Run} {number : Nat}

/-! ### Looking calls up -/

theorem mem_of_call? {call : OpenCall} (found : r.call? number = some call) :
    (number, call) ∈ r.calls :=
  mem_of_lookup found

@[simp] theorem call?_settled (r : Run) (session : Session) (m n : Nat) :
    (r.settled n session).call? m = if m = n then none else r.call? m :=
  lookup_filter_ne

theorem step_answerSend {call : Call SendRequest} (found : r.call? number = some (.send call))
    (answer : Except Failure SendReceipt) :
    r.step (.answerSend number answer) =
      (r.settled number (r.session.finishSend call answer).1,
        { outcome := some (r.session.finishSend call answer).2 }) := by
  simp only [step, found]

theorem step_answerVerify {call : Call VerifyRequest}
    (found : r.call? number = some (.verify call)) (answer : Except Failure Verdict) :
    r.step (.answerVerify number answer) =
      (r.settled number (r.session.finishVerify call answer).1,
        { outcome := some (r.session.finishVerify call answer).2 }) := by
  simp only [step, found]

theorem step_abandon {call : OpenCall} (found : r.call? number = some call) :
    r.step (.abandon number) = (r.settled number (r.session.abandon call.epoch), {}) := by
  simp only [step, found]

theorem settles_or_step_eq (r : Run) {e : Event} (about : e.number? = some number) :
    (∃ call, r.call? number = some call ∧ e.Settles number call) ∨ r.step e = (r, {}) := by
  cases e with
  | answerSend m answer =>
    obtain rfl := Option.some.inj about
    rcases found : r.call? m with _ | call | call
    · exact Or.inr (by simp only [step, found])
    · exact Or.inl ⟨_, rfl, .answerSend call answer⟩
    · exact Or.inr (by simp only [step, found])
  | answerVerify m answer =>
    obtain rfl := Option.some.inj about
    rcases found : r.call? m with _ | call | call
    · exact Or.inr (by simp only [step, found])
    · exact Or.inr (by simp only [step, found])
    · exact Or.inl ⟨_, rfl, .answerVerify call answer⟩
  | abandon m =>
    obtain rfl := Option.some.inj about
    cases found : r.call? m with
    | none => exact Or.inr (by simp only [step, found])
    | some call => exact Or.inl ⟨call, rfl, .abandon call⟩
  | _ => cases about

/-! ### What one event does to the calls -/

/-- What one event does to the calls of a run and to the slot they compete for. -/
inductive Passage (r : Run) : Event → Run → Prop
  /-- Nothing goes out and nothing comes back. -/
  | stays {e : Event} {t : Run} (keeps : e.isReset = false) (calls : t.calls = r.calls)
      (asked : t.asked = r.asked) (pending : t.session.pending = r.session.pending)
      (epoch : t.session.epoch = r.session.epoch)
      (channels : t.session.channels = r.session.channels)
      (requestId : t.session.state.requestId = r.session.state.requestId) : Passage r e t
  /-- A call takes the slot, which was free. -/
  | goesOut {e : Event} {t : Run} (call : OpenCall) (keeps : e.isReset = false)
      (calls : t.calls = (r.asked, call) :: r.calls) (asked : t.asked = r.asked + 1)
      (free : r.session.pending = none) (pending : t.session.pending = some r.session.epoch)
      (epoch : t.session.epoch = r.session.epoch)
      (channels : t.session.channels = r.session.channels)
      (requestId : t.session.state.requestId = r.session.state.requestId)
      (fresh : call.epoch = r.session.epoch) (bound : call.BoundTo r.session.state.requestId) :
      Passage r e t
  /-- A call comes back or is dropped. -/
  | settles {e : Event} (number : Nat) (call : OpenCall) (session : Session)
      (settled : e.Settles number call) (found : r.call? number = some call)
      (epoch : session.epoch = r.session.epoch)
      (channels : session.channels = r.session.channels)
      (stale : call.epoch ≠ r.session.epoch → session = r.session)
      (current : call.epoch = r.session.epoch → call.BoundTo r.session.state.requestId →
        r.session.pending = some r.session.epoch → session.pending = none) :
      Passage r e (r.settled number session)
  /-- All calls are left behind. -/
  | leaves : Passage r .reset { r with session := r.session.reset }

private theorem passage_requestCode {e : Event} {s : Session} (keeps : e.isReset = false)
    (phone : String)
    (pending : s.pending = r.session.pending) (epoch : s.epoch = r.session.epoch)
    (channels : s.channels = r.session.channels)
    (requestId : s.state.requestId = r.session.state.requestId) (free : r.session.pending = none) :
    Passage r e (r.started .send .send (s.requestCode phone)).1 := by
  rcases s.requestCode_cases phone with ⟨-, asked⟩ | ⟨-, refused⟩
  · rw [asked]
    exact .goesOut _ keeps rfl rfl free (congrArg some epoch) epoch channels requestId epoch trivial
  · rw [refused]
    exact .stays keeps rfl rfl pending epoch channels requestId

private theorem passage_startSend (phone : String) :
    Passage r (.startSend phone) (r.started .send .send (r.session.startSend phone)).1 := by
  rcases r.session.startSend_cases phone with ⟨-, busy⟩ | ⟨free, started⟩
  · rw [busy]
    exact .stays rfl rfl rfl rfl rfl rfl rfl
  · rw [started]
    exact passage_requestCode rfl phone rfl rfl rfl rfl (Session.busy_eq_false_iff.mp free)

private theorem passage_startResend :
    Passage r .startResend (r.started .send .send r.session.startResend).1 := by
  rcases r.session.startResend_cases with ⟨-, busy⟩ | ⟨-, -, cooling⟩ | ⟨free, -, started⟩
  · rw [busy]
    exact .stays rfl rfl rfl rfl rfl rfl rfl
  · rw [cooling]
    exact .stays rfl rfl rfl rfl rfl rfl rfl
  · rw [started]
    exact passage_requestCode rfl _ rfl rfl rfl rfl (Session.busy_eq_false_iff.mp free)

private theorem passage_startVerify (code : String) :
    Passage r (.startVerify code) (r.started .verify .verify (r.session.startVerify code)).1 := by
  rcases r.session.startVerify_cases code with
    ⟨-, busy⟩ | ⟨-, -, refused⟩ | ⟨-, -, -, refused⟩ | ⟨free, -, -, asked⟩
  · rw [busy]
    exact .stays rfl rfl rfl rfl rfl rfl rfl
  · rw [refused]
    exact .stays rfl rfl rfl rfl rfl rfl rfl
  · rw [refused]
    exact .stays rfl rfl rfl rfl rfl rfl rfl
  · rw [asked]
    exact .goesOut _ rfl rfl rfl (Session.busy_eq_false_iff.mp free) rfl rfl rfl rfl rfl rfl

private theorem passage_answerSend {call : Call SendRequest}
    (found : r.call? number = some (.send call)) (answer : Except Failure SendReceipt) :
    Passage r (.answerSend number answer)
      (r.settled number (r.session.finishSend call answer).1) := by
  obtain ⟨epoch, channels⟩ := r.session.finishSend_keeps call answer
  refine .settles number _ _ (.answerSend call answer) found epoch channels ?_ ?_
  · intro stale
    rw [Session.finishSend_of_stale stale]
  · intro current _ _
    exact Session.finishSend_pending current answer

private theorem passage_answerVerify {call : Call VerifyRequest}
    (found : r.call? number = some (.verify call)) (answer : Except Failure Verdict) :
    Passage r (.answerVerify number answer)
      (r.settled number (r.session.finishVerify call answer).1) := by
  obtain ⟨epoch, channels⟩ := r.session.finishVerify_keeps call answer
  refine .settles number _ _ (.answerVerify call answer) found epoch channels ?_ ?_
  · intro stale
    rw [Session.finishVerify_of_stale stale]
  · intro current bound _
    exact Session.finishVerify_pending current bound answer

private theorem passage_abandon {call : OpenCall} (found : r.call? number = some call) :
    Passage r (.abandon number) (r.settled number (r.session.abandon call.epoch)) := by
  obtain ⟨epoch, channels⟩ := r.session.abandon_keeps call.epoch
  refine .settles number call _ (.abandon call) found epoch channels Session.abandon_of_stale ?_
  intro current _ held
  rw [current, Session.abandon_of_held held]
  rfl

theorem step_passage (r : Run) (e : Event) : Passage r e (r.step e).1 := by
  cases e with
  | startSend phone => exact passage_startSend phone
  | startResend => exact passage_startResend
  | startVerify code => exact passage_startVerify code
  | answerSend number answer =>
    simp only [step]
    split
    · next call found => exact passage_answerSend found answer
    · exact .stays rfl rfl rfl rfl rfl rfl rfl
  | answerVerify number answer =>
    simp only [step]
    split
    · next call found => exact passage_answerVerify found answer
    · exact .stays rfl rfl rfl rfl rfl rfl rfl
  | abandon number =>
    simp only [step]
    split
    · next call found => exact passage_abandon found
    · exact .stays rfl rfl rfl rfl rfl rfl rfl
  | typePhone raw =>
    simp only [step, Session.typePhone]
    split
    · exact .stays rfl rfl rfl rfl rfl rfl rfl
    · exact .stays rfl rfl rfl rfl rfl rfl rfl
  | typeCode raw =>
    simp only [step, Session.typeCode]
    split
    · exact .stays rfl rfl rfl rfl rfl rfl rfl
    · exact .stays rfl rfl rfl rfl rfl rfl rfl
  | tick => exact .stays rfl rfl rfl rfl rfl rfl rfl
  | reset => exact .leaves

/-! ### Whole histories -/

@[simp] theorem after_nil (r : Run) : r.after [] = r := rfl

@[simp] theorem after_cons (r : Run) (e : Event) (events : List Event) :
    r.after (e :: events) = (r.step e).1.after events := rfl

theorem after_append (r : Run) (before after : List Event) :
    r.after (before ++ after) = (r.after before).after after :=
  List.foldl_append

theorem step_epoch (r : Run) (e : Event) :
    (r.step e).1.session.epoch =
      if e.isReset then r.session.epoch + 1 else r.session.epoch := by
  have passage := r.step_passage e
  generalize (r.step e).1 = t at passage ⊢
  cases passage with
  | stays keeps _ _ _ epoch _ _ => simp only [keeps, epoch, Bool.false_eq_true, ↓reduceIte]
  | goesOut _ keeps _ _ _ _ epoch _ _ _ _ =>
    simp only [keeps, epoch, Bool.false_eq_true, ↓reduceIte]
  | settles _ _ _ settled _ epoch _ _ _ =>
    simp only [settled.isReset_eq_false, Run.settled, epoch, Bool.false_eq_true, ↓reduceIte]
  | leaves => rfl

theorem step_channels (r : Run) (e : Event) :
    (r.step e).1.session.channels = r.session.channels := by
  have passage := r.step_passage e
  generalize (r.step e).1 = t at passage ⊢
  cases passage with
  | stays _ _ _ _ _ channels _ => exact channels
  | goesOut _ _ _ _ _ _ _ channels _ _ _ => exact channels
  | settles _ _ _ _ _ _ channels _ _ => exact channels
  | leaves => rfl

theorem after_channels (r : Run) (events : List Event) :
    (r.after events).session.channels = r.session.channels := by
  induction events generalizing r with
  | nil => rfl
  | cons e events ih => rw [after_cons, ih, step_channels]

theorem step_epoch_toNat {r : Run} {e : Event}
    (room : r.session.epoch.toNat + resets [e] < UInt64.size) :
    (r.step e).1.session.epoch.toNat = r.session.epoch.toNat + resets [e] := by
  rw [step_epoch]
  cases reset : e.isReset with
  | false =>
    simp only [resets_of_keeps reset, Bool.false_eq_true, ↓reduceIte, Nat.add_zero]
  | true =>
    have one : resets [e] = 1 := by simp only [resets, List.countP_singleton, reset, ↓reduceIte]
    rw [one] at room ⊢
    exact (UInt64.toNat_add r.session.epoch 1).trans (Nat.mod_eq_of_lt room)

/-- What every event preserves holds throughout a history in which the epochs do not run out. -/
theorem after_preserves {P : Run → Prop}
    (step : ∀ (r : Run) (e : Event), P r → r.session.epoch.toNat + resets [e] < UInt64.size →
      P (r.step e).1)
    (events : List Event) {r : Run} (holds : P r)
    (few : r.session.epoch.toNat + resets events < UInt64.size) : P (r.after events) := by
  induction events generalizing r with
  | nil => exact holds
  | cons e events ih =>
    rw [resets_cons] at few
    have room : r.session.epoch.toNat + resets [e] < UInt64.size := by omega
    refine ih (step r e holds room) ?_
    rw [step_epoch_toNat room]
    omega

theorem after_epoch_toNat (events : List Event) {r : Run}
    (few : r.session.epoch.toNat + resets events < UInt64.size) :
    (r.after events).session.epoch.toNat = r.session.epoch.toNat + resets events := by
  induction events generalizing r with
  | nil => rfl
  | cons e events ih =>
    rw [resets_cons] at few ⊢
    have room : r.session.epoch.toNat + resets [e] < UInt64.size := by omega
    have step := step_epoch_toNat room
    rw [after_cons, ih (by omega), step]
    omega

end Run

end Passcode
