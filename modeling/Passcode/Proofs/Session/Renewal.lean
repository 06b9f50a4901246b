import Passcode.Proofs.Session.Slot

/-!
A reset makes a session as good as new. What follows it is what would have followed the creation of
the session: epochs only matter up to a shift, the calls of before are of older epochs for good, and
their answers and their loss go unnoticed.
-/

set_option autoImplicit false

namespace Passcode

/-! ### Epochs shifted -/

section Shift

variable {ρ : Type} (shift : UInt64)

def Call.later (call : Call ρ) : Call ρ :=
  { call with epoch := call.epoch + shift }

def OpenCall.later : OpenCall → OpenCall
  | .send call => .send (call.later shift)
  | .verify call => .verify (call.later shift)

def Start.later : Start ρ → Start ρ
  | .ended outcome => .ended outcome
  | .asked call => .asked (call.later shift)

theorem OpenCall.later_epoch (call : OpenCall) : (call.later shift).epoch = call.epoch + shift := by
  cases call with
  | send call => rfl
  | verify call => rfl

/-- The same session in an epoch that lies `shift` resets ahead. -/
def Session.later (s : Session) : Session :=
  { s with pending := s.pending.map (· + shift), epoch := s.epoch + shift }

end Shift

namespace Session

variable {shift : UInt64} {s : Session}

@[simp] theorem later_busy : (s.later shift).busy = s.busy :=
  Option.isSome_map

@[simp] theorem later_state : (s.later shift).state = s.state := rfl

@[simp] theorem later_view : (s.later shift).view = s.view := by
  simp only [view, later_busy]
  rfl

theorem later_typePhone (raw : String) :
    (s.later shift).typePhone raw = (s.typePhone raw).later shift := by
  simp only [typePhone, later_busy, later_state]
  split
  · rfl
  · rfl

theorem later_typeCode (raw : String) :
    (s.later shift).typeCode raw = (s.typeCode raw).later shift := by
  simp only [typeCode, later_busy]
  split
  · rfl
  · rfl

theorem later_reset : (s.later shift).reset = s.reset.later shift := by
  simp only [reset, later, Option.map_none, UInt64.add_assoc, UInt64.add_comm shift 1]

theorem later_requestCode (s : Session) (phone : String) :
    (s.later shift).requestCode phone =
      ((s.requestCode phone).1.later shift, (s.requestCode phone).2.later shift) := by
  rcases s.requestCode_cases phone with ⟨valid, asked⟩ | ⟨invalid, refused⟩
  · rw [asked, requestCode_of_valid valid]
    rfl
  · rw [refused, requestCode_of_invalid invalid]
    rfl

theorem later_startSend (s : Session) (phone : String) :
    (s.later shift).startSend phone =
      ((s.startSend phone).1.later shift, (s.startSend phone).2.later shift) := by
  rcases s.startSend_cases phone with ⟨held, busy⟩ | ⟨free, started⟩
  · rw [busy, startSend_of_busy (later_busy.trans held)]
    rfl
  · rw [started, startSend_of_free (later_busy.trans free)]
    exact s.later_requestCode phone

theorem later_startResend (s : Session) :
    (s.later shift).startResend =
      (s.startResend.1.later shift, s.startResend.2.later shift) := by
  rcases s.startResend_cases with ⟨held, busy⟩ | ⟨free, cooling, ignored⟩ | ⟨free, allowed, started⟩
  · rw [busy, startResend_of_busy (later_busy.trans held)]
    rfl
  · rw [ignored, startResend_of_cooling (later_busy.trans free) cooling]
    rfl
  · rw [started, startResend_of_allowed (later_busy.trans free) allowed]
    exact (s.withCode "").later_requestCode s.state.phone

theorem later_startVerify (s : Session) (code : String) :
    (s.later shift).startVerify code =
      ((s.startVerify code).1.later shift, (s.startVerify code).2.later shift) := by
  rcases s.startVerify_cases code with
    ⟨held, busy⟩ | ⟨free, step, refused⟩ | ⟨free, step, invalid, refused⟩ |
      ⟨free, step, valid, asked⟩
  · rw [busy, startVerify_of_busy (later_busy.trans held)]
    rfl
  · rw [refused, startVerify_of_awaitingPhone (later_busy.trans free) step]
    rfl
  · rw [refused, startVerify_of_invalid (later_busy.trans free) step invalid]
    rfl
  · rw [asked, startVerify_of_valid (later_busy.trans free) step valid]
    rfl

theorem later_epoch_eq {epoch : UInt64} :
    epoch + shift = (s.later shift).epoch ↔ epoch = s.epoch :=
  UInt64.add_left_inj shift

theorem later_finishSend (s : Session) (call : Call SendRequest)
    (answer : Except Failure SendReceipt) :
    (s.later shift).finishSend (call.later shift) answer =
      ((s.finishSend call answer).1.later shift, (s.finishSend call answer).2) := by
  by_cases current : call.epoch = s.epoch
  · have still : (call.later shift).epoch = (s.later shift).epoch := later_epoch_eq.mpr current
    cases answer with
    | error failure =>
      rw [finishSend_of_failure current, finishSend_of_failure still]
      rfl
    | ok receipt =>
      by_cases unnamed : receipt.requestId = ""
      · rw [finishSend_of_unnamed current unnamed, finishSend_of_unnamed still unnamed]
        rfl
      · rw [finishSend_of_receipt current unnamed, finishSend_of_receipt still unnamed]
        rfl
  · rw [finishSend_of_stale current, finishSend_of_stale (mt later_epoch_eq.mp current)]

theorem later_applyVerdict (s : Session) (verdict : Verdict) :
    (s.later shift).applyVerdict verdict =
      ((s.applyVerdict verdict).1.later shift, (s.applyVerdict verdict).2) := by
  unfold applyVerdict
  split
  · rfl
  · rfl

theorem later_finishVerify (s : Session) (call : Call VerifyRequest)
    (answer : Except Failure Verdict) :
    (s.later shift).finishVerify (call.later shift) answer =
      ((s.finishVerify call answer).1.later shift, (s.finishVerify call answer).2) := by
  by_cases current : call.epoch = s.epoch
  · have still : (call.later shift).epoch = (s.later shift).epoch := later_epoch_eq.mpr current
    by_cases bound : call.request.requestId = s.state.requestId
    · have same : (call.later shift).request.requestId = (s.later shift).state.requestId := bound
      cases answer with
      | ok verdict =>
        rw [finishVerify_of_verdict current bound, finishVerify_of_verdict still same]
        exact s.release.later_applyVerdict verdict
      | error failure =>
        rw [finishVerify_of_failure current bound, finishVerify_of_failure still same]
        split
        · rfl
        · rfl
    · have apart : (call.later shift).request.requestId ≠ (s.later shift).state.requestId := bound
      rw [finishVerify_of_replaced bound, finishVerify_of_replaced apart]
  · rw [finishVerify_of_stale current, finishVerify_of_stale (mt later_epoch_eq.mp current)]

theorem later_abandon (epoch : UInt64) :
    (s.later shift).abandon (epoch + shift) = (s.abandon epoch).later shift := by
  have pending : (s.later shift).pending = some (epoch + shift) ↔ s.pending = some epoch := by
    cases held : s.pending with
    | none => simp only [later, held, Option.map_none, reduceCtorEq]
    | some holder =>
      simp only [later, held, Option.map_some, Option.some.injEq, UInt64.add_left_inj]
  simp only [abandon, pending, eq_comm (b := epoch + shift), later_epoch_eq, eq_comm (a := s.epoch)]
  split
  · rfl
  · rfl

end Session

/-! ### Calls that are gone -/

def numberSince (gone number : Nat) : Option Nat :=
  if number < gone then none else some (number - gone)

theorem numberSince_eq_some {gone number m : Nat} :
    numberSince gone number = some m ↔ number = m + gone := by
  unfold numberSince
  split
  · next old =>
    constructor
    · intro impossible
      cases impossible
    · intro same
      omega
  · next new =>
    rw [Option.some.injEq]
    omega

theorem numberSince_eq_none {gone number : Nat} :
    numberSince gone number = none ↔ number < gone := by
  simp only [numberSince, ite_eq_left_iff, reduceCtorEq, imp_false, Decidable.not_not]

/-- The event where the first `gone` calls never went out. Their answers and their loss are no
event there. -/
def Event.since (gone : Nat) : Event → Option Event
  | .answerSend number answer => (numberSince gone number).map (.answerSend · answer)
  | .answerVerify number answer => (numberSince gone number).map (.answerVerify · answer)
  | .abandon number => (numberSince gone number).map .abandon
  | e => some e

def Observation.since (gone : Nat) (o : Observation) : Option Observation :=
  (o.event.since gone).map fun event => { o with event }

theorem Event.since_eq_none {gone : Nat} {e : Event} (deleted : e.since gone = none) :
    ∃ number, e.number? = some number ∧ number < gone := by
  cases e with
  | answerSend number answer =>
    exact ⟨number, rfl, numberSince_eq_none.mp (Option.map_eq_none_iff.mp deleted)⟩
  | answerVerify number answer =>
    exact ⟨number, rfl, numberSince_eq_none.mp (Option.map_eq_none_iff.mp deleted)⟩
  | abandon number =>
    exact ⟨number, rfl, numberSince_eq_none.mp (Option.map_eq_none_iff.mp deleted)⟩
  | _ => cases deleted

namespace Run

variable {r t : Run} {gone : Nat} {shift : UInt64}

structure Past (gone : Nat) (r : Run) : Prop where
  asked : gone ≤ r.asked
  older : ∀ number call, number < gone → r.call? number = some call →
    call.epoch.toNat < r.session.epoch.toNat

theorem step_past (h : r.Past gone) {e : Event}
    (room : r.session.epoch.toNat + resets [e] < UInt64.size) : (r.step e).1.Past gone := by
  have count := step_epoch_toNat room
  have passage := r.step_passage e
  generalize (r.step e).1 = t at passage count ⊢
  cases passage with
  | stays _ calls asked _ _ _ _ =>
    refine ⟨asked ▸ h.asked, ?_⟩
    intro number call old found
    rw [call?, calls] at found
    have past := h.older number call old found
    omega
  | goesOut new _ calls asked _ _ _ _ _ _ _ =>
    have before := h.asked
    refine ⟨by omega, ?_⟩
    intro number call old found
    have different : (number == r.asked) = false := beq_eq_false_iff_ne.mpr (by omega)
    rw [call?, calls, List.lookup_cons, different] at found
    have past := h.older number call old found
    omega
  | settles m _ session _ _ _ _ _ _ =>
    refine ⟨h.asked, ?_⟩
    intro number call old found
    rw [call?_settled] at found
    split at found
    · cases found
    · have past := h.older number call old found
      omega
  | leaves =>
    refine ⟨h.asked, ?_⟩
    intro number call old found
    have past := h.older number call old found
    omega

theorem after_past (h : r.Past gone) (events : List Event)
    (few : r.session.epoch.toNat + resets events < UInt64.size) : (r.after events).Past gone :=
  after_preserves (fun _ _ past room => step_past past room) events h few

theorem step_session_of_past (h : r.Past gone) {e : Event} (deleted : e.since gone = none) :
    (r.step e).1.session = r.session := by
  obtain ⟨number, about, old⟩ := Event.since_eq_none deleted
  rcases r.settles_or_step_eq about with ⟨call, found, settled⟩ | unchanged
  · have past := h.older number call old found
    apply step_session_of_stale found settled
    intro fresh
    rw [fresh] at past
    exact absurd past (Nat.lt_irrefl _)
  · rw [unchanged]

theorem step_effect_of_past (h : r.Past gone) {e : Event} {number : Nat} {call : OpenCall}
    (old : number < gone) (found : r.call? number = some call) (settled : e.Settles number call)
    (answered : e ≠ .abandon number) :
    (r.step e).2 = { outcome := some (.ignored .stale) } := by
  have past := h.older number call old found
  have stale : call.epoch ≠ r.session.epoch := by
    intro fresh
    rw [fresh] at past
    exact absurd past (Nat.lt_irrefl _)
  cases settled with
  | answerSend call answer => rw [step_answerSend found, Session.finishSend_of_stale stale]
  | answerVerify call answer => rw [step_answerVerify found, Session.finishVerify_of_stale stale]
  | abandon call => exact absurd rfl answered

/-! ### The same run without them -/

/-- The runs only differ in the epoch and in the first `gone` calls, which `t` never made. -/
structure Renews (gone : Nat) (shift : UInt64) (r t : Run) : Prop where
  session : r.session = t.session.later shift
  asked : r.asked = t.asked + gone
  calls : ∀ number, r.call? (number + gone) = (t.call? number).map (OpenCall.later shift)

namespace Renews

private theorem started {ρ : Type} (h : Renews gone shift r t) {toCall : Call ρ → OpenCall}
    {toRequest : ρ → Request} {start later : Session × Start ρ}
    (shifted : ∀ call, (toCall call).later shift = toCall (call.later shift))
    (commutes : later = (start.1.later shift, start.2.later shift)) :
    Renews gone shift (r.started toCall toRequest later).1 (t.started toCall toRequest start).1 ∧
      (r.started toCall toRequest later).2 = (t.started toCall toRequest start).2 := by
  subst commutes
  obtain ⟨s, outcome | call⟩ := start
  · exact ⟨⟨rfl, h.asked, h.calls⟩, rfl⟩
  · have next : r.asked + 1 = t.asked + 1 + gone := by
      have asked := h.asked
      omega
    refine ⟨⟨rfl, next, ?_⟩, rfl⟩
    intro number
    simp only [call?, Run.started, Start.later, List.lookup_cons, h.asked]
    by_cases new : number = t.asked
    · simp only [new, beq_self_eq_true, Option.map_some, shifted]
    · have different : (number == t.asked) = false := beq_eq_false_iff_ne.mpr new
      have apart : (number + gone == t.asked + gone) = false := by
        apply beq_eq_false_iff_ne.mpr
        omega
      simp only [different, apart]
      exact h.calls number

private theorem settled (h : Renews gone shift r t) (m : Nat) (session : Session) :
    Renews gone shift (r.settled (m + gone) (session.later shift)) (t.settled m session) := by
  refine ⟨rfl, h.asked, ?_⟩
  intro number
  rw [call?_settled, call?_settled]
  by_cases same : number = m
  · rw [if_pos same, if_pos (congrArg (· + gone) same)]
    rfl
  · have apart : number + gone ≠ m + gone := by omega
    rw [if_neg same, if_neg apart]
    exact h.calls number

private theorem step_answerSend (h : Renews gone shift r t) (m : Nat)
    (answer : Except Failure SendReceipt) :
    Renews gone shift (r.step (.answerSend (m + gone) answer)).1
        (t.step (.answerSend m answer)).1 ∧
      (r.step (.answerSend (m + gone) answer)).2 = (t.step (.answerSend m answer)).2 := by
  have mine := h.calls m
  rcases found : t.call? m with _ | call | call
  · rw [found] at mine
    simp only [Run.step, found, mine, Option.map_none, and_true]
    exact h
  · rw [found] at mine
    rw [Run.step_answerSend found, Run.step_answerSend mine, h.session,
      Session.later_finishSend]
    exact ⟨h.settled m _, rfl⟩
  · rw [found] at mine
    simp only [Run.step, found, mine, Option.map_some, OpenCall.later, and_true]
    exact h

private theorem step_answerVerify (h : Renews gone shift r t) (m : Nat)
    (answer : Except Failure Verdict) :
    Renews gone shift (r.step (.answerVerify (m + gone) answer)).1
        (t.step (.answerVerify m answer)).1 ∧
      (r.step (.answerVerify (m + gone) answer)).2 = (t.step (.answerVerify m answer)).2 := by
  have mine := h.calls m
  rcases found : t.call? m with _ | call | call
  · rw [found] at mine
    simp only [Run.step, found, mine, Option.map_none, and_true]
    exact h
  · rw [found] at mine
    simp only [Run.step, found, mine, Option.map_some, OpenCall.later, and_true]
    exact h
  · rw [found] at mine
    rw [Run.step_answerVerify found, Run.step_answerVerify mine, h.session,
      Session.later_finishVerify]
    exact ⟨h.settled m _, rfl⟩

private theorem step_abandon (h : Renews gone shift r t) (m : Nat) :
    Renews gone shift (r.step (.abandon (m + gone))).1 (t.step (.abandon m)).1 ∧
      (r.step (.abandon (m + gone))).2 = (t.step (.abandon m)).2 := by
  have mine := h.calls m
  cases found : t.call? m with
  | none =>
    rw [found] at mine
    simp only [Run.step, found, mine, Option.map_none, and_true]
    exact h
  | some call =>
    rw [found] at mine
    rw [Run.step_abandon found, Run.step_abandon mine, h.session, OpenCall.later_epoch,
      Session.later_abandon]
    exact ⟨h.settled m _, rfl⟩

theorem step (h : Renews gone shift r t) {e e' : Event} (kept : e.since gone = some e') :
    Renews gone shift (r.step e).1 (t.step e').1 ∧ (r.step e).2 = (t.step e').2 := by
  cases e with
  | startSend phone =>
    cases kept
    simp only [Run.step, h.session]
    exact h.started (fun _ => rfl) (t.session.later_startSend phone)
  | startResend =>
    cases kept
    simp only [Run.step, h.session]
    exact h.started (fun _ => rfl) t.session.later_startResend
  | startVerify code =>
    cases kept
    simp only [Run.step, h.session]
    exact h.started (fun _ => rfl) (t.session.later_startVerify code)
  | answerSend number answer =>
    -- The answer is to a call of after the reset, which both runs know under its own number.
    obtain ⟨m, same, rfl⟩ := Option.map_eq_some_iff.mp kept
    obtain rfl := numberSince_eq_some.mp same
    exact h.step_answerSend m answer
  | answerVerify number answer =>
    obtain ⟨m, same, rfl⟩ := Option.map_eq_some_iff.mp kept
    obtain rfl := numberSince_eq_some.mp same
    exact h.step_answerVerify m answer
  | abandon number =>
    obtain ⟨m, same, rfl⟩ := Option.map_eq_some_iff.mp kept
    obtain rfl := numberSince_eq_some.mp same
    exact h.step_abandon m
  | typePhone raw =>
    cases kept
    simp only [Run.step, h.session, Session.later_typePhone, Session.later_state, and_true]
    exact ⟨rfl, h.asked, h.calls⟩
  | typeCode raw =>
    cases kept
    simp only [Run.step, h.session, Session.later_typeCode, Session.later_state, and_true]
    exact ⟨rfl, h.asked, h.calls⟩
  | tick =>
    cases kept
    simp only [Run.step, h.session]
    exact ⟨⟨rfl, h.asked, h.calls⟩, rfl⟩
  | reset =>
    cases kept
    simp only [Run.step, h.session, Session.later_reset, and_true]
    exact ⟨rfl, h.asked, h.calls⟩

private theorem forget (h : Renews gone shift r t) {number : Nat} (old : number < gone)
    {session : Session} (same : session = r.session) :
    Renews gone shift (r.settled number session) t := by
  refine ⟨same.trans h.session, h.asked, ?_⟩
  intro m
  have apart : m + gone ≠ number := by omega
  rw [call?_settled, if_neg apart]
  exact h.calls m

theorem step_deleted (h : Renews gone shift r t) (past : r.Past gone) {e : Event}
    (deleted : e.since gone = none) : Renews gone shift (r.step e).1 t := by
  obtain ⟨number, about, old⟩ := Event.since_eq_none deleted
  have same := step_session_of_past past deleted
  rcases r.settles_or_step_eq about with ⟨call, found, settled⟩ | unchanged
  · cases settled with
    | answerSend call answer =>
      rw [Run.step_answerSend found] at same ⊢
      exact h.forget old same
    | answerVerify call answer =>
      rw [Run.step_answerVerify found] at same ⊢
      exact h.forget old same
    | abandon call =>
      rw [Run.step_abandon found] at same ⊢
      exact h.forget old same
  · rw [unchanged]
    exact h

theorem observe (h : Renews gone shift r t) (past : r.Past gone) (events : List Event)
    (few : r.session.epoch.toNat + resets events < UInt64.size) :
    (r.observe events).filterMap (Observation.since gone) =
      t.observe (events.filterMap (Event.since gone)) := by
  induction events generalizing r t with
  | nil => rfl
  | cons e events ih =>
    rw [resets_cons] at few
    have room : r.session.epoch.toNat + resets [e] < UInt64.size := by omega
    have count := step_epoch_toNat room
    have later : (r.step e).1.session.epoch.toNat + resets events < UInt64.size := by omega
    cases kept : e.since gone with
    | none =>
      have rest := ih (h.step_deleted past kept) (step_past past room) later
      rw [Run.observe, List.filterMap_cons_none kept, List.filterMap_cons_none]
      · exact rest
      · simp only [Observation.since, kept, Option.map_none]
    | some e' =>
      obtain ⟨both, effect⟩ := h.step kept
      have rest := ih both (step_past past room) later
      have view : (r.step e).1.session.view = (t.step e').1.session.view := by
        rw [both.session, Session.later_view]
      rw [List.filterMap_cons_some kept, Run.observe, Run.observe, List.filterMap_cons_some]
      · exact congrArg (_ :: ·) rest
      · simp only [Observation.since, kept, Option.map_some, effect, view]

end Renews

/-! ### After a reset -/

theorem reset_past (h : r.Fenced) (room : r.session.epoch.toNat + resets [.reset] < UInt64.size) :
    (r.step .reset).1.Past r.asked := by
  have next := step_epoch_toNat room
  refine ⟨Nat.le_refl _, ?_⟩
  intro number call _ found
  have past : call.epoch.toNat ≤ r.session.epoch.toNat := h.past (number, call) (mem_of_call? found)
  rw [next, show resets [.reset] = 1 from rfl]
  exact Nat.lt_succ_of_le past

theorem reset_renews (h : r.Fenced) :
    Renews r.asked (r.session.epoch + 1) (r.step .reset).1 (new r.session.channels) := by
  refine ⟨?_, (Nat.zero_add _).symm, ?_⟩
  · simp only [step, Session.reset, Session.later, new, Option.map_none, UInt64.zero_add]
  · intro number
    cases found : r.call? (number + r.asked) with
    | none => exact found
    | some call =>
      have early := h.numbered _ (mem_of_call? found)
      exact absurd early (Nat.not_lt.mpr (Nat.le_add_left _ number))

/-- What follows is seen to do what it does to a new session with these channels, once it is rid of
the answers and the loss of the calls of before, and those leave no trace. -/
structure AsNew (channels : List String) (r : Run) (events : List Event) : Prop where
  same : (r.observe events).filterMap (Observation.since r.asked) =
    (new channels).observe (events.filterMap (Event.since r.asked))
  untouched : ∀ before e after, events = before ++ e :: after → e.since r.asked = none →
    ((r.after before).step e).1.session = (r.after before).session
  ignored : ∀ before e after number call, events = before ++ e :: after → number < r.asked →
    (r.after before).call? number = some call → e.Settles number call → e ≠ .abandon number →
      ((r.after before).step e).2 = { outcome := some (.ignored .stale) }

theorem reset_asNew (h : r.Fenced) (events : List Event)
    (few : r.session.epoch.toNat + (resets [.reset] + resets events) < UInt64.size) :
    AsNew r.session.channels (r.step .reset).1 events := by
  have room : r.session.epoch.toNat + resets [.reset] < UInt64.size := by omega
  have next := step_epoch_toNat room
  have past := reset_past h room
  -- The calls of before stay of older epochs, whatever part of the events has happened.
  have during : ∀ before after, events = before ++ after →
      ((r.step .reset).1.after before).Past r.asked := by
    intro before after split
    apply after_past past
    rw [split, resets_append] at few
    omega
  constructor
  · exact (reset_renews h).observe past events (by omega)
  · intro before e after split deleted
    exact step_session_of_past (during before _ split) deleted
  · intro before e after number call split old found settled answered
    exact step_effect_of_past (during before _ split) old found settled answered

/-- A session that was reset is as good as new, whatever came before and whatever comes next. -/
theorem reset_as_new_of_few_resets (channels : List String) (history events : List Event)
    (few : resets (history ++ .reset :: events) < UInt64.size) :
    AsNew channels ((new channels).after (history ++ [.reset])) events := by
  rw [resets_append, resets_cons] at few
  have zero : (new channels).session.epoch.toNat = 0 := rfl
  have fenced : ((new channels).after history).Fenced := reachable_fenced channels (by omega)
  have count : ((new channels).after history).session.epoch.toNat =
      (new channels).session.epoch.toNat + resets history :=
    after_epoch_toNat history (by omega)
  have renewed := reset_asNew fenced events (by omega)
  rw [after_channels] at renewed
  rw [after_append]
  exact renewed

theorem reset_as_new_with_late_answer :
    let receipt : SendReceipt := ⟨"sms", "R1", 300, "09****5678", {}⟩
    let history : List Event := [.startSend "0912345678"]
    let events : List Event := [.startSend "0912345678", .answerSend 0 (.ok receipt), .tick,
      .answerSend 1 (.ok receipt)]
    resets (history ++ .reset :: events) < UInt64.size ∧
      (events.filterMap (Event.since ((new []).after (history ++ [.reset])).asked)).length = 3 ∧
      AsNew [] ((new []).after (history ++ [.reset])) events :=
  ⟨by decide, by decide, reset_as_new_of_few_resets [] _ _ (by decide)⟩

end Run

end Passcode
