import Passcode.Proofs.Session.Slot

/-!
A call that is outstanding shuts everything else out but the passing of time, and time may as well
have passed before the call went out. So whatever comes in between, a call ends as if nothing had.
-/

set_option autoImplicit false

namespace Passcode

namespace Event

def isStart : Event → Bool
  | .startSend _ | .startResend | .startVerify _ => true
  | _ => false

def isTick : Event → Bool
  | .tick => true
  | _ => false

def spares (number : Nat) (e : Event) : Bool :=
  !e.isReset && e.number? != some number

theorem spares_iff {number : Nat} {e : Event} :
    e.spares number = true ↔ e.isReset = false ∧ e.number? ≠ some number := by
  simp only [spares, Bool.and_eq_true, Bool.not_eq_eq_eq_not, Bool.not_true, bne_iff_ne, ne_eq]

end Event

/-! ### Time and the start of a call -/

namespace Session

variable {s : Session}

theorem resendAllowed_tick (allowed : s.state.resendAllowed = true) :
    s.tick.state.resendAllowed = true := by
  simp only [State.resendAllowed, decide_eq_true_eq, UInt32.le_iff_toNat_le] at allowed ⊢
  simp only [tick, State.tick]
  split
  · next ended =>
    rw [ended] at allowed
    exact allowed
  · next running =>
    have positive : 1 ≤ s.state.ttl.toNat := by
      have : s.state.ttl.toNat ≠ 0 := fun zero => running (UInt32.toNat_inj.mp zero)
      omega
    have one : (1 : UInt32) ≤ s.state.ttl := UInt32.le_iff_toNat_le.mpr positive
    rw [UInt32.toNat_sub_of_le _ _ one]
    exact Nat.le_trans (Nat.sub_le _ _) allowed

theorem requestCode_tick (s : Session) (phone : String) :
    s.tick.requestCode phone = ((s.requestCode phone).1.tick, (s.requestCode phone).2) := by
  rcases s.requestCode_cases phone with ⟨valid, asked⟩ | ⟨invalid, refused⟩
  · rw [asked, requestCode_of_valid valid]
    rfl
  · rw [refused, requestCode_of_invalid invalid]
    rfl

theorem startSend_tick (s : Session) (phone : String) :
    s.tick.startSend phone = ((s.startSend phone).1.tick, (s.startSend phone).2) := by
  rcases s.startSend_cases phone with ⟨held, busy⟩ | ⟨free, started⟩
  · rw [busy, startSend_of_busy (s := s.tick) held]
  · rw [started, startSend_of_free (s := s.tick) free]
    exact s.requestCode_tick phone

theorem startResend_tick {call : Call SendRequest} (asked : s.startResend.2 = .asked call) :
    s.tick.startResend = (s.startResend.1.tick, s.startResend.2) := by
  rcases s.startResend_cases with ⟨-, busy⟩ | ⟨-, -, cooling⟩ | ⟨free, allowed, started⟩
  · rw [busy] at asked
    cases asked
  · rw [cooling] at asked
    cases asked
  · rw [started, startResend_of_allowed (s := s.tick) free (resendAllowed_tick allowed)]
    exact (s.withCode "").requestCode_tick s.state.phone

theorem startVerify_tick (s : Session) (code : String) :
    s.tick.startVerify code = ((s.startVerify code).1.tick, (s.startVerify code).2) := by
  rcases s.startVerify_cases code with
    ⟨held, busy⟩ | ⟨free, step, refused⟩ | ⟨free, step, invalid, refused⟩ |
      ⟨free, step, valid, asked⟩
  · rw [busy, startVerify_of_busy (s := s.tick) held]
  · rw [refused, startVerify_of_awaitingPhone (s := s.tick) free step]
    rfl
  · rw [refused, startVerify_of_invalid (s := s.tick) free step invalid]
    rfl
  · rw [asked, startVerify_of_valid (s := s.tick) free step valid]
    rfl

end Session

namespace Run

variable {r : Run} {number : Nat}

/-! ### A call goes out -/

theorem isStart_of_asked {e : Event} {request : Request}
    (asked : (r.step e).2.request = some request) : e.isStart = true := by
  cases e with
  | startSend phone => rfl
  | startResend => rfl
  | startVerify code => rfl
  | answerSend number answer =>
    simp only [step] at asked
    split at asked
    · cases asked
    · cases asked
  | answerVerify number answer =>
    simp only [step] at asked
    split at asked
    · cases asked
    · cases asked
  | abandon number =>
    simp only [step] at asked
    split at asked
    · cases asked
    · cases asked
  | typePhone raw => cases asked
  | typeCode raw => cases asked
  | tick => cases asked
  | reset => cases asked

section Started

variable {ρ : Type} {toCall : Call ρ → OpenCall} {toRequest : ρ → Request} {request : Request}

private theorem started_request {start : Session × Start ρ}
    (asked : (r.started toCall toRequest start).2.request = some request) :
    (∃ call, start.2 = .asked call) ∧
      (r.started toCall toRequest start).1.asked = r.asked + 1 := by
  obtain ⟨s, outcome | call⟩ := start
  · cases asked
  · exact ⟨⟨call, rfl⟩, rfl⟩

private theorem started_tick {start later : Session × Start ρ}
    (commutes : later = (start.1.tick, start.2)) :
    (r.step .tick).1.started toCall toRequest later =
      (((r.started toCall toRequest start).1.step .tick).1,
        (r.started toCall toRequest start).2) := by
  obtain ⟨s, outcome | call⟩ := start
  all_goals rw [commutes]
  · rfl
  · rfl

end Started

theorem step_asked {e : Event} {request : Request} (asked : (r.step e).2.request = some request) :
    (r.step e).1.asked = r.asked + 1 := by
  have starts := isStart_of_asked asked
  cases e with
  | startSend phone => exact (started_request asked).2
  | startResend => exact (started_request asked).2
  | startVerify code => exact (started_request asked).2
  | _ => cases starts

/-- Time that passes while a call is outstanding might as well have passed before it went out. -/
theorem step_tick_comm {e : Event} {request : Request}
    (asked : (r.step e).2.request = some request) :
    (r.step .tick).1.step e = (((r.step e).1.step .tick).1, (r.step e).2) := by
  have starts := isStart_of_asked asked
  cases e with
  | startSend phone => exact started_tick (r.session.startSend_tick phone)
  | startResend =>
    obtain ⟨call, went⟩ := (started_request asked).1
    exact started_tick (Session.startResend_tick went)
  | startVerify code => exact started_tick (r.session.startVerify_tick code)
  | _ => cases starts

theorem step_after_ticks {ticks : List Event} (time : ∀ e ∈ ticks, e.isTick = true) {e : Event}
    {request : Request} (asked : (r.step e).2.request = some request) :
    (r.after ticks).step e = ((r.step e).1.after ticks, (r.step e).2) := by
  induction ticks generalizing r with
  | nil => rfl
  | cons e' ticks ih =>
    have one := time e' List.mem_cons_self
    cases e' with
    | tick =>
      have later := step_tick_comm asked
      have still : ((r.step .tick).1.step e).2.request = some request := by
        rw [later]
        exact asked
      rw [after_cons, ih (fun e mem => time e (List.mem_cons_of_mem _ mem)) still, later]
      rfl
    | _ => cases one

/-! ### A busy session -/

theorem step_start_of_busy (held : r.session.busy = true) {e : Event} (starts : e.isStart = true) :
    r.step e = (r, { outcome := some (.ignored .busy) }) := by
  cases e with
  | startSend phone => rw [step, Session.startSend_of_busy held]; rfl
  | startResend => rw [step, Session.startResend_of_busy held]; rfl
  | startVerify code => rw [step, Session.startVerify_of_busy held]; rfl
  | _ => cases starts

theorem step_typePhone_of_busy (held : r.session.busy = true) (raw : String) :
    r.step (.typePhone raw) = (r, { stored := some r.session.state.phone }) := by
  simp only [step, Session.typePhone_of_busy held]

theorem step_typeCode_of_busy (held : r.session.busy = true) (raw : String) :
    r.step (.typeCode raw) = (r, { stored := some r.session.state.code }) := by
  simp only [step, Session.typeCode_of_busy held]

theorem step_call?_of_busy (held : r.session.busy = true) {e : Event} (keeps : e.isReset = false)
    (elsewhere : e.number? ≠ some number) : (r.step e).1.call? number = r.call? number := by
  have passage := r.step_passage e
  generalize (r.step e).1 = t at passage ⊢
  cases passage with
  | stays _ calls _ _ _ _ _ => rw [call?, calls, call?]
  | goesOut _ _ _ _ free _ _ _ _ _ _ => exact absurd free (Session.busy_eq_true_iff.mp held)
  | settles m _ _ settled _ _ _ _ _ =>
    have different : number ≠ m := by
      rintro rfl
      exact elsewhere settled.number?_eq
    rw [call?_settled, if_neg different]
  | leaves => cases keeps

theorem step_session_of_busy (held : r.session.busy = true) {e : Event}
    (keeps : e.isReset = false) (still : e.isTick = false)
    (stale : ∀ number call, e.number? = some number → r.call? number = some call →
      call.epoch ≠ r.session.epoch) : (r.step e).1.session = r.session := by
  cases about : e.number? with
  | some number =>
    rcases r.settles_or_step_eq about with ⟨call, found, settled⟩ | unchanged
    · exact step_session_of_stale found settled (stale number call about found)
    · rw [unchanged]
  | none =>
    cases e with
    | startSend phone => rw [step_start_of_busy held rfl]
    | startResend => rw [step_start_of_busy held rfl]
    | startVerify code => rw [step_start_of_busy held rfl]
    | typePhone raw => rw [step_typePhone_of_busy held]
    | typeCode raw => rw [step_typeCode_of_busy held]
    | tick => cases still
    | reset => cases keeps
    | _ => cases about

/-! ### A call is outstanding -/

private theorem step_fenced_of_keeps (h : r.Fenced) {e : Event} (keeps : e.isReset = false) :
    (r.step e).1.Fenced := by
  apply step_fenced h
  rw [resets_of_keeps keeps]
  exact r.session.epoch.toNat_lt_size

/-- `call` is outstanding under `number` and of the current epoch, so it has the slot. -/
structure Holds (r : Run) (number : Nat) (call : OpenCall) : Prop where
  fenced : r.Fenced
  found : r.call? number = some call
  current : call.epoch = r.session.epoch

theorem holds_of_asked (h : r.Fenced) {e : Event} {request : Request}
    (asked : (r.step e).2.request = some request) :
    ∃ call, (r.step e).1.Holds r.asked call := by
  have starts := isStart_of_asked asked
  have next := step_asked asked
  have passage := r.step_passage e
  have keeps : e.isReset = false := by
    cases e with
    | reset => cases starts
    | _ => rfl
  have fenced := step_fenced_of_keeps h keeps
  generalize (r.step e).1 = t at passage next fenced ⊢
  cases passage with
  | stays _ _ same _ _ _ _ => omega
  | goesOut call _ calls _ _ _ epoch _ _ fresh _ =>
    refine ⟨call, fenced, ?_, fresh.trans epoch.symm⟩
    rw [call?, calls, List.lookup_cons_self]
  | settles _ _ _ settled =>
    cases settled with
    | _ => cases starts
  | leaves => cases starts

namespace Holds

variable {call : OpenCall}

theorem busy (h : r.Holds number call) : r.session.busy = true := by
  rw [Session.busy, (h.fenced.held h.found h.current).1]
  rfl

/-- A call that is started while another is outstanding is turned away. -/
theorem step_start (h : r.Holds number call) {e : Event} (starts : e.isStart = true) :
    r.step e = (r, { outcome := some (.ignored .busy) }) :=
  step_start_of_busy h.busy starts

theorem step_typePhone (h : r.Holds number call) (raw : String) :
    r.step (.typePhone raw) = (r, { stored := some r.session.state.phone }) :=
  step_typePhone_of_busy h.busy raw

theorem step_typeCode (h : r.Holds number call) (raw : String) :
    r.step (.typeCode raw) = (r, { stored := some r.session.state.code }) :=
  step_typeCode_of_busy h.busy raw

theorem stale (h : r.Holds number call) {m : Nat} {other : OpenCall} (different : m ≠ number)
    (found : r.call? m = some other) : other.epoch ≠ r.session.epoch := by
  intro fresh
  have mine := (h.fenced.held h.found h.current).2
  have others := (h.fenced.held found fresh).2
  rw [mine] at others
  cases others
  exact different rfl

theorem step_call? (h : r.Holds number call) {e : Event} (spares : e.spares number = true) :
    (r.step e).1.call? number = r.call? number := by
  obtain ⟨keeps, elsewhere⟩ := Event.spares_iff.mp spares
  exact step_call?_of_busy h.busy keeps elsewhere

theorem step (h : r.Holds number call) {e : Event} (spares : e.spares number = true) :
    (r.step e).1.Holds number call := by
  have keeps := (Event.spares_iff.mp spares).1
  refine ⟨step_fenced_of_keeps h.fenced keeps, ?_, ?_⟩
  · rw [h.step_call? spares]
    exact h.found
  · rw [step_epoch, keeps]
    exact h.current

theorem step_session (h : r.Holds number call) {e : Event} (spares : e.spares number = true)
    (still : e.isTick = false) : (r.step e).1.session = r.session := by
  obtain ⟨keeps, elsewhere⟩ := Event.spares_iff.mp spares
  refine step_session_of_busy h.busy keeps still ?_
  intro m other about found
  have different : m ≠ number := by
    rintro rfl
    exact elsewhere about
  exact h.stale different found

end Holds

/-- Two runs look the same to the call under `number`. -/
structure AgreeOn (number : Nat) (r t : Run) : Prop where
  session : r.session = t.session
  call : r.call? number = t.call? number

theorem after_agreeOn {t : Run} {call : OpenCall} (h : r.Holds number call)
    (agree : AgreeOn number r t) {events : List Event}
    (spared : ∀ e ∈ events, e.spares number = true) :
    (r.after events).Holds number call ∧
      AgreeOn number (r.after events) (t.after (events.filter Event.isTick)) := by
  induction events generalizing r t with
  | nil => exact ⟨h, agree⟩
  | cons e events ih =>
    have spares := spared e List.mem_cons_self
    have later := fun e mem => spared e (List.mem_cons_of_mem _ mem)
    cases time : e.isTick with
    | true =>
      rw [List.filter_cons_of_pos time]
      refine ih (h.step spares) ?_ later
      cases e with
      | tick => exact ⟨congrArg Session.tick agree.session, agree.call⟩
      | _ => cases time
    | false =>
      -- The other run does not see this event, and here it leaves session and call as they are.
      rw [List.filter_cons_of_neg (Bool.eq_false_iff.mp time)]
      refine ih (h.step spares) ⟨?_, ?_⟩ later
      · rw [h.step_session spares time]
        exact agree.session
      · rw [h.step_call? spares]
        exact agree.call

theorem AgreeOn.step {t : Run} (agree : AgreeOn number r t) {call : OpenCall} {e : Event}
    (found : r.call? number = some call) (settled : e.Settles number call) :
    (r.step e).1.session = (t.step e).1.session ∧ (r.step e).2 = (t.step e).2 := by
  have same := agree.call.symm.trans found
  cases settled with
  | answerSend call answer =>
    rw [step_answerSend found, step_answerSend same, agree.session]
    exact ⟨rfl, rfl⟩
  | answerVerify call answer =>
    rw [step_answerVerify found, step_answerVerify same, agree.session]
    exact ⟨rfl, rfl⟩
  | abandon call =>
    rw [step_abandon found, step_abandon same, agree.session]
    exact ⟨rfl, rfl⟩

/-! ### Calls are atomic -/

/-- `call` goes out with `start`, and `events` come before its end. They change nothing but the
time, and its end is the same as if they had not come in between. -/
structure Atomic (r : Run) (start : Event) (events : List Event) (call : OpenCall) : Prop where
  out : (r.after [start]).call? r.asked = some call
  outstanding : (r.after (start :: events)).call? r.asked = some call
  turnedAway : ∀ before e after, events = before ++ e :: after → e.isStart = true →
    (r.after (start :: before)).step e =
      (r.after (start :: before), { outcome := some (.ignored .busy) })
  phoneKept : ∀ before raw after, events = before ++ .typePhone raw :: after →
    (r.after (start :: before)).step (.typePhone raw) =
      (r.after (start :: before),
        { stored := some (r.after (start :: before)).session.state.phone })
  codeKept : ∀ before raw after, events = before ++ .typeCode raw :: after →
    (r.after (start :: before)).step (.typeCode raw) =
      (r.after (start :: before),
        { stored := some (r.after (start :: before)).session.state.code })
  sameRequest : ((r.after (events.filter Event.isTick)).step start).2 = (r.step start).2
  sameEnd : ∀ e, e.Settles r.asked call →
    ((r.after (start :: events)).step e).1.session =
        ((r.after (events.filter Event.isTick ++ [start])).step e).1.session ∧
      ((r.after (start :: events)).step e).2 =
        ((r.after (events.filter Event.isTick ++ [start])).step e).2

theorem atomic_of_fenced (h : r.Fenced) {start : Event} {request : Request}
    (asked : (r.step start).2.request = some request) {events : List Event}
    (spared : ∀ e ∈ events, e.spares r.asked = true) : ∃ call, r.Atomic start events call := by
  obtain ⟨call, holds⟩ := holds_of_asked h asked
  -- Every prefix of the events leaves the call outstanding.
  have during : ∀ before after, events = before ++ after →
      (r.after (start :: before)).Holds r.asked call ∧
        AgreeOn r.asked (r.after (start :: before))
          ((r.step start).1.after (before.filter Event.isTick)) := by
    intro before after split
    refine after_agreeOn holds ⟨rfl, rfl⟩ ?_
    intro e mem
    exact spared e (split ▸ List.mem_append_left after mem)
  have ticks : ∀ e ∈ events.filter Event.isTick, e.isTick = true :=
    fun e mem => (List.mem_filter.mp mem).2
  have earlier := step_after_ticks ticks asked
  have whole : r.after (events.filter Event.isTick ++ [start]) =
      (r.step start).1.after (events.filter Event.isTick) := by
    rw [after_append, after_cons, after_nil, earlier]
  obtain ⟨still, agree⟩ := during events [] (List.append_nil events).symm
  refine ⟨call, holds.found, still.found, ?_, ?_, ?_, ?_, ?_⟩
  · intro before e after split starts
    exact (during before _ split).1.step_start starts
  · intro before raw after split
    exact (during before _ split).1.step_typePhone raw
  · intro before raw after split
    exact (during before _ split).1.step_typeCode raw
  · rw [earlier]
  · intro e settled
    rw [whole]
    exact agree.step still.found settled

/-- A call that goes out from any reachable session is atomic, whatever else happens before its
end. -/
theorem call_atomic_of_few_resets (channels : List String) (history : List Event)
    (few : resets history < UInt64.size) (start : Event) (request : Request)
    (asked : (((new channels).after history).step start).2.request = some request)
    (events : List Event)
    (spared : ∀ e ∈ events, e.spares ((new channels).after history).asked = true) :
    ∃ call, ((new channels).after history).Atomic start events call :=
  atomic_of_fenced (reachable_fenced channels few) asked spared

/-- A code is sent again. Meanwhile time passes, something is typed, another call is started, and
the answer to a send of before the reset comes in. -/
theorem resend_atomic_with_late_answer :
    let receipt : SendReceipt := ⟨"sms", "R1", 240, "09****5678", {}⟩
    let history : List Event := [.startSend "0912345678", .reset, .startSend "0912345678",
      .answerSend 1 (.ok receipt)]
    let events : List Event := [.tick, .typeCode "12", .startVerify "123456",
      .answerSend 0 (.ok receipt), .typePhone "0", .tick]
    resets history < UInt64.size ∧
      (((new []).after history).step .startResend).2.request =
        some (.send ⟨"0912345678", []⟩) ∧
      (∀ e ∈ events, e.spares ((new []).after history).asked = true) ∧
      ∃ call, ((new []).after history).Atomic .startResend events call :=
  ⟨by decide, by decide, by decide,
    call_atomic_of_few_resets [] _ (by decide) .startResend (.send ⟨"0912345678", []⟩) (by decide) _
      (by decide)⟩

end Run

end Passcode
