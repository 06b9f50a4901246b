import Passcode.Proofs.Session.Turn

/-!
What is seen of a session since it was created. The starts of the calls that went out stand in the
order of their numbers, so whatever is seen of a call can be traced back to its start: what it was
given, and what it asked of the service.
-/

set_option autoImplicit false

namespace Passcode

def Run.see (r : Run) (e : Event) : Observation :=
  ⟨e, (r.step e).2, (r.step e).1.session.view⟩

/-- The starts of the calls that went out. The start of the call with number `n` has index `n`. -/
def dispatches (history : List Observation) : List Observation :=
  history.filter (·.effect.request.isSome)

theorem dispatches_append_of_asked {history : List Observation} {o : Observation}
    {request : Request} (asked : o.effect.request = some request) :
    dispatches (history ++ [o]) = dispatches history ++ [o] := by
  simp only [dispatches, List.filter_append, List.filter_cons, asked, Option.isSome_some,
    ↓reduceIte, List.filter_nil]

theorem dispatches_append_of_silent {history : List Observation} {o : Observation}
    (silent : o.effect.request = none) : dispatches (history ++ [o]) = dispatches history := by
  simp only [dispatches, List.filter_append, List.filter_cons, silent, Option.isSome_none,
    Bool.false_eq_true, ↓reduceIte, List.filter_nil, List.append_nil]

namespace Observation

variable {history : List Observation} {o : Observation}

def origin (history : List Observation) (o : Observation) : Option Observation :=
  match o.event.number? with
  | some number => (dispatches history)[number]?
  | none => if o.event.isStart then some o else none

/-- The phone number that the start of a send submits: the given one, or the stored one. -/
def submitted (o : Observation) : Option String :=
  match o.event with
  | .startSend phone => some phone
  | .startResend => some o.view.state.phone
  | _ => none

theorem origin_of_number? {number : Nat} (about : o.event.number? = some number) :
    o.origin history = (dispatches history)[number]? := by
  simp only [origin, about]

theorem origin_of_isStart (starts : o.event.isStart = true) : o.origin history = some o := by
  have about : o.event.number? = none := by
    cases event : o.event with
    | startSend phone => rfl
    | startResend => rfl
    | startVerify code => rfl
    | _ =>
      rw [event] at starts
      cases starts
  simp only [origin, about, starts, ↓reduceIte]

end Observation

def OpenCall.request : OpenCall → Request
  | .send call => .send call.request
  | .verify call => .verify call.request

inductive OpenCall.StartedBy : OpenCall → Observation → Prop
  | send {call : Call SendRequest} {o : Observation}
      (submitted : o.submitted = some call.request.phone) : StartedBy (.send call) o
  | verify {call : Call VerifyRequest} {o : Observation}
      (event : o.event = .startVerify call.request.code) : StartedBy (.verify call) o

namespace OpenCall.StartedBy

variable {o : Observation}

theorem event_of_verify {call : Call VerifyRequest} (h : (OpenCall.verify call).StartedBy o) :
    o.event = .startVerify call.request.code := by
  cases h with
  | verify event => exact event

theorem submitted_of_send {call : Call SendRequest} (h : (OpenCall.send call).StartedBy o) :
    o.submitted = some call.request.phone := by
  cases h with
  | send submitted => exact submitted

theorem ne_startVerify {call : Call SendRequest} (h : (OpenCall.send call).StartedBy o)
    (code : String) : o.event ≠ .startVerify code := by
  intro event
  have submitted := h.submitted_of_send
  rw [Observation.submitted, event] at submitted
  cases submitted

end OpenCall.StartedBy

namespace Run

variable {r : Run} {history : List Observation}

/-! ### Histories grow at their end -/

/-- What every event preserves, together with what was seen before it, holds throughout a history in
which the epochs do not run out. -/
theorem observe_preserves {P : List Observation → Run → Prop}
    (step : ∀ (history : List Observation) (r : Run) (e : Event), P history r →
      r.session.epoch.toNat + resets [e] < UInt64.size →
        P (history ++ [r.see e]) (r.step e).1)
    (events : List Event) {history : List Observation} {r : Run} (holds : P history r)
    (few : r.session.epoch.toNat + resets events < UInt64.size) :
    P (history ++ r.observe events) (r.after events) := by
  induction events generalizing history r with
  | nil =>
    rw [observe, List.append_nil]
    exact holds
  | cons e events ih =>
    rw [resets_cons] at few
    have room : r.session.epoch.toNat + resets [e] < UInt64.size := by omega
    have count := step_epoch_toNat room
    have later := ih (step history r e holds room) (by omega)
    rw [List.append_assoc] at later
    exact later

theorem observe_reachable {P : List Observation → Run → Prop}
    (step : ∀ (history : List Observation) (r : Run) (e : Event), P history r →
      P (history ++ [r.see e]) (r.step e).1)
    {channels : List String} (initially : P [] (new channels)) {events : List Event}
    (few : resets events < UInt64.size) :
    P ((new channels).observe events) ((new channels).after events) := by
  refine observe_preserves (fun history r e holds _ => step history r e holds) events initially ?_
  rw [show (new channels).session.epoch.toNat = 0 from rfl, Nat.zero_add]
  exact few

/-! ### What one event does to the calls -/

/-- A call goes out exactly where a request is seen; otherwise no call comes up. -/
inductive Traffic (r : Run) : Effect → Run → Prop
  | none {effect : Effect} {t : Run} (silent : effect.request = none) (asked : t.asked = r.asked)
      (calls : ∀ number call, t.call? number = some call → r.call? number = some call) :
      Traffic r effect t
  | out {effect : Effect} {t : Run} (call : OpenCall) (handed : effect.request = some call.request)
      (asked : t.asked = r.asked + 1) (calls : t.calls = (r.asked, call) :: r.calls) :
      Traffic r effect t

private theorem traffic_same {effect : Effect} {t : Run} (silent : effect.request = none)
    (asked : t.asked = r.asked) (calls : t.calls = r.calls) : Traffic r effect t := by
  refine .none silent asked ?_
  intro number call found
  rw [call?, ← calls]
  exact found

private theorem traffic_started {ρ : Type} {toCall : Call ρ → OpenCall} {toRequest : ρ → Request}
    (start : Session × Start ρ)
    (same : ∀ call : Call ρ, (toCall call).request = toRequest call.request) :
    Traffic r (r.started toCall toRequest start).2 (r.started toCall toRequest start).1 := by
  obtain ⟨s, outcome | call⟩ := start
  · exact traffic_same rfl rfl rfl
  · exact .out (toCall call) (congrArg some (same call).symm) rfl rfl

private theorem traffic_settled {effect : Effect} (silent : effect.request = none) (number : Nat)
    (session : Session) : Traffic r effect (r.settled number session) := by
  refine .none silent rfl ?_
  intro m call found
  rw [call?_settled] at found
  split at found
  · cases found
  · exact found

theorem step_traffic (r : Run) (e : Event) : Traffic r (r.step e).2 (r.step e).1 := by
  cases e with
  | startSend phone => exact traffic_started (r.session.startSend phone) (fun _ => rfl)
  | startResend => exact traffic_started r.session.startResend (fun _ => rfl)
  | startVerify code => exact traffic_started (r.session.startVerify code) (fun _ => rfl)
  | answerSend number answer =>
    simp only [step]
    split
    · exact traffic_settled rfl number _
    · exact traffic_same rfl rfl rfl
  | answerVerify number answer =>
    simp only [step]
    split
    · exact traffic_settled rfl number _
    · exact traffic_same rfl rfl rfl
  | abandon number =>
    simp only [step]
    split
    · exact traffic_settled rfl number _
    · exact traffic_same rfl rfl rfl
  | typePhone raw => exact traffic_same rfl rfl rfl
  | typeCode raw => exact traffic_same rfl rfl rfl
  | tick => exact traffic_same rfl rfl rfl
  | reset => exact traffic_same rfl rfl rfl

/-! ### Calls are on record -/

/-- Every outstanding call has its start on record, under its number. -/
structure Recorded (history : List Observation) (r : Run) : Prop where
  count : (dispatches history).length = r.asked
  started : ∀ number call, r.call? number = some call →
    ∃ start, (dispatches history)[number]? = some start ∧ call.StartedBy start

theorem new_recorded (channels : List String) : Recorded [] (new channels) where
  count := rfl
  started number call found := by cases found

theorem startedBy_see {e : Event} {call : OpenCall}
    (handed : (r.step e).2.request = some call.request) : call.StartedBy (r.see e) := by
  obtain ⟨-, code, asks, session⟩ := (r.step_turn e).asks handed
  cases call with
  | send call =>
    obtain ⟨epoch, request⟩ := call
    refine .send ?_
    cases asks with
    | send valid => rfl
    | resend allowed valid =>
      have stored : (r.see .startResend).view.state.phone = r.session.state.phone := by
        simp only [see, Session.view, session]
      exact congrArg some stored
  | verify call =>
    obtain ⟨epoch, request⟩ := call
    cases asks with
    | verify step valid => exact .verify rfl

theorem step_recorded (h : Recorded history r) (e : Event) :
    Recorded (history ++ [r.see e]) (r.step e).1 := by
  have seen (call : OpenCall) : (r.step e).2.request = some call.request →
      call.StartedBy (r.see e) := startedBy_see
  have traffic := r.step_traffic e
  have view : (r.see e).effect = (r.step e).2 := rfl
  generalize r.see e = o at seen view ⊢
  generalize r.step e = t at traffic seen view ⊢
  cases traffic with
  | none silent asked calls =>
    have same : dispatches (history ++ [o]) = dispatches history :=
      dispatches_append_of_silent (by rw [view, silent])
    refine ⟨by rw [same, asked, h.count], ?_⟩
    intro number call found
    rw [same]
    exact h.started number call (calls number call found)
  | out new handed asked calls =>
    have longer : dispatches (history ++ [o]) = dispatches history ++ [o] :=
      dispatches_append_of_asked (by rw [view, handed])
    refine ⟨by rw [longer, asked, List.length_append, h.count]; rfl, ?_⟩
    intro number call found
    rw [call?, calls, List.lookup_cons] at found
    rw [longer]
    split at found
    · next same =>
      -- The call that went out just now: its number is the number of calls before it.
      obtain rfl := beq_iff_eq.mp same
      obtain rfl := Option.some.inj found
      refine ⟨o, ?_, seen new handed⟩
      rw [← h.count, List.getElem?_concat_length]
    · next different =>
      obtain ⟨start, stands, started⟩ := h.started number call found
      obtain ⟨known, -⟩ := List.getElem?_eq_some_iff.mp stands
      exact ⟨start, (List.getElem?_append_left known).trans stands, started⟩

theorem reachable_recorded (channels : List String) {events : List Event}
    (few : resets events < UInt64.size) :
    Recorded ((new channels).observe events) ((new channels).after events) :=
  observe_reachable (P := Recorded) (fun _ _ e recorded => step_recorded recorded e)
    (new_recorded channels) few

theorem Recorded.origin (h : Recorded history r) {number : Nat} {call : OpenCall}
    (found : r.call? number = some call) {o : Observation} (about : o.event.number? = some number) :
    ∃ start, o.origin history = some start ∧ call.StartedBy start ∧
      start.effect.request ≠ none := by
  obtain ⟨start, place, started⟩ := h.started number call found
  have asked := (List.mem_filter.mp (List.mem_of_getElem? place)).2
  exact ⟨start, (Observation.origin_of_number? about).trans place, started,
    Option.isSome_iff_ne_none.mp asked⟩

theorem Recorded.startedBy (h : Recorded history r) {number : Nat} {call : OpenCall}
    (found : r.call? number = some call) {o start : Observation}
    (place : o.origin history = some start) (about : o.event.number? = some number) :
    call.StartedBy start := by
  obtain ⟨first, same, started, -⟩ := h.origin found about
  obtain rfl := Option.some.inj (same.symm.trans place)
  exact started

end Run

end Passcode
