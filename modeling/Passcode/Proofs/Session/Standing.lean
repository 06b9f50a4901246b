import Passcode.Proofs.Session.Sound
import Passcode.Proofs.Session.Trace

/-!
What a code would confirm. A send that succeeded stands until another one succeeds, a verification
learns that the request is used up, or the session is reset. The phone number, the request and the
countdown that a session knows are those of the send that stands, and so are the number and the
request of every verification.
-/

set_option autoImplicit false

namespace Passcode

namespace Observation

def isSent (o : Observation) : Bool :=
  match o.effect.outcome with
  | some .sent => true
  | _ => false

def isRestart (o : Observation) : Bool :=
  match o.event, o.effect.outcome with
  | .answerVerify _ _, some (.failed problem) => problem.forcesRestart
  | _, _ => false

/-- What was sent before is forgotten. -/
def discards (o : Observation) : Bool :=
  o.event.isReset || o.isRestart

end Observation

def elapsed (history : List Observation) : Nat :=
  history.countP (·.event.isTick)

/-- `receipt` came for the last send that succeeded, which had submitted `phone`; whatever came
`since` has left it standing. -/
structure Standing (history : List Observation) (phone : String) (receipt : SendReceipt)
    (since : List Observation) : Prop where
  came : ∃ before o number start, history = before ++ o :: since ∧
    o.event = .answerSend number (.ok receipt) ∧ o.effect.outcome = some .sent ∧
    o.origin before = some start ∧ start.submitted = some phone
  stands : ∀ o ∈ since, o.isSent = false ∧ o.discards = false

def Unsent (history : List Observation) : Prop :=
  ∀ before o since, history = before ++ o :: since → o.isSent = true →
    ∃ later ∈ since, later.discards = true

/-! ### One more observation -/

section

variable {history : List Observation} {o : Observation}

theorem Standing.later {phone : String} {receipt : SendReceipt} {since : List Observation}
    (h : Standing history phone receipt since) (fresh : o.isSent = false)
    (keeps : o.discards = false) : Standing (history ++ [o]) phone receipt (since ++ [o]) := by
  obtain ⟨before, sent, number, start, split, came⟩ := h.came
  constructor
  · refine ⟨before, sent, number, start, ?_, came⟩
    rw [split, List.append_assoc, List.cons_append]
  · intro later mem
    rcases List.mem_append.mp mem with mem | mem
    · exact h.stands later mem
    · rw [List.mem_singleton.mp mem]
      exact ⟨fresh, keeps⟩

theorem unsent_nil : Unsent [] := by
  intro before o since split
  cases before with
  | nil => cases split
  | cons first before => cases split

private theorem split_append {before since : List Observation} {sent : Observation}
    (split : history ++ [o] = before ++ sent :: since) :
    sent = o ∨ ∃ earlier, since = earlier ++ [o] ∧ history = before ++ sent :: earlier := by
  rcases List.eq_nil_or_concat since with rfl | ⟨earlier, last, rfl⟩
  · obtain ⟨-, same⟩ := List.append_inj' split rfl
    exact Or.inl (List.singleton_inj.mp same).symm
  · rw [List.concat_eq_append, ← List.cons_append, ← List.append_assoc] at split
    obtain ⟨rest, same⟩ := List.append_inj' split rfl
    rw [List.singleton_inj.mp same, List.concat_eq_append]
    exact Or.inr ⟨earlier, rfl, rest⟩

theorem Unsent.later (h : Unsent history) (fresh : o.isSent = false) : Unsent (history ++ [o]) := by
  intro before sent since split isSent
  rcases split_append split with rfl | ⟨earlier, rfl, rest⟩
  · rw [isSent] at fresh
    cases fresh
  · obtain ⟨later, mem, discards⟩ := h before sent earlier rest isSent
    exact ⟨later, List.mem_append_left _ mem, discards⟩

theorem unsent_of_discards (fresh : o.isSent = false) (discards : o.discards = true) :
    Unsent (history ++ [o]) := by
  intro before sent since split isSent
  rcases split_append split with rfl | ⟨earlier, rfl, -⟩
  · rw [isSent] at fresh
    cases fresh
  · exact ⟨o, List.mem_append_right _ List.mem_cons_self, discards⟩

theorem elapsed_append (history : List Observation) (o : Observation) :
    elapsed (history ++ [o]) = elapsed history + elapsed [o] :=
  List.countP_append

end

/-! ### The state and the send that stands -/

inductive Follows (history : List Observation) (s : State) : Prop
  | standing {receipt : SendReceipt} {since : List Observation} (step : s.step = .awaitingCode)
      (standing : Standing history s.phone receipt since)
      (requestId : s.requestId = receipt.requestId)
      (ttl : s.ttl.toNat = receipt.ttl.toNat - elapsed since)
  | unsent (step : s.step = .awaitingPhone) (unsent : Unsent history) (ttl : s.ttl = 0)

theorem State.tick_ttl (s : State) : s.tick.ttl.toNat = s.ttl.toNat - 1 := by
  simp only [State.tick]
  split
  · next ended =>
    rw [ended]
    rfl
  · next running =>
    have positive : s.ttl.toNat ≠ 0 := fun zero => running (UInt32.toNat_inj.mp zero)
    have one : (1 : UInt32) ≤ s.ttl :=
      UInt32.le_iff_toNat_le.mpr (Nat.one_le_iff_ne_zero.mpr positive)
    rw [UInt32.toNat_sub_of_le _ _ one]
    rfl

namespace Run

variable {r : Run} {history : List Observation}

private theorem follows_of_kept {s t : State} {o : Observation} (h : Follows history s)
    (fresh : o.isSent = false) (keeps : o.discards = false) (step : t.step = s.step)
    (phone : s.step = .awaitingCode → t.phone = s.phone) (requestId : t.requestId = s.requestId)
    (ttl : t.ttl.toNat = s.ttl.toNat - elapsed [o]) : Follows (history ++ [o]) t := by
  cases h with
  | standing late standing request left =>
    have longer := standing.later fresh keeps
    rw [← phone late] at longer
    refine .standing (step.trans late) longer (requestId.trans request) ?_
    rw [ttl, left, elapsed_append]
    omega
  | unsent early unsent ended =>
    refine .unsent (step.trans early) (unsent.later fresh) ?_
    rw [ended] at ttl
    exact UInt32.toNat_inj.mp (ttl.trans (Nat.zero_sub _))

private theorem follows_of_isStart {s t : State} {e : Event} {effect : Effect} {view : View}
    (h : Follows history s) (starts : e.isStart = true) (fresh : effect.outcome ≠ some .sent)
    (step : t.step = s.step) (phone : t.phone = s.phone) (requestId : t.requestId = s.requestId)
    (ttl : t.ttl = s.ttl) : Follows (history ++ [⟨e, effect, view⟩]) t := by
  have unsent : Observation.isSent ⟨e, effect, view⟩ = false := by
    unfold Observation.isSent
    split
    · next sent => exact absurd sent fresh
    · rfl
  have kept : Observation.discards ⟨e, effect, view⟩ = false ∧ elapsed [⟨e, effect, view⟩] = 0 := by
    cases e with
    | startSend given => exact ⟨rfl, rfl⟩
    | startResend => exact ⟨rfl, rfl⟩
    | startVerify code => exact ⟨rfl, rfl⟩
    | _ => cases starts
  refine follows_of_kept h unsent kept.1 step (fun _ => phone) requestId ?_
  rw [ttl, kept.2, Nat.sub_zero]

private theorem follows_turn {e : Event} {effect : Effect} {session : Session} {view : View}
    (turn : Turn r e effect session) (recorded : Recorded history r)
    (h : Follows history r.session.state) :
    Follows (history ++ [⟨e, effect, view⟩]) session.state := by
  cases turn with
  | quiet keeps still outcome request state =>
    rw [state]
    refine follows_of_kept h ?_ ?_ rfl (fun _ => rfl) rfl ?_
    · simp only [Observation.isSent, outcome]
    · simp only [Observation.discards, Observation.isRestart, keeps, outcome, Bool.or_self]
    · simp only [elapsed, List.countP_singleton, still, Bool.false_eq_true, ↓reduceIte,
        Nat.sub_zero]
  | typedPhone raw free step =>
    -- A phone number is only typed on the phone step, where no send stands.
    refine follows_of_kept h rfl rfl rfl ?_ rfl rfl
    intro late
    rw [step] at late
    cases late
  | typedCode raw free => exact follows_of_kept h rfl rfl rfl (fun _ => rfl) rfl rfl
  | ticks => exact follows_of_kept h rfl rfl rfl (fun _ => rfl) rfl r.session.state.tick_ttl
  | leaves => exact .unsent rfl (unsent_of_discards rfl rfl) rfl
  | ignored why starts =>
    exact follows_of_isStart h starts (fun sent => by cases sent) rfl rfl rfl rfl
  | stale about found =>
    cases e with
    | answerSend number answer => exact follows_of_kept h rfl rfl rfl (fun _ => rfl) rfl rfl
    | answerVerify number answer => exact follows_of_kept h rfl rfl rfl (fun _ => rfl) rfl rfl
    | abandon number => exact follows_of_kept h rfl rfl rfl (fun _ => rfl) rfl rfl
    | _ => cases about
  | turnedDown free turned =>
    exact follows_of_isStart h turned.isStart (fun sent => by cases sent) rfl rfl rfl rfl
  | asked free asks =>
    exact follows_of_isStart h asks.isStart (fun sent => by cases sent) rfl rfl rfl rfl
  | @sent number call receipt found current named =>
    -- The phone number of the call is the one its start submitted, however long ago that was.
    let last : Observation := ⟨.answerSend number (.ok receipt), { outcome := some .sent }, view⟩
    obtain ⟨start, place, started, -⟩ := recorded.origin found (o := last) rfl
    have came : Standing (history ++ [last]) call.request.phone receipt [] :=
      ⟨⟨history, last, number, start, rfl, rfl, rfl, place, started.submitted_of_send⟩,
        fun later mem => absurd mem List.not_mem_nil⟩
    exact .standing rfl came rfl rfl
  | sendFailed found current fault => exact follows_of_kept h rfl rfl rfl (fun _ => rfl) rfl rfl
  | verified found current accepted => exact follows_of_kept h rfl rfl rfl (fun _ => rfl) rfl rfl
  | rejected found current refused => exact follows_of_kept h rfl rfl rfl (fun _ => rfl) rfl rfl
  | verifyFailed found current told stands =>
    exact follows_of_kept h rfl stands rfl (fun _ => rfl) rfl rfl
  | restarted found current told burnt => exact .unsent rfl (unsent_of_discards rfl burnt) rfl

theorem step_follows (recorded : Recorded history r) (h : Follows history r.session.state)
    (e : Event) : Follows (history ++ [r.see e]) (r.step e).1.session.state :=
  follows_turn (r.step_turn e) recorded h

theorem new_follows (channels : List String) : Follows [] (new channels).session.state :=
  .unsent rfl unsent_nil rfl

theorem reachable_follows (channels : List String) {events : List Event}
    (few : resets events < UInt64.size) :
    Follows ((new channels).observe events) ((new channels).after events).session.state := by
  have both : Recorded ((new channels).observe events) ((new channels).after events) ∧
      Follows ((new channels).observe events) ((new channels).after events).session.state := by
    -- The record of the calls is carried along, since a send is traced back to its start.
    refine observe_reachable
      (P := fun history r => Recorded history r ∧ Follows history r.session.state) ?_
      ⟨new_recorded channels, new_follows channels⟩ few
    intro history r e holds
    exact ⟨step_recorded holds.1 e, step_follows holds.1 holds.2 e⟩
  exact both.2

/-! ### Requests -/

/-- Whatever is handed to the service next is well formed, and a code is submitted for the number
and the request of the send that stands. -/
structure AsksFitly (channels : List String) (history : List Observation) (r : Run) : Prop where
  send : ∀ e request, (r.step e).2.request = some (.send request) →
    Phone.isValid request.phone = true ∧ request.channels = channels ∧
      (e = .startSend request.phone ∨ e = .startResend ∧ request.phone = r.session.state.phone)
  verify : ∀ e request, (r.step e).2.request = some (.verify request) →
    e = .startVerify request.code ∧
      (request.code.toList.length = 6 ∧ ∀ c ∈ request.code.toList, c.isDigit = true) ∧
      request.requestId ≠ "" ∧
      ∃ phone receipt since, Standing history phone receipt since ∧
        request.phone = phone ∧ request.requestId = receipt.requestId
  /-- The answer to a call and its loss hand over nothing, so a call asks at most once. -/
  once : ∀ e, (r.step e).2.request ≠ none → e.isStart = true

theorem asksFitly_of_follows {channels : List String} (same : r.session.channels = channels)
    (sound : r.session.Sound) (h : Follows history r.session.state) :
    r.AsksFitly channels history := by
  constructor
  · intro e request handed
    obtain ⟨-, code, asks, -⟩ := (r.step_turn e).asks handed
    cases asks with
    | send valid => exact ⟨valid, same, Or.inl rfl⟩
    | resend allowed valid => exact ⟨valid, same, Or.inr ⟨rfl, rfl⟩⟩
  · intro e request handed
    obtain ⟨-, code, asks, -⟩ := (r.step_turn e).asks handed
    cases asks with
    | verify step valid =>
      refine ⟨rfl, Code.isValid_iff.mp valid, sound.requested.mp step, ?_⟩
      cases h with
      | @standing receipt since _ standing requestId _ =>
        exact ⟨r.session.state.phone, receipt, since, standing, rfl, requestId⟩
      | unsent early _ _ =>
        rw [early] at step
        cases step
  · intro e handed
    obtain ⟨request, asked⟩ := Option.ne_none_iff_exists'.mp handed
    exact isStart_of_asked asked

/-- In every run, each request is well formed and bound to one send. -/
theorem requests_fit_of_few_resets (channels : List String) (events : List Event)
    (few : resets events < UInt64.size) :
    ((new channels).after events).AsksFitly channels ((new channels).observe events) := by
  refine asksFitly_of_follows ?_ (reachable_sound channels few).session
    (reachable_follows channels few)
  rw [after_channels]
  rfl

theorem requests_fit_with_late_answer :
    let old : SendReceipt := ⟨"sms", "R1", 300, "09****5678", {}⟩
    let new : SendReceipt := ⟨"sms", "R2", 300, "03****4321", {}⟩
    let events : List Event := [.startSend "0912345678", .reset, .startSend "0387654321",
      .answerSend 1 (.ok new), .answerSend 0 (.ok old), .typePhone "0912345678", .tick]
    resets events < UInt64.size ∧
      (((Run.new ["sms"]).after events).step (.startVerify "123456")).2.request =
        some (.verify ⟨"0387654321", "123456", "R2"⟩) ∧
      ((Run.new ["sms"]).after events).AsksFitly ["sms"] ((Run.new ["sms"]).observe events) :=
  ⟨by decide, by decide, requests_fit_of_few_resets ["sms"] _ (by decide)⟩

end Run

end Passcode
