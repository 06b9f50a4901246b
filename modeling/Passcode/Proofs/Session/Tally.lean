import Passcode.Proofs.Session.Standing

/-!
Counters over whole runs. Each counter of a session is the last value that was reported for it
since it was cleared: the sends that are left are cleared by a reset and a forced restart, and the
attempts that are left by another send as well.
-/

set_option autoImplicit false

namespace Passcode

namespace Observation

def quota (o : Observation) : Quota :=
  match o.event, o.effect.outcome with
  | .answerSend _ (.ok receipt), some .sent => receipt.quota
  | _, _ => {}

/-- The attempts that are left, as reported with a code that was not accepted. -/
def attemptsLeft (o : Observation) : Option UInt32 :=
  match o.event, o.effect.outcome with
  | .answerVerify _ (.ok verdict), some (.rejected _) => verdict.attemptsLeft
  | _, _ => none

def isRejected (o : Observation) : Bool :=
  match o.effect.outcome with
  | some (.rejected _) => true
  | _ => false

def isFailed (o : Observation) : Bool :=
  match o.effect.outcome with
  | some (.failed _) => true
  | _ => false

/-- Whatever attempts are counted, they are counted for another code from now on. -/
def renews (o : Observation) : Bool :=
  o.isSent || o.discards

variable {o : Observation}

theorem quota_of_not_isSent (fresh : o.isSent = false) : o.quota = {} := by
  unfold quota
  split
  · next sent =>
    rw [isSent, sent] at fresh
    cases fresh
  · rfl

theorem attemptsLeft_of_not_isRejected (unjudged : o.isRejected = false) :
    o.attemptsLeft = none := by
  unfold attemptsLeft
  split
  · next rejected =>
    rw [isRejected, rejected] at unjudged
    cases unjudged
  · rfl

theorem discards_of_isStart (starts : o.event.isStart = true) : o.discards = false := by
  obtain ⟨e, effect, view⟩ := o
  cases e with
  | startSend phone => rfl
  | startResend => rfl
  | startVerify code => rfl
  | _ => cases starts

theorem discards_of_not_isFailed (keeps : o.event.isReset = false)
    (unfailed : o.isFailed = false) : o.discards = false := by
  unfold discards isRestart
  rw [keeps, Bool.false_or]
  split
  · next failed =>
    rw [isFailed, failed] at unfailed
    cases unfailed
  · rfl

end Observation

/-- The last value that was reported since the last observation that clears. -/
def lastReport {α : Type} (report : Observation → Option α) (clears : Observation → Bool)
    (history : List Observation) : Option α :=
  (history.reverse.takeWhile (!clears ·)).findSome? report

theorem lastReport_append {α : Type} (report : Observation → Option α)
    (clears : Observation → Bool) (history : List Observation) (o : Observation) :
    lastReport report clears (history ++ [o]) =
      if clears o then none else (report o).or (lastReport report clears history) := by
  simp only [lastReport, List.reverse_append, List.reverse_singleton, List.singleton_append,
    List.takeWhile_cons]
  cases cleared : clears o with
  | true => rfl
  | false =>
    simp only [Bool.not_false, ↓reduceIte, List.findSome?_cons, Bool.false_eq_true]
    cases report o with
    | none => rfl
    | some value => rfl

structure Tallied (history : List Observation) (s : State) : Prop where
  phone : s.quota.phone = lastReport (·.quota.phone) Observation.discards history
  ip : s.quota.ip = lastReport (·.quota.ip) Observation.discards history
  attemptsLeft : s.attemptsLeft = lastReport Observation.attemptsLeft Observation.renews history

namespace Run

variable {r : Run} {history : List Observation}

private theorem tallied_append {s t : State} {o : Observation} (h : Tallied history s)
    (quota : t.quota = if o.discards then {} else s.quota.observe o.quota)
    (attemptsLeft : t.attemptsLeft =
      if o.renews then none else o.attemptsLeft.or s.attemptsLeft) :
    Tallied (history ++ [o]) t where
  phone := by
    rw [lastReport_append, ← h.phone, quota]
    cases o.discards with
    | true => rfl
    | false => rfl
  ip := by
    rw [lastReport_append, ← h.ip, quota]
    cases o.discards with
    | true => rfl
    | false => rfl
  attemptsLeft := by rw [lastReport_append, ← h.attemptsLeft, attemptsLeft]

private theorem tallied_of_kept {s t : State} {o : Observation} (h : Tallied history s)
    (fresh : o.isSent = false) (keeps : o.discards = false)
    (unjudged : o.isRejected = false) (quota : t.quota = s.quota)
    (attemptsLeft : t.attemptsLeft = s.attemptsLeft) : Tallied (history ++ [o]) t := by
  refine tallied_append h ?_ ?_
  · rw [keeps, Observation.quota_of_not_isSent fresh, quota]
    rfl
  · rw [Observation.renews, fresh, keeps, Observation.attemptsLeft_of_not_isRejected unjudged,
      attemptsLeft]
    rfl

private theorem tallied_turn {e : Event} {effect : Effect} {session : Session} {view : View}
    (turn : Turn r e effect session) (h : Tallied history r.session.state) :
    Tallied (history ++ [⟨e, effect, view⟩]) session.state := by
  cases turn with
  | quiet keeps still outcome request state =>
    rw [state]
    refine tallied_of_kept h ?_ (Observation.discards_of_not_isFailed keeps ?_) ?_ rfl rfl
    · simp only [Observation.isSent, outcome]
    · simp only [Observation.isFailed, outcome]
    · simp only [Observation.isRejected, outcome]
  | typedPhone raw free step => exact tallied_of_kept h rfl rfl rfl rfl rfl
  | typedCode raw free => exact tallied_of_kept h rfl rfl rfl rfl rfl
  | ticks => exact tallied_of_kept h rfl rfl rfl rfl rfl
  | leaves => exact tallied_append h rfl rfl
  | ignored why starts =>
    exact tallied_of_kept h rfl (Observation.discards_of_isStart starts) rfl rfl rfl
  | stale about found =>
    refine tallied_of_kept h rfl (Observation.discards_of_not_isFailed ?_ rfl) rfl rfl rfl
    cases e with
    | reset => cases about
    | _ => rfl
  | turnedDown free turned =>
    exact tallied_of_kept h rfl (Observation.discards_of_isStart turned.isStart) rfl rfl rfl
  | asked free asks =>
    exact tallied_of_kept h rfl (Observation.discards_of_isStart asks.isStart) rfl rfl rfl
  | sent found current named => exact tallied_append h rfl rfl
  | sendFailed found current fault => exact tallied_of_kept h rfl rfl rfl rfl rfl
  | verified found current accepted => exact tallied_of_kept h rfl rfl rfl rfl rfl
  | rejected found current refused => exact tallied_append h rfl rfl
  | verifyFailed found current told stands => exact tallied_of_kept h rfl stands rfl rfl rfl
  | @restarted number call failure problem found current told burnt =>
    have discards : Observation.discards
        ⟨.answerVerify number (.error failure), { outcome := some (.failed problem) }, view⟩ =
          true := burnt
    refine tallied_append h ?_ ?_
    · rw [discards]
      rfl
    · rw [Observation.renews, discards]
      rfl

theorem step_tallied (h : Tallied history r.session.state) (e : Event) :
    Tallied (history ++ [r.see e]) (r.step e).1.session.state :=
  tallied_turn (r.step_turn e) h

theorem new_tallied (channels : List String) : Tallied [] (new channels).session.state :=
  ⟨rfl, rfl, rfl⟩

/-- The counters account for all that was reported, and nothing else changes them. -/
structure CountsReports (history : List Observation) (r : Run) : Prop where
  tallied : Tallied history r.session.state
  /-- A call that is ignored, fails or is dropped reports nothing, nor does an accepted code. -/
  quota_kept : ∀ e, (r.see e).isSent = false → (r.see e).discards = false →
    (r.step e).1.session.state.quota = r.session.state.quota
  attemptsLeft_kept : ∀ e, (r.see e).isRejected = false → (r.see e).renews = false →
    (r.step e).1.session.state.attemptsLeft = r.session.state.attemptsLeft

theorem countsReports_of_tallied (h : Tallied history r.session.state) :
    CountsReports history r where
  tallied := h
  quota_kept e fresh keeps := by
    have later := step_tallied h e
    have phone := later.phone
    have ip := later.ip
    rw [lastReport_append, keeps, Observation.quota_of_not_isSent fresh, ← h.phone] at phone
    rw [lastReport_append, keeps, Observation.quota_of_not_isSent fresh, ← h.ip] at ip
    generalize (r.step e).1.session.state.quota = q at phone ip ⊢
    obtain ⟨p, i⟩ := q
    obtain rfl : p = _ := phone
    obtain rfl : i = _ := ip
    rfl
  attemptsLeft_kept e unjudged keeps := by
    have later := (step_tallied h e).attemptsLeft
    rw [lastReport_append, keeps, Observation.attemptsLeft_of_not_isRejected unjudged,
      ← h.attemptsLeft] at later
    exact later

/-- The counters of every session that is reached without its epochs wrapping around. -/
theorem counts_reports_of_few_resets (channels : List String) (events : List Event)
    (few : resets events < UInt64.size) :
    CountsReports ((new channels).observe events) ((new channels).after events) := by
  refine countsReports_of_tallied ?_
  exact observe_reachable (P := fun history r => Tallied history r.session.state)
    (fun _ _ e tallied => step_tallied tallied e) (new_tallied channels) few

/-- The second send reports that none is left for the phone number, and nothing for the address. The
attempts that were left of the first code no longer count, nor does the number that comes with the
code that is accepted or with the answer to a call of before the reset. -/
theorem counts_reports_with_zero_left :
    let first : SendReceipt := ⟨"sms", "R1", 200, "09****5678", ⟨some 4, some 19⟩⟩
    let second : SendReceipt := ⟨"sms", "R2", 300, "09****5678", ⟨some 0, none⟩⟩
    let events : List Event := [.startSend "0912345678", .reset, .startSend "0912345678",
      .answerSend 1 (.ok first), .startVerify "123456", .answerVerify 2 (.ok ⟨false, "", some 3⟩),
      .startResend, .answerSend 0 (.ok ⟨"sms", "R0", 300, "09****5678", ⟨some 9, some 9⟩⟩),
      .answerSend 3 (.ok second), .startVerify "123456", .answerVerify 4 (.ok ⟨true, "", some 7⟩)]
    resets events < UInt64.size ∧
      ((new []).after events).session.state.quota = ⟨some 0, some 19⟩ ∧
      ((new []).after events).session.state.attemptsLeft = none ∧
      CountsReports ((new []).observe events) ((new []).after events) :=
  ⟨by decide, by decide, by decide, counts_reports_of_few_resets [] _ (by decide)⟩

end Run

end Passcode
