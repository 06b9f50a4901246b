import Passcode.Proofs.Session.Standing

/-!
The countdown over whole runs. It holds what is left of the validity of the code that was sent last,
and it decides alone when a code may be sent again to a session that is not busy.
-/

set_option autoImplicit false

namespace Passcode

theorem State.resendAllowed_iff (s : State) : s.resendAllowed = true ↔ s.ttl.toNat ≤ 240 := by
  rw [State.resendAllowed, decide_eq_true_eq, UInt32.le_iff_toNat_le]
  rfl

theorem State.resendAllowed_eq_false_iff (s : State) :
    s.resendAllowed = false ↔ 240 < s.ttl.toNat := by
  rw [← Bool.not_eq_true, s.resendAllowed_iff, Nat.not_le]

theorem State.resendAvailableIn_toNat (s : State) :
    s.resendAvailableIn.toNat = s.ttl.toNat - 240 := by
  unfold State.resendAvailableIn
  split
  · next allowed =>
    have low : s.ttl.toNat ≤ 240 := UInt32.le_iff_toNat_le.mp allowed
    exact (Nat.sub_eq_zero_of_le low).symm
  · next cooling =>
    have threshold : Countdown.resendThreshold ≤ s.ttl := by
      rw [UInt32.le_iff_toNat_le] at cooling ⊢
      omega
    exact UInt32.toNat_sub_of_le _ _ threshold

namespace Run

variable {r : Run}

theorem after_ticks (r : Run) (j : Nat) :
    (r.after (List.replicate j .tick)).session.pending = r.session.pending ∧
      (r.after (List.replicate j .tick)).session.state.ttl.toNat =
        r.session.state.ttl.toNat - j := by
  induction j generalizing r with
  | zero => exact ⟨rfl, rfl⟩
  | succ j ih =>
    obtain ⟨pending, ttl⟩ := ih (r.step .tick).1
    have second : (r.step .tick).1.session.state.ttl.toNat = r.session.state.ttl.toNat - 1 :=
      r.session.state.tick_ttl
    rw [List.replicate_succ, after_cons]
    refine ⟨pending, ?_⟩
    rw [ttl, second]
    omega

theorem step_startResend_outcome (r : Run) :
    (r.session.busy = true ∧ (r.step .startResend).2.outcome = some (.ignored .busy)) ∨
    (r.session.busy = false ∧ r.session.state.resendAllowed = false ∧
      (r.step .startResend).2.outcome = some (.ignored .coolingDown)) ∨
    (r.session.busy = false ∧ r.session.state.resendAllowed = true ∧
      ∀ why, (r.step .startResend).2.outcome ≠ some (.ignored why)) := by
  rcases r.session.startResend_cases with
    ⟨held, busy⟩ | ⟨free, cooling, ignored⟩ | ⟨free, allowed, started⟩
  · rw [step, busy]
    exact Or.inl ⟨held, rfl⟩
  · rw [step, ignored]
    exact Or.inr (Or.inl ⟨free, cooling, rfl⟩)
  · refine Or.inr (Or.inr ⟨free, allowed, ?_⟩)
    intro why
    rw [step, started]
    rcases (r.session.withCode "").requestCode_cases r.session.state.phone with
      ⟨-, asked⟩ | ⟨-, refused⟩
    · rw [asked]
      exact fun same => by cases same
    · rw [refused]
      exact fun same => by cases same

theorem step_startResend_coolingDown_iff (r : Run) :
    (r.step .startResend).2.outcome = some (.ignored .coolingDown) ↔
      r.session.busy = false ∧ r.session.state.resendAllowed = false := by
  rcases r.step_startResend_outcome with
    ⟨held, busy⟩ | ⟨free, cooling, ignored⟩ | ⟨_, allowed, went⟩
  · simp only [busy, held, Option.some.injEq, Outcome.ignored.injEq, reduceCtorEq, false_and]
  · simp only [ignored, free, cooling, and_self]
  · simp only [went, allowed, reduceCtorEq, and_false]

theorem resendAllowed_iff_not_turned_away (r : Run) :
    r.session.resendAllowed = true ↔
      (r.step .startResend).2.outcome ≠ some (.ignored .busy) ∧
        (r.step .startResend).2.outcome ≠ some (.ignored .coolingDown) := by
  rw [Session.resendAllowed, Bool.and_eq_true, Bool.not_eq_true']
  rcases r.step_startResend_outcome with
    ⟨held, busy⟩ | ⟨_, cooling, ignored⟩ | ⟨free, allowed, went⟩
  · simp only [busy, held, reduceCtorEq, false_and, ne_eq, not_true_eq_false]
  · simp only [ignored, cooling, reduceCtorEq, and_false, ne_eq, not_true_eq_false]
  · simp only [free, allowed, ne_eq, went, not_false_eq_true, and_self]

private theorem ttl_of_turn {e : Event} {effect : Effect} {session : Session} {view : View}
    (turn : Turn r e effect session) (still : e.isTick = false)
    (fresh : Observation.isSent ⟨e, effect, view⟩ = false)
    (keeps : Observation.discards ⟨e, effect, view⟩ = false) :
    session.state.ttl = r.session.state.ttl := by
  cases turn with
  | quiet _ _ _ _ state => rw [state]
  | ticks => cases still
  | leaves => cases keeps
  | sent => cases fresh
  | restarted _ _ _ burnt =>
    have stands : Problem.forcesRestart _ = false := keeps
    rw [burnt] at stands
    cases stands
  | _ => rfl

/-- The countdown accounts for the code that was sent last, and tells when another may be sent. -/
structure CountsDown (history : List Observation) (r : Run) : Prop where
  /-- What is left of the validity of the code that stands, and nothing where there is none. -/
  left : (∃ phone receipt since, Standing history phone receipt since ∧
      r.session.state.ttl.toNat = receipt.ttl.toNat - elapsed since) ∨
    (Unsent history ∧ r.session.state.ttl = 0)
  undisturbed : ∀ e, e.isTick = false → (r.see e).isSent = false → (r.see e).discards = false →
    (r.step e).1.session.state.ttl = r.session.state.ttl
  cooldown : r.session.busy = false → ∀ j,
    (((r.after (List.replicate j .tick)).step .startResend).2.outcome =
      some (.ignored .coolingDown) ↔ j < r.session.state.resendAvailableIn.toNat)
  shown : r.session.view.resendAllowed = r.session.resendAllowed
  allowed : r.session.resendAllowed = true ↔
    (r.step .startResend).2.outcome ≠ some (.ignored .busy) ∧
      (r.step .startResend).2.outcome ≠ some (.ignored .coolingDown)
  held : r.session.busy = true → r.session.resendAllowed = false

theorem countsDown_of_follows {history : List Observation}
    (h : Follows history r.session.state) : CountsDown history r where
  left := by
    cases h with
    | @standing receipt since _ standing _ ttl =>
      exact Or.inl ⟨r.session.state.phone, receipt, since, standing, ttl⟩
    | unsent _ unsent ended => exact Or.inr ⟨unsent, ended⟩
  undisturbed e still fresh keeps := ttl_of_turn (r.step_turn e) still fresh keeps
  cooldown free j := by
    obtain ⟨pending, ttl⟩ := r.after_ticks j
    have idle : (r.after (List.replicate j .tick)).session.busy = false := by
      rw [Session.busy, pending]
      exact free
    rw [step_startResend_coolingDown_iff, State.resendAllowed_eq_false_iff, ttl,
      State.resendAvailableIn_toNat]
    simp only [idle, true_and]
    omega
  shown := rfl
  allowed := r.resendAllowed_iff_not_turned_away
  held taken := by rw [Session.resendAllowed, taken]; rfl

/-- The countdown of every session that is reached without its epochs wrapping around. -/
theorem counts_down_of_few_resets (channels : List String) (events : List Event)
    (few : resets events < UInt64.size) :
    CountsDown ((new channels).observe events) ((new channels).after events) :=
  countsDown_of_follows (reachable_follows channels few)

/-- One second has passed since the second send. The late answer to the first, which a reset has
superseded, and a verification that fails do not count. -/
theorem counts_down_with_failed_verification :
    let receipt : SendReceipt := ⟨"sms", "R1", 243, "09****5678", {}⟩
    let events : List Event := [.startSend "0912345678", .reset, .startSend "0912345678",
      .answerSend 1 (.ok receipt), .tick, .startVerify "123456", .answerSend 0 (.ok receipt),
      .answerVerify 2 (.error (.network ""))]
    resets events < UInt64.size ∧ ((new []).after events).session.busy = false ∧
      ((new []).after events).session.state.ttl = 242 ∧
      ((new []).after events).session.state.resendAvailableIn = 2 ∧
      CountsDown ((new []).observe events) ((new []).after events) :=
  ⟨by decide, by decide, by decide, by decide, counts_down_of_few_resets [] _ (by decide)⟩

end Run

end Passcode
