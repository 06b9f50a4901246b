import Passcode.Proofs.Session.History

/-!
The slot of a session. An outstanding call remembers the epoch it went out in. At most one call is
of the current epoch, the session is busy exactly while there is one, and calls of older epochs
cannot touch it any more.
-/

set_option autoImplicit false

namespace Passcode.Run

variable {r : Run} {number : Nat}

/-- The outstanding calls of the current epoch. -/
def live (r : Run) : List (Nat × OpenCall) :=
  r.calls.filter (·.2.epoch == r.session.epoch)

theorem mem_live {c : Nat × OpenCall} :
    c ∈ r.live ↔ c ∈ r.calls ∧ c.2.epoch = r.session.epoch := by
  simp only [live, List.mem_filter, beq_iff_eq]

structure Fenced (r : Run) : Prop where
  numbered : ∀ c ∈ r.calls, c.1 < r.asked
  distinct : r.calls.Pairwise (·.1 ≠ ·.1)
  /-- No call is from an epoch yet to come. -/
  past : ∀ c ∈ r.calls, c.2.epoch.toNat ≤ r.session.epoch.toNat
  slot : (r.session.pending = none ∧ r.live = []) ∨
    ∃ c, r.session.pending = some r.session.epoch ∧ r.live = [c]
  /-- While a verification is outstanding, its request stays the current one. -/
  bound : ∀ c ∈ r.live, c.2.BoundTo r.session.state.requestId

namespace Fenced

theorem call?_of_mem (h : r.Fenced) {call : OpenCall} (mem : (number, call) ∈ r.calls) :
    r.call? number = some call := by
  obtain ⟨before, after, split⟩ := List.append_of_mem mem
  refine List.lookup_eq_some_iff.mpr ⟨before, after, split, ?_⟩
  intro c earlier
  have distinct := h.distinct
  rw [split, List.pairwise_append] at distinct
  exact bne_iff_ne.mpr (distinct.2.2 c earlier (number, call) List.mem_cons_self).symm

theorem held (h : r.Fenced) {call : OpenCall} (found : r.call? number = some call)
    (current : call.epoch = r.session.epoch) :
    r.session.pending = some r.session.epoch ∧ r.live = [(number, call)] := by
  have mem : (number, call) ∈ r.live := mem_live.mpr ⟨mem_of_call? found, current⟩
  rcases h.slot with ⟨-, nothing⟩ | ⟨c, pending, one⟩
  · rw [nothing] at mem
    exact absurd mem List.not_mem_nil
  · rw [one] at mem
    rw [List.mem_singleton.mp mem]
    exact ⟨pending, one⟩

theorem bound_verify (h : r.Fenced) {call : Call VerifyRequest}
    (found : r.call? number = some (.verify call)) (current : call.epoch = r.session.epoch) :
    call.request.requestId = r.session.state.requestId :=
  h.bound (number, .verify call) (mem_live.mpr ⟨mem_of_call? found, current⟩)

end Fenced

theorem new_fenced (channels : List String) : (new channels).Fenced where
  numbered _ mem := absurd mem List.not_mem_nil
  distinct := .nil
  past _ mem := absurd mem List.not_mem_nil
  slot := .inl ⟨rfl, rfl⟩
  bound _ mem := absurd mem List.not_mem_nil

/-! ### One event -/

private theorem live_settled {session : Session} (epoch : session.epoch = r.session.epoch) :
    (r.settled number session).live = r.live.filter (·.1 != number) := by
  simp only [live, settled, epoch, List.filter_filter, Bool.and_comm]

private theorem fenced_goesOut (h : r.Fenced) {t : Run} {call : OpenCall}
    (calls : t.calls = (r.asked, call) :: r.calls) (asked : t.asked = r.asked + 1)
    (free : r.session.pending = none) (pending : t.session.pending = some r.session.epoch)
    (epoch : t.session.epoch = r.session.epoch)
    (requestId : t.session.state.requestId = r.session.state.requestId)
    (fresh : call.epoch = r.session.epoch) (bound : call.BoundTo r.session.state.requestId) :
    t.Fenced := by
  have nothing : r.live = [] := by
    rcases h.slot with ⟨-, nothing⟩ | ⟨c, taken, -⟩
    · exact nothing
    · rw [free] at taken
      cases taken
  have one : t.live = [(r.asked, call)] := by
    rw [live] at nothing ⊢
    rw [calls, epoch, List.filter_cons_of_pos (by simp only [fresh, beq_self_eq_true]), nothing]
  constructor
  · intro c mem
    rw [calls] at mem
    rw [asked]
    rcases List.mem_cons.mp mem with rfl | mem
    · exact Nat.lt_succ_self r.asked
    · exact Nat.lt_succ_of_lt (h.numbered c mem)
  · rw [calls]
    refine List.pairwise_cons.mpr ⟨?_, h.distinct⟩
    intro c mem
    exact (Nat.ne_of_lt (h.numbered c mem)).symm
  · intro c mem
    rw [calls] at mem
    rw [epoch]
    rcases List.mem_cons.mp mem with rfl | mem
    · exact Nat.le_of_eq (congrArg UInt64.toNat fresh)
    · exact h.past c mem
  · exact Or.inr ⟨(r.asked, call), by rw [pending, epoch], one⟩
  · intro c mem
    rw [one, List.mem_singleton] at mem
    rw [mem, requestId]
    exact bound

private theorem fenced_settles (h : r.Fenced) {call : OpenCall} {session : Session}
    (found : r.call? number = some call) (epoch : session.epoch = r.session.epoch)
    (stale : call.epoch ≠ r.session.epoch → session = r.session)
    (current : call.epoch = r.session.epoch → call.BoundTo r.session.state.requestId →
      r.session.pending = some r.session.epoch → session.pending = none) :
    (r.settled number session).Fenced := by
  have kept : ∀ c ∈ (r.settled number session).calls, c ∈ r.calls :=
    fun c mem => (List.mem_filter.mp mem).1
  by_cases same : call.epoch = r.session.epoch
  · obtain ⟨pending, one⟩ := h.held found same
    have mem : (number, call) ∈ r.live := by rw [one]; exact List.mem_cons_self
    have nothing : (r.settled number session).live = [] := by
      rw [live_settled epoch, one]
      simp only [List.filter_cons, bne_self_eq_false, Bool.false_eq_true, ↓reduceIte,
        List.filter_nil]
    refine ⟨fun c mem => h.numbered c (kept c mem), h.distinct.filter _, ?_, ?_, ?_⟩
    · intro c mem
      exact Nat.le_trans (h.past c (kept c mem)) (Nat.le_of_eq (congrArg UInt64.toNat epoch.symm))
    · exact Or.inl ⟨current same (h.bound _ mem) pending, nothing⟩
    · intro c mem
      rw [nothing] at mem
      exact absurd mem List.not_mem_nil
  · have unchanged := stale same
    subst unchanged
    have others : (r.settled number r.session).live = r.live := by
      rw [live_settled rfl, List.filter_eq_self]
      intro c mem
      obtain ⟨mem, fresh⟩ := mem_live.mp mem
      rw [bne_iff_ne]
      intro clash
      have twice := h.call?_of_mem mem
      rw [clash, found] at twice
      exact same (by rw [Option.some.inj twice]; exact fresh)
    refine ⟨fun c mem => h.numbered c (kept c mem), h.distinct.filter _,
      fun c mem => h.past c (kept c mem), ?_, ?_⟩
    · rw [others]
      exact h.slot
    · rw [others]
      exact h.bound

private theorem fenced_leaves (h : r.Fenced)
    (room : r.session.epoch.toNat + resets [.reset] < UInt64.size) :
    Fenced { r with session := r.session.reset } := by
  have next : r.session.reset.epoch.toNat = r.session.epoch.toNat + 1 :=
    step_epoch_toNat (r := r) (e := .reset) room
  have nothing : live { r with session := r.session.reset } = [] := by
    rw [live, List.filter_eq_nil_iff]
    intro c mem
    rw [beq_iff_eq]
    intro fresh
    have past := h.past c mem
    rw [fresh, next] at past
    omega
  refine ⟨h.numbered, h.distinct, ?_, Or.inl ⟨rfl, nothing⟩, ?_⟩
  · intro c mem
    have past := h.past c mem
    rw [next]
    omega
  · intro c mem
    rw [nothing] at mem
    exact absurd mem List.not_mem_nil

theorem step_fenced (h : r.Fenced) {e : Event}
    (room : r.session.epoch.toNat + resets [e] < UInt64.size) : (r.step e).1.Fenced := by
  have passage := r.step_passage e
  generalize (r.step e).1 = t at passage ⊢
  -- Only a reset reaches another epoch, and there is room for it.
  cases passage with
  | stays _ calls asked pending epoch _ requestId =>
    have same : t.live = r.live := by rw [live, live, calls, epoch]
    constructor
    · rw [calls, asked]
      exact h.numbered
    · rw [calls]
      exact h.distinct
    · rw [calls, epoch]
      exact h.past
    · rw [pending, epoch, same]
      exact h.slot
    · rw [same, requestId]
      exact h.bound
  | goesOut call _ calls asked free pending epoch _ requestId fresh bound =>
    exact fenced_goesOut h calls asked free pending epoch requestId fresh bound
  | settles number call session _ found epoch _ stale current =>
    exact fenced_settles h found epoch stale current
  | leaves => exact fenced_leaves h room

theorem after_fenced (h : r.Fenced) (events : List Event)
    (few : r.session.epoch.toNat + resets events < UInt64.size) : (r.after events).Fenced :=
  after_preserves (fun _ _ fenced room => step_fenced fenced room) events h few

theorem reachable_fenced (channels : List String) {events : List Event}
    (few : resets events < UInt64.size) : ((new channels).after events).Fenced := by
  refine after_fenced (new_fenced channels) events ?_
  rw [show (new channels).session.epoch.toNat = 0 from rfl, Nat.zero_add]
  exact few

/-! ### The slot is exact -/

/-- At most one call is live, the session is busy exactly while one is, and nothing but the end of
that call or a reset frees the slot. -/
structure Exclusive (r : Run) : Prop where
  one : r.live.length ≤ 1
  busy_iff : r.session.busy = true ↔ r.live.length = 1
  /-- A live verification still stands for the current request, so its answer always counts. -/
  counts : ∀ number call, r.call? number = some (.verify call) →
    call.epoch = r.session.epoch →
      call.request.requestId = r.session.state.requestId ∧
        ∀ answer, (r.step (.answerVerify number answer)).2.outcome ≠ some (.ignored .stale)
  frees : ∀ number call e, r.call? number = some call → e.Settles number call →
    call.epoch = r.session.epoch → (r.step e).1.session.pending = none
  older : ∀ number call e, r.call? number = some call → e.Settles number call →
    call.epoch ≠ r.session.epoch →
      call.epoch < r.session.epoch ∧ (r.step e).1.session = r.session

private theorem settles_frees (h : r.Fenced) {call : OpenCall} {e : Event}
    (found : r.call? number = some call) (settled : e.Settles number call)
    (current : call.epoch = r.session.epoch) : (r.step e).1.session.pending = none := by
  cases settled with
  | answerSend call answer =>
    rw [step_answerSend found]
    exact Session.finishSend_pending current answer
  | answerVerify call answer =>
    rw [step_answerVerify found]
    exact Session.finishVerify_pending current (h.bound_verify found current) answer
  | abandon call =>
    rw [step_abandon found, current, Session.abandon_of_held (h.held found current).1]
    rfl

theorem step_session_of_stale {call : OpenCall} {e : Event} (found : r.call? number = some call)
    (settled : e.Settles number call) (stale : call.epoch ≠ r.session.epoch) :
    (r.step e).1.session = r.session := by
  cases settled with
  | answerSend call answer =>
    rw [step_answerSend found, Session.finishSend_of_stale stale]
    rfl
  | answerVerify call answer =>
    rw [step_answerVerify found, Session.finishVerify_of_stale stale]
    rfl
  | abandon call =>
    rw [step_abandon found, Session.abandon_of_stale stale]
    rfl

theorem exclusive_of_few_resets (channels : List String) (events : List Event)
    (few : resets events < UInt64.size) : ((new channels).after events).Exclusive := by
  have h := reachable_fenced channels few
  constructor
  · rcases h.slot with ⟨-, nothing⟩ | ⟨c, -, one⟩
    · rw [nothing]
      exact Nat.zero_le 1
    · rw [one]
      exact Nat.le_refl 1
  · rcases h.slot with ⟨free, nothing⟩ | ⟨c, pending, one⟩
    · rw [Session.busy, free, nothing]
      simp only [Option.isSome_none, Bool.false_eq_true, List.length_nil, Nat.zero_ne_one]
    · rw [Session.busy, pending, one]
      simp only [Option.isSome_some, List.length_singleton]
  · intro number call found current
    have bound := h.bound_verify found current
    refine ⟨bound, fun answer => ?_⟩
    rw [step_answerVerify found]
    exact fun stale =>
      Session.finishVerify_ne_stale current bound answer (Option.some.inj stale)
  · intro number call e found settled current
    exact settles_frees h found settled current
  · intro number call e found settled stale
    have past : call.epoch.toNat ≤ ((new channels).after events).session.epoch.toNat :=
      h.past (number, call) (mem_of_call? found)
    have older : call.epoch.toNat ≠ ((new channels).after events).session.epoch.toNat :=
      fun same => stale (UInt64.toNat_inj.mp same)
    exact ⟨UInt64.lt_iff_toNat_lt.mpr (by omega), step_session_of_stale found settled stale⟩

theorem exclusive_with_superseded_send :
    let events : List Event := [.startSend "0912345678", .reset, .startSend "0912345678"]
    resets events < UInt64.size ∧ ((new []).after events).calls.length = 2 ∧
      ((new []).after events).live.length = 1 ∧ ((new []).after events).Exclusive :=
  ⟨by decide, by decide, by decide, exclusive_of_few_resets [] _ (by decide)⟩

end Passcode.Run
