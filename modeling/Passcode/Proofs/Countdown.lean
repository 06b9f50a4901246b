import Mathlib.Logic.Function.Iterate
import Passcode.Countdown
import Passcode.Proofs.Session.Standing

/-!
A ticker beside the clock. It may be woken late, its next moment may be set later than a period
ahead, and anything may happen to the session meanwhile: it never ticks more often than periods have
passed, each interval that completes is one tick, and none is left once the session is gone. A clock
that is met in time completes one interval a period.
-/

set_option autoImplicit false

namespace Passcode.Countdown

inductive Event where
  /-- Time goes by. A ticker that is not woken meanwhile is late. -/
  | pass (ms : Nat)
  /-- The ticker is woken, and its next moment is set to `next`. -/
  | wake (next : Nat)
  /-- Something else happens to the session. -/
  | act (f : Session → Session)
  /-- The last owner lets go of the session. -/
  | drop
  | abort

namespace Ticker

/-! ### Events -/

/-- An interval completes: the moment that was due has come, and the next is set to one that is a
period later or more. -/
def completes (t : Ticker) (next : Nat) : Bool :=
  match t.task with
  | .running due => due ≤ t.now && due + t.period ≤ next
  | _ => false

/-- A ticker that is woken before it is due goes on waiting. -/
def step (t : Ticker) : Event → Ticker
  | .pass ms => { t with now := t.now + ms }
  | .wake next => if t.completes next then t.meet next else t
  | .act f => t.onSession f
  | .drop => t.dropSession
  | .abort => t.abort

def after (t : Ticker) (events : List Event) : Ticker :=
  events.foldl step t

/-- How often the ticker calls for a tick of the session at an event. -/
def ticksAt (t : Ticker) : Event → Nat
  | .wake next => if t.completes next && t.session.isSome then 1 else 0
  | _ => 0

def ticks (t : Ticker) : List Event → Nat
  | [] => 0
  | e :: events => t.ticksAt e + (t.step e).ticks events

variable {t : Ticker} {next : Nat}

theorem completes_iff :
    t.completes next = true ↔
      ∃ due, t.task = .running due ∧ due ≤ t.now ∧ due + t.period ≤ next := by
  rw [completes]
  split
  · next due running =>
    rw [running]
    simp
  · next other =>
    refine iff_of_false Bool.false_ne_true ?_
    rintro ⟨due, running, -⟩
    exact other due running

theorem wake_cases (completed : t.completes next = true) :
    (t.session = none ∧ t.ticksAt (.wake next) = 0 ∧
      t.step (.wake next) = { t with task := .finished }) ∨
    (∃ s, t.session = some s ∧ t.ticksAt (.wake next) = 1 ∧
      t.step (.wake next) = { t with task := .running next, session := some s.tick }) := by
  rw [step, ticksAt, if_pos completed, completed, meet]
  cases t.session with
  | none => exact .inl ⟨rfl, rfl, rfl⟩
  | some s => exact .inr ⟨s, rfl, rfl, rfl⟩

theorem wake_of_early (early : t.completes next = false) :
    t.ticksAt (.wake next) = 0 ∧ t.step (.wake next) = t := by
  rw [step, ticksAt, early]
  exact ⟨rfl, rfl⟩

/-- A ticker that is woken waits on, or finds the session gone and ends, or ticks once and waits for
a moment that is a period later or more. -/
theorem wake_outcomes (t : Ticker) (next : Nat) :
    (t.ticksAt (.wake next) = 0 ∧ t.step (.wake next) = t) ∨
    (t.session = none ∧ t.ticksAt (.wake next) = 0 ∧
      t.step (.wake next) = { t with task := .finished }) ∨
    (∃ due s, t.task = .running due ∧ due ≤ t.now ∧ due + t.period ≤ next ∧
      t.session = some s ∧ t.ticksAt (.wake next) = 1 ∧
      t.step (.wake next) = { t with task := .running next, session := some s.tick }) := by
  cases completed : t.completes next with
  | false => exact .inl (wake_of_early completed)
  | true =>
    rcases wake_cases completed with ended | ⟨s, owned, one, ticked⟩
    · exact .inr (.inl ended)
    · obtain ⟨due, running, come, later⟩ := completes_iff.mp completed
      exact .inr (.inr ⟨due, s, running, come, later, owned, one, ticked⟩)

theorem abort_eq (t : Ticker) :
    ∃ task, t.abort = { t with task } ∧ ∀ due, task ≠ .running due := by
  rw [abort]
  split
  · exact ⟨.aborted, rfl, fun due => nofun⟩
  · next idle => exact ⟨t.task, rfl, idle⟩

/-! ### The clock -/

/-- A ticker that was started at `start` and has ticked `count` times: as many periods have passed,
and the moment that is due comes no earlier than the period after them ends. -/
structure Paced (period start count : Nat) (t : Ticker) : Prop where
  period_eq : t.period = period
  passed : start + count * period ≤ t.now
  ahead : ∀ due, t.task = .running due → start + (count + 1) * period ≤ due

variable {period start count : Nat} {session : Session}

theorem paced_spawn (period start : Nat) (session : Session) :
    Paced period start 0 (spawn period start session) where
  period_eq := rfl
  passed := by
    show start + 0 * period ≤ start
    omega
  ahead := by
    intro due running
    rw [spawn] at running
    split at running
    · cases running
    · cases running
      omega

theorem Paced.step (paced : Paced period start count t) (e : Event) :
    Paced period start (count + t.ticksAt e) (t.step e) := by
  obtain ⟨samePeriod, passed, ahead⟩ := paced
  cases e with
  | pass ms => exact ⟨samePeriod, Nat.le_add_right_of_le passed, ahead⟩
  | act f => exact ⟨samePeriod, passed, ahead⟩
  | drop => exact ⟨samePeriod, passed, ahead⟩
  | abort =>
    obtain ⟨task, aborted, idle⟩ := abort_eq t
    rw [Ticker.step, aborted]
    exact ⟨samePeriod, passed, fun due running => absurd running (idle due)⟩
  | wake next =>
    rcases wake_outcomes t next with ⟨silent, same⟩ | ⟨-, silent, ended⟩ |
      ⟨due, s, running, come, later, -, one, ticked⟩
    · rw [silent, same]
      exact ⟨samePeriod, passed, ahead⟩
    · rw [silent, ended]
      exact ⟨samePeriod, passed, fun due => nofun⟩
    · -- The moment that was due has come, and it was no earlier than this tick may be.
      have reached := ahead due running
      rw [one, ticked]
      refine ⟨samePeriod, Nat.le_trans reached come, ?_⟩
      intro due' running'
      obtain rfl := Task.running.inj running'
      rw [samePeriod] at later
      rw [Nat.succ_mul (count + 1) period]
      omega

theorem Paced.after (paced : Paced period start count t) (events : List Event) :
    Paced period start (count + t.ticks events) (t.after events) := by
  induction events generalizing t count with
  | nil => exact paced
  | cons e events ih =>
    have later := ih (paced.step e)
    rw [Nat.add_assoc] at later
    exact later

/-! ### The session -/

theorem session_step_of_none (gone : t.session = none) (e : Event) :
    (t.step e).session = none ∧ t.ticksAt e = 0 := by
  cases e with
  | pass ms => exact ⟨gone, rfl⟩
  | act f =>
    rw [step, onSession, gone]
    exact ⟨rfl, rfl⟩
  | drop => exact ⟨rfl, rfl⟩
  | abort =>
    obtain ⟨task, aborted, -⟩ := abort_eq t
    rw [step, aborted]
    exact ⟨gone, rfl⟩
  | wake next =>
    rcases wake_outcomes t next with ⟨silent, same⟩ | ⟨-, silent, ended⟩ | ⟨_, s, _, _, _, owned, -⟩
    · rw [same]
      exact ⟨gone, silent⟩
    · rw [ended]
      exact ⟨gone, silent⟩
    · rw [gone] at owned
      cases owned

theorem ticks_of_none (gone : t.session = none) (events : List Event) :
    t.ticks events = 0 ∧ (t.after events).session = none := by
  induction events generalizing t with
  | nil => exact ⟨rfl, gone⟩
  | cons e events ih =>
    obtain ⟨still, silent⟩ := session_step_of_none gone e
    obtain ⟨later, last⟩ := ih still
    refine ⟨?_, last⟩
    rw [ticks, silent, later]

def Ended (t : Ticker) : Prop :=
  ∀ due, t.task ≠ .running due

theorem step_of_ended (ended : t.Ended) (e : Event) :
    (t.step e).task = t.task ∧ t.ticksAt e = 0 := by
  cases e with
  | pass ms => exact ⟨rfl, rfl⟩
  | act f => exact ⟨rfl, rfl⟩
  | drop => exact ⟨rfl, rfl⟩
  | abort =>
    refine ⟨?_, rfl⟩
    rw [step, abort]
    split
    · next due running => exact absurd running (ended due)
    · rfl
  | wake next =>
    have never : t.completes next = false := by
      rw [Bool.eq_false_iff]
      intro completed
      obtain ⟨due, running, -⟩ := completes_iff.mp completed
      exact ended due running
    obtain ⟨silent, same⟩ := wake_of_early never
    exact ⟨congrArg task same, silent⟩

theorem after_of_ended (ended : t.Ended) (events : List Event) :
    (t.after events).task = t.task ∧ t.ticks events = 0 := by
  induction events generalizing t with
  | nil => exact ⟨rfl, rfl⟩
  | cons e events ih =>
    obtain ⟨same, silent⟩ := step_of_ended ended e
    have still : (t.step e).Ended := by
      rw [Ended, same]
      exact ended
    obtain ⟨last, later⟩ := ih still
    refine ⟨last.trans same, ?_⟩
    rw [ticks, silent, later]

theorem ended_spawn_zero (start : Nat) (session : Session) : (spawn 0 start session).Ended :=
  fun _ => nofun

theorem ticks_le_elapsed (period start : Nat) (session : Session) (events : List Event) :
    (spawn period start session).ticks events ≤
      (((spawn period start session).after events).now - start) / period := by
  rcases Nat.eq_zero_or_pos period with rfl | positive
  · -- A ticker without a period never starts.
    have silent := (after_of_ended (ended_spawn_zero start session) events).2
    rw [silent]
    exact Nat.zero_le _
  · have passed := ((paced_spawn period start session).after events).passed
    rw [Nat.zero_add] at passed
    rw [Nat.le_div_iff_mul_le positive]
    omega

/-! ### The countdown -/

/-- What happens is the ticker's own doing, and the session is left to it. -/
def IsOwn : Event → Prop
  | .pass _ | .wake _ | .abort => True
  | .act _ | .drop => False

theorem session_step_of_isOwn {e : Event} (own : IsOwn e) :
    (t.step e).session = t.session.map Session.tick^[t.ticksAt e] := by
  have untouched : t.session = t.session.map Session.tick^[0] := by
    rw [Function.iterate_zero, Option.map_id]
    rfl
  cases e with
  | pass ms => exact untouched
  | act f => exact absurd own id
  | drop => exact absurd own id
  | abort =>
    obtain ⟨task, aborted, -⟩ := abort_eq t
    rw [step, aborted]
    exact untouched
  | wake next =>
    rcases wake_outcomes t next with ⟨silent, same⟩ | ⟨-, silent, ended⟩ |
      ⟨_, s, _, _, _, owned, one, ticked⟩
    · rw [silent, same]
      exact untouched
    · rw [silent, ended]
      exact untouched
    · rw [one, ticked, owned]
      rfl

theorem session_after_of_isOwn {events : List Event} (own : ∀ e ∈ events, IsOwn e) :
    (t.after events).session = t.session.map Session.tick^[t.ticks events] := by
  induction events generalizing t with
  | nil =>
    rw [ticks, Function.iterate_zero, Option.map_id]
    rfl
  | cons e events ih =>
    have first := session_step_of_isOwn (t := t) (own e List.mem_cons_self)
    have later := ih (t := t.step e) fun d member => own d (List.mem_cons_of_mem e member)
    rw [first, Option.map_map, ← Function.iterate_add, Nat.add_comm] at later
    exact later

theorem ttl_iterate_tick (s : Session) (n : Nat) :
    (Session.tick^[n] s).state.ttl.toNat = s.state.ttl.toNat - n := by
  induction n with
  | zero => rfl
  | succ n ih =>
    rw [Function.iterate_succ_apply', Session.tick, State.tick_ttl, ih]
    omega

theorem ttl_after_of_isOwn {events : List Event} {s : Session} (own : ∀ e ∈ events, IsOwn e)
    (owned : ((spawn period start session).after events).session = some s) :
    session.state.ttl.toNat - (((spawn period start session).after events).now - start) / period ≤
      s.state.ttl.toNat := by
  have ticked := session_after_of_isOwn (t := spawn period start session) own
  rw [owned] at ticked
  have same : s = Session.tick^[(spawn period start session).ticks events] session :=
    Option.some.inj ticked
  rw [same, ttl_iterate_tick]
  exact Nat.sub_le_sub_left (ticks_le_elapsed period start session events) _

/-! ### Clocks that are punctual or jump -/

inductive Move where
  | sleep (ms : Nat)
  | jump (ms : Nat)
  | act (f : Session → Session)
  | drop
  | abort

def move (t : Ticker) : Move → Ticker
  | .sleep ms => t.sleep ms
  | .jump ms => t.jump ms
  | .act f => t.onSession f
  | .drop => t.dropSession
  | .abort => t.abort

/-- No moment that is due has been missed. -/
def Punctual (t : Ticker) : Prop :=
  ∀ due, t.task = .running due → 0 < t.period ∧ t.now ≤ due

theorem add_period_le_nextDue {period now due : Nat} (come : due ≤ now) :
    due + period ≤ nextDue period now due := by
  rw [nextDue]
  split
  · exact Nat.add_le_add_right come period
  · exact Nat.le_refl (due + period)

theorem after_append (t : Ticker) (first later : List Event) :
    t.after (first ++ later) = (t.after first).after later :=
  List.foldl_append

theorem wake_eq_step {due : Nat} (running : t.task = .running due) (come : due ≤ t.now) :
    t.wake due = t.step (.wake (nextDue t.period t.now due)) := by
  have completed : t.completes (nextDue t.period t.now due) = true :=
    completes_iff.mpr ⟨due, running, come, add_period_le_nextDue come⟩
  rw [step, if_pos completed, wake]

theorem wake_period (t : Ticker) (due : Nat) : (t.wake due).period = t.period := by
  rw [wake, meet]
  cases t.session with
  | none => rfl
  | some s => rfl

theorem wake_now (t : Ticker) (due : Nat) : (t.wake due).now = t.now := by
  rw [wake, meet]
  cases t.session with
  | none => rfl
  | some s => rfl

theorem add_period_le_of_wake {due later : Nat} (come : due ≤ t.now)
    (running : (t.wake due).task = .running later) : due + t.period ≤ later := by
  rw [wake, meet] at running
  cases owned : t.session with
  | none =>
    rw [owned] at running
    cases running
  | some s =>
    rw [owned] at running
    obtain rfl := Task.running.inj running
    exact add_period_le_nextDue come

theorem catchUp_eq_after (fuel : Nat)
    (enough : ∀ due, t.task = .running due → 0 < t.period ∧ t.now < due + fuel) :
    ∃ events, catchUp fuel t = t.after events ∧ (catchUp fuel t).Punctual := by
  induction fuel generalizing t with
  | zero =>
    refine ⟨[], rfl, ?_⟩
    intro due running
    obtain ⟨positive, ahead⟩ := enough due running
    exact ⟨positive, Nat.le_of_lt ahead⟩
  | succ fuel ih =>
    rw [catchUp]
    split
    · next due running =>
      obtain ⟨positive, reach⟩ := enough due running
      split
      · next come =>
        -- The moment after it is a whole period later, so less fuel is enough from there.
        have less : ∀ later, (t.wake due).task = .running later →
            0 < (t.wake due).period ∧ (t.wake due).now < later + fuel := by
          intro later waiting
          have apart := add_period_le_of_wake come waiting
          rw [wake_period, wake_now]
          omega
        obtain ⟨events, same, punctual⟩ := ih less
        refine ⟨.wake (nextDue t.period t.now due) :: events, ?_, punctual⟩
        rw [same, wake_eq_step running come]
        rfl
      · next early =>
        refine ⟨[], rfl, ?_⟩
        intro later waiting
        obtain rfl := Task.running.inj (running.symm.trans waiting)
        exact ⟨positive, by omega⟩
    · next other =>
      exact ⟨[], rfl, fun due running => absurd running (other due)⟩

theorem jump_eq_after (punctual : t.Punctual) (ms : Nat) :
    ∃ events, t.jump ms = t.after events ∧ (t.jump ms).Punctual := by
  have enough : ∀ due, t.task = .running due →
      0 < t.period ∧ t.now + ms < due + (ms + 1) := by
    intro due running
    obtain ⟨positive, ahead⟩ := punctual due running
    omega
  obtain ⟨events, same, still⟩ :=
    catchUp_eq_after (t := { t with now := t.now + ms }) (ms + 1) enough
  exact ⟨.pass ms :: events, same, still⟩

theorem pass_to (t : Ticker) {moment : Nat} (ahead : t.now ≤ moment) :
    t.step (.pass (moment - t.now)) = { t with now := moment } := by
  rw [step, Nat.add_sub_cancel' ahead]

theorem setTo_eq_after {target : Nat} (punctual : t.Punctual) (ahead : t.now ≤ target)
    (waiting : ∀ due, t.task = .running due → target ≤ due) :
    ∃ events, { t with now := target } = t.after events ∧ Punctual { t with now := target } := by
  refine ⟨[.pass (target - t.now)], (pass_to t ahead).symm, ?_⟩
  intro due running
  exact ⟨(punctual due running).1, waiting due running⟩

theorem runTo_eq_after {target : Nat} (fuel : Nat) (punctual : t.Punctual)
    (ahead : t.now ≤ target) (enough : ∀ due, t.task = .running due → target < due + fuel) :
    ∃ events, runTo target fuel t = t.after events ∧ (runTo target fuel t).Punctual := by
  induction fuel generalizing t with
  | zero =>
    exact setTo_eq_after punctual ahead fun due running => Nat.le_of_lt (enough due running)
  | succ fuel ih =>
    rw [runTo]
    split
    · next due running =>
      obtain ⟨positive, early⟩ := punctual due running
      have reach := enough due running
      split
      · next within =>
        -- A moment on the way is two events: the clock comes to it, and the ticker is woken.
        have met := wake_eq_step (t := { t with now := due }) running (Nat.le_refl due)
        have apart {later : Nat}
            (waiting : ({ t with now := due }.wake due).task = .running later) :
            due + t.period ≤ later :=
          add_period_le_of_wake (t := { t with now := due }) (Nat.le_refl due) waiting
        have still : ({ t with now := due }.wake due).Punctual := by
          intro later waiting
          have beyond := apart waiting
          rw [wake_period, wake_now]
          exact ⟨positive, Nat.le_trans (Nat.le_add_right due t.period) beyond⟩
        have less : ∀ later, ({ t with now := due }.wake due).task = .running later →
            target < later + fuel := by
          intro later waiting
          have beyond := apart waiting
          omega
        obtain ⟨events, same, last⟩ := ih still (by rwa [wake_now]) less
        refine ⟨.pass (due - t.now) :: .wake (nextDue t.period due due) :: events, ?_, last⟩
        have course : t.after (.pass (due - t.now) :: .wake (nextDue t.period due due) :: events) =
            ((t.step (.pass (due - t.now))).step (.wake (nextDue t.period due due))).after events :=
          rfl
        rw [same, course, pass_to t early, met]
      · next beyond =>
        apply setTo_eq_after punctual ahead
        intro later waiting
        obtain rfl := Task.running.inj (running.symm.trans waiting)
        exact Nat.le_of_not_le beyond
    · next other =>
      exact setTo_eq_after punctual ahead fun due running => absurd running (other due)

theorem sleep_eq_after (punctual : t.Punctual) (ms : Nat) :
    ∃ events, t.sleep ms = t.after events ∧ (t.sleep ms).Punctual := by
  apply runTo_eq_after (ms + 1) punctual (Nat.le_add_right t.now ms)
  intro due running
  have ahead := (punctual due running).2
  omega

theorem move_eq_after (punctual : t.Punctual) (m : Move) :
    ∃ events, t.move m = t.after events ∧ (t.move m).Punctual := by
  cases m with
  | sleep ms => exact sleep_eq_after punctual ms
  | jump ms => exact jump_eq_after punctual ms
  | act f => exact ⟨[.act f], rfl, punctual⟩
  | drop => exact ⟨[.drop], rfl, punctual⟩
  | abort =>
    refine ⟨[.abort], rfl, ?_⟩
    obtain ⟨task, aborted, idle⟩ := abort_eq t
    rw [move, aborted]
    exact fun due running => absurd running (idle due)

theorem punctual_spawn (period start : Nat) (session : Session) :
    (spawn period start session).Punctual := by
  intro due running
  rw [spawn] at running ⊢
  split at running
  · cases running
  · next positive =>
    obtain rfl := Task.running.inj running
    exact ⟨Nat.pos_of_ne_zero positive, Nat.le_add_right start period⟩

theorem moves_eq_after (punctual : t.Punctual) (moves : List Move) :
    ∃ events, moves.foldl move t = t.after events := by
  induction moves generalizing t with
  | nil => exact ⟨[], rfl⟩
  | cons m moves ih =>
    obtain ⟨first, same, still⟩ := move_eq_after punctual m
    obtain ⟨later, last⟩ := ih still
    refine ⟨first ++ later, ?_⟩
    rw [List.foldl_cons, last, same, after_append]

/-- A clock that is punctual or jumps takes a started ticker through one of these courses. -/
theorem exists_events_of_moves (period start : Nat) (session : Session) (moves : List Move) :
    ∃ events, moves.foldl move (spawn period start session) =
      (spawn period start session).after events :=
  moves_eq_after (punctual_spawn period start session) moves

/-! ### Ticks that come -/

theorem spawn_task (positive : 0 < period) (start : Nat) (session : Session) :
    (spawn period start session).task = .running (start + period) :=
  if_neg (Nat.ne_of_gt positive)

theorem ticks_when_due (positive : 0 < period) (start : Nat) (session : Session)
    (later : start + period + period ≤ next) :
    (spawn period start session).task = .running (start + period) ∧
      let t := (spawn period start session).step (.pass period)
      t.ticksAt (.wake next) = 1 ∧ (t.step (.wake next)).session = some session.tick := by
  have running := spawn_task positive start session
  refine ⟨running, ?_⟩
  intro t
  have completed : t.completes next = true :=
    completes_iff.mpr ⟨start + period, running, Nat.le_refl _, later⟩
  rcases wake_cases completed with ⟨gone, -⟩ | ⟨s, owned, one, ticked⟩
  · cases gone
  · obtain rfl := Option.some.inj owned
    exact ⟨one, by rw [ticked]⟩

theorem wake_in_time {due : Nat} {s : Session} (owned : t.session = some s) :
    { t with now := due }.wake due =
      { t with now := due, task := .running (due + t.period), session := some s.tick } := by
  have punctual : nextDue t.period due due = due + t.period :=
    if_neg (Nat.not_lt.mpr (Nat.le_add_right due tolerance))
  rw [wake, meet]
  simp only [owned, punctual]

theorem runTo_session {target due : Nat} {s : Session} (fuel : Nat) (positive : 0 < t.period)
    (running : t.task = .running due) (owned : t.session = some s)
    (enough : target < due + fuel) :
    (runTo target fuel t).session =
      some (Session.tick^[(target + t.period - due) / t.period] s) := by
  have before (early : target < due) : (target + t.period - due) / t.period = 0 :=
    Nat.div_eq_of_lt (by omega)
  induction fuel generalizing t due s with
  | zero =>
    rw [before enough]
    exact owned
  | succ fuel ih =>
    rw [runTo]
    split
    · next moment waiting =>
      obtain rfl := Task.running.inj (running.symm.trans waiting)
      split
      · next within =>
        have count : (target + t.period - due) / t.period =
            (target + t.period - (due + t.period)) / t.period + 1 := by
          rw [← Nat.add_div_right _ positive]
          congr 1
          omega
        rw [wake_in_time owned, count, Function.iterate_succ_apply]
        refine ih positive rfl rfl (by omega) ?_
        intro early
        exact Nat.div_eq_of_lt (by dsimp only; omega)
      · next beyond =>
        rw [before (Nat.lt_of_not_le beyond)]
        exact owned
    · next other => exact absurd running (other due)

/-- While the clock runs on, a session that is left to its ticker is ticked once a period. -/
theorem sleep_session (positive : 0 < period) (start : Nat) (session : Session) (ms : Nat) :
    ((spawn period start session).sleep ms).session =
      some (Session.tick^[ms / period] session) := by
  have ticked : (runTo (start + ms) (ms + 1) (spawn period start session)).session =
      some (Session.tick^[(start + ms + period - (start + period)) / period] session) :=
    runTo_session (ms + 1) positive (spawn_task positive start session) rfl (by omega)
  have count : (start + ms + period - (start + period)) / period = ms / period := by
    congr 1
    omega
  rw [← count]
  exact ticked

/-! ### Beside the clock -/

/-- However late a ticker is woken and whatever happens to the session meanwhile, it has ticked at
most once for each period since its start. Each interval that completes is one tick, which changes
the countdown and nothing else. Once the session is gone there are no more ticks, and the first
interval that completes ends the ticker for good. -/
theorem keeps_to_clock (period start : Nat) (session : Session) (events : List Event) :
    let t := (spawn period start session).after events
    (spawn period start session).ticks events ≤ (t.now - start) / period ∧
      (∀ next s, t.completes next = true → t.session = some s →
        t.ticksAt (.wake next) = 1 ∧
          t.step (.wake next) =
            { t with
              task := .running next
              session := some { s with state := { s.state with
                ttl := if s.state.ttl = 0 then 0 else s.state.ttl - 1 } } }) ∧
      (t.session = none →
        (∀ later, t.ticks later = 0) ∧
          ∀ next, t.completes next = true →
            ∀ later, ((t.step (.wake next)).after later).task = .finished) := by
  intro t
  refine ⟨ticks_le_elapsed period start session events, ?_, ?_⟩
  · intro next s completed owned
    rcases wake_cases completed with ⟨gone, -⟩ | ⟨s', owned', one, ticked⟩
    · rw [owned] at gone
      cases gone
    · rw [owned] at owned'
      obtain rfl := Option.some.inj owned'
      exact ⟨one, ticked⟩
  · intro gone
    refine ⟨fun later => (ticks_of_none gone later).1, ?_⟩
    intro next completed later
    rcases wake_cases completed with ⟨-, -, finished⟩ | ⟨s, owned, -⟩
    · have ended : (t.step (.wake next)).Ended := by
        rw [finished]
        exact fun due => nofun
      rw [(after_of_ended ended later).1, finished]
    · rw [gone] at owned
      cases owned

/-- Periods that were missed are not made up for. -/
example (s : Session) : ((spawn 10 0 s).jump 45).session = some s.tick := rfl

end Ticker

end Passcode.Countdown
