import Passcode.Proofs.Issuer.Store

/-!
Runs of the service in memory: sends and verifications in any order, for any phone numbers and
requests. What every call preserves holds throughout a run.
-/

set_option autoImplicit false

namespace Passcode.Issuer

/-- A call to the service, with the moment at which it is made and, for a send, what is drawn. -/
inductive Query where
  | send (now : Nat) (draw : Draw) (request : SendRequest)
  | verify (now : Nat) (request : VerifyRequest)
  deriving DecidableEq, Repr

namespace Query

def now : Query → Nat
  | send now _ _ => now
  | verify now _ => now

def drawn : Query → Option String
  | send _ draw _ => some draw.requestId
  | verify _ _ => none

end Query

instance decidableEqExcept {ε α : Type} [DecidableEq ε] [DecidableEq α] :
    DecidableEq (Except ε α)
  | .error a, .error b => decidable_of_iff (a = b) ⟨congrArg Except.error, Except.error.inj⟩
  | .ok a, .ok b => decidable_of_iff (a = b) ⟨congrArg Except.ok, Except.ok.inj⟩
  | .error _, .ok _ => .isFalse nofun
  | .ok _, .error _ => .isFalse nofun

inductive Answer where
  /-- Nothing, where the send breaks off. -/
  | sent (result : Option (Except Failure SendReceipt))
  | judged (result : Except Failure Verdict)
  deriving DecidableEq

def Store.serve (settings : Settings) (store : Store) : Query → Answer × Store
  | .send now draw request =>
    (.sent (send settings now draw request store).1, (send settings now draw request store).2)
  | .verify now request =>
    (.judged (verify settings now request store).1, (verify settings now request store).2)

def Store.after (settings : Settings) (store : Store) (queries : List Query) : Store :=
  queries.foldl (fun store q => (store.serve settings q).2) store

def Store.transcript (settings : Settings) (store : Store) : List Query → List (Query × Answer)
  | [] => []
  | q :: queries =>
    (q, (store.serve settings q).1) :: (store.serve settings q).2.transcript settings queries

def Distinct (queries : List Query) : Prop :=
  (queries.filterMap Query.drawn).Nodup

def Lasting (settings : Settings) (queries : List Query) : Prop :=
  (queries.map Query.now).Pairwise fun earlier later =>
    later < earlier + settings.validity

def InOrder (queries : List Query) : Prop :=
  (queries.map Query.now).Pairwise (· ≤ ·)

/-- Once the clock cannot tell when a code would run out, it cannot tell any more. -/
def Steady (settings : Settings) (queries : List Query) : Prop :=
  (queries.map Query.now).Pairwise fun earlier later =>
    settings.horizon ≤ earlier + settings.validity → settings.horizon ≤ later + settings.validity

instance (queries : List Query) : Decidable (Distinct queries) :=
  inferInstanceAs (Decidable (List.Nodup _))

instance (settings : Settings) (queries : List Query) : Decidable (Lasting settings queries) :=
  inferInstanceAs (Decidable (List.Pairwise _ _))

instance (queries : List Query) : Decidable (InOrder queries) :=
  inferInstanceAs (Decidable (List.Pairwise _ _))

instance (settings : Settings) (queries : List Query) : Decidable (Steady settings queries) :=
  inferInstanceAs (Decidable (List.Pairwise _ _))

/-- A clock that does not run backwards is steady. -/
theorem InOrder.steady {queries : List Query} (ordered : InOrder queries) (settings : Settings) :
    Steady settings queries := by
  apply List.Pairwise.imp _ ordered
  intro earlier later le late
  omega

theorem Steady.of_append {settings : Settings} {before after : List Query}
    (steady : Steady settings (before ++ after)) : Steady settings before := by
  rw [Steady, List.map_append] at steady
  exact (List.pairwise_append.mp steady).1

theorem Steady.dated {settings : Settings} {queries : List Query} {q : Query}
    (steady : Steady settings (queries ++ [q]))
    (dated : q.now + settings.validity < settings.horizon) :
    ∀ earlier ∈ queries, earlier.now + settings.validity < settings.horizon := by
  intro earlier member
  rw [Steady, List.map_append] at steady
  have onwards := (List.pairwise_append.mp steady).2.2 earlier.now (List.mem_map_of_mem member)
    q.now List.mem_cons_self
  apply Nat.lt_of_not_le
  intro late
  exact Nat.not_le.mpr dated (onwards late)

theorem Distinct.tail {q : Query} {queries : List Query} (distinct : Distinct (q :: queries)) :
    Distinct queries := by
  have rest : List.Sublist (queries.filterMap Query.drawn) ((q :: queries).filterMap Query.drawn) :=
    (List.sublist_cons_self q queries).filterMap Query.drawn
  exact List.Nodup.sublist rest distinct

theorem Distinct.others {before after : List Query} {q : Query}
    (distinct : Distinct (before ++ q :: after)) {requestId : String}
    (drawn : q.drawn = some requestId) : ∀ later ∈ after, later.drawn ≠ some requestId := by
  intro later member again
  rw [Distinct, List.filterMap_append, List.filterMap_cons_some drawn] at distinct
  have once := (List.nodup_cons.mp (List.nodup_append.mp distinct).2.1).1
  exact once (List.mem_filterMap.mpr ⟨later, member, again⟩)

theorem Lasting.of_append {settings : Settings} {before after : List Query}
    (lasting : Lasting settings (before ++ after)) : Lasting settings before := by
  rw [Lasting, List.map_append] at lasting
  exact (List.pairwise_append.mp lasting).1

theorem Lasting.fresh {settings : Settings} {before after : List Query} {q : Query}
    (lasting : Lasting settings (before ++ q :: after)) :
    ∀ later ∈ after, later.now < q.now + settings.validity := by
  intro later member
  rw [Lasting, List.map_append, List.map_cons] at lasting
  have ahead := (List.pairwise_cons.mp (List.pairwise_append.mp lasting).2.1).1
  exact ahead later.now (List.mem_map_of_mem member)

namespace Store

variable {settings : Settings} {store : Store}

@[simp] theorem after_nil (settings : Settings) (store : Store) :
    store.after settings [] = store := rfl

@[simp] theorem after_cons (settings : Settings) (store : Store) (q : Query)
    (queries : List Query) :
    store.after settings (q :: queries) = (store.serve settings q).2.after settings queries := rfl

theorem after_append (settings : Settings) (store : Store) (before after : List Query) :
    store.after settings (before ++ after) = (store.after settings before).after settings after :=
  List.foldl_append

theorem transcript_append (settings : Settings) (store : Store) (before after : List Query) :
    store.transcript settings (before ++ after) =
      store.transcript settings before ++
        (store.after settings before).transcript settings after := by
  induction before generalizing store with
  | nil => rfl
  | cons q before ih =>
    rw [List.cons_append, transcript, ih, transcript, after_cons]
    rfl

theorem after_preserves {P : Store → Prop} {queries : List Query}
    (step : ∀ (store : Store), ∀ q ∈ queries, P store → P (store.serve settings q).2)
    (holds : P store) : P (store.after settings queries) := by
  induction queries generalizing store with
  | nil => exact holds
  | cons q queries ih =>
    apply ih
    · intro store later member
      exact step store later (List.mem_cons_of_mem q member)
    · exact step store q List.mem_cons_self holds

/-! ### Every code that is held -/

theorem code_of_mem_serve {q : Query} {entry : String × IssuedCode}
    (member : entry ∈ (store.serve settings q).2.codes) :
    entry ∈ store.codes ∨
    (∃ issued, (entry.1, issued) ∈ store.codes ∧ issued.attempts < maxAttempts ∧
      entry.2 = { issued with attempts := issued.attempts + 1 }) ∨
    (entry.2.attempts = 0 ∧ q.drawn = some entry.1 ∧
      entry.2.expiresAt = q.now + settings.validity) := by
  cases q with
  | send now draw request =>
    rcases (send_sending settings now draw request store).code_of_mem member with kept | rfl
    · exact Or.inl kept
    · exact Or.inr (Or.inr ⟨rfl, rfl, rfl⟩)
  | verify now request =>
    rcases (verify_judging settings now request store).code_of_mem member with kept | tried
    · exact Or.inl kept
    · exact Or.inr (Or.inl tried)

theorem attempts_le_of_mem_after (settings : Settings) (queries : List Query) :
    ∀ entry ∈ (after settings {} queries).codes, entry.2.attempts ≤ maxAttempts := by
  refine after_preserves (P := fun store => ∀ entry ∈ store.codes, entry.2.attempts ≤ maxAttempts)
    ?_ ?_
  · intro store q _ bounded entry member
    rcases code_of_mem_serve member with kept | ⟨issued, kept, room, again⟩ | ⟨untried, -, -⟩
    · exact bounded entry kept
    · rw [again]
      exact add_one_le_of_lt room
    · rw [untried]
      decide
  · intro entry member
    exact absurd member List.not_mem_nil

theorem expiresAt_of_mem_after {queries : List Query} :
    ∀ entry ∈ (after settings {} queries).codes, ∃ q ∈ queries,
      q.drawn = some entry.1 ∧ entry.2.expiresAt = q.now + settings.validity := by
  refine after_preserves (P := fun store => ∀ entry ∈ store.codes, ∃ q ∈ queries,
    q.drawn = some entry.1 ∧ entry.2.expiresAt = q.now + settings.validity) ?_ ?_
  · intro store q asked known entry member
    rcases code_of_mem_serve member with kept | ⟨issued, kept, -, again⟩ | ⟨-, drawn, runsOut⟩
    · exact known entry kept
    · rw [again]
      exact known _ kept
    · exact ⟨q, asked, drawn, runsOut⟩
  · intro entry member
    exact absurd member List.not_mem_nil

end Store

theorem Lasting.lt_expiresAt {settings : Settings} {queries : List Query} {q : Query}
    (lasting : Lasting settings (queries ++ [q])) :
    ∀ entry ∈ (Store.after settings {} queries).codes, q.now < entry.2.expiresAt := by
  intro entry member
  obtain ⟨first, asked, -, runsOut⟩ := Store.expiresAt_of_mem_after entry member
  rw [Lasting, List.map_append] at lasting
  rw [runsOut]
  exact (List.pairwise_append.mp lasting).2.2 first.now (List.mem_map_of_mem asked) q.now
    List.mem_cons_self

end Passcode.Issuer
