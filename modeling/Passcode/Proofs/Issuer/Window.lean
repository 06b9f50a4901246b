import Mathlib.Data.List.Induction
import Passcode.Proofs.Issuer.Run

/-!
Send windows. While the window of a phone number does not run out, it counts the sends to the number
that were not refused.
-/

set_option autoImplicit false

namespace Passcode.Issuer

def Enduring (settings : Settings) (queries : List Query) : Prop :=
  (queries.map Query.now).Pairwise fun earlier later =>
    later - earlier < settings.window

instance (settings : Settings) (queries : List Query) : Decidable (Enduring settings queries) :=
  inferInstanceAs (Decidable (List.Pairwise _ _))

def Query.sendsTo (phone : String) : Query → Bool
  | .send _ _ request => request.phone == phone
  | .verify _ _ => false

/-- The window of `phone` does not run out: no call comes as long as a window after a send to
`phone`. -/
def Spans (settings : Settings) (phone : String) (queries : List Query) : Prop :=
  queries.Pairwise fun earlier later =>
    earlier.sendsTo phone = true → later.now - earlier.now < settings.window

instance (settings : Settings) (phone : String) (queries : List Query) :
    Decidable (Spans settings phone queries) :=
  inferInstanceAs (Decidable (List.Pairwise _ _))

/-- A send to `phone` that is not refused: it is answered with a receipt, or it breaks off. -/
def spends (phone : String) : Query × Answer → Bool
  | (.send _ _ request, .sent (some (.ok _))) => request.phone == phone
  | (.send _ _ request, .sent none) => request.phone == phone
  | _ => false

def spent (settings : Settings) (phone : String) (queries : List Query) : Nat :=
  (Store.transcript settings {} queries).countP (spends phone)

def Store.counted (phone : String) (store : Store) : Nat :=
  ((store.windows.lookup phone).map fun w => w.count.toNat).getD 0

variable {settings : Settings} {store : Store}

/-! ### The window of a send -/

theorem openWindow_cases (settings : Settings) (now : Nat) (phone : String) (store : Store) :
    (phone, openWindow settings now phone store) ∈ store.windows ∨
      openWindow settings now phone store = { startedAt := now } := by
  rw [openWindow, windowFor]
  cases found : (evict settings now store).windows.lookup phone with
  | none => exact Or.inr rfl
  | some w =>
    simp only
    split
    · exact Or.inr rfl
    · exact Or.inl (List.mem_filter.mp (mem_of_lookup found)).1

theorem lookup_windows_evict {now : Nat} {phone : String}
    (running : ∀ w, (phone, w) ∈ store.windows → w.isOver settings now = false) :
    (evict settings now store).windows.lookup phone = store.windows.lookup phone := by
  cases found : store.windows.lookup phone with
  | none => exact lookup_filter_of_none found
  | some w =>
    have kept : (!w.isOver settings now) = true := by simp [running w (mem_of_lookup found)]
    exact lookup_filter_of_kept found kept

theorem count_openWindow {now : Nat} {phone : String}
    (running : ∀ w, (phone, w) ∈ store.windows → w.isOver settings now = false) :
    (openWindow settings now phone store).count.toNat = store.counted phone := by
  rw [openWindow, windowFor, lookup_windows_evict running, Store.counted]
  cases found : store.windows.lookup phone with
  | none => rfl
  | some w =>
    simp only
    rw [if_neg (Bool.eq_false_iff.mp (running _ (mem_of_lookup found)))]
    rfl

/-! ### One call -/

theorem window_of_mem_serve {q : Query} {entry : String × SendWindow}
    (member : entry ∈ (store.serve settings q).2.windows) :
    (∃ w, (entry.1, w) ∈ store.windows ∧ entry.2.startedAt = w.startedAt) ∨
      q.sendsTo entry.1 = true ∧ entry.2.startedAt = q.now := by
  cases q with
  | send now draw request =>
    rcases (send_sending settings now draw request store).window_of_mem member with
      kept | ⟨own, opened⟩
    · exact Or.inl ⟨_, kept, rfl⟩
    · rw [own, opened]
      rcases openWindow_cases settings now request.phone store with known | new
      · exact Or.inl ⟨_, known, rfl⟩
      · exact Or.inr ⟨by simp [Query.sendsTo], by rw [new]; rfl⟩
  | verify now request =>
    rw [Store.serve, (verify_judging settings now request store).windows_eq] at member
    exact Or.inl ⟨_, member, rfl⟩

theorem counted_of_insert {after : Store} {phone other : String} {w : SendWindow}
    {windows : List (String × SendWindow)} (inserted : after.windows = insert other w windows)
    (kept : windows.lookup phone = store.windows.lookup phone) :
    after.counted phone = if phone = other then w.count.toNat else store.counted phone := by
  rw [Store.counted, inserted]
  split
  · next same =>
    subst same
    rw [lookup_insert_self]
    rfl
  · next different =>
    rw [lookup_insert_of_ne different, kept]
    rfl

theorem Sending.counted_eq {now : Nat} {draw : Draw} {request : SendRequest}
    {answer : Option (Except Failure SendReceipt)} {after : Store} {phone : String}
    (sending : Sending settings now draw request store answer after)
    (running : ∀ w, (phone, w) ∈ store.windows → w.isOver settings now = false) :
    after.counted phone = store.counted phone +
      [(Query.send now draw request, Answer.sent answer)].countP (spends phone) := by
  have kept : (evict settings now store).windows.lookup phone = store.windows.lookup phone :=
    lookup_windows_evict running
  have counted : phone = request.phone →
      (openWindow settings now request.phone store).count.toNat = store.counted phone := by
    rintro rfl
    exact count_openWindow running
  cases sending with
  | unreachable failing => rfl
  | invalid working invalid => rfl
  | limited working valid full =>
    -- The window is put back as it was, perhaps a new one that counts nothing.
    rw [counted_of_insert rfl kept]
    split
    · next same => exact counted same
    · rfl
  | _ working valid room =>
    rw [counted_of_insert rfl kept, toNat_add_one_of_lt room]
    split
    · next same => simp [counted same, spends, same]
    · next different => simp [spends, Ne.symm different]

theorem counted_serve {q : Query} {phone : String}
    (running : ∀ w, (phone, w) ∈ store.windows → w.isOver settings q.now = false) :
    (store.serve settings q).2.counted phone =
      store.counted phone + [(q, (store.serve settings q).1)].countP (spends phone) := by
  cases q with
  | send now draw request =>
    exact (send_sending settings now draw request store).counted_eq running
  | verify now request =>
    rw [Store.serve, Store.counted, (verify_judging settings now request store).windows_eq]
    rfl

/-! ### Whole runs -/

theorem Store.startedAt_of_mem_after {queries : List Query} :
    ∀ entry ∈ (after settings {} queries).windows,
      ∃ q ∈ queries, q.sendsTo entry.1 = true ∧ entry.2.startedAt = q.now := by
  refine after_preserves (P := fun store => ∀ entry ∈ store.windows,
    ∃ q ∈ queries, q.sendsTo entry.1 = true ∧ entry.2.startedAt = q.now) ?_ ?_
  · intro store q asked known entry member
    rcases window_of_mem_serve member with ⟨w, kept, same⟩ | ⟨sends, opened⟩
    · rw [same]
      exact known _ kept
    · exact ⟨q, asked, sends, opened⟩
  · intro entry member
    exact absurd member List.not_mem_nil

theorem Enduring.of_append {before after : List Query}
    (enduring : Enduring settings (before ++ after)) : Enduring settings before := by
  rw [Enduring, List.map_append] at enduring
  exact (List.pairwise_append.mp enduring).1

theorem Enduring.spans {queries : List Query} (enduring : Enduring settings queries)
    (phone : String) : Spans settings phone queries := by
  rw [Enduring, List.pairwise_map] at enduring
  apply enduring.imp
  intro earlier later soon _
  exact soon

namespace Spans

variable {phone : String} {before after queries : List Query} {q : Query}

theorem of_append (spans : Spans settings phone (before ++ after)) :
    Spans settings phone before :=
  (List.pairwise_append.mp spans).1

theorem isOver_eq_false (spans : Spans settings phone (queries ++ [q])) :
    ∀ w, (phone, w) ∈ (Store.after settings {} queries).windows →
      w.isOver settings q.now = false := by
  intro w member
  obtain ⟨first, asked, sends, started⟩ := Store.startedAt_of_mem_after _ member
  have soon := (List.pairwise_append.mp spans).2.2 first asked q List.mem_cons_self sends
  rw [SendWindow.isOver, started]
  exact decide_eq_false (Nat.not_le.mpr soon)

end Spans

theorem spent_append (settings : Settings) (phone : String) (before after : List Query) :
    spent settings phone (before ++ after) =
      spent settings phone before +
        ((Store.after settings {} before).transcript settings after).countP (spends phone) := by
  rw [spent, Store.transcript_append, List.countP_append]
  rfl

/-- While the window of a phone number does not run out, it counts the sends that were not refused. -/
theorem counted_after {queries : List Query} {phone : String}
    (spans : Spans settings phone queries) :
    (Store.after settings {} queries).counted phone = spent settings phone queries := by
  induction queries using List.reverseRecOn with
  | nil => rfl
  | append_singleton queries q ih =>
    have step := counted_serve spans.isOver_eq_false
    rw [Store.after_append, Store.after_cons, Store.after_nil, step, ih spans.of_append,
      spent_append]
    rfl

end Passcode.Issuer
