import Passcode.Issuer
import Passcode.Proofs.Lookup

/-!
What one call does to the service in memory. Every send and every verification takes one of the
ways below, with the guards under which it does; which entries a call leaves alone is read off them.
-/

set_option autoImplicit false

namespace Passcode.Issuer

/-! ### Entries by their key -/

section

variable {α : Type} {key other : String} {value : α} {entries : List (String × α)}

@[simp] theorem lookup_erase_self : (erase key entries).lookup key = none :=
  lookup_filter_ne.trans (if_pos rfl)

theorem lookup_erase_of_ne (different : other ≠ key) :
    (erase key entries).lookup other = entries.lookup other :=
  lookup_filter_ne.trans (if_neg different)

@[simp] theorem lookup_insert_self : (insert key value entries).lookup key = some value :=
  List.lookup_cons_self

theorem lookup_insert_of_ne (different : other ≠ key) :
    (insert key value entries).lookup other = entries.lookup other := by
  rw [insert, List.lookup_cons, beq_eq_false_iff_ne.mpr different]
  exact lookup_erase_of_ne different

theorem mem_of_mem_erase {entry : String × α} (member : entry ∈ erase key entries) :
    entry ∈ entries :=
  (List.mem_filter.mp member).1

theorem mem_of_mem_insert {entry : String × α} (member : entry ∈ insert key value entries) :
    entry = (key, value) ∨ entry ∈ entries := by
  rcases List.mem_cons.mp member with same | kept
  · exact Or.inl same
  · exact Or.inr (mem_of_mem_erase kept)

end

/-! ### Counters below their limit -/

theorem toNat_add_one_of_lt {n limit : UInt32} (below : n < limit) :
    (n + 1).toNat = n.toNat + 1 := by
  have bound := UInt32.toNat_lt limit
  have less := UInt32.lt_iff_toNat_lt.mp below
  rw [UInt32.toNat_add, Nat.mod_eq_of_lt]
  · rfl
  · have one : (1 : UInt32).toNat = 1 := rfl
    omega

theorem add_one_le_of_lt {n limit : UInt32} (below : n < limit) : n + 1 ≤ limit := by
  have next := toNat_add_one_of_lt below
  have less := UInt32.lt_iff_toNat_lt.mp below
  rw [UInt32.le_iff_toNat_le]
  omega

theorem toNat_sub_add_one_of_lt {n limit : UInt32} (below : n < limit) :
    (limit - (n + 1)).toNat + (n.toNat + 1) = limit.toNat := by
  have next := toNat_add_one_of_lt below
  have less := UInt32.lt_iff_toNat_lt.mp below
  rw [UInt32.toNat_sub_of_le limit (n + 1) (add_one_le_of_lt below)]
  omega

variable {settings : Settings} {now : Nat} {store : Store}

/-! ### Sends -/

/-- The window in which a send counts, once what has run out is dropped. -/
def openWindow (settings : Settings) (now : Nat) (phone : String) (store : Store) : SendWindow :=
  windowFor settings now phone (evict settings now store)

def issue (settings : Settings) (now : Nat) (draw : Draw) (phone : String) : IssuedCode where
  phone
  code := Code.ofNumber draw.number
  expiresAt := now + settings.validity

def countSend (settings : Settings) (now : Nat) (phone : String) (store : Store) : Store :=
  { evict settings now store with
    windows := insert phone
      { openWindow settings now phone store with
        count := (openWindow settings now phone store).count + 1 }
      (evict settings now store).windows }

/-- The ways of a send: what it answers, and what it leaves in the store. -/
inductive Sending (settings : Settings) (now : Nat) (draw : Draw) (request : SendRequest)
    (store : Store) : Option (Except Failure SendReceipt) → Store → Prop
  | unreachable (failing : settings.failing = true) :
      Sending settings now draw request store (some (.error unreachable)) store
  | invalid (working : settings.failing = false)
      (invalid : Phone.isValid request.phone = false) :
      Sending settings now draw request store (some (.error invalidPhone)) store
  | limited (working : settings.failing = false) (valid : Phone.isValid request.phone = true)
      (full : settings.maxSends ≤ (openWindow settings now request.phone store).count) :
      Sending settings now draw request store (some (.error tooManyRequests))
        { evict settings now store with
          windows := insert request.phone (openWindow settings now request.phone store)
            (evict settings now store).windows }
  | broken (working : settings.failing = false) (valid : Phone.isValid request.phone = true)
      (room : (openWindow settings now request.phone store).count < settings.maxSends)
      (late : settings.horizon ≤ now + settings.validity) :
      Sending settings now draw request store none (countSend settings now request.phone store)
  | issued (working : settings.failing = false) (valid : Phone.isValid request.phone = true)
      (room : (openWindow settings now request.phone store).count < settings.maxSends)
      (dated : now + settings.validity < settings.horizon) :
      Sending settings now draw request store
        (some (.ok {
          channel := pickChannel request.channels
          requestId := draw.requestId
          ttl := ttlOf (settings.validity / second)
          maskedPhone := Phone.mask request.phone
          quota := {
            phone := some
              (settings.maxSends - ((openWindow settings now request.phone store).count + 1)) } }))
        { countSend settings now request.phone store with
          codes := insert draw.requestId (issue settings now draw request.phone)
            (evict settings now store).codes
          sends := store.sends + 1 }

theorem send_sending (settings : Settings) (now : Nat) (draw : Draw) (request : SendRequest)
    (store : Store) :
    Sending settings now draw request store (send settings now draw request store).1
      (send settings now draw request store).2 := by
  rw [send, sendCounting]
  cases failing : settings.failing with
  | true => exact .unreachable failing
  | false =>
    cases valid : Phone.isValid request.phone with
    | false => exact .invalid failing valid
    | true =>
      simp only [Bool.false_eq_true, Bool.not_true, ↓reduceIte]
      by_cases full : settings.maxSends ≤ (openWindow settings now request.phone store).count
      · rw [openWindow] at full
        simp only [if_pos full]
        exact .limited failing valid full
      · have room := UInt32.not_le.mp full
        rw [openWindow] at full
        simp only [if_neg full]
        by_cases dated : now + settings.validity < settings.horizon
        · simp only [expiry?, if_pos dated]
          exact .issued failing valid room dated
        · simp only [expiry?, if_neg dated]
          exact .broken failing valid room (Nat.le_of_not_lt dated)

theorem lookup_evict (settings : Settings) {requestId : String}
    (fresh : ∀ issued, store.codes.lookup requestId = some issued → now < issued.expiresAt) :
    (evict settings now store).codes.lookup requestId = store.codes.lookup requestId := by
  cases found : store.codes.lookup requestId with
  | none => exact lookup_filter_of_none found
  | some issued => exact lookup_filter_of_kept found (decide_eq_true (fresh issued found))

namespace Sending

variable {draw : Draw} {request : SendRequest} {answer : Option (Except Failure SendReceipt)}
  {after : Store} {receipt : SendReceipt} {requestId : String}

theorem lookup_of_ne (sending : Sending settings now draw request store answer after)
    (other : requestId ≠ draw.requestId)
    (fresh : ∀ issued, store.codes.lookup requestId = some issued → now < issued.expiresAt) :
    after.codes.lookup requestId = store.codes.lookup requestId := by
  cases sending with
  | unreachable failing => rfl
  | invalid working invalid => rfl
  | limited working valid full => exact lookup_evict settings fresh
  | broken working valid room late => exact lookup_evict settings fresh
  | issued working valid room dated =>
    rw [lookup_insert_of_ne other]
    exact lookup_evict settings fresh

theorem lookup_of_unsent (sending : Sending settings now draw request store answer after)
    (unsent : ∀ receipt, answer ≠ some (.ok receipt))
    (fresh : ∀ issued, store.codes.lookup requestId = some issued → now < issued.expiresAt) :
    after.codes.lookup requestId = store.codes.lookup requestId := by
  cases sending with
  | unreachable failing => rfl
  | invalid working invalid => rfl
  | limited working valid full => exact lookup_evict settings fresh
  | broken working valid room late => exact lookup_evict settings fresh
  | issued working valid room dated => exact absurd rfl (unsent _)

theorem lookup_of_receipt
    (sending : Sending settings now draw request store (some (.ok receipt)) after) :
    receipt.requestId = draw.requestId ∧
      after.codes.lookup draw.requestId = some (issue settings now draw request.phone) := by
  cases sending with
  | issued working valid room dated => exact ⟨rfl, lookup_insert_self⟩

theorem dated_of_receipt
    (sending : Sending settings now draw request store (some (.ok receipt)) after) :
    now + settings.validity < settings.horizon := by
  cases sending with
  | issued working valid room dated => exact dated

theorem late_of_broken (sending : Sending settings now draw request store none after) :
    settings.horizon ≤ now + settings.validity := by
  cases sending with
  | broken working valid room late => exact late

theorem left_of_receipt
    (sending : Sending settings now draw request store (some (.ok receipt)) after) :
    ∃ left, receipt.quota.phone = some left ∧
      left.toNat + ((openWindow settings now request.phone store).count.toNat + 1) =
        settings.maxSends.toNat := by
  cases sending with
  | issued working valid room dated => exact ⟨_, rfl, toNat_sub_add_one_of_lt room⟩

theorem lookup_of_missing (sending : Sending settings now draw request store answer after)
    (missing : store.codes.lookup requestId = none)
    (unissued : ∀ receipt, answer = some (.ok receipt) → receipt.requestId ≠ requestId) :
    after.codes.lookup requestId = none := by
  cases sending with
  | unreachable failing => exact missing
  | invalid working invalid => exact missing
  | limited working valid full => exact lookup_filter_of_none missing
  | broken working valid room late => exact lookup_filter_of_none missing
  | issued working valid room dated =>
    have other : draw.requestId ≠ requestId := unissued _ rfl
    rw [lookup_insert_of_ne (Ne.symm other)]
    exact lookup_filter_of_none missing

theorem code_of_mem (sending : Sending settings now draw request store answer after)
    {entry : String × IssuedCode} (member : entry ∈ after.codes) :
    entry ∈ store.codes ∨ entry = (draw.requestId, issue settings now draw request.phone) := by
  cases sending with
  | unreachable failing => exact Or.inl member
  | invalid working invalid => exact Or.inl member
  | limited working valid full => exact Or.inl (List.mem_filter.mp member).1
  | broken working valid room late => exact Or.inl (List.mem_filter.mp member).1
  | issued working valid room dated =>
    rcases mem_of_mem_insert member with new | kept
    · exact Or.inr new
    · exact Or.inl (List.mem_filter.mp kept).1

theorem window_of_mem (sending : Sending settings now draw request store answer after)
    {entry : String × SendWindow} (member : entry ∈ after.windows) :
    entry ∈ store.windows ∨ entry.1 = request.phone ∧
      entry.2.startedAt = (openWindow settings now request.phone store).startedAt := by
  cases sending with
  | unreachable failing => exact Or.inl member
  | invalid working invalid => exact Or.inl member
  | _ =>
    rcases mem_of_mem_insert member with rfl | kept
    · exact Or.inr ⟨rfl, rfl⟩
    · exact Or.inl (List.mem_filter.mp kept).1

end Sending

/-! ### Verifications -/

def close (requestId : String) (store : Store) : Store :=
  { store with codes := erase requestId store.codes }

/-- The ways of a verification: what it answers, and what it leaves in the store. -/
inductive Judging (settings : Settings) (now : Nat) (request : VerifyRequest) (store : Store) :
    Except Failure Verdict → Store → Prop
  | unreachable (failing : settings.failing = true) :
      Judging settings now request store (.error unreachable) store
  | unknown (working : settings.failing = false)
      (missing : store.codes.lookup request.requestId = none) :
      Judging settings now request store (.error notFound) store
  | foreign {issued : IssuedCode} (working : settings.failing = false)
      (found : store.codes.lookup request.requestId = some issued)
      (other : issued.phone ≠ request.phone) :
      Judging settings now request store (.error notFound) store
  | expired {issued : IssuedCode} (working : settings.failing = false)
      (found : store.codes.lookup request.requestId = some issued)
      (own : issued.phone = request.phone) (late : issued.expiresAt ≤ now) :
      Judging settings now request store (.error notFound) (close request.requestId store)
  | exhausted {issued : IssuedCode} (working : settings.failing = false)
      (found : store.codes.lookup request.requestId = some issued)
      (own : issued.phone = request.phone) (fresh : now < issued.expiresAt)
      (full : maxAttempts ≤ issued.attempts) :
      Judging settings now request store (.error attemptsExceeded) (close request.requestId store)
  | confirmed {issued : IssuedCode} (working : settings.failing = false)
      (found : store.codes.lookup request.requestId = some issued)
      (own : issued.phone = request.phone) (fresh : now < issued.expiresAt)
      (room : issued.attempts < maxAttempts) (right : issued.code = request.code) :
      Judging settings now request store
        (.ok { verified := true, message := "OTP verified successfully" })
        (close request.requestId store)
  | mistaken {issued : IssuedCode} (working : settings.failing = false)
      (found : store.codes.lookup request.requestId = some issued)
      (own : issued.phone = request.phone) (fresh : now < issued.expiresAt)
      (room : issued.attempts < maxAttempts) (wrong : issued.code ≠ request.code) :
      Judging settings now request store
        (.ok {
          verified := false
          message := "Invalid OTP code"
          attemptsLeft := some (maxAttempts - (issued.attempts + 1)) })
        { store with
          codes := insert request.requestId { issued with attempts := issued.attempts + 1 }
            store.codes }

theorem verify_judging (settings : Settings) (now : Nat) (request : VerifyRequest)
    (store : Store) :
    Judging settings now request store (verify settings now request store).1
      (verify settings now request store).2 := by
  cases failing : settings.failing with
  | true =>
    rw [verify, if_pos failing]
    exact .unreachable failing
  | false =>
    rw [verify, if_neg (Bool.eq_false_iff.mp failing)]
    cases found : store.codes.lookup request.requestId with
    | none => exact .unknown failing found
    | some issued =>
      by_cases own : issued.phone = request.phone
      · have same : ¬issued.phone ≠ request.phone := not_not_intro own
        by_cases late : issued.expiresAt ≤ now
        · simp only [same, late, ↓reduceIte]
          exact .expired failing found own late
        · have fresh := Nat.lt_of_not_le late
          by_cases full : maxAttempts ≤ issued.attempts
          · simp only [same, late, full, ↓reduceIte]
            exact .exhausted failing found own fresh full
          · have room := UInt32.not_le.mp full
            by_cases right : issued.code = request.code
            · simp only [same, late, full, right, ↓reduceIte]
              exact .confirmed failing found own fresh room right
            · simp only [same, late, full, right, ↓reduceIte]
              exact .mistaken failing found own fresh room right
      · simp only [ne_eq, own, not_false_eq_true, ↓reduceIte]
        exact .foreign failing found own

namespace Judging

variable {request : VerifyRequest} {answer : Except Failure Verdict} {after : Store}
  {issued : IssuedCode}

theorem windows_eq (judging : Judging settings now request store answer after) :
    after.windows = store.windows := by
  cases judging with
  | _ => rfl

theorem sends_eq (judging : Judging settings now request store answer after) :
    after.sends = store.sends := by
  cases judging with
  | _ => rfl

theorem lookup_of_ne (judging : Judging settings now request store answer after)
    {requestId : String} (other : requestId ≠ request.requestId) :
    after.codes.lookup requestId = store.codes.lookup requestId := by
  cases judging with
  | unreachable failing => rfl
  | unknown working missing => rfl
  | foreign working found own => rfl
  | expired working found own late => exact lookup_erase_of_ne other
  | exhausted working found own fresh full => exact lookup_erase_of_ne other
  | confirmed working found own fresh room right => exact lookup_erase_of_ne other
  | mistaken working found own fresh room wrong => exact lookup_insert_of_ne other

theorem code_of_mem (judging : Judging settings now request store answer after)
    {entry : String × IssuedCode} (member : entry ∈ after.codes) :
    entry ∈ store.codes ∨ ∃ issued, (entry.1, issued) ∈ store.codes ∧
      issued.attempts < maxAttempts ∧
        entry.2 = { issued with attempts := issued.attempts + 1 } := by
  cases judging with
  | unreachable failing => exact Or.inl member
  | unknown working missing => exact Or.inl member
  | foreign working found own => exact Or.inl member
  | expired working found own late => exact Or.inl (mem_of_mem_erase member)
  | exhausted working found own fresh full => exact Or.inl (mem_of_mem_erase member)
  | confirmed working found own fresh room right => exact Or.inl (mem_of_mem_erase member)
  | mistaken working found own fresh room wrong =>
    rcases mem_of_mem_insert member with rfl | kept
    · exact Or.inr ⟨_, mem_of_lookup found, room, rfl⟩
    · exact Or.inl kept

/-- A code that is held and has not run out is judged, if its own phone number asks for it. -/
theorem cases_of_held (judging : Judging settings now request store answer after)
    (working : settings.failing = false)
    (held : store.codes.lookup request.requestId = some issued)
    (own : issued.phone = request.phone) (fresh : now < issued.expiresAt) :
    (maxAttempts ≤ issued.attempts ∧ answer = .error attemptsExceeded ∧
      after = close request.requestId store) ∨
    (issued.attempts < maxAttempts ∧ issued.code = request.code ∧
      answer = .ok { verified := true, message := "OTP verified successfully" } ∧
      after = close request.requestId store) ∨
    (issued.attempts < maxAttempts ∧ issued.code ≠ request.code ∧
      answer = .ok {
        verified := false
        message := "Invalid OTP code"
        attemptsLeft := some (maxAttempts - (issued.attempts + 1)) } ∧
      after = { store with
        codes := insert request.requestId { issued with attempts := issued.attempts + 1 }
          store.codes }) := by
  have same {entry : IssuedCode} (found : store.codes.lookup request.requestId = some entry) :
      entry = issued :=
    Option.some.inj (found.symm.trans held)
  cases judging with
  | unreachable failing =>
    rw [working] at failing
    cases failing
  | unknown working missing =>
    rw [held] at missing
    cases missing
  | foreign working found other =>
    obtain rfl := same found
    exact absurd own other
  | expired working found own late =>
    obtain rfl := same found
    exact absurd late (Nat.not_le.mpr fresh)
  | exhausted working found own fresh full =>
    obtain rfl := same found
    exact Or.inl ⟨full, rfl, rfl⟩
  | confirmed working found own fresh room right =>
    obtain rfl := same found
    exact Or.inr (Or.inl ⟨room, right, rfl, rfl⟩)
  | mistaken working found own fresh room wrong =>
    obtain rfl := same found
    exact Or.inr (Or.inr ⟨room, wrong, rfl, rfl⟩)

theorem notFound_of_expired (judging : Judging settings now request store answer after)
    (working : settings.failing = false)
    (past : ∀ issued, store.codes.lookup request.requestId = some issued →
      issued.expiresAt ≤ now) : answer = .error notFound := by
  cases judging with
  | unreachable failing =>
    rw [working] at failing
    cases failing
  | unknown working missing => rfl
  | foreign working found own => rfl
  | expired working found own late => rfl
  | exhausted working found own fresh full =>
    exact absurd (past _ found) (Nat.not_le.mpr fresh)
  | confirmed working found own fresh room right =>
    exact absurd (past _ found) (Nat.not_le.mpr fresh)
  | mistaken working found own fresh room wrong =>
    exact absurd (past _ found) (Nat.not_le.mpr fresh)

theorem closed_of_verified {verdict : Verdict}
    (judging : Judging settings now request store (.ok verdict) after)
    (verified : verdict.verified = true) :
    store.codes.lookup request.requestId ≠ none ∧
      after.codes.lookup request.requestId = none := by
  cases judging with
  | confirmed working found own fresh room right =>
    refine ⟨?_, lookup_erase_self⟩
    rw [found]
    exact Option.some_ne_none _
  | mistaken working found own fresh room wrong => cases verified

end Judging

theorem verify_of_missing (working : settings.failing = false) {request : VerifyRequest}
    (missing : store.codes.lookup request.requestId = none) :
    verify settings now request store = (.error notFound, store) := by
  rw [verify, if_neg (Bool.eq_false_iff.mp working), missing]

theorem verify_of_foreign (working : settings.failing = false) {request : VerifyRequest}
    (foreign : ∀ issued, store.codes.lookup request.requestId = some issued →
      issued.phone ≠ request.phone) :
    verify settings now request store = (.error notFound, store) := by
  cases found : store.codes.lookup request.requestId with
  | none => exact verify_of_missing working found
  | some issued =>
    rw [verify, if_neg (Bool.eq_false_iff.mp working), found]
    exact if_pos (foreign issued found)

end Passcode.Issuer
