import Passcode.Proofs.Issuer.Run

/-!
The life of a code. What a submitted code is answered depends only on the codes that were submitted
before it for the same request and phone number; no other call has a part in it. A code is judged at
most five times, and confirmed at most once.
-/

set_option autoImplicit false

namespace Passcode.Issuer

/-! ### The codes submitted for one request -/

/-- What a call submits for a request of `phone`. -/
def Query.submits (phone requestId : String) : Query → Option String
  | send _ _ _ => none
  | verify _ request =>
    if request.requestId = requestId ∧ request.phone = phone then some request.code else none

def submissions (phone requestId : String) (queries : List Query) : List String :=
  queries.filterMap (Query.submits phone requestId)

/-- What `submitted` is answered for the code `code` once `tries` were submitted for it. -/
def judgement (code : String) (tries : List String) (submitted : String) :
    Except Failure Verdict :=
  if code ∈ tries ∨ 5 < tries.length then .error notFound
  else if tries.length = 5 then .error attemptsExceeded
  else if submitted = code then .ok { verified := true, message := "OTP verified successfully" }
  else .ok {
    verified := false
    message := "Invalid OTP code"
    attemptsLeft := some (UInt32.ofNat (4 - tries.length)) }

/-- What the store holds of a code once `tries` were submitted for it: nothing, if one of them was
right or the attempts were exceeded. -/
def standing (issued : IssuedCode) (tries : List String) : Option IssuedCode :=
  if issued.code ∈ tries ∨ 5 < tries.length then none
  else some { issued with attempts := UInt32.ofNat tries.length }

section

variable {issued : IssuedCode} {tries : List String}

theorem standing_of_closed (closed : issued.code ∈ tries ∨ 5 < tries.length) :
    standing issued tries = none := by
  rw [standing, if_pos closed]

theorem standing_of_open (unseen : issued.code ∉ tries) (few : tries.length ≤ 5) :
    standing issued tries = some { issued with attempts := UInt32.ofNat tries.length } := by
  rw [standing, if_neg]
  rintro (seen | many)
  · exact unseen seen
  · omega

theorem standing_append_of_closed (closed : issued.code ∈ tries ∨ 5 < tries.length)
    (later : List String) : standing issued (tries ++ later) = none := by
  apply standing_of_closed
  rcases closed with seen | many
  · exact Or.inl (List.mem_append_left later seen)
  · rw [List.length_append]
    exact Or.inr (by omega)

theorem eq_of_standing {entry : IssuedCode} (held : standing issued tries = some entry) :
    entry = { issued with attempts := UInt32.ofNat tries.length } := by
  rw [standing] at held
  split at held
  · cases held
  · exact (Option.some.inj held).symm

end

/-! ### One submission -/

private theorem toNat_attempts {n : Nat} (few : n ≤ 5) : (UInt32.ofNat n).toNat = n :=
  UInt32.toNat_ofNat_of_lt' (Nat.lt_of_le_of_lt few (by decide))

private theorem attempts_lt_iff {n : Nat} (few : n ≤ 5) :
    UInt32.ofNat n < maxAttempts ↔ n < 5 := by
  rw [UInt32.lt_iff_toNat_lt, toNat_attempts few]
  rfl

private theorem attemptsLeft_eq {n : Nat} (few : n < 5) :
    maxAttempts - (UInt32.ofNat n + 1) = UInt32.ofNat (4 - n) := by
  have below : UInt32.ofNat n < maxAttempts := (attempts_lt_iff (by omega)).mpr few
  have left := toNat_sub_add_one_of_lt below
  have counted : (UInt32.ofNat n).toNat = n := toNat_attempts (by omega)
  have limit : maxAttempts.toNat = 5 := rfl
  apply UInt32.toNat_inj.mp
  rw [toNat_attempts (by omega)]
  omega

variable {settings : Settings} {now : Nat} {store : Store} {issued : IssuedCode}
  {tries : List String}

/-- A code that is submitted for a request is judged by the codes submitted before, and counts as
one of them from then on. -/
theorem verify_of_standing (working : settings.failing = false) {request : VerifyRequest}
    (held : store.codes.lookup request.requestId = standing issued tries)
    (own : request.phone = issued.phone) (fresh : now < issued.expiresAt) :
    (verify settings now request store).1 = judgement issued.code tries request.code ∧
      (verify settings now request store).2.codes.lookup request.requestId =
        standing issued (tries ++ [request.code]) := by
  by_cases closed : issued.code ∈ tries ∨ 5 < tries.length
  · have missing := held.trans (standing_of_closed closed)
    rw [verify_of_missing working missing, standing_append_of_closed closed, judgement,
      if_pos closed]
    exact ⟨rfl, missing⟩
  · obtain ⟨unseen, few⟩ := not_or.mp closed
    rw [Nat.not_lt] at few
    rw [standing_of_open unseen few] at held
    have longer : (tries ++ [request.code]).length = tries.length + 1 := List.length_append
    rw [judgement, if_neg closed]
    -- Of the ways of a verification only those of a code that is held are left.
    rcases (verify_judging settings now request store).cases_of_held working held own.symm fresh
      with ⟨full, answered, left⟩ | ⟨room, right, answered, left⟩ | ⟨room, wrong, answered, left⟩
    · have all : tries.length = 5 := by
        have enough := mt (attempts_lt_iff few).mpr (UInt32.not_lt.mpr full)
        omega
      rw [if_pos all, standing_of_closed (Or.inr (by omega)), left]
      exact ⟨answered, lookup_erase_self⟩
    · have notAll : tries.length < 5 := (attempts_lt_iff few).mp room
      have seen : issued.code ∈ tries ++ [request.code] :=
        List.mem_append_right tries (List.mem_singleton.mpr right)
      rw [if_neg (Nat.ne_of_lt notAll), if_pos right.symm, standing_of_closed (Or.inl seen), left]
      exact ⟨answered, lookup_erase_self⟩
    · have notAll : tries.length < 5 := (attempts_lt_iff few).mp room
      have unseen' : issued.code ∉ tries ++ [request.code] := by
        rw [List.mem_append, List.mem_singleton]
        rintro (seen | right)
        · exact unseen seen
        · exact wrong right
      rw [attemptsLeft_eq notAll] at answered
      rw [if_neg (Nat.ne_of_lt notAll), if_neg (Ne.symm wrong),
        standing_of_open unseen' (by omega), longer, UInt32.ofNat_add, left]
      exact ⟨answered, lookup_insert_self⟩

/-! ### Whole runs -/

variable {requestId : String} {q : Query} {queries : List Query}

theorem lookup_serve (working : settings.failing = false)
    (held : store.codes.lookup requestId = standing issued tries)
    (fresh : q.now < issued.expiresAt) (other : q.drawn ≠ some requestId) :
    (store.serve settings q).2.codes.lookup requestId =
      standing issued (tries ++ submissions issued.phone requestId [q]) := by
  cases q with
  | send now draw request =>
    have nothing : submissions issued.phone requestId [.send now draw request] = [] := rfl
    rw [nothing, List.append_nil, ← held]
    apply (send_sending settings now draw request store).lookup_of_ne
    · intro same
      exact other (congrArg some same.symm)
    · intro entry found
      rw [eq_of_standing (held.symm.trans found)]
      exact fresh
  | verify now request =>
    by_cases same : request.requestId = requestId
    · subst same
      by_cases own : request.phone = issued.phone
      · have one : submissions issued.phone request.requestId [.verify now request] =
            [request.code] := by
          simp [submissions, Query.submits, own]
        rw [one]
        exact (verify_of_standing working held own fresh).2
      · have nothing : submissions issued.phone request.requestId [.verify now request] = [] := by
          simp [submissions, Query.submits, own]
        have foreign : verify settings now request store = (.error notFound, store) := by
          apply verify_of_foreign working
          intro entry found
          rw [eq_of_standing (held.symm.trans found)]
          exact Ne.symm own
        rw [nothing, List.append_nil, ← held, Store.serve, foreign]
    · have nothing : submissions issued.phone requestId [.verify now request] = [] := by
        simp [submissions, Query.submits, same]
      rw [nothing, List.append_nil, ← held]
      exact (verify_judging settings now request store).lookup_of_ne (Ne.symm same)

theorem lookup_after (working : settings.failing = false)
    (held : store.codes.lookup requestId = standing issued tries)
    (fresh : ∀ q ∈ queries, q.now < issued.expiresAt)
    (others : ∀ q ∈ queries, q.drawn ≠ some requestId) :
    (store.after settings queries).codes.lookup requestId =
      standing issued (tries ++ submissions issued.phone requestId queries) := by
  -- The codes submitted so far are the invariant: each call adds its own to them.
  induction queries generalizing store tries with
  | nil =>
    rw [show submissions issued.phone requestId [] = [] from rfl, List.append_nil]
    exact held
  | cons q queries ih =>
    have split : submissions issued.phone requestId (q :: queries) =
        submissions issued.phone requestId [q] ++ submissions issued.phone requestId queries :=
      List.filterMap_append (l := [q])
    have next := lookup_serve working held (fresh q List.mem_cons_self)
      (others q List.mem_cons_self)
    rw [Store.after_cons, split, ← List.append_assoc]
    apply ih next
    · intro later member
      exact fresh later (List.mem_cons_of_mem q member)
    · intro later member
      exact others later (List.mem_cons_of_mem q member)

/-! ### Requests that are not held -/

theorem drawn_of_receipt {receipt : SendReceipt}
    (answered : (store.serve settings q).1 = .sent (some (.ok receipt))) :
    q.drawn = some receipt.requestId := by
  cases q with
  | send now draw request =>
    have sending := send_sending settings now draw request store
    rw [Answer.sent.inj answered] at sending
    exact congrArg some sending.lookup_of_receipt.1.symm
  | verify now request => cases answered

theorem lookup_serve_of_missing (working : settings.failing = false)
    (missing : store.codes.lookup requestId = none)
    (unissued : ∀ receipt, (store.serve settings q).1 = .sent (some (.ok receipt)) →
      receipt.requestId ≠ requestId) :
    (store.serve settings q).2.codes.lookup requestId = none := by
  cases q with
  | send now draw request =>
    apply (send_sending settings now draw request store).lookup_of_missing missing
    intro receipt sent
    exact unissued receipt (congrArg Answer.sent sent)
  | verify now request =>
    by_cases same : request.requestId = requestId
    · subst same
      rw [Store.serve, verify_of_missing working missing]
      exact missing
    · rw [Store.serve, (verify_judging settings now request store).lookup_of_ne (Ne.symm same)]
      exact missing

theorem lookup_serve_of_undrawn (working : settings.failing = false)
    (missing : store.codes.lookup requestId = none) (other : q.drawn ≠ some requestId) :
    (store.serve settings q).2.codes.lookup requestId = none := by
  apply lookup_serve_of_missing working missing
  intro receipt answered same
  apply other
  rw [drawn_of_receipt answered, same]

theorem lookup_after_of_missing (working : settings.failing = false)
    (missing : store.codes.lookup requestId = none)
    (unissued : ∀ entry ∈ store.transcript settings queries, ∀ receipt,
      entry.2 = .sent (some (.ok receipt)) → receipt.requestId ≠ requestId) :
    (store.after settings queries).codes.lookup requestId = none := by
  induction queries generalizing store with
  | nil => exact missing
  | cons q queries ih =>
    apply ih
    · apply lookup_serve_of_missing working missing
      exact unissued _ List.mem_cons_self
    · intro entry member
      exact unissued entry (List.mem_cons_of_mem _ member)

/-! ### Confirmations -/

def confirms (requestId : String) : Query × Answer → Bool
  | (.verify _ request, .judged (.ok verdict)) =>
    request.requestId == requestId && verdict.verified
  | _ => false

theorem closed_of_confirms (confirmed : confirms requestId (q, (store.serve settings q).1) = true) :
    store.codes.lookup requestId ≠ none ∧
      (store.serve settings q).2.codes.lookup requestId = none := by
  cases q with
  | send now draw request => cases confirmed
  | verify now request =>
    have judging := verify_judging settings now request store
    simp only [Store.serve] at confirmed ⊢
    cases answered : (verify settings now request store).1 with
    | error failure =>
      rw [answered] at confirmed
      cases confirmed
    | ok verdict =>
      rw [answered] at judging confirmed
      simp only [confirms, Bool.and_eq_true, beq_iff_eq] at confirmed
      obtain ⟨rfl, verified⟩ := confirmed
      exact judging.closed_of_verified verified

theorem countP_confirms_of_missing (working : settings.failing = false)
    (missing : store.codes.lookup requestId = none)
    (others : ∀ q ∈ queries, q.drawn ≠ some requestId) :
    (store.transcript settings queries).countP (confirms requestId) = 0 := by
  induction queries generalizing store with
  | nil => rfl
  | cons q queries ih =>
    have unconfirmed : ¬confirms requestId (q, (store.serve settings q).1) = true := by
      intro confirmed
      exact (closed_of_confirms confirmed).1 missing
    have still := lookup_serve_of_undrawn working missing (others q List.mem_cons_self)
    rw [Store.transcript, List.countP_cons_of_neg unconfirmed]
    apply ih still
    intro later member
    exact others later (List.mem_cons_of_mem q member)

theorem countP_confirms_le (working : settings.failing = false) (distinct : Distinct queries)
    (known : store.codes.lookup requestId ≠ none → ∀ q ∈ queries, q.drawn ≠ some requestId) :
    (store.transcript settings queries).countP (confirms requestId) ≤ 1 := by
  induction queries generalizing store with
  | nil => exact Nat.zero_le 1
  | cons q queries ih =>
    rw [Store.transcript]
    by_cases confirmed : confirms requestId (q, (store.serve settings q).1) = true
    · obtain ⟨held, closed⟩ := closed_of_confirms confirmed
      have others : ∀ later ∈ queries, later.drawn ≠ some requestId := by
        intro later member
        exact known held later (List.mem_cons_of_mem q member)
      have unconfirmed := countP_confirms_of_missing working closed others
      rw [List.countP_cons_of_pos confirmed]
      omega
    · rw [List.countP_cons_of_neg confirmed]
      apply ih distinct.tail
      -- A request that is held after the call was held before it or is drawn by it.
      intro held later member
      by_cases drawn : q.drawn = some requestId
      · have whole : Distinct ([] ++ q :: queries) := distinct
        exact whole.others drawn later member
      · have held' : store.codes.lookup requestId ≠ none := by
          intro missing
          exact held (lookup_serve_of_undrawn working missing drawn)
        exact known held' later (List.mem_cons_of_mem q member)

/-! ### The life of a code -/

section

variable {before middle : List Query} {later : Nat} {draw : Draw} {request : SendRequest}
  {confirm : VerifyRequest} {receipt : SendReceipt}

theorem lookup_of_issued (working : settings.failing = false)
    (distinct : Distinct (before ++ .send now draw request :: middle))
    (lasting : Lasting settings
      (before ++ .send now draw request :: (middle ++ [.verify later confirm])))
    (sent : (send settings now draw request (Store.after settings {} before)).1 =
      some (.ok receipt))
    (about : confirm.requestId = receipt.requestId) :
    (Store.after settings {} (before ++ .send now draw request :: middle)).codes.lookup
        confirm.requestId =
      standing (issue settings now draw request.phone)
        (submissions request.phone receipt.requestId middle) := by
  have sending := send_sending settings now draw request (Store.after settings {} before)
  rw [sent] at sending
  obtain ⟨named, held⟩ := sending.lookup_of_receipt
  rw [named] at about ⊢
  -- Right after its send the code stands with no submissions; from there the run lemma applies.
  have initial : ((Store.after settings {} before).serve settings
      (.send now draw request)).2.codes.lookup draw.requestId =
        standing (issue settings now draw request.phone) [] := held
  rw [about, Store.after_append settings {} before, Store.after_cons]
  exact lookup_after working initial
    (fun q member => lasting.fresh q (List.mem_append_left _ member)) (distinct.others rfl)

theorem fresh_of_issued
    (lasting : Lasting settings
      (before ++ .send now draw request :: (middle ++ [.verify later confirm]))) :
    later < (issue settings now draw request.phone).expiresAt :=
  lasting.fresh (.verify later confirm) (List.mem_append_right _ List.mem_cons_self)

end

/-- Codes without any validity have run out when they are submitted. -/
theorem verify_of_no_validity (working : settings.failing = false) (invalid : settings.validity = 0)
    {run : List Query} {later : Nat} {confirm : VerifyRequest}
    (ordered : InOrder (run ++ [.verify later confirm])) :
    (verify settings later confirm (Store.after settings {} run)).1 = .error notFound := by
  apply (verify_judging settings later confirm _).notFound_of_expired working
  intro entry found
  obtain ⟨q, asked, -, runsOut⟩ := Store.expiresAt_of_mem_after _ (mem_of_lookup found)
  rw [InOrder, List.map_append] at ordered
  have earlier := (List.pairwise_append.mp ordered).2.2 q.now (List.mem_map_of_mem asked) later
    List.mem_cons_self
  rw [runsOut, invalid]
  omega

/-- What becomes of the codes of a service, over all its runs. -/
structure CodeLife (settings : Settings) : Prop where
  /-- From the send that issues it on, a code is judged by the codes submitted for it with its phone
  number, whatever else is asked in between. -/
  judged : ∀ (before : List Query) (now : Nat) (draw : Draw) (request : SendRequest)
      (middle : List Query) (later : Nat) (confirm : VerifyRequest) (receipt : SendReceipt),
    Distinct (before ++ .send now draw request :: middle) →
    Lasting settings (before ++ .send now draw request :: (middle ++ [.verify later confirm])) →
    (send settings now draw request (Store.after settings {} before)).1 = some (.ok receipt) →
    confirm.requestId = receipt.requestId →
    confirm.phone = request.phone →
    (verify settings later confirm
        (Store.after settings {} (before ++ .send now draw request :: middle))).1 =
      judgement (Code.ofNumber draw.number)
        (submissions request.phone receipt.requestId middle) confirm.code
  /-- With another phone number, or for a request that no receipt named, nothing is found and
  nothing changes. -/
  foreign : ∀ (before : List Query) (now : Nat) (draw : Draw) (request : SendRequest)
      (middle : List Query) (later : Nat) (confirm : VerifyRequest) (receipt : SendReceipt),
    Distinct (before ++ .send now draw request :: middle) →
    Lasting settings (before ++ .send now draw request :: (middle ++ [.verify later confirm])) →
    (send settings now draw request (Store.after settings {} before)).1 = some (.ok receipt) →
    confirm.requestId = receipt.requestId →
    confirm.phone ≠ request.phone →
    let store := Store.after settings {} (before ++ .send now draw request :: middle)
    verify settings later confirm store = (.error notFound, store)
  unknown : ∀ (run : List Query) (later : Nat) (confirm : VerifyRequest),
    (∀ entry ∈ Store.transcript settings {} run, ∀ receipt,
      entry.2 = .sent (some (.ok receipt)) → receipt.requestId ≠ confirm.requestId) →
    verify settings later confirm (Store.after settings {} run) =
      (.error notFound, Store.after settings {} run)
  confirmedOnce : ∀ run : List Query, Distinct run → ∀ requestId,
    (Store.transcript settings {} run).countP (confirms requestId) ≤ 1
  attempts_le : ∀ run : List Query, ∀ entry ∈ (Store.after settings {} run).codes,
    entry.2.attempts ≤ 5
  notFound_of_no_validity : settings.validity = 0 →
    ∀ (run : List Query) (later : Nat) (confirm : VerifyRequest),
      InOrder (run ++ [.verify later confirm]) →
      (verify settings later confirm (Store.after settings {} run)).1 = .error notFound

/-- A code is judged by what is submitted for it, at most five times, and confirmed at most once. -/
theorem code_life (working : settings.failing = false) : CodeLife settings where
  judged before now draw request middle later confirm receipt distinct lasting sent about own := by
    have stands := lookup_of_issued working distinct lasting sent about
    exact (verify_of_standing working stands own (fresh_of_issued lasting)).1
  foreign before now draw request middle later confirm receipt distinct lasting sent about
      foreign := by
    intro store
    apply verify_of_foreign working
    intro entry found
    have stands := lookup_of_issued working distinct lasting sent about
    rw [eq_of_standing (stands.symm.trans found)]
    exact Ne.symm foreign
  unknown run later confirm unissued := by
    apply verify_of_missing working
    exact lookup_after_of_missing working rfl unissued
  confirmedOnce run distinct requestId := by
    apply countP_confirms_le working distinct
    intro held
    exact absurd rfl held
  attempts_le run := Store.attempts_le_of_mem_after settings run
  notFound_of_no_validity invalid run later confirm ordered :=
    verify_of_no_validity working invalid ordered

/-- After five wrong codes the right one is refused, whatever else was asked in between. -/
theorem code_life_after_five_wrong_codes :
    let draw : Draw := ⟨"R2", 42⟩
    let request : SendRequest := ⟨"0912345678", []⟩
    let wrong : Query := .verify 2 ⟨"0912345678", "111111", "R2"⟩
    let before : List Query := [.send 0 ⟨"R1", 7⟩ ⟨"0987654321", []⟩]
    let middle : List Query := [wrong, .send 2 ⟨"R3", 9⟩ request, wrong,
      .verify 2 ⟨"0987654321", "000042", "R2"⟩, wrong, .verify 2 ⟨"0987654321", "111111", "R1"⟩,
      wrong, wrong]
    let store := Store.after {} {} (before ++ .send 1 draw request :: middle)
    ({} : Settings).failing = false ∧ Distinct (before ++ .send 1 draw request :: middle) ∧
      (verify {} 3 ⟨"0912345678", "000042", "R2"⟩ store).1 = .error attemptsExceeded := by
  intro draw request wrong before middle store
  have working : ({} : Settings).failing = false := rfl
  have distinct : Distinct (before ++ .send 1 draw request :: middle) := by decide +kernel
  have judged := (code_life working).judged before 1 draw request middle 3
    ⟨"0912345678", "000042", "R2"⟩ ⟨"zalo", "R2", 300, "09****5678", ⟨some 4, none⟩⟩
    distinct (by decide +kernel) (by decide +kernel) rfl rfl
  have refused : judgement (Code.ofNumber draw.number)
      (submissions request.phone "R2" middle) "000042" = .error attemptsExceeded := by
    decide +kernel
  exact ⟨working, distinct, judged.trans refused⟩

end Passcode.Issuer
