import Passcode.Proofs.Issuer.Tandem

/-!
Session and service stay in step. While a code is awaited, the session's counter is what is left of
the service's window, and its attempts are those that the service has counted, until the request was
confirmed.
-/

set_option autoImplicit false

namespace Passcode.Issuer

namespace Tandem

/-- The service holds the request of the session as `issued`, and the session knows what is left of
its attempts once one is counted. -/
structure Holds (t : Tandem) (issued : IssuedCode) : Prop where
  found : t.store.codes.lookup t.session.state.requestId = some issued
  own : issued.phone = t.session.state.phone
  few : issued.attempts ≤ maxAttempts
  left : t.session.state.attemptsLeft =
    if issued.attempts = 0 then none else some (maxAttempts - issued.attempts)

structure Confirmed (t : Tandem) : Prop where
  missing : t.store.codes.lookup t.session.state.requestId = none
  confirmed : ∃ sight ∈ t.sights, ∃ now request, sight.query = some (.verify now request) ∧
    request.requestId = t.session.state.requestId ∧ sight.outcome = some .verified

structure Coupled (settings : Settings) (t : Tandem) : Prop where
  counter : ∃ left, t.session.state.quota.phone = some left ∧
    left.toNat + t.sentTo t.session.state.phone = settings.maxSends.toNat
  request : (∃ issued, t.Holds issued) ∨ t.Confirmed

end Tandem

variable {settings : Settings} {t : Tandem} {query : Option Query} {after : Session}
  {outcome : Option Outcome} {left : Store}

namespace Tandem.Coupled

theorem counter_next (coupled : t.Coupled settings)
    (phone : after.state.phone = t.session.state.phone)
    (quota : after.state.quota = t.session.state.quota) (unsent : outcome ≠ some .sent) :
    ∃ n, after.state.quota.phone = some n ∧
      n.toNat + (t.next query (after, outcome, left)).sentTo after.state.phone =
        settings.maxSends.toNat := by
  obtain ⟨n, known, total⟩ := coupled.counter
  refine ⟨n, quota ▸ known, ?_⟩
  rw [sentTo_next, Sight.countP_sentTo_of_unsent unsent, phone]
  exact total

/-- What leaves the request as it stands on both sides leaves them in step. -/
theorem carry (coupled : t.Coupled settings) (same : SameRequest t.session.state after.state)
    (unsent : outcome ≠ some .sent)
    (kept : left.codes.lookup t.session.state.requestId =
      t.store.codes.lookup t.session.state.requestId) :
    (t.next query (after, outcome, left)).Coupled settings := by
  have now : left.codes.lookup after.state.requestId =
      t.store.codes.lookup t.session.state.requestId := by
    rw [same.requestId]
    exact kept
  refine ⟨coupled.counter_next same.phone same.quota unsent, ?_⟩
  rcases coupled.request with ⟨issued, holds⟩ | ⟨missing, sight, member, moment, request, spent⟩
  · refine Or.inl ⟨issued, now.trans holds.found, ?_, holds.few, ?_⟩
    · exact holds.own.trans same.phone.symm
    · exact same.attemptsLeft.trans holds.left
  · refine Or.inr ⟨now.trans missing, sight, List.mem_append_left _ member, moment, request, ?_⟩
    rw [← same.requestId] at spent
    exact spent

end Tandem.Coupled

/-! ### Sends -/

theorem coupled_of_sends {now : Nat} {draw : Draw} {phone code : String}
    {returned : Option Outcome}
    (sends : Session.Sends t.session phone code
      (send settings now draw ⟨phone, t.session.channels⟩ t.store).1 after returned)
    (named : draw.requestId ≠ "")
    (fresh : ∀ entry ∈ t.store.codes, now < entry.2.expiresAt)
    (counted : now + settings.validity < settings.horizon →
      (openWindow settings now phone t.store).count.toNat = t.sentTo phone)
    (coupled : t.session.state.step = .awaitingCode → t.Coupled settings)
    (awaited : after.state.step = .awaitingCode) :
    (t.next query (after, returned,
      (send settings now draw ⟨phone, t.session.channels⟩ t.store).2)).Coupled settings := by
  have sending := send_sending settings now draw ⟨phone, t.session.channels⟩ t.store
  generalize send settings now draw ⟨phone, t.session.channels⟩ t.store = result
    at sends sending ⊢
  obtain ⟨answer, left⟩ := result
  have kept (unsent : ∀ receipt, answer ≠ some (.ok receipt)) :
      left.codes.lookup t.session.state.requestId =
        t.store.codes.lookup t.session.state.requestId := by
    apply sending.lookup_of_unsent unsent
    intro issued found
    exact fresh _ (mem_of_lookup found)
  cases sends with
  | @sent receipt _ =>
    obtain ⟨same, held⟩ := sending.lookup_of_receipt
    obtain ⟨n, reported, total⟩ := sending.left_of_receipt
    refine ⟨⟨n, ?_, ?_⟩, Or.inl ⟨issue settings now draw phone, ?_, rfl, ?_, rfl⟩⟩
    · show receipt.quota.phone.or t.session.state.quota.phone = some n
      rw [reported]
      rfl
    · calc
        n.toNat + (t.next query (_, some .sent, _)).sentTo phone =
            n.toNat + (t.sentTo phone + 1) :=
          congrArg (n.toNat + ·) (t.sentTo_next_of_sent query rfl rfl)
        _ = n.toNat + ((openWindow settings now phone t.store).count.toNat + 1) := by
          rw [counted sending.dated_of_receipt]
        _ = settings.maxSends.toNat := total
    · show List.lookup receipt.requestId _ = _
      rw [same]
      exact held
    · show (0 : UInt32) ≤ maxAttempts
      decide
  | failed fault =>
    cases fault with
    | unnamed unnamed =>
      rw [sending.lookup_of_receipt.1] at unnamed
      exact absurd unnamed named
    | failure failure =>
      refine (coupled awaited).carry ⟨rfl, rfl, rfl, rfl, rfl⟩ ?_ (kept nofun)
      intro sent
      cases sent
  | broken => exact (coupled awaited).carry ⟨rfl, rfl, rfl, rfl, rfl⟩ nofun (kept nofun)

/-! ### Verifications -/

private theorem left_of_mistaken {issued : IssuedCode} (room : issued.attempts < maxAttempts)
    (known : Option UInt32) :
    (some (maxAttempts - (issued.attempts + 1))).or known =
      if issued.attempts + 1 = 0 then none else some (maxAttempts - (issued.attempts + 1)) := by
  have positive : issued.attempts + 1 ≠ 0 := by
    intro zero
    have next := toNat_add_one_of_lt room
    rw [zero] at next
    cases next
  rw [if_neg positive]
  rfl

theorem coupled_of_settles_held (working : settings.failing = false) {now : Nat} {code : String}
    {returned : Outcome} (step : t.session.state.step = .awaitingCode)
    (settled : Session.Settles t.session code
      (verify settings now ⟨t.session.state.phone, code, t.session.state.requestId⟩ t.store).1
      after returned)
    (fresh : ∀ entry ∈ t.store.codes, now < entry.2.expiresAt)
    (coupled : t.Coupled settings) {issued : IssuedCode} (holds : t.Holds issued)
    (stays : after.state.step ≠ .awaitingPhone) :
    (t.next (some (.verify now ⟨t.session.state.phone, code, t.session.state.requestId⟩))
      (after, some returned,
        (verify settings now ⟨t.session.state.phone, code, t.session.state.requestId⟩
          t.store).2)).Coupled settings := by
  have unsent : some returned ≠ some .sent := by
    intro sent
    exact settled.ne_sent (Option.some.inj sent)
  have judging := verify_judging settings now
    ⟨t.session.state.phone, code, t.session.state.requestId⟩ t.store
  generalize verify settings now ⟨t.session.state.phone, code, t.session.state.requestId⟩
    t.store = result at judging settled ⊢
  obtain ⟨answer, left⟩ := result
  rcases judging.cases_of_held working holds.found holds.own (fresh _ (mem_of_lookup holds.found))
    with ⟨-, rfl, rfl⟩ | ⟨room, right, rfl, rfl⟩ | ⟨room, wrong, rfl, rfl⟩
  · exact absurd ((settled.restarts_iff step).mpr ⟨_, rfl, Or.inr rfl⟩) stays
  · cases settled with
    | rejected refused => cases refused
    | verified accepted =>
      exact ⟨coupled.counter_next rfl rfl unsent, Or.inr ⟨lookup_erase_self, _,
        List.mem_append_right _ List.mem_cons_self, now, _, rfl, rfl, rfl⟩⟩
  · cases settled with
    | verified accepted => cases accepted
    | rejected refused =>
      refine ⟨coupled.counter_next rfl rfl unsent,
        Or.inl ⟨_, lookup_insert_self, holds.own, ?_, ?_⟩⟩
      · exact add_one_le_of_lt room
      · exact left_of_mistaken room t.session.state.attemptsLeft

theorem coupled_of_settles (working : settings.failing = false) {now : Nat} {code : String}
    {returned : Outcome} (step : t.session.state.step = .awaitingCode)
    (settled : Session.Settles t.session code
      (verify settings now ⟨t.session.state.phone, code, t.session.state.requestId⟩ t.store).1
      after returned)
    (fresh : ∀ entry ∈ t.store.codes, now < entry.2.expiresAt)
    (coupled : t.Coupled settings) (awaited : after.state.step = .awaitingCode) :
    (t.next (some (.verify now ⟨t.session.state.phone, code, t.session.state.requestId⟩))
      (after, some returned,
        (verify settings now ⟨t.session.state.phone, code, t.session.state.requestId⟩
          t.store).2)).Coupled settings := by
  have stays : after.state.step ≠ .awaitingPhone := by
    rw [awaited]
    exact Step.noConfusion
  rcases coupled.request with ⟨issued, holds⟩ | confirmed
  · exact coupled_of_settles_held working step settled fresh coupled holds stays
  · rw [verify_of_missing working confirmed.missing] at settled
    exact absurd ((settled.restarts_iff step).mpr ⟨_, rfl, Or.inl rfl⟩) stays

/-! ### Whole runs -/

/-- What holds of session and service after every move. -/
structure Paired (settings : Settings) (t : Tandem) : Prop where
  free : t.session.busy = false
  served : t.store = Store.after settings {} t.queries
  counted : (∀ q ∈ t.queries, q.now + settings.validity < settings.horizon) →
    ∀ phone, t.sentTo phone = spent settings phone t.queries
  coupled : t.session.state.step = .awaitingCode → t.Coupled settings

/-- No code and no window runs out between two calls, by a clock that does not run backwards past
the point from which it cannot tell the end of a code. A request id that is drawn is an identifier,
never an empty text; it is not even needed that no two are the same. -/
structure Undisturbed (settings : Settings) (queries : List Query) : Prop where
  lasting : Lasting settings queries
  enduring : Enduring settings queries
  steady : Steady settings queries
  named : ∀ q ∈ queries, q.drawn ≠ some ""

theorem Undisturbed.of_append {before after : List Query}
    (undisturbed : Undisturbed settings (before ++ after)) : Undisturbed settings before where
  lasting := undisturbed.lasting.of_append
  enduring := undisturbed.enduring.of_append
  steady := undisturbed.steady.of_append
  named q asked := undisturbed.named q (List.mem_append_left after asked)

namespace Paired

theorem lt_expiresAt (paired : Paired settings t) {q : Query}
    (lasting : Lasting settings (t.queries ++ [q])) :
    ∀ entry ∈ t.store.codes, q.now < entry.2.expiresAt := by
  rw [paired.served]
  exact lasting.lt_expiresAt

theorem count_openWindow (paired : Paired settings t) {q : Query}
    (undisturbed : Undisturbed settings (t.queries ++ [q]))
    (dated : q.now + settings.validity < settings.horizon) (phone : String) :
    (openWindow settings q.now phone t.store).count.toNat = t.sentTo phone := by
  have enduring := undisturbed.enduring
  rw [paired.counted (undisturbed.steady.dated dated),
    ← counted_after (enduring.of_append.spans phone), paired.served]
  exact Issuer.count_openWindow (enduring.spans phone).isOver_eq_false

theorem coupled_next (working : settings.failing = false) (paired : Paired settings t)
    (undisturbed : Undisturbed settings (t.queries ++ query.toList))
    (played : Played settings t.session t.store query (after, outcome, left))
    (awaited : after.state.step = .awaitingCode) :
    (t.next query (after, outcome, left)).Coupled settings := by
  cases played with
  | within free unsent same =>
    have stood := same awaited
    exact (paired.coupled (stood.step.symm.trans awaited)).carry stood unsent rfl
  | @sends now draw phone code after returned sends =>
    have named : draw.requestId ≠ "" := by
      intro empty
      exact undisturbed.named _ (List.mem_append_right _ List.mem_cons_self) (congrArg some empty)
    exact coupled_of_sends sends named (paired.lt_expiresAt undisturbed.lasting)
      (fun dated => paired.count_openWindow undisturbed dated phone) paired.coupled awaited
  | @settles now code after returned step settled =>
    exact coupled_of_settles working step settled (paired.lt_expiresAt undisturbed.lasting)
      (paired.coupled step) awaited

theorem step (working : settings.failing = false) (paired : Paired settings t) {move : Move}
    (undisturbed : Undisturbed settings (t.step settings move).queries) :
    Paired settings (t.step settings move) := by
  have played := move.play_played paired.free settings t.store
  rw [Tandem.step] at undisturbed ⊢
  generalize move.query t.session = query at played undisturbed ⊢
  generalize move.play settings t.session t.store = result at played undisturbed ⊢
  obtain ⟨after, outcome, left⟩ := result
  rw [Tandem.queries_next] at undisturbed
  have named : ∀ q, query = some q → q.drawn ≠ some "" := by
    intro q asked
    apply undisturbed.named q
    rw [asked]
    exact List.mem_append_right _ List.mem_cons_self
  refine ⟨played.free, ?_, ?_, coupled_next working paired undisturbed played⟩
  · rw [Tandem.queries_next, Store.after_append, ← paired.served]
    exact played.store_eq
  · intro dated phone
    rw [Tandem.queries_next] at dated ⊢
    have before : ∀ q ∈ t.queries, q.now + settings.validity < settings.horizon := by
      intro q member
      exact dated q (List.mem_append_left _ member)
    have last : ∀ q, query = some q → q.now + settings.validity < settings.horizon := by
      rintro q rfl
      exact dated q (List.mem_append_right _ List.mem_cons_self)
    rw [spent_append, ← paired.served, Tandem.sentTo_next, played.countP_eq named last,
      paired.counted before]

theorem run (working : settings.failing = false) {channels : List String} {moves : List Move}
    (undisturbed : Undisturbed settings (Tandem.run settings channels moves).queries) :
    Paired settings (Tandem.run settings channels moves) := by
  -- By the last move, since the store answers it as the calls before have left it.
  induction moves using List.reverseRecOn with
  | nil =>
    refine ⟨rfl, rfl, fun _ _ => rfl, ?_⟩
    intro awaited
    cases awaited
  | append_singleton moves move ih =>
    rw [Tandem.run_append_single] at undisturbed ⊢
    have before : Undisturbed settings (Tandem.run settings channels moves).queries := by
      rw [Tandem.step, Tandem.queries_next] at undisturbed
      exact undisturbed.of_append
    exact (ih before).step working undisturbed

end Paired

theorem Tandem.Confirmed.verify_expires (working : settings.failing = false)
    (confirmed : t.Confirmed) (free : t.session.busy = false)
    (step : t.session.state.step = .awaitingCode) {code : String}
    (valid : Code.isValid code = true) (now : Nat) (draw : Draw) :
    let result := t.session.verify (service settings now draw) code t.store
    result.2.1 = .failed .expired ∧ result.1.state.step = .awaitingPhone ∧
      result.1.state.phone = t.session.state.phone := by
  have settled := Session.verify_settles free step valid (service settings now draw) t.store
  have missing : (service settings now draw).verify
      ⟨t.session.state.phone, code, t.session.state.requestId⟩ t.store =
        (.error notFound, t.store) := verify_of_missing working confirmed.missing
  rw [missing] at settled
  have back := (settled.restarts_iff step).mpr ⟨_, rfl, Or.inl rfl⟩
  exact ⟨settled.tells.1, back, settled.phone_eq⟩

/-- While a session awaits a code, its counter is what the sends to its phone number have left of
the maximum. The service holds its request and has counted the attempts that the session knows of,
or has confirmed it; then whatever code is submitted next sends the user back. -/
theorem in_step_while_code_awaited (working : settings.failing = false) (channels : List String)
    (moves : List Move)
    (undisturbed : Undisturbed settings (Tandem.run settings channels moves).queries)
    (awaited : (Tandem.run settings channels moves).session.state.step = .awaitingCode) :
    let t := Tandem.run settings channels moves
    (∃ left, t.session.state.quota.phone = some left ∧
      left.toNat + t.sentTo t.session.state.phone = settings.maxSends.toNat) ∧
    ((∃ issued, t.Holds issued) ∨
      t.Confirmed ∧ ∀ code, Code.isValid code = true → ∀ now draw,
        let result := t.session.verify (service settings now draw) code t.store
        result.2.1 = .failed .expired ∧ result.1.state.step = .awaitingPhone ∧
          result.1.state.phone = t.session.state.phone) := by
  intro t
  have paired : Paired settings t := Paired.run working undisturbed
  have coupled := paired.coupled awaited
  refine ⟨coupled.counter, ?_⟩
  rcases coupled.request with holds | confirmed
  · exact Or.inl holds
  · refine Or.inr ⟨confirmed, ?_⟩
    intro code valid now draw
    exact confirmed.verify_expires working paired.free awaited valid now draw

/-- Two sends to one phone number, a wrong code, a third send that is refused, and the right code:
the code stays awaited, and any further one is answered as expired. -/
theorem in_step_after_confirmation :
    let settings : Settings := { maxSends := 2 }
    let moves : List Move := [.send 0 ⟨"R1", 7⟩ "0912345678", .tick, .reset,
      .send 1 ⟨"R2", 42⟩ "0912345678", .verify 2 "111111", .send 3 ⟨"R3", 9⟩ "0912345678",
      .verify 4 "000042"]
    let t := Tandem.run settings [] moves
    settings.failing = false ∧ Undisturbed settings t.queries ∧
      t.session.state.step = .awaitingCode ∧ t.session.state.attemptsLeft = some 4 ∧
      t.session.state.quota.phone = some 0 ∧ t.sentTo t.session.state.phone = 2 ∧
      ∀ code, Code.isValid code = true → ∀ now draw,
        (t.session.verify (service settings now draw) code t.store).2.1 = .failed .expired := by
  intro settings moves
  have working : settings.failing = false := rfl
  have undisturbed : Undisturbed settings (Tandem.run settings [] moves).queries := by
    refine ⟨?_, ?_, ?_, ?_⟩
    · decide +kernel
    · decide +kernel
    · decide +kernel
    · decide +kernel
  have awaited : (Tandem.run settings [] moves).session.state.step = .awaitingCode := by
    decide +kernel
  refine ⟨working, undisturbed, awaited, by decide +kernel, by decide +kernel, by decide +kernel,
    ?_⟩
  rcases (in_step_while_code_awaited working [] moves undisturbed awaited).2 with
    ⟨issued, holds⟩ | ⟨-, expires⟩
  · have gone : (Tandem.run settings [] moves).store.codes.lookup
        (Tandem.run settings [] moves).session.state.requestId = none := by
      decide +kernel
    rw [holds.found] at gone
    cases gone
  · intro code valid now draw
    exact (expires code valid now draw).1

end Passcode.Issuer
