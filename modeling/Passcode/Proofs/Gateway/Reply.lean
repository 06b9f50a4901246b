import Passcode.Gateway.Basic
import Passcode.Problem
import Passcode.Proofs.Decimal
import Passcode.Proofs.Json.Record

/-!
What a reply means. A text may be read both as an envelope and as a refusal, but then the two name
the same code, so that the answer to a verification can be told from the status and one code.
-/

set_option autoImplicit false

namespace Passcode

open Json

/-! ### Two readings of one text -/

theorem Envelope.fields_of_ofJson? {α : Type} [Wire α] {j : Json} {e : Envelope α}
    (read : Wire.ofJson? j = some e) :
    ∃ field, slots? ["code", "message", "data"] j = some field ∧
      (field "code").required? = some e.code ∧
      (field "message").orDefault? "" = some e.message ∧
      (field "data").optional? = some e.data := by
  simp only [Wire.ofJson?, Option.bind_eq_bind, Option.bind_eq_some_iff, Option.pure_def,
    Option.some.injEq] at read
  obtain ⟨field, slots, code, given, message, told, data, carried, rfl⟩ := read
  exact ⟨field, slots, given, told, carried⟩

theorem ErrorBody.ofJson?_eq_some_iff {j : Json} {b : ErrorBody} :
    Wire.ofJson? j = some b ↔ ∃ field, slots? ["code", "message"] j = some field ∧
      (field "code").required? = some b.code ∧
      (field "message").orDefault? "" = some b.message := by
  simp only [Wire.ofJson?, Option.bind_eq_bind, Option.bind_eq_some_iff, Option.pure_def,
    Option.some.injEq]
  constructor
  · rintro ⟨field, slots, code, given, message, told, rfl⟩
    exact ⟨field, slots, given, told⟩
  · rintro ⟨field, slots, given, told⟩
    exact ⟨field, slots, b.code, given, b.message, told, rfl⟩

theorem Envelope.code_eq_of_ofJson? {α : Type} [Wire α] {j : Json} {e : Envelope α}
    {b : ErrorBody} (envelope : Wire.ofJson? j = some e) (refusal : Wire.ofJson? j = some b) :
    b.code = e.code := by
  obtain ⟨field, slots, code, -, data⟩ := Envelope.fields_of_ofJson? envelope
  obtain ⟨field', slots', code', -⟩ := ErrorBody.ofJson?_eq_some_iff.mp refusal
  cases j with
  | object members =>
    rw [← (slots?_object_eq_some_iff.mp slots).2] at code
    rw [← (slots?_object_eq_some_iff.mp slots').2, code] at code'
    exact (Option.some.inj code').symm
  | array items =>
    -- An array has to reach the data of an envelope, which a refusal has no room for.
    have short : items.length ≤ 2 := (slots?_array slots').1
    have beyond : field "data" = .beyond := by
      rw [(slots?_array slots).2 "data"]
      have missing : items[["code", "message", "data"].idxOf "data"]? = none :=
        List.getElem?_eq_none short
      rw [missing]
    rw [beyond] at data
    cases data
  | null => cases slots
  | bool b => cases slots
  | natural n => cases slots
  | otherNumber => cases slots
  | text s => cases slots

theorem Wire.code_eq_of_decode? {α : Type} [Wire α] {text : String} {e : Envelope α}
    {b : ErrorBody} (envelope : Wire.decode? text = some e)
    (refusal : Wire.decode? text = some b) : b.code = e.code := by
  obtain ⟨j, parsed, asEnvelope⟩ := Wire.decode?_eq_some_iff.mp envelope
  obtain ⟨j', parsed', asRefusal⟩ := Wire.decode?_eq_some_iff.mp refusal
  obtain rfl : j = j' := Option.some.inj (parsed.symm.trans parsed')
  exact Envelope.code_eq_of_ofJson? asEnvelope asRefusal

namespace Gateway

variable {r : Reply}

theorem Reply.text_encode {α : Type} [Wire α] {e : Envelope α} (body : r.body = Wire.encode e)
    (bodied : [101, 204, 304].contains r.status = false) : r.text = Wire.encode e := by
  obtain ⟨cs, written⟩ : ∃ cs, (Wire.toJson e).write = '{' :: cs := ⟨_, rfl⟩
  have unmarked : Text.withoutMark ('{' :: cs) = '{' :: cs := by
    rw [Text.withoutMark, if_neg (by decide)]
  rw [Reply.text, bodied, body, Wire.encode, render, String.toList_ofList, written, unmarked]
  rfl

/-! ### The data of an envelope -/

section

variable {α : Type} [Wire α]

theorem payload_of_unreadable (unread : (Wire.decode? r.text : Option (Envelope α)) = none) :
    (payload r : Except Failure α) = .error unreadable := by
  rw [payload, unread]

theorem payload_of_refused {e : Envelope α} (read : Wire.decode? r.text = some e)
    (refused : e.code ≠ ResultCode.success) :
    (payload r : Except Failure α) = .error (.rejected e.errorBody) := by
  have other : e.isSuccess = false := beq_eq_false_iff_ne.mpr refused
  rw [payload, read]
  exact if_pos ((Bool.not_eq_true' _).mpr other)

theorem payload_of_success {e : Envelope α} (read : Wire.decode? r.text = some e)
    (success : e.code = ResultCode.success) :
    (payload r : Except Failure α) =
      match e.data with
      | none => .error withoutData
      | some x => .ok x := by
  have accepted : e.isSuccess = true := beq_iff_eq.mpr success
  rw [payload, read]
  exact if_neg (by rw [accepted]; exact Bool.noConfusion)

theorem payload_eq_ok_iff {x : α} :
    payload r = .ok x ↔ ∃ e : Envelope α, Wire.decode? r.text = some e ∧
      e.code = ResultCode.success ∧ e.data = some x := by
  cases read : (Wire.decode? r.text : Option (Envelope α)) with
  | none => simp [payload_of_unreadable read]
  | some e =>
    by_cases success : e.code = ResultCode.success
    · rw [payload_of_success read success]
      cases carried : e.data with
      | none => simp [success, carried]
      | some data => simp [success, carried]
    · simp [payload_of_refused read success, success]

theorem payload_eq_rejected_iff {b : ErrorBody} :
    (payload r : Except Failure α) = .error (.rejected b) ↔
      ∃ e : Envelope α, Wire.decode? r.text = some e ∧
        e.code ≠ ResultCode.success ∧ e.errorBody = b := by
  cases read : (Wire.decode? r.text : Option (Envelope α)) with
  | none => simp [payload_of_unreadable read, unreadable]
  | some e =>
    by_cases success : e.code = ResultCode.success
    · rw [payload_of_success read success]
      cases e.data with
      | none => simp [success, withoutData]
      | some data => simp [success]
    · simp [payload_of_refused read success, success]

end

/-! ### Verdicts and refusals -/

theorem wrongCode?_eq_some_iff {v : Verdict} :
    wrongCode? r = some v ↔ r.status = 400 ∧ ∃ e : Envelope Verdict,
      Wire.decode? r.text = some e ∧ e.code = ResultCode.verificationFailed ∧
        e.data = some v := by
  simp only [wrongCode?, Option.bind_eq_bind, Option.bind_eq_some_iff]
  constructor
  · rintro ⟨e, read, carried⟩
    split at carried
    · next wrong => exact ⟨wrong.1, e, read, wrong.2, carried⟩
    · cases carried
  · rintro ⟨status, e, read, code, carried⟩
    exact ⟨e, read, by rw [if_pos ⟨status, code⟩, carried]⟩

theorem Reply.status_ne_of_isSuccess (success : r.isSuccess = true) : r.status ≠ 400 := by
  intro status
  rw [Reply.isSuccess, status] at success
  cases success

theorem verdict_of_wrongCode {v : Verdict} (wrong : wrongCode? r = some v) :
    verdict r = .ok v := by
  rw [verdict, wrong]

theorem verdict_of_success (success : r.isSuccess = true) : verdict r = payload r := by
  cases wrong : wrongCode? r with
  | none =>
    rw [verdict, wrong]
    exact if_pos success
  | some v =>
    exact absurd (wrongCode?_eq_some_iff.mp wrong).1 (Reply.status_ne_of_isSuccess success)

theorem verdict_of_failure (failure : r.isSuccess = false) (plain : wrongCode? r = none) :
    verdict r = .error (.rejected (refusal r)) := by
  rw [verdict, plain]
  exact if_neg (Bool.eq_false_iff.mp failure)

theorem verdict_eq_ok_iff {v : Verdict} :
    verdict r = .ok v ↔ ∃ e : Envelope Verdict, Wire.decode? r.text = some e ∧
      e.data = some v ∧ (r.isSuccess = true ∧ e.code = ResultCode.success ∨
        r.status = 400 ∧ e.code = ResultCode.verificationFailed) := by
  cases success : r.isSuccess with
  | true =>
    rw [verdict_of_success success, payload_eq_ok_iff]
    simp only [Reply.status_ne_of_isSuccess success, false_and, or_false, true_and]
    exact exists_congr fun e => and_congr_right fun _ => and_comm
  | false =>
    have wrong_iff : verdict r = .ok v ↔ wrongCode? r = some v := by
      cases wrong : wrongCode? r with
      | none => simp [verdict_of_failure success wrong]
      | some w => simp [verdict_of_wrongCode wrong]
    rw [wrong_iff, wrongCode?_eq_some_iff]
    simp only [Bool.false_eq_true, false_and, false_or]
    constructor
    · rintro ⟨status, e, read, code, carried⟩
      exact ⟨e, read, carried, status, code⟩
    · rintro ⟨e, read, carried, status, code⟩
      exact ⟨status, e, read, code, carried⟩

/-! ### Replies that end a request -/

def UsedUp (code : String) : Prop :=
  code = ResultCode.expired ∨ code = ResultCode.attemptsExceeded

/-- A reply that ends the request it answers: the envelope of a success, or the refusal under any
other status, says that the request is used up. -/
def EndsRequest (r : Reply) : Prop :=
  (r.isSuccess = true ∧
      ∃ e : Envelope Verdict, Wire.decode? r.text = some e ∧ UsedUp e.code) ∨
    (r.isSuccess = false ∧
      ∃ b : ErrorBody, Wire.decode? r.text = some b ∧ UsedUp b.code)

/-- A status of failure with a text that is neither a refusal nor a wrong code's verdict. -/
structure Unexplained (r : Reply) : Prop where
  failure : r.isSuccess = false
  unread : (Wire.decode? r.text : Option ErrorBody) = none
  plain : r.status = 400 → ∀ e : Envelope Verdict, Wire.decode? r.text = some e →
    e.code = ResultCode.verificationFailed → e.data = none

theorem UsedUp.ne_success {code : String} (used : UsedUp code) : code ≠ ResultCode.success := by
  rcases used with rfl | rfl
  · decide
  · decide

theorem UsedUp.ne_verificationFailed {code : String} (used : UsedUp code) :
    code ≠ ResultCode.verificationFailed := by
  rcases used with rfl | rfl
  · decide
  · decide

theorem not_usedUp_decimal {n : Nat} (short : n ≤ 999) : ¬UsedUp (Text.decimal n) := by
  rintro (expired | exceeded)
  · have value : n = 10006 := Text.eq_valueOf_of_decimal_eq expired
    omega
  · have value : n = 10008 := Text.eq_valueOf_of_decimal_eq exceeded
    omega

theorem ofFailure_decimal {n : Nat} (short : n ≤ 999) (fallback : String) :
    Problem.ofFailure fallback (.rejected ⟨Text.decimal n, ""⟩) =
      .rejected (Text.decimal n) fallback := by
  have other := not_usedUp_decimal short
  rw [Problem.ofFailure, if_neg fun expired => other (.inl expired),
    if_neg fun exceeded => other (.inr exceeded)]
  rfl

theorem Reply.status_le_of_isFinal (final : r.isFinal = true) : r.status ≤ 999 := by
  simp only [Reply.isFinal, Bool.or_eq_true, beq_iff_eq, Bool.and_eq_true,
    decide_eq_true_eq] at final
  omega

theorem not_endsRequest_of_wrongCode {v : Verdict} (wrong : wrongCode? r = some v) :
    ¬EndsRequest r := by
  obtain ⟨status, e, read, code, -⟩ := wrongCode?_eq_some_iff.mp wrong
  rintro (⟨success, -⟩ | ⟨-, b, refused, used⟩)
  · exact absurd status (Reply.status_ne_of_isSuccess success)
  · rw [Wire.code_eq_of_decode? read refused] at used
    exact used.ne_verificationFailed code

/-- A reply is answered with a refusal that ends the request exactly where it ends it. -/
theorem verdict_rejected_usedUp_iff (final : r.isFinal = true) :
    (∃ b, verdict r = .error (.rejected b) ∧ UsedUp b.code) ↔ EndsRequest r := by
  cases wrong : wrongCode? r with
  | some v => simp [verdict_of_wrongCode wrong, not_endsRequest_of_wrongCode wrong]
  | none =>
    cases success : r.isSuccess with
    | true =>
      simp only [verdict_of_success success, payload_eq_rejected_iff, EndsRequest, success,
        true_and, Bool.true_eq_false, false_and, or_false]
      constructor
      · rintro ⟨-, ⟨e, read, -, rfl⟩, used⟩
        exact ⟨e, read, used⟩
      · rintro ⟨e, read, used⟩
        exact ⟨e.errorBody, ⟨e, read, used.ne_success, rfl⟩, used⟩
    | false =>
      rw [verdict_of_failure success wrong, refusal]
      cases read : (Wire.decode? r.text : Option ErrorBody) with
      | some b => simp [EndsRequest, success, read]
      | none =>
        have status := not_usedUp_decimal (Reply.status_le_of_isFinal final)
        simp [EndsRequest, success, read, status]

theorem verdict_of_unexplained (unexplained : Unexplained r) :
    verdict r = .error (.rejected ⟨Text.decimal r.status, ""⟩) := by
  have plain : wrongCode? r = none := by
    refine Option.eq_none_iff_forall_ne_some.mpr fun v wrong => ?_
    obtain ⟨status, e, read, code, carried⟩ := wrongCode?_eq_some_iff.mp wrong
    rw [unexplained.plain status e read code] at carried
    cases carried
  rw [verdict_of_failure unexplained.failure plain, refusal, unexplained.unread]
  rfl

/-! ### The reply of an exchange -/

/-- The reply that ends an exchange, if it is asked for and arrives. -/
def arrival (base path : String) (reply : Option Reply) : Option Reply :=
  (target? base path).bind fun _ => reply.filter Reply.isFinal

theorem arrival_eq_some_iff {base path : String} {reply : Option Reply} :
    arrival base path reply = some r ↔
      (target? base path).isSome = true ∧ reply = some r ∧ r.isFinal = true := by
  rw [arrival, Option.bind_eq_some_iff, Option.isSome_iff_exists, Option.filter_eq_some_iff,
    exists_and_right]

theorem isFinal_of_arrival {base path : String} {reply : Option Reply}
    (arrives : arrival base path reply = some r) : r.isFinal = true :=
  (arrival_eq_some_iff.mp arrives).2.2

theorem exchange_fst {α : Type} (base path body : String) (reply : Option Reply)
    (meaning : Reply → Except Failure α) (posts : List Post) :
    (exchange base path body reply meaning posts).1 =
      (arrival base path reply).elim (.error unreachable) meaning := by
  rw [exchange, arrival]
  cases target? base path with
  | none => rfl
  | some target =>
    rw [Option.bind_some]
    cases reply.filter Reply.isFinal with
    | none => rfl
    | some r => rfl

theorem service_send_fst (base : String) (reply : Option Reply) (request : SendRequest)
    (posts : List Post) :
    ((service base reply).send request posts).1 =
      some ((arrival base sendPath reply).elim (.error unreachable) receipt) := by
  rw [service, Prod.map_fst, exchange_fst]

theorem service_verify_fst (base : String) (reply : Option Reply) (request : VerifyRequest)
    (posts : List Post) :
    ((service base reply).verify request posts).1 =
      (arrival base verifyPath reply).elim (.error unreachable) verdict :=
  exchange_fst base verifyPath (Wire.encode request) reply verdict posts

end Gateway

end Passcode
