import Passcode.Proofs.Gateway.Reply

/-!
Refusals under any status. An object that is read as an envelope is also read as a refusal, with the
same code and the same message, so the service may refuse under a status of success or of failure
and is understood alike.
-/

set_option autoImplicit false

namespace Passcode

open Json

theorem Envelope.errorBody_of_ofJson? {α : Type} [Wire α] {members : List (Option String × Json)}
    {e : Envelope α} (read : Wire.ofJson? (object members) = some e) :
    Wire.ofJson? (object members) = some e.errorBody := by
  obtain ⟨field, slots, code, message, -⟩ := Envelope.fields_of_ofJson? read
  have fewer : ["code", "message"] ⊆ ["code", "message", "data"] := by decide
  exact ErrorBody.ofJson?_eq_some_iff.mpr
    ⟨field, slots?_object_of_subset fewer slots, code, message⟩

theorem Wire.decode?_errorBody {α : Type} [Wire α] {text : String}
    {members : List (Option String × Json)} (object : Json.read? text = some (.object members))
    {e : Envelope α} (envelope : Wire.decode? text = some e) :
    Wire.decode? text = some e.errorBody := by
  obtain ⟨j, parsed, read⟩ := Wire.decode?_eq_some_iff.mp envelope
  obtain rfl : j = .object members := Option.some.inj (parsed.symm.trans object)
  exact Wire.decode?_eq_some_iff.mpr ⟨_, object, Envelope.errorBody_of_ofJson? read⟩

namespace Gateway

variable {r : Reply}

theorem refusal_of_decode? {b : ErrorBody} (read : Wire.decode? r.text = some b) :
    refusal r = b := by
  rw [refusal, read, Option.getD_some]

theorem receipt_of_refused {e : Envelope SendReceipt} (envelope : Wire.decode? r.text = some e)
    (body : Wire.decode? r.text = some e.errorBody) (refused : e.code ≠ ResultCode.success) :
    receipt r = .error (.rejected e.errorBody) := by
  rw [receipt]
  split
  · rw [payload_of_refused envelope refused]
    rfl
  · rw [refusal_of_decode? body]

theorem verdict_eq_rejected_iff {e : Envelope Verdict} (envelope : Wire.decode? r.text = some e)
    (body : Wire.decode? r.text = some e.errorBody) (refused : e.code ≠ ResultCode.success) :
    verdict r = .error (.rejected e.errorBody) ↔
      ¬(r.status = 400 ∧ e.code = ResultCode.verificationFailed ∧ e.data ≠ none) := by
  cases wrong : wrongCode? r with
  | some v =>
    obtain ⟨status, e', envelope', code, carried⟩ := wrongCode?_eq_some_iff.mp wrong
    obtain rfl : e = e' := Option.some.inj (envelope.symm.trans envelope')
    simp [verdict_of_wrongCode wrong, status, code, carried]
  | none =>
    have plain : ¬(r.status = 400 ∧ e.code = ResultCode.verificationFailed ∧ e.data ≠ none) := by
      rintro ⟨status, code, carries⟩
      obtain ⟨v, carried⟩ := Option.ne_none_iff_exists'.mp carries
      rw [wrongCode?_eq_some_iff.mpr ⟨status, e, envelope, code, carried⟩] at wrong
      cases wrong
    refine iff_of_true ?_ plain
    cases success : r.isSuccess with
    | true => rw [verdict_of_success success, payload_of_refused envelope refused]
    | false => rw [verdict_of_failure success wrong, refusal_of_decode? body]

/-- An object that is read as an envelope with a code other than that of success is also read as a
refusal with that code and message, and this refusal is the answer, whatever the status. The one
exception is a bad request that carries a verdict beside the code of a wrong code. -/
theorem refused_under_any_status {text : String} {members : List (Option String × Json)}
    (object : Json.read? text = some (.object members)) :
    (∀ e : Envelope SendReceipt, Wire.decode? text = some e → e.code ≠ ResultCode.success →
      Wire.decode? text = some e.errorBody ∧
      ∀ (base : String) (r : Reply) (request : SendRequest) (posts : List Post),
        arrival base sendPath (some r) = some r → r.text = text →
          ((service base (some r)).send request posts).1 =
            some (.error (.rejected e.errorBody))) ∧
    (∀ e : Envelope Verdict, Wire.decode? text = some e → e.code ≠ ResultCode.success →
      Wire.decode? text = some e.errorBody ∧
      ∀ (base : String) (r : Reply) (request : VerifyRequest) (posts : List Post),
        arrival base verifyPath (some r) = some r → r.text = text →
          (((service base (some r)).verify request posts).1 = .error (.rejected e.errorBody) ↔
            ¬(r.status = 400 ∧ e.code = ResultCode.verificationFailed ∧ e.data ≠ none))) := by
  constructor
  · intro e envelope refused
    have body := Wire.decode?_errorBody object envelope
    refine ⟨body, ?_⟩
    rintro base r request posts arrives rfl
    rw [service_send_fst, arrives, Option.elim_some]
    exact congrArg some (receipt_of_refused envelope body refused)
  · intro e envelope refused
    have body := Wire.decode?_errorBody object envelope
    refine ⟨body, ?_⟩
    rintro base r request posts arrives rfl
    rw [service_verify_fst, arrives, Option.elim_some]
    exact verdict_eq_rejected_iff envelope body refused

/-- A refusal with an unknown member, without a message and with empty data, under a status of
success and under two of failure. -/
theorem refused_with_unknown_member :
    let text := "\x7b\"data\":null,\"trace\":[1],\"code\":\"10010\"\x7d"
    let send : SendRequest := ⟨"0912345678", []⟩
    let verify : VerifyRequest := ⟨"0912345678", "123456", "R1"⟩
    let success : Reply := { status := 200, body := text }
    let failure : Reply := { status := 429, body := text }
    let badRequest : Reply := { status := 400, body := text }
    Json.read? text = some (.object
        [(some "data", .null), (some "trace", .array [.natural 1]), (some "code", .str "10010")]) ∧
      ((service "http://host" (some success)).send send []).1 =
        some (.error (.rejected ⟨"10010", ""⟩)) ∧
      ((service "http://host" (some failure)).send send []).1 =
        some (.error (.rejected ⟨"10010", ""⟩)) ∧
      ((service "http://host" (some badRequest)).verify verify []).1 =
        .error (.rejected ⟨"10010", ""⟩) := by
  intro text send verify success failure badRequest
  have object : Json.read? text = some (.object
      [(some "data", .null), (some "trace", .array [.natural 1]),
        (some "code", .str "10010")]) := by
    let body : Json :=
      .record [("data", .null), ("trace", .array [.natural 1]), ("code", .str "10010")]
    have proper : body.Proper := by
      apply Proper.record
      rintro m (_ | ⟨_, _ | ⟨_, _ | ⟨_, ⟨⟩⟩⟩⟩)
      · exact .null
      · exact .array (List.forall_mem_singleton.mpr (.natural 1))
      · exact .str "10010"
    have written : text = body.render := by decide +kernel
    rw [written]
    exact proper.read?_render
  have agrees := refused_under_any_status object
  have sends := (agrees.1 ⟨"10010", "", none⟩ (by decide +kernel) (by decide)).2 "http://host"
  have verifies := (agrees.2 ⟨"10010", "", none⟩ (by decide +kernel) (by decide)).2 "http://host"
  exact ⟨object, sends success send [] (by decide +kernel) (by decide +kernel),
    sends failure send [] (by decide +kernel) (by decide +kernel),
    (verifies badRequest verify [] (by decide +kernel) (by decide +kernel)).mpr (by decide)⟩

end Gateway

end Passcode
