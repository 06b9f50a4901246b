import Passcode.Proofs.Json.Parts
import Passcode.Proofs.Json.Record
import Passcode.Wire.Exchange
import Passcode.Wire.Settings

/-!
Members are found by name. What a record is read as from an object's text depends neither on the
order of the members nor on members with other names; a field that may be left out is as good as one
that holds its default, and a field that is given twice makes the text no record.
-/

set_option autoImplicit false

namespace Passcode

open Json Settings

namespace Wire

open MemberText (member?)

section

variable (α : Type) [Wire α]

/-- Of an object's text only the members named in `fields` matter, each found by its name. -/
structure ReadsByName (fields : List String) : Prop where
  /-- The order of the members does not matter, nor do `extra` members with other names, whatever
  they hold and however often they are there. -/
  rearranged {s s' : String} {ts ts' extra : List MemberText} (isObject : IsObjectOf ts s)
    (isObject' : IsObjectOf ts' s') (wellFormed : ∀ t ∈ ts, t.WellFormed)
    (perm : ts'.Perm (ts ++ extra))
    (strange : ∀ t ∈ extra, t.WellFormed ∧ ∃ name, t.Named name ∧ name ∉ fields) :
    (decode? s' : Option α) = decode? s
  /-- A text that gives a field twice is no record. -/
  repeated {s : String} {ts others : List MemberText} {t t' : MemberText} {name : String}
    (isObject : IsObjectOf ts s) (wellFormed : ∀ t ∈ ts, t.WellFormed)
    (perm : ts.Perm (t :: t' :: others)) (isNamed : t.Named name) (isNamed' : t'.Named name)
    (field : name ∈ fields) : (decode? s : Option α) = none

/-- Leaving out the member `name` is the same as giving it any text that is read as `standard`. -/
structure OmitsAs {β : Type} [Wire β] (name : String) (standard : β) : Prop where
  omitted {s s' : String} {ts ts' : List MemberText} {t : MemberText} (isObject : IsObjectOf ts s)
    (isObject' : IsObjectOf ts' s') (wellFormed : ∀ t ∈ ts, t.WellFormed)
    (perm : ts'.Perm (t :: ts)) (absent : ∀ other ∈ ts, ¬other.Named name)
    (isNamed : t.Named name) (standardValue : decode? t.value = some standard) :
    (decode? s' : Option α) = decode? s

end

/-! ### Records read off their fields -/

section

variable {α : Type} [Wire α] {fields : List String} {read : (String → Slot) → Option α}

theorem decode?_of_isObjectOf {s : String} {ts : List MemberText} (isObject : IsObjectOf ts s)
    (wellFormed : ∀ t ∈ ts, t.WellFormed) :
    (decode? s : Option α) = ofJson? (object (ts.filterMap member?)) := by
  rw [decode?, isObject.read?_eq wellFormed]
  rfl

theorem ReadsByName.of_read
    (reads : ∀ members, (ofJson? (object members) : Option α) =
      slots? fields (object members) >>= read)
    (readsFields : ReadsFields fields read) : ReadsByName α fields where
  rearranged {s s' ts ts' extra} isObject isObject' wellFormed perm strange := by
    have wellFormed' : ∀ t ∈ ts', t.WellFormed := by
      intro t member
      rcases List.mem_append.mp (perm.mem_iff.mp member) with old | new
      · exact wellFormed t old
      · exact (strange t new).1
    have rearranged : Rearranged fields (ts.filterMap member?) (ts'.filterMap member?) := by
      refine ⟨extra.filterMap member?, ?_, fun m member => ?_⟩
      · rw [← List.filterMap_append]
        exact perm.filterMap _
      · obtain ⟨t, memberText, found⟩ := List.mem_filterMap.mp member
        obtain ⟨-, name, isNamed, outside⟩ := strange t memberText
        exact ⟨name, (MemberText.named_iff found).mp isNamed, outside⟩
    rw [decode?_of_isObjectOf isObject wellFormed, decode?_of_isObjectOf isObject' wellFormed',
      reads, reads, rearranged.slots?_bind_eq readsFields]
  repeated {s ts others t t' name} isObject wellFormed perm isNamed isNamed' field := by
    obtain ⟨m, found⟩ := MemberText.wellFormed_iff.mp (wellFormed t (perm.mem_iff.mpr (by simp)))
    obtain ⟨m', found'⟩ := MemberText.wellFormed_iff.mp (wellFormed t' (perm.mem_iff.mpr (by simp)))
    -- Two members of one name stay two, wherever they stand among the others.
    have twice : 2 ≤ (named name (ts.filterMap member?)).length := by
      have members := (perm.filterMap member?).filter fun m => m.1 == some name
      rw [List.filterMap_cons_some found, List.filterMap_cons_some found', ← named, ← named,
        named_cons_of_eq ((MemberText.named_iff found).mp isNamed),
        named_cons_of_eq ((MemberText.named_iff found').mp isNamed')] at members
      rw [members.length_eq, List.length_cons, List.length_cons]
      omega
    rw [decode?_of_isObjectOf isObject wellFormed, reads, slots?_object_of_repeated field twice]
    rfl

theorem OmitsAs.of_read {β : Type} [Wire β] {name : String} {standard : β}
    (reads : ∀ members, (ofJson? (object members) : Option α) =
      slots? fields (object members) >>= read)
    (mayOmit : ∀ value, (ofJson? value : Option β) = some standard →
      MayOmit fields name value read) : OmitsAs α name standard where
  omitted {s s' ts ts' t} isObject isObject' wellFormed perm absent isNamed standardValue := by
    obtain ⟨value, readValue, decoded⟩ := decode?_eq_some_iff.mp standardValue
    have found : t.member? = some (some name, value) :=
      MemberText.member?_eq_some_iff.mpr ⟨isNamed, readValue⟩
    have wellFormed' : ∀ t ∈ ts', t.WellFormed := by
      intro other member
      rcases List.mem_cons.mp (perm.mem_iff.mp member) with rfl | old
      · exact ⟨⟨_, isNamed⟩, _, readValue⟩
      · exact wellFormed other old
    have unnamed : named name (ts.filterMap member?) = [] := by
      refine named_eq_nil_iff.mpr fun m member same => ?_
      obtain ⟨other, memberText, foundOther⟩ := List.mem_filterMap.mp member
      exact absent other memberText ((MemberText.named_iff foundOther).mpr same)
    have permMembers := perm.filterMap member?
    rw [List.filterMap_cons_some found] at permMembers
    rw [decode?_of_isObjectOf isObject wellFormed, decode?_of_isObjectOf isObject' wellFormed',
      reads, reads, slots?_bind_of_perm_cons unnamed permMembers (mayOmit value decoded)]

end

/-! ### What a session and its service hand each other -/

theorem sendRequest_by_name : ReadsByName SendRequest ["phone", "preferredChannels"] ∧
    OmitsAs SendRequest "preferredChannels" ([] : List String) := by
  refine ⟨.of_read (fun _ => rfl) fun _ _ same => ?_,
    .of_read (fun _ => rfl) fun _ decoded _ _ absent given same => ?_⟩
  · simp [same]
  · simp [absent, given, same, decoded]

theorem sendReceipt_by_name :
    ReadsByName SendReceipt ["channel", "requestId", "ttlSeconds", "maskedPhone"] := by
  refine .of_read (fun _ => rfl) fun _ _ same => ?_
  simp [same]

theorem quota_eq_of_ofJson? {j : Json} {receipt : SendReceipt} (read : ofJson? j = some receipt) :
    receipt.quota = {} := by
  simp only [ofJson?, Option.bind_eq_bind, Option.bind_eq_some_iff, Option.pure_def] at read
  obtain ⟨field, -, channel, -, requestId, -, ttl, -, maskedPhone, -, made⟩ := read
  cases made
  rfl

/-- No text sets the counters of a receipt. -/
theorem quota_eq_of_decode? {s : String} {receipt : SendReceipt}
    (decoded : decode? s = some receipt) : receipt.quota = {} := by
  obtain ⟨j, -, read⟩ := decode?_eq_some_iff.mp decoded
  exact quota_eq_of_ofJson? read

theorem verifyRequest_by_name : ReadsByName VerifyRequest ["phone", "code", "requestId"] := by
  refine .of_read (fun _ => rfl) fun _ _ same => ?_
  simp [same]

theorem verdict_by_name : ReadsByName Verdict ["verified", "message", "remainingAttempts"] ∧
    OmitsAs Verdict "message" "" ∧
    OmitsAs Verdict "remainingAttempts" (none : Option UInt32) := by
  refine ⟨.of_read (fun _ => rfl) fun _ _ same => ?_,
    .of_read (fun _ => rfl) fun _ decoded _ _ absent given same => ?_,
    .of_read (fun _ => rfl) fun _ decoded _ _ absent given same => ?_⟩
  · simp [same]
  · simp [absent, given, same, decoded]
  · simp [absent, given, same, decoded]

theorem errorBody_by_name : ReadsByName ErrorBody ["code", "message"] ∧
    OmitsAs ErrorBody "message" "" := by
  refine ⟨.of_read (fun _ => rfl) fun _ _ same => ?_,
    .of_read (fun _ => rfl) fun _ decoded _ _ absent given same => ?_⟩
  · simp [same]
  · simp [absent, given, same, decoded]

theorem envelope_by_name (α : Type) [Wire α] :
    ReadsByName (Envelope α) ["code", "message", "data"] ∧
    OmitsAs (Envelope α) "message" "" ∧ OmitsAs (Envelope α) "data" (none : Option α) := by
  refine ⟨.of_read (fun _ => rfl) fun _ _ same => ?_,
    .of_read (fun _ => rfl) fun _ decoded _ _ absent given same => ?_,
    .of_read (fun _ => rfl) fun _ decoded _ _ absent given same => ?_⟩
  · simp [same]
  · simp [absent, given, same, decoded]
  · simp [absent, given, same, decoded]

theorem ofJson?_of_present {α : Type} [Wire α] {j : Json} {x : α}
    (read : (ofJson? j : Option (Option α)) = some (some x)) : ofJson? j = some x := by
  cases j with
  | null => cases read
  | _ =>
    obtain ⟨y, readIt, same⟩ := Option.map_eq_some_iff.mp read
    cases same
    exact readIt

theorem quota_eq_of_mem_data {s : String} {envelope : Envelope SendReceipt}
    (decoded : decode? s = some envelope) : ∀ receipt ∈ envelope.data, receipt.quota = {} := by
  obtain ⟨j, -, read⟩ := decode?_eq_some_iff.mp decoded
  simp only [ofJson?, Option.bind_eq_bind, Option.bind_eq_some_iff, Option.pure_def] at read
  obtain ⟨field, -, code, -, message, -, data, readData, made⟩ := read
  cases made
  rintro receipt rfl
  cases slot : field "data" with
  | given value =>
    rw [slot] at readData
    exact quota_eq_of_ofJson? (ofJson?_of_present readData)
  | _ =>
    rw [slot] at readData
    cases readData

/-! ### Settings -/

theorem logging_by_name : ReadsByName Logging ["level", "format"] ∧
    OmitsAs Logging "format" LogFormat.pretty := by
  refine ⟨.of_read (fun _ => rfl) fun _ _ same => ?_,
    .of_read (fun _ => rfl) fun _ decoded _ _ absent given same => ?_⟩
  · simp [same]
  · simp [absent, given, same, decoded]

theorem client_by_name :
    ReadsByName Client ["provider", "base_url", "request_timeout_secs", "preferred_channels"] ∧
    OmitsAs Client "provider" ({} : Client).provider ∧
    OmitsAs Client "base_url" ({} : Client).baseUrl ∧
    OmitsAs Client "request_timeout_secs" ({} : Client).timeout ∧
    OmitsAs Client "preferred_channels" ({} : Client).channels := by
  refine ⟨.of_read (fun _ => rfl) fun _ _ same => ?_,
    .of_read (fun _ => rfl) fun _ decoded _ _ absent given same => ?_,
    .of_read (fun _ => rfl) fun _ decoded _ _ absent given same => ?_,
    .of_read (fun _ => rfl) fun _ decoded _ _ absent given same => ?_,
    .of_read (fun _ => rfl) fun _ decoded _ _ absent given same => ?_⟩
  · simp [same]
  · simp [absent, given, same, decoded]
  · simp [absent, given, same, decoded]
  · simp [absent, given, same, decoded]
  · simp [absent, given, same, decoded]

theorem settings_by_name : ReadsByName Settings ["environment", "client", "logging"] ∧
    OmitsAs Settings "environment" ({} : Settings).environment ∧
    OmitsAs Settings "client" ({} : Settings).client ∧
    OmitsAs Settings "logging" ({} : Settings).logging := by
  refine ⟨.of_read (fun _ => rfl) fun _ _ same => ?_,
    .of_read (fun _ => rfl) fun _ decoded _ _ absent given same => ?_,
    .of_read (fun _ => rfl) fun _ decoded _ _ absent given same => ?_,
    .of_read (fun _ => rfl) fun _ decoded _ _ absent given same => ?_⟩
  · simp [same]
  · simp [absent, given, same, decoded]
  · simp [absent, given, same, decoded]
  · simp [absent, given, same, decoded]

/-! ### All of them -/

/-- The text of an object, which is one put together from members, is read by the names of these,
whatever record it is read as. Leaving out a field that has a default is the same as giving the
default, which is `null` for an optional one; and no text sets the counters of a receipt, whatever
its members are called. -/
theorem records_read_by_name :
    (∀ s, (∃ members, read? s = some (object members)) ↔
      ∃ ts, IsObjectOf ts s ∧ ∀ t ∈ ts, t.WellFormed) ∧
    (∀ (β : Type) [Wire β], decode? "null" = some (none : Option β)) ∧
    (ReadsByName SendRequest ["phone", "preferredChannels"] ∧
      OmitsAs SendRequest "preferredChannels" ([] : List String)) ∧
    (ReadsByName SendReceipt ["channel", "requestId", "ttlSeconds", "maskedPhone"] ∧
      (∀ s, ∀ receipt ∈ (decode? s : Option SendReceipt), receipt.quota = {}) ∧
      (∀ s, ∀ envelope ∈ (decode? s : Option (Envelope SendReceipt)),
        ∀ receipt ∈ envelope.data, receipt.quota = {})) ∧
    ReadsByName VerifyRequest ["phone", "code", "requestId"] ∧
    (ReadsByName Verdict ["verified", "message", "remainingAttempts"] ∧
      OmitsAs Verdict "message" "" ∧
      OmitsAs Verdict "remainingAttempts" (none : Option UInt32)) ∧
    (ReadsByName ErrorBody ["code", "message"] ∧ OmitsAs ErrorBody "message" "") ∧
    (∀ (α : Type) [Wire α], ReadsByName (Envelope α) ["code", "message", "data"] ∧
      OmitsAs (Envelope α) "message" "" ∧ OmitsAs (Envelope α) "data" (none : Option α)) ∧
    (ReadsByName Logging ["level", "format"] ∧ OmitsAs Logging "format" LogFormat.pretty) ∧
    (ReadsByName Client ["provider", "base_url", "request_timeout_secs", "preferred_channels"] ∧
      OmitsAs Client "provider" "http" ∧
      OmitsAs Client "base_url" "http://localhost:8080" ∧
      OmitsAs Client "request_timeout_secs" (30 : UInt64) ∧
      OmitsAs Client "preferred_channels" ([] : List String)) ∧
    (ReadsByName Settings ["environment", "client", "logging"] ∧
      OmitsAs Settings "environment" Environment.development ∧
      OmitsAs Settings "client" ({} : Client) ∧
      OmitsAs Settings "logging" (Logging.standard .development)) :=
  ⟨fun _ => isObject_iff, fun _ _ => rfl, sendRequest_by_name,
    ⟨sendReceipt_by_name, fun _ _ decoded => quota_eq_of_decode? decoded,
      fun _ _ decoded => quota_eq_of_mem_data decoded⟩,
    verifyRequest_by_name, verdict_by_name, errorBody_by_name, envelope_by_name, logging_by_name,
    client_by_name, settings_by_name⟩

theorem receipt_read_without_rateLimits :
    let members : List (String × Json) := [("channel", str "sms"), ("requestId", str "R1"),
      ("ttlSeconds", natural 300), ("maskedPhone", str "09****78")]
    let counters : String × Json := ("rateLimits", record [("remaining_phone", natural 1)])
    let receipt : SendReceipt := ⟨"sms", "R1", 300, "09****78", {}⟩
    decode? (record members).render = some receipt ∧
      decode? (record (counters :: members.reverse)).render = some receipt := by
  intro members counters receipt
  obtain ⟨-, -, -, ⟨receipts, -⟩, -⟩ := records_read_by_name
  have wellFormed : ∀ t ∈ members.map writtenMember, t.WellFormed := by
    simp only [members, List.forall_mem_map, List.forall_mem_cons]
    exact ⟨wellFormed_writtenMember (.str _), wellFormed_writtenMember (.str _),
      wellFormed_writtenMember (.natural _), wellFormed_writtenMember (.str _), nofun⟩
  have perm : ((counters :: members.reverse).map writtenMember).Perm
      (members.map writtenMember ++ [writtenMember counters]) :=
    List.reverse_perm ((members ++ [counters]).map writtenMember)
  have counted : counters.2.Proper := .record (List.forall_mem_singleton.mpr (.natural 1))
  have plain : decode? (record members).render = some receipt := by decide +kernel
  have same : (decode? (record (counters :: members.reverse)).render : Option SendReceipt) =
      decode? (record members).render := by
    refine receipts.rearranged (isObjectOf_render members)
      (isObjectOf_render (counters :: members.reverse)) wellFormed perm ?_
    refine List.forall_mem_singleton.mpr ⟨wellFormed_writtenMember counted, "rateLimits", ?_, ?_⟩
    · exact named_writtenMember counters
    · decide
  exact ⟨plain, same.trans plain⟩

end Wire

end Passcode
