import Passcode.Proofs.Issuer.Window

/-!
The send quota. While its window does not run out, a phone number is granted exactly as many sends
as the maximum allows, and what it is answered depends on the number of earlier sends to it alone. A
send that is refused takes nothing from anyone.
-/

set_option autoImplicit false

namespace Passcode.Issuer

def asked (phone : String) (queries : List Query) : Nat :=
  queries.countP (Query.sendsTo phone)

/-- What the `n`-th send to a phone number comes to: a receipt up to the maximum and a refusal
beyond it. Where a receipt is due for a code whose end the clock cannot tell, there is no answer. -/
def share (settings : Settings) (now : Nat) (draw : Draw) (request : SendRequest) (n : Nat) :
    Option (Except Failure SendReceipt) :=
  if settings.maxSends.toNat < n then
    some (.error (.rejected ⟨"10010", "Too many OTP requests for this phone number"⟩))
  else if now + settings.validity < settings.horizon then
    some (.ok {
      channel := pickChannel request.channels
      requestId := draw.requestId
      ttl := ttlOf (settings.validity / second)
      maskedPhone := Phone.mask request.phone
      quota := { phone := some (UInt32.ofNat (settings.maxSends.toNat - n)), ip := none } })
  else none

def remaining (settings : Settings) (now : Nat) (phone : String) (store : Store) : Nat :=
  settings.maxSends.toNat - (openWindow settings now phone store).count.toNat

def isReceipt : Query × Answer → Bool
  | (_, .sent (some (.ok _))) => true
  | _ => false

variable {settings : Settings} {now : Nat} {draw : Draw} {request : SendRequest} {store after : Store}
  {answer : Option (Except Failure SendReceipt)}

/-! ### The window is looked up once -/

/-- The window of a phone number, even if it has run out. -/
def heldWindow (now : Nat) (phone : String) (store : Store) : SendWindow :=
  (store.windows.lookup phone).getD { startedAt := now }

theorem openWindow_eq_heldWindow (settings : Settings) (now : Nat) (phone : String)
    (store : Store) :
    openWindow settings now phone store = heldWindow now phone (evict settings now store) := by
  rw [openWindow, windowFor, heldWindow]
  cases found : (evict settings now store).windows.lookup phone with
  | none => rfl
  | some w =>
    have kept := (List.mem_filter.mp (mem_of_lookup found)).2
    simp only [Bool.not_eq_true'] at kept
    simp [kept]

theorem sendCounting_heldWindow (settings : Settings) (now : Nat) (draw : Draw)
    (request : SendRequest) (store : Store) :
    sendCounting (heldWindow now request.phone) settings now draw request store =
      send settings now draw request store := by
  have same : heldWindow now request.phone (evict settings now store) =
      windowFor settings now request.phone (evict settings now store) :=
    (openWindow_eq_heldWindow settings now request.phone store).symm
  simp only [send, sendCounting, same]

/-! ### Every phone number has one window -/

theorem nodup_keys_insert {α : Type} {key : String} {value : α} {entries : List (String × α)}
    (distinct : (entries.map Prod.fst).Nodup) :
    ((insert key value entries).map Prod.fst).Nodup := by
  have shorter : List.Sublist (erase key entries) entries := List.filter_sublist
  rw [insert, List.map_cons, List.nodup_cons]
  refine ⟨?_, (shorter.map Prod.fst).nodup distinct⟩
  intro member
  obtain ⟨entry, kept, same⟩ := List.mem_map.mp member
  have different := (List.mem_filter.mp kept).2
  simp [same] at different

theorem nodup_windows_evict (distinct : (store.windows.map Prod.fst).Nodup) :
    ((evict settings now store).windows.map Prod.fst).Nodup := by
  have shorter : List.Sublist (evict settings now store).windows store.windows :=
    List.filter_sublist
  exact (shorter.map Prod.fst).nodup distinct

theorem Sending.nodup_windows (sending : Sending settings now draw request store answer after)
    (distinct : (store.windows.map Prod.fst).Nodup) : (after.windows.map Prod.fst).Nodup := by
  cases sending with
  | unreachable failing => exact distinct
  | invalid working invalid => exact distinct
  | _ => exact nodup_keys_insert (nodup_windows_evict distinct)

theorem nodup_windows_serve (q : Query) (distinct : (store.windows.map Prod.fst).Nodup) :
    ((store.serve settings q).2.windows.map Prod.fst).Nodup := by
  cases q with
  | send now draw request =>
    exact (send_sending settings now draw request store).nodup_windows distinct
  | verify now request =>
    rw [Store.serve, (verify_judging settings now request store).windows_eq]
    exact distinct

theorem nodup_windows_after (settings : Settings) (queries : List Query) :
    ((Store.after settings {} queries).windows.map Prod.fst).Nodup :=
  Store.after_preserves (P := fun store => (store.windows.map Prod.fst).Nodup)
    (fun _ q _ distinct => nodup_windows_serve q distinct) List.nodup_nil

theorem openWindow_eq (distinct : (store.windows.map Prod.fst).Nodup) (now : Nat)
    (phone : String) :
    openWindow settings now phone store =
      ((store.windows.lookup phone).filter fun w => !w.isOver settings now).getD
        { startedAt := now } := by
  rw [openWindow_eq_heldWindow, heldWindow, evict, lookup_filter distinct]

/-! ### What is refused changes nothing -/

theorem SendWindow.isOver_of_le {w : SendWindow} {later : Nat} (le : now ≤ later)
    (ended : w.isOver settings now = true) : w.isOver settings later = true := by
  have passed : settings.window ≤ now - w.startedAt := of_decide_eq_true ended
  have longer : now - w.startedAt ≤ later - w.startedAt := Nat.sub_le_sub_right le w.startedAt
  exact decide_eq_true (Nat.le_trans passed longer)

theorem filter_filter_isOver (held : Option SendWindow) {later : Nat} (le : now ≤ later) :
    ((held.filter fun w => !w.isOver settings now).filter fun w => !w.isOver settings later) =
      held.filter fun w => !w.isOver settings later := by
  rw [Option.filter_filter]
  cases held with
  | none => simp only [Option.filter_none]
  | some w =>
    have longer : (!w.isOver settings now && !w.isOver settings later) =
        !w.isOver settings later := by
      cases ended : w.isOver settings now with
      | true => simp [SendWindow.isOver_of_le le ended]
      | false => simp
    simp only [Option.filter_some, longer]

/-- A send that is over the limit leaves every count as it was, now and later. -/
theorem count_openWindow_of_limited (distinct : (store.windows.map Prod.fst).Nodup)
    (phone other : String) {later : Nat} (le : now ≤ later) :
    (openWindow settings later other
      { evict settings now store with
        windows := insert phone (openWindow settings now phone store)
          (evict settings now store).windows }).count =
      (openWindow settings later other store).count := by
  have inserted : ((insert phone (openWindow settings now phone store)
      (evict settings now store).windows).map Prod.fst).Nodup :=
    nodup_keys_insert (nodup_windows_evict distinct)
  rw [openWindow_eq inserted]
  by_cases same : other = phone
  · subst same
    rw [lookup_insert_self, openWindow_eq distinct, openWindow_eq distinct]
    -- The window that is put back is the one that was held, or a new one that counts nothing yet.
    rw [← filter_filter_isOver (store.windows.lookup other) le]
    cases (store.windows.lookup other).filter fun w => !w.isOver settings now with
    | some w => rfl
    | none =>
      rw [Option.getD_none, Option.filter_some]
      split
      · rfl
      · rfl
  · have kept : (evict settings now store).windows.lookup other =
        (store.windows.lookup other).filter fun w => !w.isOver settings now :=
      lookup_filter distinct
    rw [lookup_insert_of_ne same, kept, filter_filter_isOver _ le, openWindow_eq distinct]

namespace Sending

theorem remaining_of_error {failure : Failure}
    (sending : Sending settings now draw request store (some (.error failure)) after)
    (distinct : (store.windows.map Prod.fst).Nodup) (phone : String) {later : Nat}
    (le : now ≤ later) :
    remaining settings later phone after = remaining settings later phone store := by
  cases sending with
  | unreachable failing => rfl
  | invalid working invalid => rfl
  | limited working valid full =>
    rw [remaining, remaining, count_openWindow_of_limited distinct request.phone phone le]

theorem sends_of_unsent (sending : Sending settings now draw request store answer after)
    (unsent : ∀ receipt, answer ≠ some (.ok receipt)) : after.sends = store.sends := by
  cases sending with
  | unreachable failing => rfl
  | invalid working invalid => rfl
  | limited working valid full => rfl
  | broken working valid room late => rfl
  | issued working valid room dated => exact absurd rfl (unsent _)

theorem answer_eq_share (sending : Sending settings now draw request store answer after)
    (working : settings.failing = false) (valid : Phone.isValid request.phone = true) {n : Nat}
    (counted : (openWindow settings now request.phone store).count.toNat =
      min n settings.maxSends.toNat) :
    answer = share settings now draw request (n + 1) := by
  cases sending with
  | unreachable failing => simp [working] at failing
  | invalid working invalid => simp [valid] at invalid
  | limited working valid full =>
    have most := UInt32.le_iff_toNat_le.mp full
    have beyond : settings.maxSends.toNat < n + 1 := by omega
    rw [share, if_pos beyond]
    rfl
  | broken working valid room late =>
    have below := UInt32.lt_iff_toNat_lt.mp room
    have within : ¬settings.maxSends.toNat < n + 1 := by omega
    rw [share, if_neg within, if_neg (Nat.not_lt.mpr late)]
  | issued working valid room dated =>
    have below := UInt32.lt_iff_toNat_lt.mp room
    have within : ¬settings.maxSends.toNat < n + 1 := by omega
    have left := toNat_sub_add_one_of_lt room
    have number : settings.maxSends - ((openWindow settings now request.phone store).count + 1) =
        UInt32.ofNat (settings.maxSends.toNat - (n + 1)) := by
      have small : settings.maxSends.toNat - (n + 1) < UInt32.size := by
        have bound := UInt32.toNat_lt settings.maxSends
        have size : UInt32.size = 2 ^ 32 := rfl
        omega
      rw [← UInt32.toNat_inj, UInt32.toNat_ofNat_of_lt' small]
      omega
    rw [share, if_neg within, if_pos dated, number]

end Sending

/-! ### Sends are counted -/

theorem Sending.sends_eq (sending : Sending settings now draw request store answer after) :
    after.sends = store.sends +
      UInt64.ofNat ([(Query.send now draw request, Answer.sent answer)].countP isReceipt) := by
  cases sending with
  | issued working valid room dated => rfl
  | _ => exact (UInt64.add_zero _).symm

theorem sends_serve (q : Query) :
    (store.serve settings q).2.sends =
      store.sends + UInt64.ofNat ([(q, (store.serve settings q).1)].countP isReceipt) := by
  cases q with
  | send now draw request => exact (send_sending settings now draw request store).sends_eq
  | verify now request =>
    rw [Store.serve, (verify_judging settings now request store).sends_eq]
    exact (UInt64.add_zero store.sends).symm

theorem sends_after (settings : Settings) (store : Store) (queries : List Query) :
    (store.after settings queries).sends =
      store.sends + UInt64.ofNat ((store.transcript settings queries).countP isReceipt) := by
  induction queries generalizing store with
  | nil => exact (UInt64.add_zero store.sends).symm
  | cons q queries ih =>
    have split : (store.transcript settings (q :: queries)).countP isReceipt =
        [(q, (store.serve settings q).1)].countP isReceipt +
          ((store.serve settings q).2.transcript settings queries).countP isReceipt := by
      rw [← List.countP_append]
      rfl
    rw [Store.after_cons, ih, sends_serve, split, UInt64.ofNat_add, UInt64.add_assoc]

/-! ### The share of a phone number -/

theorem countP_spends_share (now : Nat) (draw : Draw) (request : SendRequest) (n : Nat) :
    [(Query.send now draw request, Answer.sent (share settings now draw request n))].countP
        (spends request.phone) = if settings.maxSends.toNat < n then 0 else 1 := by
  rw [share]
  split
  · rfl
  · split
    · simp [spends]
    · simp [spends]

theorem spent_eq_min (working : settings.failing = false) {phone : String}
    (valid : Phone.isValid phone = true) {queries : List Query}
    (spans : Spans settings phone queries) :
    spent settings phone queries = min (asked phone queries) settings.maxSends.toNat := by
  -- By the last call: what it is answered follows from the count that the calls before have left.
  induction queries using List.reverseRecOn with
  | nil => simp [spent, asked, Store.transcript]
  | append_singleton queries q ih =>
    have before := ih spans.of_append
    have more : asked phone (queries ++ [q]) =
        asked phone queries + [q].countP (Query.sendsTo phone) := List.countP_append
    rw [spent_append, before, more]
    cases q with
    | verify now request => simp [Store.transcript, Store.serve, spends, Query.sendsTo]
    | send now draw request =>
      by_cases same : request.phone = phone
      · subst same
        have counted : (openWindow settings now request.phone
            (Store.after settings {} queries)).count.toNat =
              min (asked request.phone queries) settings.maxSends.toNat := by
          rw [← before, ← counted_after spans.of_append]
          exact count_openWindow spans.isOver_eq_false
        have answered := (send_sending settings now draw request
          (Store.after settings {} queries)).answer_eq_share working valid counted
        have sends : [Query.send now draw request].countP (Query.sendsTo request.phone) = 1 := by
          simp [Query.sendsTo]
        rw [Store.transcript, Store.serve, answered, sends, Store.transcript, countP_spends_share]
        split
        · omega
        · omega
      · have others : ∀ result, spends phone (.send now draw request, .sent result) = false := by
          rintro (_ | _ | _)
          · simp [spends, same]
          · rfl
          · simp [spends, same]
        simp [Store.transcript, Store.serve, others, Query.sendsTo, same]

/-- A phone number is answered by the sends to it so far. -/
theorem send_after_eq_share (working : settings.failing = false) {before : List Query}
    (valid : Phone.isValid request.phone = true)
    (spans : Spans settings request.phone (before ++ [.send now draw request])) :
    (send settings now draw request (Store.after settings {} before)).1 =
      share settings now draw request (asked request.phone before + 1) := by
  have counted :
      (openWindow settings now request.phone (Store.after settings {} before)).count.toNat =
        (Store.after settings {} before).counted request.phone :=
    count_openWindow spans.isOver_eq_false
  apply (send_sending settings now draw request _).answer_eq_share working valid
  rw [counted, counted_after spans.of_append, spent_eq_min working valid spans.of_append]

theorem share_granted_iff (dated : now + settings.validity < settings.horizon) (n : Nat) :
    (∃ receipt, share settings now draw request (n + 1) = some (.ok receipt)) ↔
      n < settings.maxSends.toNat := by
  rw [share, if_pos dated]
  split
  · next beyond =>
    refine iff_of_false ?_ (by omega)
    rintro ⟨receipt, refused⟩
    cases refused
  · next within => exact iff_of_true ⟨_, rfl⟩ (by omega)

theorem send_eq_share_of_no_window (working : settings.failing = false)
    (empty : settings.window = 0) (valid : Phone.isValid request.phone = true) :
    (send settings now draw request store).1 = share settings now draw request 1 := by
  apply (send_sending settings now draw request store).answer_eq_share working valid
  have ended : ∀ w : SendWindow, w.isOver settings now = true := by
    intro w
    simp [SendWindow.isOver, empty]
  have gone : (evict settings now store).windows = [] := by
    simp [evict, ended]
  rw [openWindow_eq_heldWindow, heldWindow, gone]
  simp

/-! ### The quota -/

/-- The send quota of the service, over all its runs. -/
structure KeepsQuota (settings : Settings) : Prop where
  /-- A phone number is answered by the number of the send among the sends to it. -/
  answered : ∀ (before : List Query) (now : Nat) (draw : Draw) (request : SendRequest),
    Phone.isValid request.phone = true →
    Spans settings request.phone (before ++ [.send now draw request]) →
    (send settings now draw request (Store.after settings {} before)).1 =
      share settings now draw request (asked request.phone before + 1)
  /-- So a send whose code runs out at a moment the clock can tell succeeds exactly up to the
  maximum. -/
  granted : ∀ (before : List Query) (now : Nat) (draw : Draw) (request : SendRequest),
    Phone.isValid request.phone = true →
    Spans settings request.phone (before ++ [.send now draw request]) →
    now + settings.validity < settings.horizon →
    ((∃ receipt,
        (send settings now draw request (Store.after settings {} before)).1 = some (.ok receipt)) ↔
      asked request.phone before < settings.maxSends.toNat)
  /-- Verifications and sends to others have no part in it, wherever they stand. -/
  independent : ∀ (before other : List Query) (now : Nat) (draw : Draw) (request : SendRequest),
    Phone.isValid request.phone = true →
    Spans settings request.phone (before ++ [.send now draw request]) →
    Spans settings request.phone (other ++ [.send now draw request]) →
    before.filter (Query.sendsTo request.phone) = other.filter (Query.sendsTo request.phone) →
    (send settings now draw request (Store.after settings {} before)).1 =
      (send settings now draw request (Store.after settings {} other)).1
  invalid : ∀ (before : List Query) (now : Nat) (draw : Draw) (request : SendRequest),
    Phone.isValid request.phone = false →
    (send settings now draw request (Store.after settings {} before)).1 =
      some (.error (.rejected ⟨"2005", "Invalid phone number"⟩))
  /-- A refusal costs nobody anything. -/
  refused : ∀ (before : List Query) (now : Nat) (draw : Draw) (request : SendRequest)
    (failure : Failure),
    let store := Store.after settings {} before
    (send settings now draw request store).1 = some (.error failure) →
    (∀ requestId issued, store.codes.lookup requestId = some issued → now < issued.expiresAt →
      (send settings now draw request store).2.codes.lookup requestId = some issued) ∧
    (∀ phone later, now ≤ later →
      remaining settings later phone (send settings now draw request store).2 =
        remaining settings later phone store) ∧
    (send settings now draw request store).2.sends = store.sends
  /-- Nor does a send that breaks off issue anything. -/
  broken : ∀ (before : List Query) (now : Nat) (draw : Draw) (request : SendRequest),
    let store := Store.after settings {} before
    (send settings now draw request store).1 = none →
    (∀ requestId issued, store.codes.lookup requestId = some issued → now < issued.expiresAt →
      (send settings now draw request store).2.codes.lookup requestId = some issued) ∧
    (send settings now draw request store).2.sends = store.sends
  /-- The counter of the sends is exact until it wraps around. -/
  counted : ∀ run : List Query, (Store.after settings {} run).sends =
    UInt64.ofNat ((Store.transcript settings {} run).countP isReceipt)
  countedExactly : ∀ run : List Query,
    (Store.transcript settings {} run).countP isReceipt < UInt64.size →
    (Store.after settings {} run).sends.toNat = (Store.transcript settings {} run).countP isReceipt
  /-- Without a window every send is a first one. -/
  instant : settings.window = 0 →
    ∀ (before : List Query) (now : Nat) (draw : Draw) (request : SendRequest),
      Phone.isValid request.phone = true →
      (send settings now draw request (Store.after settings {} before)).1 =
        share settings now draw request 1
  /-- The number that is reported is what the count, this send included, leaves of the maximum. -/
  reported : ∀ (before : List Query) (now : Nat) (draw : Draw) (request : SendRequest)
    (receipt : SendReceipt),
    let store := Store.after settings {} before
    (send settings now draw request store).1 = some (.ok receipt) →
    ∃ left, receipt.quota.phone = some left ∧
      left.toNat + ((openWindow settings now request.phone store).count.toNat + 1) =
        settings.maxSends.toNat
  /-- Once what has run out is dropped, it makes no difference to open a window again. -/
  opened : ∀ (before : List Query) (now : Nat) (draw : Draw) (request : SendRequest),
    let store := Store.after settings {} before
    sendCounting (heldWindow now request.phone) settings now draw request store =
      send settings now draw request store

theorem lookup_send_of_unsent
    (unsent : ∀ receipt, (send settings now draw request store).1 ≠ some (.ok receipt))
    {requestId : String} {issued : IssuedCode}
    (found : store.codes.lookup requestId = some issued) (fresh : now < issued.expiresAt) :
    (send settings now draw request store).2.codes.lookup requestId = some issued := by
  rw [(send_sending settings now draw request store).lookup_of_unsent unsent, found]
  intro entry same
  obtain rfl := Option.some.inj (found.symm.trans same)
  exact fresh

/-- A service that can be reached keeps its quota. -/
theorem keeps_quota (working : settings.failing = false) : KeepsQuota settings where
  answered before now draw request valid spans := send_after_eq_share working valid spans
  granted before now draw request valid spans dated := by
    rw [send_after_eq_share working valid spans]
    exact share_granted_iff dated (asked request.phone before)
  independent before other now draw request valid spans spans' same := by
    have number : asked request.phone before = asked request.phone other := by
      rw [asked, asked, List.countP_eq_length_filter, List.countP_eq_length_filter, same]
    rw [send_after_eq_share working valid spans, send_after_eq_share working valid spans', number]
  invalid before now draw request invalid := by
    simp [send, sendCounting, working, invalid, invalidPhone, ResultCode.invalidPhone]
  refused before now draw request failure := by
    intro store refused
    have sending := send_sending settings now draw request store
    have unsent : ∀ receipt, (send settings now draw request store).1 ≠ some (.ok receipt) := by
      simp [refused]
    refine ⟨fun _ _ => lookup_send_of_unsent unsent, ?_, sending.sends_of_unsent unsent⟩
    rw [refused] at sending
    intro phone later le
    exact sending.remaining_of_error (nodup_windows_after settings before) phone le
  broken before now draw request := by
    intro store broken
    have unsent : ∀ receipt, (send settings now draw request store).1 ≠ some (.ok receipt) := by
      simp [broken]
    exact ⟨fun _ _ => lookup_send_of_unsent unsent,
      (send_sending settings now draw request store).sends_of_unsent unsent⟩
  counted run := by
    rw [sends_after, UInt64.zero_add]
  countedExactly run few := by
    rw [sends_after, UInt64.zero_add, UInt64.toNat_ofNat_of_lt' few]
  instant empty before now draw request valid := send_eq_share_of_no_window working empty valid
  reported before now draw request receipt := by
    intro store sent
    have sending := send_sending settings now draw request store
    rw [sent] at sending
    exact sending.left_of_receipt
  opened before now draw request := sendCounting_heldWindow settings now draw request _

/-- Two sends are granted to a phone number, whatever is asked for another one, and the third is
refused without losing the code that is held. -/
theorem keeps_quota_of_two_sends :
    let settings : Settings := { maxSends := 2 }
    let phone := "0912345678"
    let before : List Query := [.send 0 ⟨"R1", 1⟩ ⟨"0987654321", []⟩,
      .send 1 ⟨"R2", 42⟩ ⟨phone, []⟩, .verify 2 ⟨phone, "111111", "R2"⟩,
      .send 3 ⟨"R3", 3⟩ ⟨"0987654321", []⟩, .send 4 ⟨"R4", 4⟩ ⟨"+84912345678", []⟩]
    let second : Query := .send 5 ⟨"R5", 5⟩ ⟨phone, ["SMS"]⟩
    let store := Store.after settings {} (before ++ [second])
    settings.failing = false ∧ Phone.isValid phone = true ∧
      Spans settings phone (before ++ [second] ++ [.send 6 ⟨"R6", 6⟩ ⟨phone, []⟩]) ∧
      (send settings 5 ⟨"R5", 5⟩ ⟨phone, ["SMS"]⟩ (Store.after settings {} before)).1 =
        some (.ok ⟨"sms", "R5", 300, "09****5678", ⟨some 0, none⟩⟩) ∧
      (send settings 6 ⟨"R6", 6⟩ ⟨phone, []⟩ store).1 =
        some (.error (.rejected ⟨"10010", "Too many OTP requests for this phone number"⟩)) ∧
      (send settings 6 ⟨"R6", 6⟩ ⟨phone, []⟩ store).2.codes.lookup "R5" =
        some ⟨phone, "000005", 0, 300000000005⟩ ∧
      store.sends = 4 := by
  intro settings phone before second store
  have working : settings.failing = false := rfl
  have valid : Phone.isValid phone = true := by decide +kernel
  have spans : Spans settings phone (before ++ [second] ++ [.send 6 ⟨"R6", 6⟩ ⟨phone, []⟩]) := by
    decide +kernel
  have keeps : KeepsQuota settings := keeps_quota working
  have refused := keeps.answered (before ++ [second]) 6 ⟨"R6", 6⟩ ⟨phone, []⟩ valid spans
  have third : share settings 6 ⟨"R6", 6⟩ ⟨phone, []⟩ (asked phone (before ++ [second]) + 1) =
      some (.error (.rejected ⟨"10010", "Too many OTP requests for this phone number"⟩)) := by
    decide +kernel
  have held : store.codes.lookup "R5" = some ⟨phone, "000005", 0, 300000000005⟩ := by
    decide +kernel
  refine ⟨working, valid, spans, ?_, refused.trans third, ?_, by decide +kernel⟩
  · rw [keeps.answered before 5 ⟨"R5", 5⟩ ⟨phone, ["SMS"]⟩ valid (spans.of_append)]
    decide +kernel
  · exact (keeps.refused (before ++ [second]) 6 ⟨"R6", 6⟩ ⟨phone, []⟩ _ (refused.trans third)).1
      "R5" _ held (by decide)

end Passcode.Issuer
