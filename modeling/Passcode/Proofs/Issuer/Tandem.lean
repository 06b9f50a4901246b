import Passcode.Proofs.Issuer.Window
import Passcode.Proofs.Session.Whole

/-!
A session and the service in memory side by side. The session is the only caller, and the service
answers at once, so no call is outstanding when the next one starts. What the session knows of its
request, the service knows too.
-/

set_option autoImplicit false

namespace Passcode.Issuer

/-! ### Runs of both -/

inductive Move where
  | send (now : Nat) (draw : Draw) (phone : String)
  | resend (now : Nat) (draw : Draw)
  | verify (now : Nat) (code : String)
  | typePhone (raw : String)
  | typeCode (raw : String)
  | tick
  | reset
  deriving DecidableEq, Repr

namespace Move

private def returned : Session × Outcome × Store → Session × Option Outcome × Store
  | (s, outcome, store) => (s, some outcome, store)

/-- What a move makes of both, and what it returns. A verification draws nothing, so the draw of
its service is not used. -/
def play (settings : Settings) (s : Session) (store : Store) :
    Move → Session × Option Outcome × Store
  | send now draw phone => s.send (service settings now draw) phone store
  | resend now draw => s.resend (service settings now draw) store
  | verify now code => returned (s.verify (service settings now ⟨"", 0⟩) code store)
  | typePhone raw => (s.typePhone raw, none, store)
  | typeCode raw => (s.typeCode raw, none, store)
  | tick => (s.tick, none, store)
  | reset => (s.reset, none, store)

def query (s : Session) : Move → Option Query
  | send now draw phone => (Session.handedOver (s.startSend phone)).map (.send now draw)
  | resend now draw => (Session.handedOver s.startResend).map (.send now draw)
  | verify now code => (Session.handedOver (s.startVerify code)).map (.verify now)
  | typePhone _ => none
  | typeCode _ => none
  | tick => none
  | reset => none

end Move

/-- What is seen of a move: the call to the service, what was returned, and the state it left. -/
structure Sight where
  query : Option Query
  outcome : Option Outcome
  state : State
  deriving DecidableEq

def Sight.sentTo (phone : String) (sight : Sight) : Bool :=
  sight.outcome == some .sent && sight.state.phone == phone

/-- The session and the store of its service, with what was seen of the moves so far. -/
structure Tandem where
  session : Session
  store : Store := {}
  sights : List Sight := []
  deriving DecidableEq

namespace Tandem

def next (t : Tandem) (query : Option Query) (result : Session × Option Outcome × Store) : Tandem :=
  ⟨result.1, result.2.2, t.sights ++ [⟨query, result.2.1, result.1.state⟩]⟩

def step (settings : Settings) (t : Tandem) (move : Move) : Tandem :=
  t.next (move.query t.session) (move.play settings t.session t.store)

def run (settings : Settings) (channels : List String) (moves : List Move) : Tandem :=
  moves.foldl (step settings) { session := { channels } }

def queries (t : Tandem) : List Query :=
  t.sights.filterMap Sight.query

def sentTo (phone : String) (t : Tandem) : Nat :=
  t.sights.countP (Sight.sentTo phone)

theorem run_append_single (settings : Settings) (channels : List String) (moves : List Move)
    (move : Move) :
    run settings channels (moves ++ [move]) = (run settings channels moves).step settings move := by
  simp only [run, List.foldl_append, List.foldl_cons, List.foldl_nil]

theorem queries_next (t : Tandem) (query : Option Query)
    (result : Session × Option Outcome × Store) :
    (t.next query result).queries = t.queries ++ query.toList := by
  rw [queries, next, List.filterMap_append]
  cases query with
  | none => rfl
  | some q => rfl

theorem sentTo_next (t : Tandem) (query : Option Query)
    (result : Session × Option Outcome × Store) (phone : String) :
    (t.next query result).sentTo phone =
      t.sentTo phone +
        [(⟨query, result.2.1, result.1.state⟩ : Sight)].countP (Sight.sentTo phone) :=
  List.countP_append

theorem sentTo_next_of_sent (t : Tandem) (query : Option Query)
    {result : Session × Option Outcome × Store} {phone : String}
    (sent : result.2.1 = some .sent) (same : result.1.state.phone = phone) :
    (t.next query result).sentTo phone = t.sentTo phone + 1 := by
  have counts : Sight.sentTo phone ⟨query, result.2.1, result.1.state⟩ = true := by
    rw [Sight.sentTo, sent, same, beq_self_eq_true, beq_self_eq_true]
    rfl
  rw [sentTo_next, List.countP_singleton, counts]
  rfl

end Tandem

theorem Sight.countP_sentTo_of_unsent {sight : Sight} (unsent : sight.outcome ≠ some .sent)
    (phone : String) : [sight].countP (Sight.sentTo phone) = 0 := by
  have uncounted : sight.sentTo phone = false := by
    rw [Sight.sentTo, beq_eq_false_iff_ne.mpr unsent, Bool.false_and]
  rw [List.countP_singleton, uncounted]
  rfl

/-! ### One move -/

/-- Two states know the same of the request that stands. -/
structure SameRequest (s t : State) : Prop where
  step : t.step = s.step
  phone : t.phone = s.phone
  requestId : t.requestId = s.requestId
  attemptsLeft : t.attemptsLeft = s.attemptsLeft
  quota : t.quota = s.quota

/-- The ways of a move from a session that is not busy: the call it comes to, what it leaves and
what it returns. -/
inductive Played (settings : Settings) (s : Session) (store : Store) :
    Option Query → Session × Option Outcome × Store → Prop
  /-- The service is not called. If a code is awaited still, the request stands. -/
  | within {after : Session} {outcome : Option Outcome} (free : after.busy = false)
      (unsent : outcome ≠ some .sent)
      (same : after.state.step = .awaitingCode → SameRequest s.state after.state) :
      Played settings s store none (after, outcome, store)
  | sends {now : Nat} {draw : Draw} {phone code : String} {after : Session}
      {outcome : Option Outcome}
      (sends : Session.Sends s phone code
        (send settings now draw ⟨phone, s.channels⟩ store).1 after outcome) :
      Played settings s store (some (.send now draw ⟨phone, s.channels⟩))
        (after, outcome, (send settings now draw ⟨phone, s.channels⟩ store).2)
  | settles {now : Nat} {code : String} {after : Session} {outcome : Outcome}
      (step : s.state.step = .awaitingCode)
      (settled : Session.Settles s code
        (verify settings now ⟨s.state.phone, code, s.state.requestId⟩ store).1 after outcome) :
      Played settings s store (some (.verify now ⟨s.state.phone, code, s.state.requestId⟩))
        (after, some outcome,
          (verify settings now ⟨s.state.phone, code, s.state.requestId⟩ store).2)

variable {settings : Settings} {s : Session} {store : Store}

private theorem played_of_sendCourse {now : Nat} {draw : Draw} {request : Option SendRequest}
    {result : Session × Option Outcome × Store} (free : s.busy = false)
    (course : Session.SendCourse s (service settings now draw) store request result) :
    Played settings s store (request.map (.send now draw)) result := by
  cases course with
  | within unsent =>
    refine .within free ?_ fun _ => ⟨rfl, rfl, rfl, rfl, rfl⟩
    intro sent
    exact unsent (Option.some.inj sent)
  | asked sends => exact .sends sends

private theorem played_of_verifyCourse {now : Nat} {draw : Draw} {request : Option VerifyRequest}
    {result : Session × Outcome × Store} (free : s.busy = false)
    (course : Session.VerifyCourse s (service settings now draw) store request result) :
    Played settings s store (request.map (.verify now)) (Move.returned result) := by
  cases course with
  | within => exact .within free nofun fun _ => ⟨rfl, rfl, rfl, rfl, rfl⟩
  | asked step settled => exact .settles step settled

private theorem played_typePhone (free : s.busy = false) (raw : String) :
    Played settings s store none (s.typePhone raw, none, store) := by
  have unsent : (none : Option Outcome) ≠ some .sent := (Option.some_ne_none _).symm
  rcases s.state.step.eq_awaitingPhone_or_eq_awaitingCode with step | step
  · have typed : s.typePhone raw =
        { s with state := { s.state with phone := Phone.normalize raw } } := by
      simp only [Session.typePhone, free, step, Bool.not_false, beq_self_eq_true, Bool.and_self,
        ↓reduceIte]
    rw [typed]
    refine .within free unsent ?_
    intro awaited
    exact absurd (step.symm.trans awaited) Step.noConfusion
  · have ignored : s.typePhone raw = s := by
      have other : (s.state.step == Step.awaitingPhone) = false := by rw [step]; rfl
      simp only [Session.typePhone, other, Bool.and_false, Bool.false_eq_true, ↓reduceIte]
    rw [ignored]
    exact .within free unsent fun _ => ⟨rfl, rfl, rfl, rfl, rfl⟩

private theorem played_typeCode (free : s.busy = false) (raw : String) :
    Played settings s store none (s.typeCode raw, none, store) := by
  have typed : s.typeCode raw = { s with state := { s.state with code := Code.normalize raw } } :=
    if_pos (by rw [free]; rfl)
  rw [typed]
  exact .within free nofun fun _ => ⟨rfl, rfl, rfl, rfl, rfl⟩

theorem Move.play_played (free : s.busy = false) (settings : Settings) (store : Store)
    (move : Move) :
    Played settings s store (move.query s) (move.play settings s store) := by
  cases move with
  | send now draw phone =>
    exact played_of_sendCourse free (Session.send_course free (service settings now draw) phone _)
  | resend now draw =>
    exact played_of_sendCourse free (Session.resend_course free (service settings now draw) _)
  | verify now code =>
    exact played_of_verifyCourse free
      (Session.verify_course free (service settings now ⟨"", 0⟩) code _)
  | typePhone raw => exact played_typePhone free raw
  | typeCode raw => exact played_typeCode free raw
  | tick => exact .within free nofun fun _ => ⟨rfl, rfl, rfl, rfl, rfl⟩
  | reset => exact .within rfl nofun nofun

namespace Played

variable {query : Option Query} {after : Session} {outcome : Option Outcome} {left : Store}

theorem free (played : Played settings s store query (after, outcome, left)) :
    after.busy = false := by
  cases played with
  | within free unsent same => exact free
  | sends sends => exact sends.free
  | settles step settled => exact settled.free

theorem store_eq (played : Played settings s store query (after, outcome, left)) :
    left = store.after settings query.toList := by
  cases played with
  | within free unsent same => rfl
  | sends sends => rfl
  | settles step settled => rfl

theorem countP_eq (played : Played settings s store query (after, outcome, left))
    (named : ∀ q, query = some q → q.drawn ≠ some "")
    (dated : ∀ q, query = some q → q.now + settings.validity < settings.horizon)
    (phone : String) :
    [(⟨query, outcome, after.state⟩ : Sight)].countP (Sight.sentTo phone) =
      (store.transcript settings query.toList).countP (spends phone) := by
  cases played with
  | within free unsent same => exact Sight.countP_sentTo_of_unsent unsent phone
  | @sends now draw number code after outcome sends =>
    have drawn : draw.requestId ≠ "" := by
      intro empty
      exact named _ rfl (congrArg some empty)
    have sending := send_sending settings now draw ⟨number, s.channels⟩ store
    rw [Option.toList_some, Store.transcript, Store.serve]
    generalize (send settings now draw ⟨number, s.channels⟩ store).1 = answer at sends sending ⊢
    cases sends with
    | sent receipt => rfl
    | failed fault =>
      cases fault with
      | failure failure => rfl
      | unnamed unnamed =>
        rw [sending.lookup_of_receipt.1] at unnamed
        exact absurd unnamed drawn
    | broken => exact absurd sending.late_of_broken (Nat.not_le.mpr (dated _ rfl))
  | settles step settled =>
    refine Sight.countP_sentTo_of_unsent ?_ phone
    intro sent
    exact settled.ne_sent (Option.some.inj sent)

end Played

end Passcode.Issuer
