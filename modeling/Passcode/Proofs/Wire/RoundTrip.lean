import Passcode.Proofs.Json.Record
import Passcode.Wire.Exchange
import Passcode.Wire.Settings

/-!
Reading what was written. Every value that goes over the wire, or into a settings file, comes back
as it was; only the counters beside a receipt are no part of its written form.
-/

set_option autoImplicit false

namespace Passcode

open Json

namespace Wire

/-- A value that is written comes back as what is `kept` of it. -/
class Restores (α : Type) [Wire α] (kept : outParam (α → α)) : Prop where
  proper : ∀ x : α, (toJson x).Proper
  /-- A value can be told from an absent one. -/
  present : ∀ x : α, toJson x ≠ .null
  restored : ∀ x : α, ofJson? (toJson x) = some (kept x)

attribute [simp] Restores.proper Restores.restored

section

variable {α : Type} [Wire α] {kept : α → α} [Restores α kept]

theorem decode?_encode (x : α) : decode? (encode x) = some (kept x) := by
  rw [decode?, encode, (Restores.proper x).read?_render]
  exact Restores.restored x

/-! ### Texts, numbers, lists and absent values -/

instance : Restores String id where
  proper := .str
  present _ := nofun
  restored _ := rfl

instance : Restores Bool id where
  proper := .bool
  present _ := nofun
  restored _ := rfl

instance : Restores UInt32 id where
  proper n := .natural n.toNat
  present _ := nofun
  restored n := by
    have small : n.toNat < UInt32.size := n.toNat_lt
    refine (if_pos small).trans ?_
    rw [UInt32.ofNat_toNat]
    rfl

instance : Restores UInt64 id where
  proper n := .natural n.toNat
  present _ := nofun
  restored n := by
    have small : n.toNat < UInt64.size := n.toNat_lt
    refine (if_pos small).trans ?_
    rw [UInt64.ofNat_toNat]
    rfl

theorem mapM_ofJson? (xs : List α) : (xs.map toJson).mapM ofJson? = some (xs.map kept) := by
  induction xs with
  | nil => rfl
  | cons x xs ih =>
    rw [List.map_cons, List.mapM_cons, Restores.restored, ih]
    rfl

instance : Restores (List α) (List.map kept) where
  proper xs := .array fun item member => by
    obtain ⟨x, -, rfl⟩ := List.mem_map.mp member
    exact Restores.proper x
  present _ := nofun
  restored := mapM_ofJson?

theorem proper_option {kept : α → α} [Restores α kept] (x : Option α) : (toJson x).Proper := by
  cases x with
  | none => exact .null
  | some x => exact Restores.proper x

@[simp] theorem restored_option (x : Option α) : ofJson? (toJson x) = some (x.map kept) := by
  cases x with
  | none => rfl
  | some x =>
    have written : toJson (some x) = toJson x := rfl
    have read : ofJson? (toJson x) = some (kept x) := Restores.restored x
    rw [written]
    simp only [ofJson?]
    split
    · next absent => exact absurd absent (Restores.present x)
    · rw [read]
      rfl

theorem proper_optionalMember {kept : α → α} [Restores α kept] (name : String) (x : Option α) :
    ∀ m ∈ optionalMember name x, m.2.Proper := by
  intro m member
  cases x with
  | none => cases member
  | some x =>
    obtain rfl := List.mem_singleton.mp member
    exact Restores.proper x

@[simp] theorem optional?_slotOf (name : String) (x : Option α) :
    (slotOf (optionalMember name x) name).optional? = some (x.map kept) := by
  cases x with
  | none => rfl
  | some x =>
    rw [optionalMember, slotOf_cons_self]
    exact restored_option (some x)

@[simp] theorem orDefault?_slotOf (name : String) (x : Option α) :
    (slotOf (optionalMember name x) name).orDefault? none = some (x.map kept) := by
  cases x with
  | none => rfl
  | some x =>
    rw [optionalMember, slotOf_cons_self]
    exact restored_option (some x)

end

/-! ### What a session and its service hand each other -/

theorem restored_record {β : Type} {fields : List String} {members : List (String × Json)}
    {read : (String → Slot) → Option β} {x : β} (inOrder : members.map Prod.fst <+: fields)
    (distinct : fields.Nodup) (reads : read (slotOf members) = some x) :
    (slots? fields (record members) >>= read) = some x := by
  rw [slots?_record inOrder distinct]
  exact reads

instance : Restores SendRequest id where
  proper r := .record <| by
    cases r.channels.isEmpty with
    | true => simp
    | false => simp
  present _ := nofun
  restored r := by
    obtain ⟨phone, channels⟩ := r
    cases channels with
    | nil => exact restored_record (by exact ⟨["preferredChannels"], rfl⟩) (by decide) (by simp)
    | cons channel channels => exact restored_record (by exact ⟨[], rfl⟩) (by decide) (by simp)

instance : Restores SendReceipt fun r => { r with quota := {} } where
  proper r := .record (by simp)
  present _ := nofun
  restored r := restored_record (by exact ⟨[], rfl⟩) (by decide) (by simp)

instance : Restores VerifyRequest id where
  proper r := .record (by simp)
  present _ := nofun
  restored r := restored_record (by exact ⟨[], rfl⟩) (by decide) (by simp)

instance : Restores Verdict id where
  proper v := .record (List.forall_mem_append.mpr ⟨by simp, proper_optionalMember _ _⟩)
  present _ := nofun
  restored v := by
    refine restored_record ?_ (by decide) (by simp)
    cases v.attemptsLeft with
    | none => exact ⟨["remainingAttempts"], rfl⟩
    | some left => exact ⟨[], rfl⟩

instance : Restores Quota id where
  proper q := .record (by simp [proper_option])
  present _ := nofun
  restored q := restored_record (by exact ⟨[], rfl⟩) (by decide) (by simp)

instance : Restores ErrorBody id where
  proper b := .record (by simp)
  present _ := nofun
  restored b := restored_record (by exact ⟨[], rfl⟩) (by decide) (by simp)

instance {α : Type} [Wire α] {kept : α → α} [Restores α kept] :
    Restores (Envelope α) fun e => { e with data := e.data.map kept } where
  proper e := .record (List.forall_mem_append.mpr ⟨by simp, proper_optionalMember _ _⟩)
  present _ := nofun
  restored e := by
    refine restored_record ?_ (by decide) (by simp)
    cases e.data with
    | none => exact ⟨["data"], rfl⟩
    | some x => exact ⟨[], rfl⟩

/-! ### Settings -/

open Settings

instance : Restores Environment id where
  proper e := .str e.name
  present _ := nofun
  restored e := by
    cases e with
    | development => rfl
    | staging => rfl
    | production => rfl

instance : Restores LogFormat id where
  proper f := .str f.name
  present _ := nofun
  restored f := by
    cases f with
    | json => rfl
    | pretty => rfl
    | compact => rfl

instance : Restores Logging id where
  proper l := .record (by simp)
  present _ := nofun
  restored l := restored_record (by exact ⟨[], rfl⟩) (by decide) (by simp)

instance : Restores Client id where
  proper c := .record (by simp)
  present _ := nofun
  restored c := restored_record (by exact ⟨[], rfl⟩) (by decide) (by simp)

instance : Restores Settings id where
  proper s := .record (by simp)
  present _ := nofun
  restored s := restored_record (by exact ⟨[], rfl⟩) (by decide) (by simp)

/-! ### All of them -/

/-- Whatever its texts, numbers, lists and absent parts are, a value is read back from its JSON text
as it was, a receipt without the counters that came beside it. -/
theorem decode?_encode_all :
    (∀ x : SendRequest, decode? (encode x) = some x) ∧
    (∀ x : SendReceipt, decode? (encode x) = some { x with quota := {} }) ∧
    (∀ x : VerifyRequest, decode? (encode x) = some x) ∧
    (∀ x : Verdict, decode? (encode x) = some x) ∧
    (∀ x : Quota, decode? (encode x) = some x) ∧
    (∀ x : ErrorBody, decode? (encode x) = some x) ∧
    (∀ x : Envelope UInt32, decode? (encode x) = some x) ∧
    (∀ x : Envelope SendReceipt, decode? (encode x) =
      some { x with data := x.data.map fun r : SendReceipt => { r with quota := {} } }) ∧
    (∀ x : Envelope Verdict, decode? (encode x) = some x) ∧
    (∀ x : Logging, decode? (encode x) = some x) ∧
    (∀ x : Client, decode? (encode x) = some x) ∧
    (∀ x : Settings, decode? (encode x) = some x) := by
  have whole {α : Type} [Wire α] [Restores α id] (x : Envelope α) :
      decode? (encode x) = some x := by
    rw [decode?_encode, Option.map_id]
    rfl
  exact ⟨decode?_encode, decode?_encode, decode?_encode, decode?_encode, decode?_encode,
    decode?_encode, whole, decode?_encode, whole, decode?_encode, decode?_encode, decode?_encode⟩

end Wire

end Passcode
