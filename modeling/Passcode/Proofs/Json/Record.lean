import Passcode.Json.Record
import Passcode.Proofs.Json.Value

/-!
Fields of records in JSON. An object says of each field what its member says, in whatever order and
whatever else stands beside it, and the values that stand in fields are read back from what was
written.
-/

set_option autoImplicit false

namespace Passcode

theorem Wire.decode?_eq_some_iff {α : Type} [Wire α] {text : String} {x : α} :
    Wire.decode? text = some x ↔ ∃ j, Json.read? text = some j ∧ Wire.ofJson? j = some x := by
  rw [Wire.decode?]
  exact Option.bind_eq_some_iff

namespace Json

/-! ### What a value says of a field -/

def slotIn (members : List (Option String × Json)) (name : String) : Slot :=
  match member? name members with
  | some value => .given value
  | none => .unnamed

def named (name : String) (members : List (Option String × Json)) : List (Option String × Json) :=
  members.filter fun m => m.1 == some name

theorem named_cons_of_eq {name : String} {m : Option String × Json} (same : m.1 = some name)
    (members : List (Option String × Json)) : named name (m :: members) = m :: named name members :=
  List.filter_cons_of_pos (beq_iff_eq.mpr same)

theorem named_cons_of_ne {name : String} {m : Option String × Json} (different : m.1 ≠ some name)
    (members : List (Option String × Json)) : named name (m :: members) = named name members :=
  List.filter_cons_of_neg fun found => different (beq_iff_eq.mp found)

theorem named_eq_nil_iff {name : String} {members : List (Option String × Json)} :
    named name members = [] ↔ ∀ m ∈ members, m.1 ≠ some name := by
  simp only [named, List.filter_eq_nil_iff, beq_iff_eq]

theorem occurrences_eq_named (name : String) (members : List (Option String × Json)) :
    occurrences name members = (named name members).length :=
  List.countP_eq_length_filter

theorem member?_eq_named (name : String) (members : List (Option String × Json)) :
    member? name members = (named name members).head?.map Prod.snd := by
  rw [member?, named, List.head?_filter]

theorem slotIn_eq_of_named {name : String} {members others : List (Option String × Json)}
    (same : named name others = named name members) :
    slotIn others name = slotIn members name := by
  rw [slotIn, slotIn, member?_eq_named, member?_eq_named, same]

theorem slotIn_of_named_nil {name : String} {members : List (Option String × Json)}
    (absent : named name members = []) : slotIn members name = .unnamed := by
  rw [slotIn, member?_eq_named, absent]
  rfl

theorem slotIn_of_named_singleton {name : String} {members : List (Option String × Json)}
    {m : Option String × Json} (found : named name members = [m]) :
    slotIn members name = .given m.2 := by
  rw [slotIn, member?_eq_named, found]
  rfl

theorem membersAllowed_iff {fields : List String} {members : List (Option String × Json)} :
    membersAllowed fields members = true ↔
      (∀ m ∈ members, m.1.isSome = true) ∧ ∀ name ∈ fields, (named name members).length ≤ 1 := by
  rw [membersAllowed, Bool.and_eq_true, List.all_eq_true, List.all_eq_true]
  simp only [decide_eq_true_eq, occurrences_eq_named]

theorem slots?_object_eq_some_iff {fields : List String} {members : List (Option String × Json)}
    {field : String → Slot} :
    slots? fields (object members) = some field ↔
      membersAllowed fields members = true ∧ slotIn members = field := by
  rw [slots?, Option.ite_none_right_eq_some, Option.some.injEq]
  rfl

theorem slots?_object_bind {fields : List String} {members : List (Option String × Json)} {β : Type}
    (read : (String → Slot) → Option β) :
    (slots? fields (object members) >>= read) =
      if membersAllowed fields members then read (slotIn members) else none := by
  rw [slots?]
  split
  · rfl
  · rfl

theorem slots?_object_of_subset {fields fewer : List String} (subset : fewer ⊆ fields)
    {members : List (Option String × Json)} {field : String → Slot}
    (slots : slots? fields (object members) = some field) :
    slots? fewer (object members) = some field := by
  obtain ⟨allowed, same⟩ := slots?_object_eq_some_iff.mp slots
  obtain ⟨proper, once⟩ := membersAllowed_iff.mp allowed
  have fewerAllowed := membersAllowed_iff.mpr ⟨proper, fun name member => once name (subset member)⟩
  exact slots?_object_eq_some_iff.mpr ⟨fewerAllowed, same⟩

theorem slots?_array {fields : List String} {items : List Json} {field : String → Slot}
    (slots : slots? fields (array items) = some field) :
    items.length ≤ fields.length ∧ ∀ name, field name =
      match items[fields.idxOf name]? with
      | some value => .given value
      | none => .beyond := by
  rw [slots?] at slots
  split at slots
  · next short => exact ⟨short, congrFun (Option.some.inj slots).symm⟩
  · cases slots

/-! ### Objects with distinct names -/

/-- What members with distinct names say of the field `name`. -/
def slotOf (members : List (String × Json)) (name : String) : Slot :=
  match members.lookup name with
  | some value => .given value
  | none => .unnamed

@[simp] theorem slotOf_nil (name : String) : slotOf [] name = .unnamed := rfl

@[simp] theorem slotOf_cons_self (name : String) (value : Json) (members : List (String × Json)) :
    slotOf ((name, value) :: members) name = .given value := by
  rw [slotOf, List.lookup_cons_self]

@[simp] theorem slotOf_cons_of_ne {name other : String} (different : name ≠ other) (value : Json)
    (members : List (String × Json)) :
    slotOf ((other, value) :: members) name = slotOf members name := by
  rw [slotOf, List.lookup_cons, beq_eq_false_iff_ne.mpr different]
  rfl

theorem member?_keyed (name : String) (members : List (String × Json)) :
    member? name (members.map keyed) = members.lookup name := by
  induction members with
  | nil => rfl
  | cons m members ih =>
    obtain ⟨key, value⟩ := m
    by_cases same : name = key
    · subst same
      rw [List.lookup_cons_self, member?, List.map_cons, List.find?_cons_of_pos]
      · rfl
      · exact beq_self_eq_true (some name)
    · rw [List.lookup_cons, beq_eq_false_iff_ne.mpr same, ← ih, member?, List.map_cons,
        List.find?_cons_of_neg]
      · rfl
      · intro found
        exact same (Option.some.inj (beq_iff_eq.mp found)).symm

theorem occurrences_keyed (name : String) (members : List (String × Json)) :
    occurrences name (members.map keyed) = (members.map Prod.fst).count name := by
  rw [occurrences, List.count, List.countP_map, List.countP_map]
  rfl

theorem slots?_record {fields : List String} {members : List (String × Json)}
    (inOrder : members.map Prod.fst <+: fields) (distinct : fields.Nodup) :
    slots? fields (record members) = some (slotOf members) := by
  have allowed : membersAllowed fields (members.map keyed) = true := by
    refine membersAllowed_iff.mpr ⟨List.forall_mem_map.mpr fun _ _ => rfl, fun name _ => ?_⟩
    rw [← occurrences_eq_named, occurrences_keyed]
    exact List.nodup_iff_count.mp (distinct.sublist inOrder.sublist) name
  refine slots?_object_eq_some_iff.mpr ⟨allowed, funext fun name => ?_⟩
  rw [slotIn, slotOf, ← member?_keyed]
  rfl

/-! ### Objects with other members -/

section

variable {fields : List String} {members others : List (Option String × Json)}

theorem slots?_object_of_repeated {name : String} (field : name ∈ fields)
    (repeated : 2 ≤ (named name members).length) : slots? fields (object members) = none := by
  rw [slots?, if_neg]
  intro allowed
  have once := (membersAllowed_iff.mp allowed).2 name field
  omega

/-- `others` are `members` in some order, and beside them members with proper names that are none of
`fields`. -/
def Rearranged (fields : List String) (members others : List (Option String × Json)) : Prop :=
  ∃ extra, others.Perm (members ++ extra) ∧ ∀ m ∈ extra, ∃ name, m.1 = some name ∧ name ∉ fields

namespace Rearranged

theorem named_perm (rearranged : Rearranged fields members others) {name : String}
    (field : name ∈ fields) : (named name others).Perm (named name members) := by
  obtain ⟨extra, perm, strange⟩ := rearranged
  have unnamed : named name extra = [] := by
    refine named_eq_nil_iff.mpr fun m member same => ?_
    obtain ⟨other, key, outside⟩ := strange m member
    exact outside (Option.some.inj (key.symm.trans same) ▸ field)
  have split : (named name others).Perm (named name members ++ named name extra) := by
    rw [named, named, named, ← List.filter_append]
    exact perm.filter _
  rwa [unnamed, List.append_nil] at split

theorem membersAllowed_eq (rearranged : Rearranged fields members others) :
    membersAllowed fields others = membersAllowed fields members := by
  have length_eq : ∀ name ∈ fields, (named name others).length = (named name members).length :=
    fun name field => (rearranged.named_perm field).length_eq
  have proper : (∀ m ∈ others, m.1.isSome = true) ↔ ∀ m ∈ members, m.1.isSome = true := by
    obtain ⟨extra, perm, strange⟩ := rearranged
    constructor
    · intro proper m member
      exact proper m (perm.mem_iff.mpr (List.mem_append_left extra member))
    · intro proper m member
      rcases List.mem_append.mp (perm.mem_iff.mp member) with old | new
      · exact proper m old
      · obtain ⟨name, key, -⟩ := strange m new
        rw [key]
        rfl
  rw [Bool.eq_iff_iff, membersAllowed_iff, membersAllowed_iff, proper]
  exact and_congr_right fun _ => forall₂_congr fun name field => by rw [length_eq name field]

theorem slotIn_eq (rearranged : Rearranged fields members others)
    (allowed : membersAllowed fields members = true) {name : String} (field : name ∈ fields) :
    slotIn others name = slotIn members name := by
  apply slotIn_eq_of_named
  have perm := rearranged.named_perm field
  have once := (membersAllowed_iff.mp allowed).2 name field
  -- With at most one member of that name there is only one order.
  rcases found : named name members with _ | ⟨m, _ | ⟨next, more⟩⟩
  · rw [found] at perm
    exact perm.eq_nil
  · rw [found] at perm
    exact List.perm_singleton.mp perm
  · rw [found, List.length_cons, List.length_cons] at once
    omega

end Rearranged

/-- `read` depends on the fields alone. -/
def ReadsFields {β : Type} (fields : List String) (read : (String → Slot) → Option β) : Prop :=
  ∀ field field', (∀ name ∈ fields, field name = field' name) → read field = read field'

theorem Rearranged.slots?_bind_eq (rearranged : Rearranged fields members others) {β : Type}
    {read : (String → Slot) → Option β} (readsFields : ReadsFields fields read) :
    (slots? fields (object others) >>= read) = (slots? fields (object members) >>= read) := by
  rw [slots?_object_bind, slots?_object_bind, rearranged.membersAllowed_eq]
  split
  · next allowed => exact readsFields _ _ fun name field => rearranged.slotIn_eq allowed field
  · rfl

/-- `read` makes the same of a field that an object leaves out and of one that it gives as
`value`. -/
def MayOmit {β : Type} (fields : List String) (name : String) (value : Json)
    (read : (String → Slot) → Option β) : Prop :=
  ∀ field field', field name = .unnamed → field' name = .given value →
    (∀ other ∈ fields, other ≠ name → field' other = field other) → read field' = read field

theorem membersAllowed_cons {name : String} (absent : named name members = []) (value : Json) :
    membersAllowed fields ((some name, value) :: members) = membersAllowed fields members := by
  have length_le (other : String) : (named other ((some name, value) :: members)).length ≤ 1 ↔
      (named other members).length ≤ 1 := by
    by_cases same : name = other
    · rw [← same, named_cons_of_eq rfl, absent]
      exact iff_of_true (Nat.le_refl 1) (Nat.zero_le 1)
    · rw [named_cons_of_ne fun found => same (Option.some.inj found)]
  rw [Bool.eq_iff_iff, membersAllowed_iff, membersAllowed_iff, List.forall_mem_cons]
  simp only [Option.isSome_some, true_and, length_le]

/-- A member that may be left out can as well be added, wherever it stands. -/
theorem slots?_bind_of_perm_cons {name : String} {value : Json} (absent : named name members = [])
    (perm : others.Perm ((some name, value) :: members)) {β : Type}
    {read : (String → Slot) → Option β} (mayOmit : MayOmit fields name value read) :
    (slots? fields (object others) >>= read) = (slots? fields (object members) >>= read) := by
  have rearranged : Rearranged fields ((some name, value) :: members) others :=
    ⟨[], by rwa [List.append_nil], nofun⟩
  have found : named name others = [(some name, value)] := by
    have found := perm.filter fun m => m.1 == some name
    rw [← named, ← named, named_cons_of_eq rfl, absent] at found
    exact List.perm_singleton.mp found
  rw [slots?_object_bind, slots?_object_bind, rearranged.membersAllowed_eq,
    membersAllowed_cons absent]
  split
  · next allowed =>
    rw [← membersAllowed_cons absent value] at allowed
    refine mayOmit _ _ (slotIn_of_named_nil absent) (slotIn_of_named_singleton found)
      fun other field different => ?_
    rw [rearranged.slotIn_eq allowed field]
    apply slotIn_eq_of_named
    exact named_cons_of_ne (fun same => different (Option.some.inj same).symm) _
  · rfl

end

/-! ### What is made of it -/

namespace Slot

variable {α : Type} [Wire α]

@[simp] theorem required?_given (value : Json) :
    (given value).required? = (Wire.ofJson? value : Option α) := rfl

@[simp] theorem orDefault?_given (standard : α) (value : Json) :
    (given value).orDefault? standard = Wire.ofJson? value := rfl

@[simp] theorem orDefault?_unnamed (standard : α) :
    unnamed.orDefault? standard = some standard := rfl

@[simp] theorem optional?_given (value : Json) :
    (given value).optional? = (Wire.ofJson? value : Option (Option α)) := rfl

@[simp] theorem optional?_unnamed : (unnamed.optional? : Option (Option α)) = some none := rfl

end Slot

end Json

end Passcode
