import Passcode.Json.Reader
import Passcode.Json.Writer

/-!
Records in JSON. A record is an object whose members are found by name, or an array of its fields in
order. Members with other names are passed over; a field that is given twice is refused.
-/

set_option autoImplicit false

namespace Passcode

/-- Types with a form in JSON. -/
class Wire (α : Type) where
  toJson : α → Json
  ofJson? : Json → Option α

namespace Wire

variable {α : Type} [Wire α]

def encode (x : α) : String :=
  (toJson x).render

def decode? (s : String) : Option α := do
  ofJson? (← Json.read? s)

instance : Wire String where
  toJson := .str
  ofJson?
    | .text s => s
    | _ => none

instance : Wire Bool where
  toJson := .bool
  ofJson?
    | .bool b => some b
    | _ => none

instance : Wire UInt32 where
  toJson n := .natural n.toNat
  ofJson?
    | .natural n => if n < UInt32.size then some (UInt32.ofNat n) else none
    | _ => none

instance : Wire UInt64 where
  toJson n := .natural n.toNat
  ofJson?
    | .natural n => if n < UInt64.size then some (UInt64.ofNat n) else none
    | _ => none

instance : Wire (List α) where
  toJson xs := .array (xs.map toJson)
  ofJson?
    | .array items => items.mapM ofJson?
    | _ => none

/-- An absent value is written as `null`. -/
instance : Wire (Option α) where
  toJson
    | none => .null
    | some x => toJson x
  ofJson?
    | .null => some none
    | j => (ofJson? j).map some

end Wire

namespace Json

/-- What a record says about one of its fields. -/
inductive Slot where
  | given (value : Json)
  /-- No member of the object has the name. -/
  | unnamed
  /-- The array ends before the field. -/
  | beyond

def member? (name : String) (members : List (Option String × Json)) : Option Json :=
  (members.find? fun m => m.1 == some name).map Prod.snd

def occurrences (name : String) (members : List (Option String × Json)) : Nat :=
  members.countP fun m => m.1 == some name

def membersAllowed (fields : List String) (members : List (Option String × Json)) : Bool :=
  members.all (·.1.isSome) && fields.all fun name => occurrences name members ≤ 1

/-- What a value says about each of the fields, if it has the form of a record with them. -/
def slots? (fields : List String) : Json → Option (String → Slot)
  | object members =>
    if membersAllowed fields members then
      some fun name =>
        match member? name members with
        | some value => .given value
        | none => .unnamed
    else none
  | array items =>
    if items.length ≤ fields.length then
      some fun name =>
        match items[fields.idxOf name]? with
        | some value => .given value
        | none => .beyond
    else none
  | _ => none

namespace Slot

variable {α : Type} [Wire α]

def required? : Slot → Option α
  | given value => Wire.ofJson? value
  | _ => none

/-- A field that may be left out. -/
def orDefault? (standard : α) : Slot → Option α
  | given value => Wire.ofJson? value
  | _ => some standard

/-- A field that an object may leave out or give as `null`, but that an array has to reach. -/
def optional? : Slot → Option (Option α)
  | given value => Wire.ofJson? value
  | unnamed => some none
  | beyond => none

end Slot

def optionalMember {α : Type} [Wire α] (name : String) : Option α → List (String × Json)
  | none => []
  | some x => [(name, Wire.toJson x)]

/-- The name of a choice: a text, or an object whose only member has that name and is `null`. -/
def choice? : Json → Option String
  | text name => name
  | object [(name, null)] => name
  | _ => none

end Json

end Passcode
