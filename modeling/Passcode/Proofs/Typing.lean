import Mathlib.Computability.RegularExpressions
import Passcode.Proofs.Blank
import Passcode.Proofs.Digits
import Passcode.Session.Basic

/-!
Typing. What is stored of a text does not depend on the pieces in which it is typed, and an accepted
number or code is stored as it is. Whether one is accepted can be read off its characters, its bytes
or a pattern.
-/

set_option autoImplicit false

namespace Passcode

/-! ### Digits piece by piece -/

namespace Text

theorem keepDigits_of_digits {cs : List Char} (digits : ∀ c ∈ cs, c.isDigit = true) (limit : Nat) :
    keepDigits limit cs = cs.take limit := by
  rw [keepDigits, List.filter_eq_self.mpr digits]

theorem isDigit_of_mem_keepDigits {limit : Nat} {cs : List Char} {c : Char}
    (member : c ∈ keepDigits limit cs) : c.isDigit = true :=
  (List.mem_filter.mp (List.mem_of_mem_take member)).2

theorem keepDigits_keepDigits (limit smaller : Nat) (cs : List Char) :
    keepDigits smaller (keepDigits limit cs) = keepDigits (min limit smaller) cs := by
  rw [keepDigits_of_digits fun c member => isDigit_of_mem_keepDigits member, keepDigits,
    List.take_take, Nat.min_comm, keepDigits]

theorem keepDigits_append (limit : Nat) (cs ds : List Char) :
    keepDigits limit (keepDigits limit cs ++ ds) = keepDigits limit (cs ++ ds) := by
  have stored : (keepDigits limit cs).filter Char.isDigit = keepDigits limit cs :=
    List.filter_eq_self.mpr fun c member => isDigit_of_mem_keepDigits member
  have room : limit - min limit (cs.filter Char.isDigit).length =
      limit - (cs.filter Char.isDigit).length := by omega
  rw [keepDigits, List.filter_append, stored, keepDigits, keepDigits, List.filter_append,
    List.take_append, List.take_append, List.take_take, Nat.min_self, List.length_take, room]

theorem digitsOnly_digitsOnly (limit smaller : Nat) (s : String) :
    digitsOnly smaller (digitsOnly limit s) = digitsOnly (min limit smaller) s := by
  rw [digitsOnly, digitsOnly, digitsOnly, String.toList_ofList, keepDigits_keepDigits]

theorem digitsOnly_append (limit : Nat) (s t : String) :
    digitsOnly limit (digitsOnly limit s ++ t) = digitsOnly limit (s ++ t) := by
  rw [digitsOnly, digitsOnly, digitsOnly, String.toList_append, String.toList_append,
    String.toList_ofList, keepDigits_append]

theorem foldl_pieces {σ : Type} (enter : σ → String → σ) (stored : σ → String)
    (one : ∀ s typed piece,
      enter (enter s typed) (stored (enter s typed) ++ piece) = enter s (typed ++ piece))
    (s : σ) (typed : String) (pieces : List String) :
    pieces.foldl (fun s piece => enter s (stored s ++ piece)) (enter s typed) =
      enter s (typed ++ String.join pieces) := by
  induction pieces generalizing typed with
  | nil => rw [List.foldl_nil, String.join_nil, String.append_empty]
  | cons piece pieces ih =>
    rw [List.foldl_cons, one, ih, String.join_cons, String.append_assoc]

theorem foldl_digitsOnly (limit : Nat) (typed : String) (pieces : List String) :
    pieces.foldl (fun stored piece => digitsOnly limit (stored ++ piece))
        (digitsOnly limit typed) =
      digitsOnly limit (typed ++ String.join pieces) :=
  foldl_pieces (fun _ raw => digitsOnly limit raw) id (fun _ => digitsOnly_append limit) ""
    typed pieces

theorem digitsOnly_eq_self_iff {limit : Nat} {s : String} :
    digitsOnly limit s = s ↔ IsDigits limit s := by
  constructor
  · intro same
    rw [← same]
    exact isDigits_digitsOnly limit s
  · rintro ⟨short, digits⟩
    rw [digitsOnly, keepDigits_of_digits digits, List.take_of_length_le short,
      String.ofList_toList]

end Text

/-! ### Typing into a session -/

theorem Session.typePhone_append (s : Session) (typed piece : String) :
    (s.typePhone typed).typePhone ((s.typePhone typed).state.phone ++ piece) =
      s.typePhone (typed ++ piece) := by
  by_cases accepted : (!s.busy && s.state.step == .awaitingPhone) = true
  · let withPhone (phone : String) : Session := { s with state := { s.state with phone } }
    have stored (raw : String) : s.typePhone raw = withPhone (Phone.normalize raw) :=
      if_pos accepted
    have storedOver (phone raw : String) :
        (withPhone phone).typePhone raw = withPhone (Phone.normalize raw) := if_pos accepted
    rw [stored, stored, storedOver]
    exact congrArg withPhone (Text.digitsOnly_append Phone.length typed piece)
  · have kept (raw : String) : s.typePhone raw = s := if_neg accepted
    rw [kept, kept, kept]

theorem Session.typeCode_append (s : Session) (typed piece : String) :
    (s.typeCode typed).typeCode ((s.typeCode typed).state.code ++ piece) =
      s.typeCode (typed ++ piece) := by
  by_cases accepted : (!s.busy) = true
  · have stored (raw : String) : s.typeCode raw = s.withCode (Code.normalize raw) :=
      if_pos accepted
    have storedOver (code raw : String) :
        (s.withCode code).typeCode raw = s.withCode (Code.normalize raw) := if_pos accepted
    rw [stored, stored, storedOver]
    exact congrArg s.withCode (Text.digitsOnly_append Code.length typed piece)
  · have kept (raw : String) : s.typeCode raw = s := if_neg accepted
    rw [kept, kept, kept]

theorem Session.foldl_typePhone (s : Session) (typed : String) (pieces : List String) :
    pieces.foldl (fun s piece => s.typePhone (s.state.phone ++ piece)) (s.typePhone typed) =
      s.typePhone (typed ++ String.join pieces) :=
  Text.foldl_pieces typePhone (fun s => s.state.phone) typePhone_append s typed pieces

theorem Session.foldl_typeCode (s : Session) (typed : String) (pieces : List String) :
    pieces.foldl (fun s piece => s.typeCode (s.state.code ++ piece)) (s.typeCode typed) =
      s.typeCode (typed ++ String.join pieces) :=
  Text.foldl_pieces typeCode (fun s => s.state.code) typeCode_append s typed pieces

/-! ### Phone numbers -/

/-- Exactly ten characters: a zero, a carrier digit and eight digits. -/
def Phone.HasForm (phone : String) : Prop :=
  phone.length = 10 ∧ phone.toList[0]? = some '0' ∧
    (∃ carrier ∈ ['3', '5', '7', '8', '9'], phone.toList[1]? = some carrier) ∧
    ∀ c ∈ phone.toList.drop 2, c.isDigit = true

theorem Phone.isValid_iff {phone : String} : Phone.isValid phone = true ↔ Phone.HasForm phone := by
  rw [HasForm, ← String.length_toList, isValid]
  split
  · next carrier rest characters =>
    simp only [characters, Bool.and_eq_true, beq_iff_eq, List.all_eq_true, List.contains_iff_mem]
    simp [carrierDigits, and_assoc, and_left_comm]
  · next other =>
    refine iff_of_false Bool.false_ne_true ?_
    rintro ⟨-, zero, ⟨carrier, -, second⟩, -⟩
    match characters : phone.toList with
    | [] => simp [characters] at zero
    | [_] => simp [characters] at second
    | first :: carrier :: rest =>
      rw [characters] at zero
      obtain rfl := Option.some.inj zero
      exact other carrier rest characters

theorem Phone.normalize_of_isValid {phone : String} (valid : Phone.isValid phone = true) :
    Phone.normalize phone = phone :=
  Text.digitsOnly_eq_self_iff.mpr (Phone.isDigits_of_isValid valid)

/-! ### Phone numbers by their pattern -/

namespace Text

def oneOf (cs : List Char) : RegularExpression Char :=
  cs.foldr (fun c rest => .char c + rest) 0

def digits : List Char := ['0', '1', '2', '3', '4', '5', '6', '7', '8', '9']

theorem isDigit_iff_mem_digits {c : Char} : c.isDigit = true ↔ c ∈ digits := by
  constructor
  · intro digit
    obtain ⟨low, high⟩ := isDigit_iff_toNat.mp digit
    have listed : ∀ n < 58, 48 ≤ n → Char.ofNat n ∈ digits := by decide
    rw [← Char.ofNat_toNat c]
    exact listed c.toNat (Nat.lt_succ_of_le high) low
  · intro member
    have all : digits.all Char.isDigit = true := rfl
    exact List.all_eq_true.mp all c member

theorem mem_oneOf {cs word : List Char} :
    word ∈ (oneOf cs).matches' ↔ ∃ c ∈ cs, word = [c] := by
  induction cs with
  | nil => simp [oneOf]
  | cons c cs ih =>
    have split : (oneOf (c :: cs)).matches' = {[c]} + (oneOf cs).matches' := rfl
    have single : word ∈ ({[c]} : Language Char) ↔ word = [c] := Iff.rfl
    rw [split, Language.mem_add, ih, single]
    simp

theorem mem_oneOf_pow {cs word : List Char} {n : Nat} :
    word ∈ (oneOf cs).matches' ^ n ↔ word.length = n ∧ ∀ c ∈ word, c ∈ cs := by
  induction n generalizing word with
  | zero =>
    rw [pow_zero, Language.mem_one, List.length_eq_zero_iff]
    constructor
    · rintro rfl
      exact ⟨rfl, nofun⟩
    · exact And.left
  | succ n ih =>
    rw [pow_succ', Language.mem_mul]
    constructor
    · rintro ⟨first, one, rest, others, rfl⟩
      obtain ⟨c, listed, rfl⟩ := mem_oneOf.mp one
      obtain ⟨length, all⟩ := ih.mp others
      refine ⟨congrArg Nat.succ length, ?_⟩
      intro d member
      rcases List.mem_cons.mp member with rfl | later
      · exact listed
      · exact all d later
    · rintro ⟨length, all⟩
      obtain ⟨c, rest, rfl⟩ := List.exists_cons_of_length_eq_add_one length
      have one : [c] ∈ (oneOf cs).matches' := mem_oneOf.mpr ⟨c, all c List.mem_cons_self, rfl⟩
      have others : rest ∈ (oneOf cs).matches' ^ n :=
        ih.mpr ⟨Nat.succ.inj length, fun d member => all d (List.mem_cons_of_mem c member)⟩
      exact ⟨[c], one, rest, others, rfl⟩

end Text

def Phone.pattern : RegularExpression Char :=
  .char '0' * Text.oneOf carrierDigits * Text.oneOf Text.digits ^ 8

theorem Phone.isValid_iff_matches {phone : String} :
    Phone.isValid phone = true ↔ phone.toList ∈ Phone.pattern.matches' := by
  have split : Phone.pattern.matches' = {['0']} * (Text.oneOf carrierDigits).matches' *
      (Text.oneOf Text.digits).matches' ^ 8 := by
    rw [pattern, RegularExpression.matches'_mul, RegularExpression.matches'_mul,
      RegularExpression.matches'_pow]
    rfl
  rw [split, Language.mem_mul]
  constructor
  · intro valid
    unfold isValid at valid
    split at valid
    · next carrier rest characters =>
      simp only [Bool.and_eq_true, beq_iff_eq, List.all_eq_true, List.contains_iff_mem] at valid
      obtain ⟨⟨listed, eight⟩, all⟩ := valid
      have start : ['0', carrier] ∈ {['0']} * (Text.oneOf carrierDigits).matches' :=
        Language.mem_mul.mpr ⟨['0'], rfl, [carrier], Text.mem_oneOf.mpr ⟨carrier, listed, rfl⟩, rfl⟩
      have digits : ∀ c ∈ rest, c ∈ Text.digits :=
        fun c member => Text.isDigit_iff_mem_digits.mp (all c member)
      have others : rest ∈ (Text.oneOf Text.digits).matches' ^ 8 :=
        Text.mem_oneOf_pow.mpr ⟨eight, digits⟩
      exact ⟨['0', carrier], start, rest, others, characters.symm⟩
    · cases valid
  · rintro ⟨start, begins, rest, others, whole⟩
    obtain ⟨zero, rfl, second, one, rfl⟩ := Language.mem_mul.mp begins
    obtain ⟨carrier, listed, rfl⟩ := Text.mem_oneOf.mp one
    obtain ⟨eight, all⟩ := Text.mem_oneOf_pow.mp others
    have characters : phone.toList = '0' :: carrier :: rest := whole.symm
    rw [isValid, characters]
    simp only [Bool.and_eq_true, beq_iff_eq, List.all_eq_true, List.contains_iff_mem]
    exact ⟨⟨listed, eight⟩, fun c member => Text.isDigit_iff_mem_digits.mpr (all c member)⟩

/-! ### Codes -/

theorem Code.isValid_iff_normalize {code : String} :
    Code.isValid code = true ↔ Code.normalize code = code ∧ code.length = 6 := by
  have stored : Code.normalize code = code ↔ Text.IsDigits 6 code := Text.digitsOnly_eq_self_iff
  rw [Code.isValid_iff, stored, Text.IsDigits, ← String.length_toList]
  constructor
  · rintro ⟨six, digits⟩
    exact ⟨⟨Nat.le_of_eq six, digits⟩, six⟩
  · rintro ⟨⟨-, digits⟩, six⟩
    exact ⟨six, digits⟩

/-! ### Codes by their bytes -/

namespace Text

def bytes (s : String) : List UInt8 :=
  s.toUTF8.data.toList

def IsDigitByte (b : UInt8) : Prop :=
  48 ≤ b.toNat ∧ b.toNat ≤ 57

theorem bytes_eq_flatMap (s : String) : bytes s = s.toList.flatMap String.utf8EncodeChar := by
  have encoded : s.toByteArray = s.toList.utf8Encode := by
    rw [← String.toByteArray_ofList, String.ofList_toList]
  rw [bytes, String.toUTF8_eq_toByteArray, encoded, List.utf8Encode, List.toList_data_toByteArray]

theorem length_bytes (s : String) : (bytes s).length = s.utf8ByteSize :=
  Array.length_toList

theorem utf8EncodeChar_of_isDigit {c : Char} (digit : c.isDigit = true) :
    String.utf8EncodeChar c = [UInt8.ofNat c.toNat] := by
  have high : c.val.toNat ≤ 127 := Nat.le_trans (isDigit_iff_toNat.mp digit).2 (by decide)
  rw [String.utf8EncodeChar, if_pos high]
  rfl

theorem utf8EncodeChar_eq_cons (c : Char) :
    ∃ n rest, String.utf8EncodeChar c = UInt8.ofNat n :: rest ∧
      (n = c.toNat ∧ n ≤ 127 ∨ 192 ≤ n ∧ n < 256) := by
  rw [String.utf8EncodeChar]
  split
  · next ascii => exact ⟨_, _, rfl, .inl ⟨rfl, ascii⟩⟩
  · split
    · exact ⟨_, _, rfl, .inr (by omega)⟩
    · split
      · exact ⟨_, _, rfl, .inr (by omega)⟩
      · exact ⟨_, _, rfl, .inr (by omega)⟩

theorem isDigit_iff_bytes {c : Char} :
    c.isDigit = true ↔ ∀ b ∈ String.utf8EncodeChar c, IsDigitByte b := by
  constructor
  · intro digit b member
    have range := isDigit_iff_toNat.mp digit
    have value : (UInt8.ofNat c.toNat).toNat = c.toNat := by
      rw [UInt8.toNat_ofNat']
      omega
    rw [utf8EncodeChar_of_isDigit digit] at member
    rw [List.mem_singleton.mp member, IsDigitByte, value]
    exact range
  · intro all
    obtain ⟨n, rest, split, range⟩ := utf8EncodeChar_eq_cons c
    have first := all (UInt8.ofNat n) (split ▸ List.mem_cons_self)
    rw [IsDigitByte, UInt8.toNat_ofNat'] at first
    rw [isDigit_iff_toNat]
    omega

theorem length_bytes_of_digits {s : String} (digits : ∀ c ∈ s.toList, c.isDigit = true) :
    (bytes s).length = s.toList.length := by
  have single : s.toList.flatMap String.utf8EncodeChar =
      s.toList.flatMap fun c => [UInt8.ofNat c.toNat] :=
    List.flatMap_congr fun c member => utf8EncodeChar_of_isDigit (digits c member)
  rw [bytes_eq_flatMap, single, ← List.map_eq_flatMap, List.length_map]

end Text

theorem Code.isValid_iff_bytes {code : String} :
    Code.isValid code = true ↔
      code.utf8ByteSize = 6 ∧ ∀ b ∈ Text.bytes code, Text.IsDigitByte b := by
  have digits : (∀ b ∈ Text.bytes code, Text.IsDigitByte b) ↔
      ∀ c ∈ code.toList, c.isDigit = true := by
    simp only [Text.bytes_eq_flatMap, List.mem_flatMap, Text.isDigit_iff_bytes]
    exact ⟨fun all c member b byte => all b ⟨c, member, byte⟩,
      fun all b ⟨c, member, byte⟩ => all c member b byte⟩
  rw [Code.isValid_iff, digits, ← Text.length_bytes]
  constructor
  · rintro ⟨six, all⟩
    exact ⟨(Text.length_bytes_of_digits all).trans six, all⟩
  · rintro ⟨six, all⟩
    exact ⟨(Text.length_bytes_of_digits all).symm.trans six, all⟩

/-! ### Typing and accepting -/

/-- Typing in pieces comes to typing at once, for texts and for sessions. -/
structure TypedByPieces : Prop where
  appended : ∀ (limit : Nat) (typed piece : String),
    Text.digitsOnly limit (Text.digitsOnly limit typed ++ piece) =
      Text.digitsOnly limit (typed ++ piece)
  narrowed : ∀ (limit other : Nat) (typed : String),
    Text.digitsOnly other (Text.digitsOnly limit typed) = Text.digitsOnly (min limit other) typed
  phone : ∀ (typed : String) (pieces : List String),
    pieces.foldl (fun stored piece => Phone.normalize (stored ++ piece)) (Phone.normalize typed) =
      Phone.normalize (typed ++ String.join pieces)
  code : ∀ (typed : String) (pieces : List String),
    pieces.foldl (fun stored piece => Code.normalize (stored ++ piece)) (Code.normalize typed) =
      Code.normalize (typed ++ String.join pieces)
  typePhone : ∀ (s : Session) (typed : String) (pieces : List String),
    pieces.foldl (fun s piece => s.typePhone (s.state.phone ++ piece)) (s.typePhone typed) =
      s.typePhone (typed ++ String.join pieces)
  typeCode : ∀ (s : Session) (typed : String) (pieces : List String),
    pieces.foldl (fun s piece => s.typeCode (s.state.code ++ piece)) (s.typeCode typed) =
      s.typeCode (typed ++ String.join pieces)

/-- What is accepted as a phone number or a code is what has its form, character by character, by
its pattern and byte by byte; and it is stored as it is. -/
structure AcceptsForms : Prop where
  phone : ∀ text, Phone.isValid text = true ↔ Phone.HasForm text
  phonePattern : ∀ text, Phone.isValid text = true ↔ text.toList ∈ Phone.pattern.matches'
  phoneStored : ∀ text, Phone.isValid text = true → Phone.normalize text = text
  code : ∀ text, Code.isValid text = true ↔ Code.normalize text = text ∧ text.length = 6
  codeBytes : ∀ text, Code.isValid text = true ↔
    text.utf8ByteSize = 6 ∧ ∀ b ∈ Text.bytes text, Text.IsDigitByte b

theorem typed_by_pieces : TypedByPieces ∧ AcceptsForms where
  left := {
    appended := Text.digitsOnly_append
    narrowed := Text.digitsOnly_digitsOnly
    phone := Text.foldl_digitsOnly Phone.length
    code := Text.foldl_digitsOnly Code.length
    typePhone := Session.foldl_typePhone
    typeCode := Session.foldl_typeCode }
  right := {
    phone := fun _ => Phone.isValid_iff
    phonePattern := fun _ => Phone.isValid_iff_matches
    phoneStored := fun _ => Phone.normalize_of_isValid
    code := fun _ => Code.isValid_iff_normalize
    codeBytes := fun _ => Code.isValid_iff_bytes }

/-- Whatever is typed between the digits does not count. -/
example : ["(09", "1) 23", "4-56", "78 99"].foldl
    (fun stored piece => Phone.normalize (stored ++ piece)) "" = "0912345678" := by
  decide

end Passcode
