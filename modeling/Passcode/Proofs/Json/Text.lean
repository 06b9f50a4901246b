import Mathlib.Tactic.SplitIfs
import Passcode.Json.Reader
import Passcode.Json.Writer

/-!
Texts in JSON. What is written between quotation marks is read back as the text, whatever characters
it has and whatever follows it; and whatever is read as a text is read the same wherever it stands.
-/

set_option autoImplicit false

namespace Passcode.Json

namespace Piece

/-- The piece stands for `c`, whatever pieces follow. -/
def Spells (piece : Piece) (c : Char) : Prop :=
  ∀ pieces, joinPieces (piece :: pieces) = (joinPieces pieces).map (c :: ·)

def ReadFrom (piece : Piece) (written : List Char) : Prop :=
  ∀ cs, scanPieces (written ++ cs) = (scanPieces cs).map fun r => (piece :: r.1, r.2)

/-! ### What a piece stands for -/

theorem spells_char (c : Char) : (char c).Spells c := by
  intro pieces
  rw [joinPieces]

theorem spells_unit {u : Nat} (notHigh : isHighUnit u = false) (notLow : isLowUnit u = false) :
    (unit u).Spells (Char.ofNat u) := by
  intro pieces
  rcases pieces with _ | ⟨c | v, pieces⟩
  · simp only [joinPieces, notHigh, notLow, Bool.false_eq_true, or_self, ↓reduceIte]
  · simp only [joinPieces, notHigh, notLow, Bool.false_eq_true, or_self, ↓reduceIte]
  · simp only [joinPieces, notHigh, notLow, Bool.false_eq_true, ↓reduceIte]

theorem spells_unit_of_control {c : Char} (control : c.toNat < 0x20) : (unit c.toNat).Spells c := by
  have spells : (unit c.toNat).Spells (Char.ofNat c.toNat) := by
    apply spells_unit
    · simp only [isHighUnit, Bool.and_eq_false_iff, decide_eq_false_iff_not]
      omega
    · simp only [isLowUnit, Bool.and_eq_false_iff, decide_eq_false_iff_not]
      omega
  rwa [Char.ofNat_toNat] at spells

/-! ### How a piece is read -/

theorem readFrom_plain {c : Char} (visible : ¬c.toNat < 0x20) (noQuote : c ≠ '"')
    (noSlash : c ≠ '\\') : (char c).ReadFrom [c] := by
  intro cs
  rw [List.singleton_append, scanPieces, if_neg (not_or.mpr ⟨visible, noSlash⟩)]
  · cases scanPieces cs with
    | none => rfl
    | some r => rfl
  · exact noQuote
  · exact fun _ _ _ _ _ slash => absurd slash noSlash
  · exact fun _ _ slash => absurd slash noSlash

theorem readFrom_short {c d : Char} (short : shortEscape? d = some c) :
    (char c).ReadFrom ['\\', d] := by
  have noUnit : d ≠ 'u' := by
    rintro rfl
    cases short
  intro cs
  rw [List.cons_append, List.singleton_append, scanPieces, short]
  · cases scanPieces cs with
    | none => rfl
    | some r => rfl
  · exact fun _ _ _ _ _ unit => absurd unit noUnit

theorem readFrom_unit {a b c d : Char} {u : Nat} (hex : hex4? a b c d = some u) :
    (unit u).ReadFrom ['\\', 'u', a, b, c, d] := by
  intro cs
  simp only [List.cons_append, List.nil_append]
  rw [scanPieces, hex]
  cases scanPieces cs with
  | none => rfl
  | some r => rfl

private theorem hexValue?_hexDigit : ∀ n < 16, Text.hexValue? (Text.hexDigit n) = some n := by
  decide

private theorem hex4?_hexDigit {n : Nat} (small : n < 0x20) :
    hex4? '0' '0' (Text.hexDigit (n / 16)) (Text.hexDigit (n % 16)) = some n := by
  have zero : Text.hexValue? '0' = some 0 := rfl
  have high := hexValue?_hexDigit (n / 16) (by omega)
  have low := hexValue?_hexDigit (n % 16) (by omega)
  have value : ((0 * 16 + 0) * 16 + n / 16) * 16 + n % 16 = n := by omega
  rw [hex4?, zero, high, low]
  exact congrArg some value

theorem readFrom_control {n : Nat} (small : n < 0x20) :
    (unit n).ReadFrom ['\\', 'u', '0', '0', Text.hexDigit (n / 16), Text.hexDigit (n % 16)] :=
  readFrom_unit (hex4?_hexDigit small)

end Piece

/-! ### Reading back what was written -/

private theorem exists_piece_of_short {c d : Char} (short : shortEscape? d = some c) :
    ∃ piece : Piece, piece.ReadFrom ['\\', d] ∧ piece.Spells c :=
  ⟨.char c, Piece.readFrom_short short, Piece.spells_char c⟩

theorem exists_piece_of_escape (c : Char) :
    ∃ piece : Piece, piece.ReadFrom (escape c) ∧ piece.Spells c := by
  unfold escape
  split_ifs with quote slash backspace feed newline carriage tab control
  · rw [quote]
    exact exists_piece_of_short rfl
  · rw [slash]
    exact exists_piece_of_short rfl
  · rw [backspace]
    exact exists_piece_of_short rfl
  · rw [feed]
    exact exists_piece_of_short rfl
  · rw [newline]
    exact exists_piece_of_short rfl
  · rw [carriage]
    exact exists_piece_of_short rfl
  · rw [tab]
    exact exists_piece_of_short rfl
  · exact ⟨.unit c.toNat, Piece.readFrom_control control, Piece.spells_unit_of_control control⟩
  · exact ⟨.char c, Piece.readFrom_plain control quote slash, Piece.spells_char c⟩

theorem scanPieces_escaped (cs rest : List Char) :
    ∃ pieces, scanPieces (cs.flatMap escape ++ '"' :: rest) = some (pieces, rest) ∧
      joinPieces pieces = some cs := by
  induction cs with
  | nil =>
    refine ⟨[], ?_, rfl⟩
    rw [List.flatMap_nil, List.nil_append, scanPieces]
  | cons c cs ih =>
    obtain ⟨pieces, scanned, joined⟩ := ih
    obtain ⟨piece, reads, spells⟩ := exists_piece_of_escape c
    refine ⟨piece :: pieces, ?_, ?_⟩
    · rw [List.flatMap_cons, List.append_assoc, reads, scanned]
      rfl
    · rw [spells, joined]
      rfl

theorem scanText_escaped (s : String) (rest : List Char) :
    scanText (s.toList.flatMap escape ++ '"' :: rest) = some (some s, rest) := by
  obtain ⟨pieces, scanned, joined⟩ := scanPieces_escaped s.toList rest
  rw [scanText, scanned]
  simp only [Option.bind_eq_bind, Option.bind_some, joined, Option.map_some, String.ofList_toList,
    Option.pure_def]

/-! ### Where a text ends -/

/-- `cs` starts with characters that are read as the pieces wherever they stand, and goes on with
`rest`. -/
def PiecesUpTo (rest cs : List Char) (pieces : List Piece) : Prop :=
  ∃ written, cs = written ++ rest ∧
    ∀ rest', scanPieces (written ++ rest') = some (pieces, rest')

theorem Piece.ReadFrom.piecesUpTo {piece : Piece} {written : List Char}
    (readFrom : piece.ReadFrom written) {cs rest : List Char} {pieces : List Piece}
    (others : PiecesUpTo rest cs pieces) : PiecesUpTo rest (written ++ cs) (piece :: pieces) := by
  obtain ⟨following, rfl, again⟩ := others
  refine ⟨written ++ following, (List.append_assoc _ _ _).symm, fun rest' => ?_⟩
  rw [List.append_assoc, readFrom, again]
  rfl

theorem piecesUpTo_of_scanPieces {cs rest : List Char} {pieces : List Piece}
    (scanned : scanPieces cs = some (pieces, rest)) : PiecesUpTo rest cs pieces := by
  fun_induction scanPieces cs generalizing pieces with
  | case1 => cases scanned
  | case2 cs =>
    cases scanned
    refine ⟨['"'], rfl, fun rest' => ?_⟩
    rw [List.singleton_append, scanPieces]
  | case3 a b c d cs ih =>
    obtain ⟨u, hex, others⟩ := Option.bind_eq_some_iff.mp scanned
    obtain ⟨⟨pieces, left⟩, others, read⟩ := Option.bind_eq_some_iff.mp others
    cases read
    exact (Piece.readFrom_unit hex).piecesUpTo (ih others)
  | case4 d cs notUnit ih =>
    obtain ⟨c, short, others⟩ := Option.bind_eq_some_iff.mp scanned
    obtain ⟨⟨pieces, left⟩, others, read⟩ := Option.bind_eq_some_iff.mp others
    cases read
    exact (Piece.readFrom_short short).piecesUpTo (ih others)
  | case5 => cases scanned
  | case6 c cs noQuote _ _ plain ih =>
    obtain ⟨⟨pieces, left⟩, others, read⟩ := Option.bind_eq_some_iff.mp scanned
    cases read
    obtain ⟨visible, noSlash⟩ := not_or.mp plain
    exact (Piece.readFrom_plain visible noQuote noSlash).piecesUpTo (ih others)

theorem scanText_split {cs rest : List Char} {s : Option String}
    (scanned : scanText cs = some (s, rest)) :
    ∃ written, cs = written ++ rest ∧ ∀ rest', scanText (written ++ rest') = some (s, rest') := by
  obtain ⟨⟨pieces, left⟩, scannedPieces, joined⟩ := Option.bind_eq_some_iff.mp scanned
  cases joined
  obtain ⟨written, rfl, again⟩ := piecesUpTo_of_scanPieces scannedPieces
  refine ⟨written, rfl, fun rest' => ?_⟩
  rw [scanText, again]
  rfl

end Passcode.Json
