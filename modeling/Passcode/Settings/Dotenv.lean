import Passcode.Text.Alphanumeric
import Passcode.Text.Blank

/-!
Files of variables. A line assigns a value to a name; a value may be quoted and may refer to other
variables. Reading a file gives its assignments in order, with the references still open.
-/

set_option autoImplicit false

namespace Passcode.Settings.Dotenv

inductive Part where
  | char (c : Char)
  /-- The value of another variable. -/
  | variable (name : List Char)
  deriving DecidableEq, Repr

structure Assignment where
  name : String
  value : List Part
  deriving DecidableEq, Repr

/-! ### Lines -/

/-- How a line goes on at some character. -/
inductive LineMode where
  | plain
  /-- After a blank, where a comment may start. -/
  | blank
  | escaped
  | weak
  | weakEscaped
  | strong
  | strongEscaped
  deriving DecidableEq, Repr

namespace LineMode

def opened (c : Char) : LineMode :=
  if c = '\\' then escaped
  else if c = '"' then weak
  else if c = '\'' then strong
  else plain

def next : LineMode → Char → LineMode
  | plain, c => if Text.isBlank c && c != '\n' && c != '\x0d' then blank else opened c
  | blank, c => opened c
  | escaped, _ => plain
  | weak, c => if c = '\\' then weakEscaped else if c = '"' then plain else weak
  | weakEscaped, _ => weak
  | strong, c => if c = '\\' then strongEscaped else if c = '\'' then plain else strong
  | strongEscaped, _ => strong

/-- A line break in this mode belongs to the line. -/
def quoted : LineMode → Bool
  | weak | weakEscaped | strong | strongEscaped => true
  | _ => false

end LineMode

def afterBreak (cs : List Char) : List Char :=
  (cs.dropWhile (· ≠ '\n')).drop 1

/-- The rest of a line, without a comment at its end, and what follows it. A file may only end
where a line is plain. -/
def takeLine : LineMode → List Char → Option (List Char × List Char)
  | mode, [] => if mode = .plain then some ([], []) else none
  | mode, c :: cs =>
    if mode = .blank ∧ c = '#' then some ([], afterBreak cs)
    else if c = '\n' ∧ !mode.quoted then some ([], cs)
    else (takeLine (mode.next c) cs).map fun r => (c :: r.1, r.2)

def isComment (cs : List Char) : Bool :=
  ((cs.takeWhile (· ≠ '\n')).dropWhile Text.isBlank).head? == some '#'

theorem length_afterBreak_le (cs : List Char) : (afterBreak cs).length ≤ cs.length := by
  have h := (List.dropWhile_suffix (l := cs) (· ≠ '\n')).length_le
  simp only [afterBreak, List.length_drop]
  omega

theorem length_le_of_takeLine {cs : List Char} :
    ∀ {mode : LineMode} {r : List Char × List Char},
      takeLine mode cs = some r → r.2.length ≤ cs.length := by
  induction cs with
  | nil =>
    intro mode r h
    rw [takeLine] at h
    split at h
    · simp only [Option.some.injEq] at h
      simp [← h]
    · simp at h
  | cons c cs ih =>
    intro mode r h
    rw [takeLine] at h
    split at h
    · simp only [Option.some.injEq] at h
      have := length_afterBreak_le cs
      simp only [← h, List.length_cons]
      omega
    · split at h
      · simp only [Option.some.injEq] at h
        simp [← h]
      · obtain ⟨r', hr, rfl⟩ := Option.map_eq_some_iff.1 h
        have := ih hr
        simp only [List.length_cons]
        omega

def lines? (cs : List Char) : Option (List (List Char)) :=
  match cs with
  | [] => some []
  | c :: cs =>
    if isComment (c :: cs) then lines? (afterBreak (c :: cs))
    else if c = '\n' then lines? cs
    else
      match _h : takeLine (LineMode.plain.next c) cs with
      | none => none
      | some (line, rest) => (lines? rest).map ((c :: line) :: ·)
termination_by cs.length
decreasing_by
  · by_cases hc : c = '\n'
    · simp [afterBreak, hc]
    · have := length_afterBreak_le cs
      simp only [afterBreak, List.dropWhile_cons, hc, ne_eq, not_false_eq_true, decide_true,
        if_true, List.length_cons] at this ⊢
      omega
  · simp
  · exact Nat.lt_succ_of_le (length_le_of_takeLine _h)

/-! ### Values -/

/-- How a value goes on at some character. The flag `quoted` says that double quotes
are open around it. -/
inductive ValueMode where
  | plain
  | weak
  | strong
  | escaped (quoted : Bool)
  /-- After a dollar sign: the letters and digits of a name. -/
  | name (quoted : Bool) (name : List Char)
  /-- A name between braces. -/
  | block (quoted : Bool) (name : List Char)
  /-- After a blank only blanks and a comment may follow. -/
  | tail
  | comment
  deriving DecidableEq, Repr

namespace ValueMode

def inside (quoted : Bool) : ValueMode :=
  if quoted then .weak else .plain

def escape? (c : Char) : Option Char :=
  if ['\\', '\'', '"', '$', ' '].contains c then some c
  else if c = 'n' then some '\n'
  else none

def step : ValueMode → Char → Option (List Part × ValueMode)
  | plain, c =>
    if c = '$' then some ([], .name false [])
    else if c = '\'' then some ([], .strong)
    else if c = '"' then some ([], .weak)
    else if c = '\\' then some ([], .escaped false)
    else if c = ' ' ∨ c = '\t' then some ([], .tail)
    else some ([.char c], .plain)
  | weak, c =>
    if c = '$' then some ([], .name true [])
    else if c = '"' then some ([], .plain)
    else if c = '\\' then some ([], .escaped true)
    else some ([.char c], .weak)
  | strong, c => if c = '\'' then some ([], .plain) else some ([.char c], .strong)
  | escaped quoted, c => (escape? c).map fun c => ([.char c], inside quoted)
  | name quoted n, c =>
    if Text.isAlphanumeric c then some ([], .name quoted (n ++ [c]))
    else if c = '{' ∧ n = [] then some ([], .block quoted [])
    else if c = '$' then some ([.variable n], .name quoted [])
    else some ([.variable n, .char c], inside quoted)
  | block quoted n, c =>
    if c = '}' then some ([.variable n], inside quoted)
    else some ([], .block quoted (n ++ [c]))
  | tail, c =>
    if c = ' ' ∨ c = '\t' then some ([], .tail)
    else if c = '#' then some ([], .comment)
    else none
  | comment, _ => some ([], .comment)

def finish : ValueMode → Option (List Part)
  | plain | tail | comment | escaped false => some []
  | name false n => some [.variable n]
  | _ => none

end ValueMode

def value? : ValueMode → List Char → Option (List Part)
  | mode, [] => mode.finish
  | mode, c :: cs => do
    let (parts, mode) ← mode.step c
    return parts ++ (← value? mode cs)

/-! ### Assignments -/

def startsName (c : Char) : Bool :=
  c.isAlpha || c == '_'

def continuesName (c : Char) : Bool :=
  c.isAlphanum || c == '_' || c == '.'

def takeName? : List Char → Option (List Char × List Char)
  | [] => none
  | c :: cs =>
    if startsName c then
      some (c :: cs.takeWhile continuesName,
        (cs.dropWhile continuesName).dropWhile Text.isBlank)
    else none

def afterEquals? : List Char → Option (List Char)
  | '=' :: cs => some (cs.dropWhile Text.isBlank)
  | _ => none

/-- A name and the text of its value. The word `export` may stand before the name. -/
def nameAndText? (cs : List Char) : Option (List Char × List Char) := do
  let (name, rest) ← takeName? cs
  match afterEquals? rest with
  | some text => return (name, text)
  | none =>
    if name = "export".toList then
      let (name, rest) ← takeName? rest
      return (name, ← afterEquals? rest)
    else none

def isVacant : List Char → Bool
  | [] => true
  | c :: _ => c == '#'

def assignment? (line : List Char) : Option (Option Assignment) :=
  let line := Text.trimChars line
  if isVacant line then some none
  else do
    let (name, text) ← nameAndText? line
    let value ← if isVacant text then some [] else value? .plain text
    return some ⟨String.ofList name, value⟩

/-- The assignments of a file; `none` if some line is not well formed. -/
def parse? (file : String) : Option (List Assignment) := do
  let lines ← lines? (Text.withoutMark file.toList)
  return (← lines.mapM assignment?).filterMap id

end Passcode.Settings.Dotenv
