import Passcode.Text.Alphanumeric
import Passcode.Text.Decimal
import Passcode.Text.Hex
import Passcode.Text.Split

/-!
Patterns that the value of a logged field may be compared with: regular expressions without
lookaround, back references and word boundaries. Only their form is checked.
-/

set_option autoImplicit false

namespace Passcode.Log.Pattern

/-- What an escape or a plain character stands for. -/
inductive Item where
  | char (c : Char)
  /-- One character of several. -/
  | anyOf
  /-- A place between characters. -/
  | place
  deriving DecidableEq, Repr

def numbered? (width : Nat) (cs : List Char) : Option (Item × List Char) := do
  let digits ← (cs.take width).mapM Text.hexValue?
  let code := digits.foldl (fun n d => 16 * n + d) 0
  if digits.length = width ∧ code.isValidChar then some (.char (Char.ofNat code), cs.drop width)
  else none

def categories : List Char := "CLMNPSZclmnpsz".toList

def escape? : List Char → Option (Item × List Char)
  | [] => none
  | c :: cs =>
    if c = 'x' then numbered? 2 cs
    else if c = 'u' then numbered? 4 cs
    else if c = 'U' then numbered? 8 cs
    else if c = 'p' ∨ c = 'P' then
      match cs with
      | category :: cs => if categories.contains category then some (.anyOf, cs) else none
      | [] => none
    else if "dswDSW".toList.contains c then some (.anyOf, cs)
    else if c = 'A' ∨ c = 'z' then some (.place, cs)
    else match ['a', 'f', 't', 'n', 'r', 'v'].idxOf? c with
      | some i => some (.char ((['\x07', '\x0c', '\t', '\n', '\x0d', '\x0b'][i]?).getD c), cs)
      | none =>
        if c.toNat < 0x80 ∧ !c.isAlphanum ∧ c ≠ '<' ∧ c ≠ '>' then some (.char c, cs) else none

/-! ### Classes -/

/-- Passes over what may only stand at the start of a class: a caret, hyphens or, without hyphens,
a closing bracket. -/
def classStart (cs : List Char) : List Char :=
  let cs := if cs.head? = some '^' then cs.drop 1 else cs
  match cs with
  | '-' :: cs => cs.dropWhile (· = '-')
  | ']' :: cs => cs
  | cs => cs

def member? : List Char → Option (Item × List Char)
  | '\\' :: cs => (escape? cs).filter (·.1 ≠ .place)
  | c :: cs => some (.char c, cs)
  | [] => none

def inOrder : Item → Item → Bool
  | .char a, .char b => a ≤ b
  | _, _ => false

def afterMember? (cs : List Char) : Option (List Char) := do
  let (low, rest) ← member? cs
  match rest with
  | '-' :: c :: more =>
    if c = ']' ∨ c = '-' then some rest
    else
      let (high, rest) ← member? (c :: more)
      if inOrder low high then some rest else none
  | _ => some rest

/-- What follows a class with `depth` closing brackets to come. -/
def afterClass? : Nat → Nat → List Char → Option (List Char)
  | 0, _, _ => none
  | _, _, [] => none
  | fuel + 1, depth, c :: cs =>
    if c = ']' then if depth = 1 then some cs else afterClass? fuel (depth - 1) cs
    else if c = '[' then afterClass? fuel (depth + 1) (classStart cs)
    else if ['&', '-', '~'].contains c ∧ cs.head? = some c then afterClass? fuel depth (cs.drop 1)
    else match afterMember? (c :: cs) with
      | some rest => afterClass? fuel depth rest
      | none => none

/-! ### Groups and repetitions -/

/-- Flags, each once, and perhaps a hyphen before those that are switched off. -/
def flagsAllowed (flags : List Char) : Bool :=
  flags.all "-imsUuRx".toList.contains && flags.all (flags.count · == 1) &&
    flags.getLast? != some '-'

def nameAllowed : List Char → Bool
  | [] => false
  | c :: cs =>
    (c == '_' || Text.isAlphanumeric c && !c.isDigit) &&
      cs.all fun c => c == '_' || c == '.' || c == '[' || c == ']' || Text.isAlphanumeric c

inductive Opening where
  | group
  | named (name : List Char)
  /-- Flags for the rest of the group around them. -/
  | flags
  deriving DecidableEq, Repr

def named? (cs : List Char) : Option (Opening × List Char) :=
  let name := cs.takeWhile (· ≠ '>')
  match cs.dropWhile (· ≠ '>') with
  | _ :: rest => if nameAllowed name then some (.named name, rest) else none
  | [] => none

def opening? : List Char → Option (Opening × List Char)
  | '?' :: 'P' :: '<' :: cs => named? cs
  | '?' :: '<' :: cs => named? cs
  | '?' :: cs =>
    let flags := cs.takeWhile fun c => c ≠ ':' ∧ c ≠ ')'
    match cs.dropWhile fun c => c ≠ ':' ∧ c ≠ ')' with
    | ':' :: rest => if flagsAllowed flags then some (.group, rest) else none
    | ')' :: rest => if flagsAllowed flags ∧ flags ≠ [] then some (.flags, rest) else none
    | _ => none
  | cs => some (.group, cs)

def afterBounds? (cs : List Char) : Option (List Char) :=
  match cs.dropWhile (· ≠ '\x7d') with
  | [] => none
  | _ :: rest =>
    match Text.splitChars ',' (cs.takeWhile (· ≠ '\x7d')) with
    | [n] => (Text.natural? n).map fun _ => rest
    | [n, []] => (Text.natural? n).map fun _ => rest
    | [n, m] => do
      let n ← Text.natural? n
      let m ← Text.natural? m
      if n ≤ m then some rest else none
    | _ => none

def skipLazy : List Char → List Char
  | '?' :: cs => cs
  | cs => cs

/-! ### Whole patterns -/

/-- Checks what follows in a pattern. `depth` groups are open, `ready` says that something stands
before that can be repeated, and `names` are the names so far. -/
def check : Nat → Nat → Bool → List (List Char) → List Char → Bool
  | 0, _, _, _, _ => false
  | _, depth, _, _, [] => depth == 0
  | fuel + 1, depth, ready, names, c :: cs =>
    if c = '\\' then
      match escape? cs with
      | some (_, rest) => check fuel depth true names rest
      | none => false
    else if c = '[' then
      match afterClass? (cs.length + 1) 1 (classStart cs) with
      | some rest => check fuel depth true names rest
      | none => false
    else if c = '(' then
      match opening? cs with
      | some (.group, rest) => check fuel (depth + 1) false names rest
      | some (.named name, rest) =>
        !names.contains name && check fuel (depth + 1) false (name :: names) rest
      | some (.flags, rest) => check fuel depth false names rest
      | none => false
    else if c = ')' then depth != 0 && check fuel (depth - 1) true names cs
    else if c = '|' then check fuel depth false names cs
    else if c = '*' ∨ c = '+' ∨ c = '?' then ready && check fuel depth true names (skipLazy cs)
    else if c = '\x7b' then
      match afterBounds? cs with
      | some rest => ready && check fuel depth true names (skipLazy rest)
      | none => false
    else check fuel depth true names cs

def allowed (cs : List Char) : Bool :=
  check (cs.length + 1) 0 false [] cs

end Passcode.Log.Pattern
