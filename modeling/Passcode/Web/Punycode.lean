/-!
Punycode: the ASCII form of a label with other characters. What stands before the last hyphen is
kept, and the rest tells, digit by digit, which characters go where.
-/

set_option autoImplicit false

namespace Passcode.Web.Punycode

/-- Letters of either case are the first digits, decimal digits the last ones. -/
def digit? (c : Char) : Option Nat :=
  if 'a' ≤ c ∧ c ≤ 'z' then some (c.toNat - 'a'.toNat)
  else if 'A' ≤ c ∧ c ≤ 'Z' then some (c.toNat - 'A'.toNat)
  else if c.isDigit then some (c.toNat - '0'.toNat + 26)
  else none

/-- A digit below the threshold of its place ends a number. -/
def threshold (bias place : Nat) : Nat :=
  min 26 (max 1 (place - bias))

/-- Reads one number. `place` grows by 36 with each digit. -/
def number? (bias : Nat) : Nat → Nat → Nat → List Char → Option (Nat × List Char)
  | _, _, _, [] => none
  | place, weight, sum, c :: cs => do
    let d ← digit? c
    let t := threshold bias place
    if d < t then return (sum + d * weight, cs)
    else number? bias (place + 36) (weight * (36 - t)) (sum + d * weight) cs

theorem length_lt_of_number? {bias : Nat} {cs : List Char} :
    ∀ {place weight sum : Nat} {r : Nat × List Char},
      number? bias place weight sum cs = some r → r.2.length < cs.length := by
  induction cs with
  | nil => intro place weight sum r h; simp [number?] at h
  | cons c cs ih =>
    intro place weight sum r h
    rw [number?] at h
    cases hd : digit? c with
    | none => simp [hd] at h
    | some d =>
      simp only [hd, Option.bind_eq_bind, Option.bind_some] at h
      split at h
      · simp only [Option.pure_def, Option.some.injEq] at h
        simp [← h]
      · have := ih h
        simp only [List.length_cons]
        omega

def reduce (delta steps : Nat) : Nat × Nat :=
  if 455 < delta then reduce (delta / 35) (steps + 36) else (delta, steps)

def adapt (delta count : Nat) (first : Bool) : Nat :=
  let scaled := if first then delta / 700 else delta / 2
  let (delta, steps) := reduce (scaled + scaled / count) 0
  steps + 36 * delta / (delta + 38)

/-- Places the characters that the rest of a label tells of. `code` and `index` are those of the
next character if its distance is zero. -/
def insertAll (bias code index : Nat) (label : List Char) (cs : List Char) : Option (List Char) :=
  match cs with
  | [] => some label
  | c :: cs =>
    match h : number? bias 36 1 0 (c :: cs) with
    | none => none
    | some (delta, rest) =>
      let count := label.length + 1
      let code' := code + (index + delta) / count
      let place := (index + delta) % count
      if code'.isValidChar then
        insertAll (adapt delta count (index = 0)) code' (place + 1)
          (label.insertIdx place (Char.ofNat code')) rest
      else none
termination_by cs.length
decreasing_by exact length_lt_of_number? h

def decode? (cs : List Char) : Option (List Char) :=
  let tail := cs.reverse.takeWhile (· ≠ '-')
  let init := (cs.reverse.drop (tail.length + 1)).reverse
  if init.isEmpty then insertAll 72 128 0 [] cs else insertAll 72 128 0 init tail.reverse

end Passcode.Web.Punycode
