/-
# Rollout.Node.Punycode — any characters written with letters, digits and hyphens

The ASCII characters of a text are written first, as they are.  Behind the last
hyphen stands, for every other character in increasing order, how many steps lead
to it from the one before, where a step moves on by one place of the text and,
after the last place, by one character.  These numbers are written with digits
whose weights adapt to the numbers before.
-/

namespace Rollout.Node.Punycode

set_option autoImplicit false

/-! ## Numbers -/

def digit (n : Nat) : Char :=
  if n < 26 then Char.ofNat (97 + n) else Char.ofNat (22 + n)

def value? (c : Char) : Option Nat :=
  let n := c.toNat
  if 97 ≤ n ∧ n ≤ 122 then some (n - 97)
  else if 65 ≤ n ∧ n ≤ 90 then some (n - 65)
  else if 48 ≤ n ∧ n ≤ 57 then some (n - 22)
  else none

/-- A digit below the threshold of its place is the last of its number. -/
def threshold (bias place : Nat) : Nat := max 1 (min 26 (place - bias))

theorem threshold_bounds (bias place : Nat) :
    1 ≤ threshold bias place ∧ threshold bias place ≤ 26 := by
  unfold threshold
  omega

def digits (bias place n : Nat) : List Char :=
  let t := threshold bias place
  if n < t then [digit n]
  else digit (t + (n - t) % (36 - t)) :: digits bias (place + 36) ((n - t) / (36 - t))
termination_by n
decreasing_by
  have h := threshold_bounds bias place
  have small : (n - threshold bias place) / (36 - threshold bias place) ≤
      n - threshold bias place := Nat.div_le_self _ _
  omega

/-- Reads a number from a place on, where a digit counts `weight`; also gives what
follows it. -/
def number? (bias place weight sum : Nat) : List Char → Option (Nat × List Char)
  | [] => none
  | c :: rest =>
      match value? c with
      | none => none
      | some d =>
          let t := threshold bias place
          if d < t then some (sum + d * weight, rest)
          else number? bias (place + 36) (weight * (36 - t)) (sum + d * weight) rest

theorem number?_shorter {bias place weight sum : Nat} {cs : List Char} {r : Nat × List Char}
    (h : number? bias place weight sum cs = some r) : r.2.length < cs.length := by
  induction cs generalizing place weight sum with
  | nil => simp [number?] at h
  | cons c rest ih =>
      simp only [number?] at h
      split at h
      · simp at h
      · split at h
        · obtain rfl := Option.some.inj h
          simp
        · exact Nat.lt_succ_of_lt (ih h)

/-- The bias that follows a shrinking step. -/
def settle (delta places : Nat) : Nat :=
  if 455 < delta then settle (delta / 35) (places + 36)
  else places + 36 * delta / (delta + 38)
termination_by delta

/-- The bias after a number, when so many characters are written. -/
def adapt (delta count : Nat) (first : Bool) : Nat :=
  let halved := if first then delta / 700 else delta / 2
  settle (halved + halved / count) 0

/-! ## Writing -/

structure Progress where
  /-- The steps since the last character that was written. -/
  steps : Nat
  bias : Nat
  /-- How many characters are written. -/
  count : Nat
  output : List Char

/-- Passes one character of the text while the characters with the code `code` are
written; `basic` characters were written at the start. -/
def pass (basic code : Nat) (p : Progress) (c : Char) : Progress :=
  if c.toNat < code then { p with steps := p.steps + 1 }
  else if c.toNat = code then
    ⟨0, adapt p.steps (p.count + 1) (p.count = basic), p.count + 1,
      p.output ++ digits p.bias 36 p.steps⟩
  else p

/-- Writes the characters with the given codes, which increase; `next` is the first
code that is not done. -/
def writeCodes (cs : List Char) (basic : Nat) : Nat → List Nat → Progress → Progress
  | _, [], p => p
  | next, code :: rest, p =>
      let there := { p with steps := p.steps + (code - next) * (p.count + 1) }
      let passed := cs.foldl (pass basic code) there
      writeCodes cs basic (code + 1) rest { passed with steps := passed.steps + 1 }

/-- The codes of a text beyond ASCII, in increasing order and each once. -/
def codes (cs : List Char) : List Nat :=
  (((cs.map Char.toNat).filter (128 ≤ ·)).mergeSort (· ≤ ·)).eraseDups

/-- A text in letters, digits and hyphens. -/
def encode (cs : List Char) : List Char :=
  let basic := cs.filter (·.toNat < 128)
  let hyphen := if basic.isEmpty then [] else ['-']
  basic ++ hyphen ++ (writeCodes cs basic.length 128 (codes cs) ⟨0, 72, basic.length, []⟩).output

/-! ## Reading -/

/-- Reads number after number and puts the characters in; `code` and `sum` tell how
far the last one was. -/
def insertAll (bias code sum : Nat) (output : List Char) : List Char → Option (List Char)
  | [] => some output
  | c :: rest =>
      match _h : number? bias 36 1 sum (c :: rest) with
      | none => none
      | some (next, remaining) =>
          let count := output.length + 1
          let code := code + next / count
          let place := next % count
          if code.isValidChar then
            insertAll (adapt (next - sum) count (sum = 0)) code (place + 1)
              (output.take place ++ Char.ofNat code :: output.drop place) remaining
          else none
termination_by cs => cs.length
decreasing_by exact number?_shorter _h

/-- The text behind its letters, digits and hyphens. -/
def decode? (cs : List Char) : Option (List Char) :=
  let basic := (cs.reverse.dropWhile (· ≠ '-')).drop 1 |>.reverse
  let rest := if cs.contains '-' then (cs.reverse.takeWhile (· ≠ '-')).reverse else cs
  insertAll 72 128 0 basic rest

end Rollout.Node.Punycode
