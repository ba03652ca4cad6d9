import AccessLint.Text.Basic

namespace AccessLint.Text.Punycode

/-!
# Words in ASCII letters

A word of any characters is written as its ASCII characters, a hyphen, and digits that tell where the
others are to be inserted. The others are inserted in the order of their code points, and for each one
the digits tell how many places are passed by since the last one.

* `encode` — the ASCII form of a word;
* `decode?` — the word of an ASCII form.
-/

/-- The letters `a` to `z` are the digits from 0 on, and `0` to `9` those from 26 on. -/
def digit (n : Nat) : Char := Char.ofNat (if n < 26 then 97 + n else 22 + n)

/-- The value of a digit. -/
def valueOf? (c : Char) : Option Nat :=
  if 'a' ≤ c && c ≤ 'z' then some (c.toNat - 97)
  else if 'A' ≤ c && c ≤ 'Z' then some (c.toNat - 65)
  else if '0' ≤ c && c ≤ '9' then some (c.toNat - 22)
  else none

/-- The least value that ends a number at a digit. `reach` grows by 36 from digit to digit. -/
def threshold (bias reach : Nat) : Nat := min 26 (max 1 (reach - bias))

theorem threshold_pos (bias reach : Nat) : 0 < threshold bias reach := by
  unfold threshold; omega

/-- The bias for a number of the size of `delta`. -/
def biasOf (delta bias : Nat) : Nat :=
  if 455 < delta then biasOf (delta / 35) (bias + 36) else bias + 36 * delta / (delta + 38)
termination_by delta
decreasing_by exact Nat.div_lt_self (by omega) (by omega)

/-- The bias after a number, of which there were `count` with it. -/
def adapt (delta count : Nat) (isFirst : Bool) : Nat :=
  let scaled := if isFirst then delta / 700 else delta / 2
  biasOf (scaled + scaled / count) 0

/-! ### Writing -/

/-- The digits of a number. -/
def digits (bias reach n : Nat) : Text :=
  let t := threshold bias reach
  if n < t then [digit n]
  else digit (t + (n - t) % (36 - t)) :: digits bias (reach + 36) ((n - t) / (36 - t))
termination_by n
decreasing_by
  have hpos := threshold_pos bias reach
  calc (n - threshold bias reach) / (36 - threshold bias reach)
      ≤ n - threshold bias reach := Nat.div_le_self _ _
    _ < n := by omega

/-- What has been written: the digits, how many places were passed by since the last number, the
    bias, and how many characters of the word are done. -/
structure Written where
  digits : Text
  delta : Nat
  bias : Nat
  done : Nat

/-- Passes by a character while those of the code point `code` are written, of which the word has
    `plain` less than were done before any number. -/
def Written.pass (plain code : Nat) (w : Written) (c : Char) : Written :=
  if c.toNat < code then { w with delta := w.delta + 1 }
  else if c.toNat = code then
    ⟨w.digits ++ Punycode.digits w.bias 36 w.delta, 0, adapt w.delta (w.done + 1) (w.done == plain),
      w.done + 1⟩
  else w

/-- Writes the characters of the given code points; those below `next` are done. -/
def Written.all (plain : Nat) (word : Text) (next : Nat) (w : Written) : List Nat → Written
  | [] => w
  | code :: codes =>
    let w := word.foldl (pass plain code) { w with delta := w.delta + (code - next) * (w.done + 1) }
    Written.all plain word (code + 1) { w with delta := w.delta + 1 } codes

/-- Inserts a number into ascending numbers, unless it is one of them. -/
def insertNew (n : Nat) : List Nat → List Nat
  | [] => [n]
  | m :: ms => if n < m then n :: m :: ms else if n = m then m :: ms else m :: insertNew n ms

/-- The code points of a word beyond ASCII, each once, in ascending order. -/
def codes (word : Text) : List Nat :=
  ((word.map Char.toNat).filter (128 ≤ ·)).foldr insertNew []

/-- The ASCII form of a word. -/
def encode (word : Text) : Text :=
  let plain := word.filter fun c => c.toNat < 128
  let written := Written.all plain.length word 128 ⟨[], 0, 72, plain.length⟩ (codes word)
  plain ++ (if plain.isEmpty then [] else ['-']) ++ written.digits

/-! ### Reading -/

/-- Reads a number: its value is added to `n`, in units of `weight`. -/
def readNumber? (bias : Nat) : (reach weight n : Nat) → Text → Option (Nat × Text)
  | _, _, _, [] => none
  | reach, weight, n, c :: r => do
    let d ← valueOf? c
    let t := threshold bias reach
    let n := n + d * weight
    if d < t then return (n, r) else readNumber? bias (reach + 36) (weight * (36 - t)) n r

/-- Inserts characters into a word. There are at most as many as there is fuel. The number before
    left off at `place` of the characters with the code point `code`. -/
def insertAll? : (fuel : Nat) → (word : Text) → (code place bias : Nat) → Text → Option Text
  | _, word, _, _, _, [] => some word
  | 0, _, _, _, _, _ => none
  | fuel + 1, word, code, place, bias, t => do
    let (n, rest) ← readNumber? bias 36 1 place t
    let places := word.length + 1
    let code := code + n / places
    let before := n % places
    if code.isValidChar then
      let word := word.take before ++ Char.ofNat code :: word.drop before
      insertAll? fuel word code (before + 1) (adapt (n - place) places (place == 0)) rest
    else none

/-- The word of an ASCII form. -/
def decode? (t : Text) : Option Text :=
  let tail := (t.reverse.takeWhile (· != '-')).reverse
  let plain := t.take (t.length - tail.length - 1)
  let numbers := if plain.isEmpty then t else tail
  insertAll? numbers.length plain 128 0 72 numbers

end AccessLint.Text.Punycode
