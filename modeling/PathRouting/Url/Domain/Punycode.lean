import PathRouting.Text.Pieces

/-!
Labels beyond ASCII written in ASCII. The ASCII characters of a label come first; after a dash, the
others follow in order of their code points, each as the number of places and code points that lie
between it and the one before.

Numbers are written with digits of changing weight: how much a digit counts depends on a bias, which
adapts to the numbers written so far.
-/

namespace PathRouting.Url.Domain.Punycode

open PathRouting.Text

/-! ### Digits -/

/-- The number of digits. -/
def base : Nat := 36

/-- The digit with the given value: a letter, or from twenty-six on a decimal digit. -/
def digit (n : Nat) : Char :=
  Char.ofNat (if n < 26 then 97 + n else 22 + n)

/-- The value of a digit. -/
def digitValue? (c : Char) : Option Nat :=
  if 'a' ≤ c ∧ c ≤ 'z' then some (c.toNat - 97)
  else if '0' ≤ c ∧ c ≤ '9' then some (c.toNat - 22)
  else none

/-- The least value, at the given weight, of a digit that more digits follow. -/
def threshold (weight bias : Nat) : Nat :=
  min 26 (max 1 (weight - bias))

/-- The bias at the start. -/
def initialBias : Nat := 72

/-- Scales a number down until it is small, counting the steps in weights. -/
def scale (delta weight : Nat) : Nat :=
  if 455 < delta then scale (delta / 35) (weight + base) else weight + 36 * delta / (delta + 38)
termination_by delta
decreasing_by omega

/-- The bias for the next number after `delta`, which was the first one or not, where the label now
has `count` characters. -/
def adapt (delta count : Nat) (first : Bool) : Nat :=
  let damped := if first then delta / 700 else delta / 2
  scale (damped + damped / count) 0

/-- The digits of a number, from the given weight on. -/
def encodeNumber (bias weight n : Nat) : List Char :=
  let t := threshold weight bias
  if n < t then [digit n]
  else digit (t + (n - t) % (base - t)) :: encodeNumber bias (weight + base) ((n - t) / (base - t))
termination_by n
decreasing_by
  have : 1 ≤ threshold weight bias := by unfold threshold; omega
  exact Nat.lt_of_le_of_lt (Nat.div_le_self _ _) (by omega)

/-! ### Encoding -/

/-- The state of writing a label: what is written, the characters that are written by now, the
number since the last of them, the least code point that may come next, and the bias. -/
structure Writing where
  text : List Char
  written : Nat
  delta : Nat := 0
  least : Nat := 128
  bias : Nat := initialBias

/-- Writes all places of the character with the given code point. -/
def Writing.step (label : List Char) (basic : Nat) (w : Writing) (code : Nat) : Writing :=
  let start := { w with delta := w.delta + (code - w.least) * (w.written + 1) }
  let done := label.foldl
    (fun w c =>
      if c.toNat < code then { w with delta := w.delta + 1 }
      else if c.toNat = code then
        { w with
          text := w.text ++ encodeNumber w.bias base w.delta
          written := w.written + 1
          delta := 0
          bias := adapt w.delta (w.written + 1) (w.written = basic) }
      else w)
    start
  { done with delta := done.delta + 1, least := code + 1 }

/-- The code points beyond ASCII, each once and in order. -/
def beyondAscii (label : List Char) : List Nat :=
  ((label.map Char.toNat).filter (128 ≤ ·)).mergeSort.eraseReps

/-- The label in ASCII, without the mark that says so. -/
def encode (label : List Char) : List Char :=
  let basic := label.filter fun c => c.toNat < 128
  let start := if basic.isEmpty then [] else basic ++ ['-']
  let w : Writing := { text := start, written := basic.length }
  ((beyondAscii label).foldl (Writing.step label basic.length) w).text

/-! ### Decoding -/

/-- The state of reading a label: the characters so far, the code point and the place of the last
one; of the number that is being read its value, the value of its next digit, the weight and the
place where it started; and the bias. -/
structure Reading where
  text : List Char
  code : Nat := 128
  place : Nat := 0
  start : Nat := 0
  factor : Nat := 1
  weight : Nat := base
  bias : Nat := initialBias

/-- Reads one digit. The last digit of a number puts a character into the label. -/
def Reading.step (r : Reading) (c : Char) : Option Reading := do
  let d ← digitValue? c
  let place := r.place + d * r.factor
  let t := threshold r.weight r.bias
  if d < t then
    let count := r.text.length + 1
    let code := r.code + place / count
    let spot := place % count
    if code.isValidChar then
      some {
        text := r.text.take spot ++ Char.ofNat code :: r.text.drop spot
        code := code
        place := spot + 1
        start := spot + 1
        bias := adapt (place - r.start) count (r.start = 0) }
    else none
  else
    some { r with place := place, factor := r.factor * (base - t), weight := r.weight + base }

/-- The label that was encoded to the given text. -/
def decode? (cs : List Char) : Option (List Char) := do
  let ps := pieces '-' cs
  let (basic, digits) :=
    match ps.dropLast with
    | [] | [[]] => ([], cs)
    | front => (joinPieces ['-'] front, ps.getLastD [])
  let r ← digits.foldlM Reading.step { text := basic : Reading }
  if r.factor = 1 ∧ r.weight = base then some r.text else none

end PathRouting.Url.Domain.Punycode
