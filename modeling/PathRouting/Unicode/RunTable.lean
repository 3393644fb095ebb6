/-!
Large character tables. A table lists runs of neighbouring code points in ascending order and gives
each run one value; a character is looked up by halving.

Tables are written as text, in two forms. In the first each word is the distance from the start of
the run before in hexadecimal, followed by the name of the value, which starts with a capital. In
the second each word is the gap to the range before and, after a dot, how many more code points the
range has.
-/

namespace PathRouting.Unicode

/-- Runs of code points, each with its first code point and its value, in ascending order. -/
structure RunTable (α : Type) where
  runs : Array (Nat × α)

namespace RunTable

variable {α : Type}

/-- The value of the last run from `low` up to but not including `high` that starts at or before
`n`, found by halving at most `fuel` times. -/
def search (t : RunTable α) (n : Nat) : (fuel low high : Nat) → Option α
  | 0, low, _ => t.runs[low]?.map Prod.snd
  | fuel + 1, low, high =>
    if high ≤ low + 1 then t.runs[low]?.map Prod.snd
    else
      let mid := (low + high) / 2
      match t.runs[mid]? with
      | some run => if run.1 ≤ n then search t n fuel mid high else search t n fuel low mid
      | none => search t n fuel low mid

/-- The value of the run that holds the character, where the first run starts at zero. -/
def find? (t : RunTable α) (c : Char) : Option α :=
  t.search c.toNat 32 0 t.runs.size

/-- The ranges of code points whose values pass the test, neighbours joined. -/
def rangesWhere (t : RunTable α) (test : α → Bool) : List (Nat × Nat) :=
  let step := fun (run : Nat × α) (done : Nat × List (Nat × Nat)) =>
    if test run.2 then
      match done.2 with
      | (first, last) :: rest =>
        if first = done.1 then (run.1, (run.1, last) :: rest)
        else (run.1, (run.1, done.1 - 1) :: done.2)
      | [] => (run.1, [(run.1, done.1 - 1)])
    else (run.1, done.2)
  (t.runs.foldr step (0x110000, [])).2

end RunTable

/-! ### Tables written as text -/

/-- The words of a text: what stands between blanks and line ends. -/
def words (text : String) : List (List Char) :=
  let cut := text.toList.foldr
    (fun c (done : List Char × List (List Char)) =>
      if c = ' ' || c = '\n' then ([], if done.1.isEmpty then done.2 else done.1 :: done.2)
      else (c :: done.1, done.2))
    ([], [])
  if cut.1.isEmpty then cut.2 else cut.1 :: cut.2

/-- The number written with hexadecimal digits, letters in lower case. -/
def readHex (cs : List Char) : Nat :=
  cs.foldl (fun n c => 16 * n + (if c.isDigit then c.toNat - 48 else c.toNat - 87)) 0

/-- A table in the first form. -/
def RunTable.ofNamedRuns (value : String → α) (text : String) : RunTable α :=
  let step := fun (done : Nat × Array (Nat × α)) (word : List Char) =>
    let first := done.1 + readHex (word.takeWhile fun c => !c.isUpper)
    (first, done.2.push (first, value (String.ofList (word.dropWhile fun c => !c.isUpper))))
  ⟨((words text).foldl step (0, #[])).2⟩

/-- A table in the second form. The value of a run is the last code point of its range. -/
def rangesOfText (text : String) : RunTable Nat :=
  let step := fun (done : Nat × Array (Nat × Nat)) (word : List Char) =>
    let first := done.1 + readHex (word.takeWhile (· ≠ '.'))
    let last := first + readHex ((word.dropWhile (· ≠ '.')).drop 1)
    (last, done.2.push (first, last))
  ⟨((words text).foldl step (0, #[])).2⟩

/-- Whether the character lies in one of the ranges. -/
def inRangeTable (ranges : RunTable Nat) (c : Char) : Bool :=
  match ranges.runs[0]? with
  | some first =>
    decide (first.1 ≤ c.toNat) && (ranges.find? c).any fun last => decide (c.toNat ≤ last)
  | none => false

end PathRouting.Unicode
