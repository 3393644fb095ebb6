/-!
Sets of characters given as ranges of code points, and maps given as runs of code points that
move by the same distance. The tables of the other `Unicode` modules have one of these forms.

Main statements: `inRanges_iff` (membership is membership in one of the ranges) and
`CodeRun.image?_eq_some_iff` (a run maps exactly the code points it lists).
-/

namespace PathRouting.Unicode

/-! ### Ranges -/

/-- Whether the character lies in one of the inclusive ranges of code points. -/
def inRanges (ranges : List (Nat × Nat)) (c : Char) : Bool :=
  ranges.any fun r => decide (r.1 ≤ c.toNat) && decide (c.toNat ≤ r.2)

theorem inRanges_iff {ranges : List (Nat × Nat)} {c : Char} :
    inRanges ranges c = true ↔ ∃ r ∈ ranges, r.1 ≤ c.toNat ∧ c.toNat ≤ r.2 := by
  simp [inRanges, List.any_eq_true]

/-! ### Runs -/

/-- The code points `first, first + step, …, last`, moved so that `first` becomes `target`. -/
structure CodeRun where
  first : Nat
  last : Nat
  step : Nat
  target : Nat
  deriving DecidableEq, Repr

namespace CodeRun

/-- Whether the run lists the code point. -/
def covers (run : CodeRun) (n : Nat) : Bool :=
  decide (run.first ≤ n) && decide (n ≤ run.last) && (n - run.first) % run.step == 0

/-- Where the run sends the code point, if it lists it. -/
def image? (run : CodeRun) (n : Nat) : Option Nat :=
  if run.covers n then some (run.target + (n - run.first)) else none

/-- The code point that the run sends to `n`, if there is one. -/
def preimage? (run : CodeRun) (n : Nat) : Option Nat :=
  if run.target ≤ n ∧ run.covers (run.first + (n - run.target)) = true then
    some (run.first + (n - run.target))
  else none

theorem image?_eq_some_iff {run : CodeRun} {n m : Nat} :
    run.image? n = some m ↔ run.covers n = true ∧ m = run.target + (n - run.first) := by
  unfold image?
  split
  · simp [*, eq_comm]
  · simp [*]

end CodeRun

/-- Where a list of runs sends the code point: by the first run that lists it. -/
def mapByRuns (runs : List CodeRun) (n : Nat) : Option Nat :=
  runs.findSome? fun run => run.image? n

end PathRouting.Unicode
