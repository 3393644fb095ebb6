import PathRouting.Unicode.Normal.CombiningClass
import PathRouting.Unicode.Property.Category

/-!
Joiners in domains. The two characters that ask for neighbours to be joined, or not to be, may stand
only where they make a difference.
-/

namespace PathRouting.Url.Domain

open PathRouting.Unicode

/-- How a character joins its neighbours in cursive writing. -/
inductive Joining where
  | none
  | left
  | right
  | dual
  | transparent
  deriving DecidableEq, Repr

/-- How characters other than marks join, in the first text form of tables. -/
def joiningText : String := "
0U 620D 1U 1R 4D 1R 1D 1R 1D 5R 4D 15R 1D 17U eD 3R 3U 5D fR 12D 26R 1D 2R 9D 1R 1D 1R 1D 2R 2U 1R
9U 10R 2U aD 3U 2D 1U 10R 2D 3R 5D 4R 1D 9R 1D 1R 1D 1R 1D 2R 1fD bR 3D fR 2D 4R 1D 1R 2D 3R 2D 6U
4aD 2aU 6D 4U 42R 1D 5R 2D 1R 1D aR 1D 1R 8U 2D 1U 1D 4U 1R 1D 1R 1aD 4U 2D 5R 12D aR 3U 1R 1D 2R
2D 6R 1D fU f3eD 1U 2D 6U 10D 60U 7D 29U 8f90D 32L 1U 624dD 5R 1U 1R 1U 1R 2U 2L 1R 5D 4L 1D 5R 1D
3R 1U 2R 7D 4R 1U 90D 1R 1D 1R 3D 3R 1D 2R 1D 1R 2D 1R 8U 10R 4D 2U 151L 1D 21R 1D dU 200D 3R 1D
11U cD 3R 1U 1bD 4R 2D 10U 2aD 1U 1D 2R 3U 1D 1R 2D 2R 1D 2U 1D 1R 2D 1U 4R 1D 1L 15U d942D 29U"

/-- How characters other than marks join. -/
def joiningTable : RunTable Joining :=
  .ofNamedRuns
    (fun
      | "L" => .left
      | "R" => .right
      | "D" => .dual
      | _ => .none)
    joiningText

/-- How a character joins. Marks and format characters are looked through. -/
def joining (c : Char) : Joining :=
  match category c with
  | .nonspacingMark | .enclosingMark | .format => .transparent
  | _ => (joiningTable.find? c).getD .none

/-- Whether the first character that is not looked through joins in one of the given ways. -/
def meets (ways : List Joining) (cs : List Char) : Bool :=
  ((cs.map joining).find? (· ≠ .transparent)).any (· ∈ ways)

/-- The character that keeps its neighbours from being joined. -/
def nonJoiner : Char := '\u200c'

/-- The character that asks for its neighbours to be joined. -/
def joiner : Char := '\u200d'

/-- Whether joiners make a difference where they stand. `before` is what stands before, last
first. -/
def joinersFit (before : List Char) : List Char → Bool
  | [] => true
  | c :: after =>
    (if c = joiner ∨ c = nonJoiner then
      before.head?.any (combiningClass · = viramaClass) ||
        (c = nonJoiner && meets [.left, .dual] before && meets [.right, .dual] after)
    else true) && joinersFit (c :: before) after

end PathRouting.Url.Domain
