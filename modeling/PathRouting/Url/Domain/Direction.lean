import PathRouting.Unicode.Property.Category

/-!
Writing directions in domains. Where a domain has a character that is written from right to left,
each of its labels keeps to rules that let it be read in one way only.
-/

namespace PathRouting.Url.Domain

open PathRouting.Unicode

/-- The part of a character in the order of writing: a letter of either direction, a digit that goes
with left-to-right or with right-to-left letters, a mark, or anything else. -/
inductive Direction where
  | leftToRight
  | rightToLeft
  | digit
  | arabicDigit
  | mark
  | neutral
  deriving DecidableEq, Repr

/-- The directions of characters other than marks, in the first text form of tables. -/
def directionText : String := "
0N 9O 5N eO 5N fE aN 7L 1aN 6L 1aN 64L 18N 1L 1c1N 2L 7N eL 2N 1cL 1N 82L 4N 2L 7fN 2L 192N 34R
48N 2R 1N 2R 1N 1R 1N dR 45A aN 1A 2R 71N 7R 4N 5R 2E aR fcN 4R 109L efN 2L 7N 1L f5N 8L faN eL
77N 7L 1c0N 1L faN 4L 452N 10L 60N 1L 29aN 5L 13bN 1L 14N 20L 130N 6L 98N 22L 60cN 142L 3cN 1acL
45N 1aL 1N 316L 1N 153L 100N 330L b5N 7L dN 7L 100N 205L 3N 19L fN 1L 6N 4L 2N 4L 5fN 1L 5aN 1L
c4N 30L 1bd0N 40L 5690N 40L 13dN 3L 63N eL 7fN 23L 65N 1L 9fN 8L 8N 8L 34N cL 2eaN 56L 4ff2R 18cN
135R 18dL 101N 1L 3eN 4dL 3N 40L 111E 1fL 500R 11fN 1R 219N 7R 1f0A 150R 180L 52N 14L 5faN 20L 9eM
2L 8b5N 2aL 4fe3N 1L 6206N d7L 40N 60L f9fN 1d1L 330R 6f0N 260L 1dN 3L 3dN 39L 7aN da0L"

/-- The directions of characters other than marks. -/
def directionTable : RunTable Direction :=
  .ofNamedRuns
    (fun
      | "L" => .leftToRight
      | "R" => .rightToLeft
      | "E" => .digit
      | "A" => .arabicDigit
      | _ => .neutral)
    directionText

/-- The direction of a character. -/
def direction (c : Char) : Direction :=
  match category c with
  | .nonspacingMark | .enclosingMark => .mark
  | _ => (directionTable.find? c).getD .leftToRight

/-- Whether the text has a character that is written from right to left. -/
def hasRightToLeft (cs : List Char) : Bool :=
  cs.any fun c => direction c ∈ [.rightToLeft, .arabicDigit]

/-- Whether a label can be read in one way only: it starts with a letter, holds no letter of the
other direction, ends with a letter or digit apart from marks, and does not mix two kinds of
digits. -/
def isReadable (label : List Char) : Bool :=
  let ds := label.map direction
  let last := (ds.reverse.find? (· ≠ .mark))
  match ds.head? with
  | none => true
  | some .leftToRight =>
    ds.all (fun d => d ≠ .rightToLeft && d ≠ .arabicDigit) &&
      last.any (· ∈ [.leftToRight, .digit])
  | some .rightToLeft =>
    ds.all (· ≠ .leftToRight) && last.any (· ∈ [.rightToLeft, .digit, .arabicDigit]) &&
      !(.digit ∈ ds && .arabicDigit ∈ ds)
  | some _ => false

end PathRouting.Url.Domain
