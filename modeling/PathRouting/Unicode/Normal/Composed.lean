import PathRouting.Unicode.Normal.CombiningClass
import PathRouting.Unicode.Normal.Decomposition

/-!
The composed normal form of texts: characters are taken apart, marks are put in order, and what can
be put together is.
-/

namespace PathRouting.Unicode

/-- The reversed text with one more character at its end, which as a mark goes before marks of
greater classes. -/
def insertMark (c : Char) : List Char → List Char
  | [] => [c]
  | d :: before =>
    if 0 < combiningClass c ∧ combiningClass c < combiningClass d then d :: insertMark c before
    else c :: d :: before

/-- The text with its marks in order of their classes. -/
def orderMarks (cs : List Char) : List Char :=
  (cs.foldl (fun done c => insertMark c done) []).reverse

/-- A text that is being put together: what is done, last first; the last character that may take
marks; and the marks that it did not take, last first. -/
structure Composition where
  done : List Char := []
  starter : Option Char := none
  marks : List Char := []

namespace Composition

/-- All of the text so far, last first. -/
def flush (s : Composition) : List Char :=
  s.marks ++ s.starter.toList ++ s.done

/-- The text with one more character. A mark is out of reach for the last starter if a mark of the
same or a greater class stands between them, and any other character if any mark does. -/
def step (s : Composition) (c : Char) : Composition :=
  let reached := s.marks.head?.all fun m => combiningClass m < combiningClass c
  match if reached then s.starter.bind (compose? · c) else none with
  | some joined => { s with starter := some joined }
  | none =>
    if combiningClass c = 0 then ⟨s.flush, some c, []⟩
    else { s with marks := c :: s.marks }

end Composition

/-- The composed normal form. -/
def normalize (cs : List Char) : List Char :=
  ((orderMarks (cs.flatMap decompose)).foldl Composition.step {}).flush.reverse

end PathRouting.Unicode
