import PathRouting.Unicode.RunTable

/-!
Tables that replace characters by texts. They are written as text too: each word is the distance
from the end of the run before in hexadecimal, after a dot how many more code points the run has,
and after an equals sign the code points of the text, with plus signs between them. A text of one
character moves along with the run. A word that ends with an exclamation mark lists characters that
are refused.
-/

namespace PathRouting.Unicode

/-- A run of code points, and the text for the first of them, unless they are refused. -/
structure Replacement where
  first : Nat
  last : Nat
  text : Option (List Nat)
  deriving DecidableEq, Repr

namespace Replacement

/-- The code points written between plus signs. -/
def readCodes (cs : List Char) : List Nat :=
  (words (String.ofList (cs.map fun c => if c = '+' then ' ' else c))).map readHex

/-- The table that a text writes. -/
def tableOfText (text : String) : RunTable Replacement :=
  let step := fun (done : Nat × Array (Nat × Replacement)) (word : List Char) =>
    let place := word.takeWhile fun c => c ≠ '=' && c ≠ '!'
    let first := done.1 + readHex (place.takeWhile (· ≠ '.'))
    let last := first + readHex ((place.dropWhile (· ≠ '.')).drop 1)
    let text :=
      match word.drop place.length with
      | '=' :: codes => some (readCodes codes)
      | _ => none
    (last, done.2.push (first, ⟨first, last, text⟩))
  ⟨((words text).foldl step (0, #[])).2⟩

/-- The run of a table that lists the character. -/
def find? (table : RunTable Replacement) (c : Char) : Option Replacement :=
  (table.find? c).filter fun run => decide (run.first ≤ c.toNat) && decide (c.toNat ≤ run.last)

/-- The text for a character of the run, unless it is refused. -/
def textFor? (run : Replacement) (c : Char) : Option (List Char) :=
  run.text.map fun codes =>
    match codes with
    | [code] => [Char.ofNat (code + (c.toNat - run.first))]
    | _ => codes.map Char.ofNat

end Replacement

end PathRouting.Unicode
