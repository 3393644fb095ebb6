/-!
Integers in decimal: an optional sign and one or more of the digits `0` to `9`.
-/

namespace PathRouting.Text

/-- The number that a non-empty run of decimal digits writes. -/
def readDigits? (cs : List Char) : Option Nat :=
  if !cs.isEmpty && cs.all Char.isDigit then
    some (cs.foldl (fun n c => 10 * n + (c.toNat - 48)) 0)
  else none

/-- The integer between `low` and `high` that the text writes. A minus sign is refused where no
negative number is allowed, even before a zero. -/
def readInteger? (low high : Int) (cs : List Char) : Option Int := do
  let value ← match cs with
    | '+' :: digits => (readDigits? digits).map Int.ofNat
    | '-' :: digits => if low < 0 then (readDigits? digits).map fun n => -Int.ofNat n else none
    | digits => (readDigits? digits).map Int.ofNat
  if low ≤ value ∧ value ≤ high then some value else none

/-- The signed integer of the given number of bits that the text writes. -/
def readSigned? (bits : Nat) (s : String) : Option Int :=
  let half := Int.ofNat (1 <<< (bits - 1))
  readInteger? (-half) (half - 1) s.toList

/-- The unsigned integer of the given number of bits that the text writes. -/
def readUnsigned? (bits : Nat) (s : String) : Option Int :=
  readInteger? 0 (Int.ofNat (1 <<< bits) - 1) s.toList

end PathRouting.Text
