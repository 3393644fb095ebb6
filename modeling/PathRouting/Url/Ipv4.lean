import PathRouting.Text.Pieces

/-!
IPv4 addresses as hosts of URLs. An address may have fewer than four parts, the last of which then
stands for all bytes that are left; a part may be decimal, octal after `0` or hexadecimal after
`0x`.
-/

namespace PathRouting.Url.Ipv4

open PathRouting.Text

/-- The value of a digit of either case. -/
def digitValue? (c : Char) : Option Nat :=
  if '0' ≤ c ∧ c ≤ '9' then some (c.toNat - 48)
  else if 'a' ≤ c ∧ c ≤ 'f' then some (c.toNat - 87)
  else if 'A' ≤ c ∧ c ≤ 'F' then some (c.toNat - 55)
  else none

/-- The number that digits write to a base of at most sixteen. No digits write zero. -/
def readRadix? (radix : Nat) (cs : List Char) : Option Nat :=
  cs.foldlM (fun n c => ((digitValue? c).filter (· < radix)).map (radix * n + ·)) 0

/-- The number that a part writes. -/
def readPart? : List Char → Option Nat
  | [] => none
  | '0' :: mark :: digits =>
    if mark = 'x' ∨ mark = 'X' then readRadix? 16 digits else readRadix? 8 (mark :: digits)
  | digits => readRadix? 10 digits

/-- The parts between points. A point at the end does not begin a part. -/
def parts (cs : List Char) : List (List Char) :=
  let all := pieces '.' cs
  if 1 < all.length ∧ all.getLast? = some [] then all.dropLast else all

/-- Whether a host is meant as an address: its last part is a number, or consists of digits. -/
def isMeant (host : List Char) : Bool :=
  match (parts host).getLast? with
  | none => false
  | some last => (!last.isEmpty && last.all Char.isDigit) || (readPart? last).isSome

/-- The address that a host writes, as one number. -/
def parse? (host : List Char) : Option Nat := do
  let numbers ← (parts host).mapM readPart?
  let last ← numbers.getLast?
  let before := numbers.dropLast
  if before.length < 4 ∧ last < 1 <<< (8 * (4 - before.length)) ∧ before.all (· < 256) then
    some (before.zipIdx.foldl (fun address e => address + e.1 <<< (8 * (3 - e.2))) last)
  else none

/-- The address with its four bytes in decimal. -/
def text (address : Nat) : String :=
  ".".intercalate ([3, 2, 1, 0].map fun i => toString (address >>> (8 * i) % 256))

example : (parse? "127.1".toList).map text = some "127.0.0.1" := by decide +kernel
example : (parse? "0x7f.1".toList).map text = some "127.0.0.1" := by decide +kernel
example : parse? "256.1.1.1".toList = none := by decide +kernel

end PathRouting.Url.Ipv4
