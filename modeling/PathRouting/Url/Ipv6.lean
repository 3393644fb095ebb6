import PathRouting.Text.Pieces
import PathRouting.Url.Ipv4

/-!
IPv6 addresses as hosts of URLs: eight groups of up to four hexadecimal digits, of which the last
two may be written as an IPv4 address, and of which `::` may stand for one or more that are zero.
-/

namespace PathRouting.Url.Ipv6

open PathRouting.Text

/-- The group that one to four hexadecimal digits write. -/
def readGroup? (cs : List Char) : Option Nat :=
  if 1 ≤ cs.length ∧ cs.length ≤ 4 then Ipv4.readRadix? 16 cs else none

/-- The byte that decimal digits write without leading zeros. -/
def readByte? : List Char → Option Nat
  | [] => none
  | ['0'] => some 0
  | '0' :: _ => none
  | digits => (Ipv4.readRadix? 10 digits).filter (· < 256)

/-- The two groups that four bytes between points write. -/
def readBytes? (cs : List Char) : Option (List Nat) := do
  match ← (pieces '.' cs).mapM readByte? with
  | [a, b, c, d] => some [256 * a + b, 256 * c + d]
  | _ => none

/-- The groups that a text between colons writes. Only at the end four bytes may stand for two. -/
def readGroups? : List (List Char) → Option (List Nat)
  | [] => some []
  | [last] => if '.' ∈ last then readBytes? last else (readGroup? last).map ([·])
  | piece :: more => do
    let group ← readGroup? piece
    let rest ← readGroups? more
    return group :: rest

/-- The groups of one side of `::`, where there may be none. -/
def readSide? (cs : List Char) : Option (List Nat) :=
  if cs.isEmpty then some [] else readGroups? (pieces ':' cs)

/-- What stands before and after the first two colons in a row. -/
def splitGap? : List Char → Option (List Char × List Char)
  | ':' :: ':' :: rest => some ([], rest)
  | c :: rest => (splitGap? rest).map fun (before, after) => (c :: before, after)
  | [] => none

/-- The eight groups that a text writes. -/
def parse? (cs : List Char) : Option (List Nat) := do
  match splitGap? cs with
  | none =>
    let groups ← readGroups? (pieces ':' cs)
    if groups.length = 8 then some groups else none
  | some (before, after) =>
    if '.' ∈ before then none
    else
      let high ← readSide? before
      let low ← readSide? after
      if high.length + low.length ≤ 7 then
        some (high ++ List.replicate (8 - high.length - low.length) 0 ++ low)
      else none

/-! ### Text -/

/-- The number of zeros at the start. -/
def zeros (groups : List Nat) : Nat :=
  (groups.takeWhile (· = 0)).length

/-- Where the first longest run of zeros starts, and its length. -/
def longestGap (groups : List Nat) : Nat × Nat :=
  (List.range groups.length).foldl
    (fun best i =>
      let n := zeros (groups.drop i)
      if best.2 < n then (i, n) else best)
    (0, 0)

/-- The groups with colons between them. -/
def groupsText (groups : List Nat) : String :=
  ":".intercalate (groups.map fun g => String.ofList (Nat.toDigits 16 g))

/-- The address with its groups in hexadecimal. The first longest run of two or more zeros is left
out. -/
def text (groups : List Nat) : String :=
  let (start, length) := longestGap groups
  if length < 2 then groupsText groups
  else groupsText (groups.take start) ++ "::" ++ groupsText (groups.drop (start + length))

example : (parse? "1:0:0:2::3".toList).map text = some "1:0:0:2::3" := by decide +kernel
example : (parse? "::ffff:1.2.3.4".toList).map text = some "::ffff:102:304" := by decide +kernel
example : parse? "1::2::3".toList = none := by decide +kernel

end PathRouting.Url.Ipv6
