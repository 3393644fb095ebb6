import PathRouting.Text.Pieces

/-!
The four written forms of a UUID: thirty-two hexadecimal digits, the same in groups of 8, 4, 4, 4
and 12 with dashes between, the grouped form in braces, and the grouped form after `urn:uuid:`.
-/

namespace PathRouting.Text

/-- Whether the character is a hexadecimal digit of either case. -/
def isHexDigit (c : Char) : Bool :=
  c.isDigit || ('a' ≤ c && c ≤ 'f') || ('A' ≤ c && c ≤ 'F')

/-- Groups of 8, 4, 4, 4 and 12 hexadecimal digits with dashes between. -/
def isGroupedUuid (cs : List Char) : Bool :=
  let groups := pieces '-' cs
  decide (groups.map List.length = [8, 4, 4, 4, 12]) && groups.all fun group => group.all isHexDigit

/-- The grouped form that is left once the braces or the prefix of a URN are taken off. The prefix
may be in either case. -/
def unwrapUuid (cs : List Char) : List Char :=
  match cs with
  | '\x7b' :: rest =>
    match rest.getLast? with
    | some '\x7d' => rest.dropLast
    | _ => cs
  | _ =>
    match dropLeading? "urn:uuid:".toList (cs.map Char.toLower) with
    | some _ => cs.drop 9
    | none => cs

/-- Whether the text writes a UUID. -/
def isUuid (s : String) : Bool :=
  let cs := s.toList
  (decide (cs.length = 32) && cs.all isHexDigit) || isGroupedUuid (unwrapUuid cs)

end PathRouting.Text
