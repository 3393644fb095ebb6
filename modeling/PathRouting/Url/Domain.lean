import PathRouting.Text.Percent
import PathRouting.Unicode.Normal.Composed
import PathRouting.Url.Domain.Direction
import PathRouting.Url.Domain.Joiner
import PathRouting.Url.Domain.Mapping
import PathRouting.Url.Domain.Punycode

/-!
Domains in ASCII. Characters are replaced by those that stand for them, the text is put into normal
form, and each label with characters beyond ASCII is written in ASCII after a mark.

Main definition: `toAscii?`, which refuses texts that are no domain.
-/

namespace PathRouting.Url.Domain

open PathRouting.Text PathRouting.Unicode

/-- The mark in front of a label that stands for one with characters beyond ASCII. -/
def asciiMark : List Char := "xn--".toList

/-- Whether all characters are ASCII. -/
def isAscii (cs : List Char) : Bool :=
  cs.all fun c => c.toNat < 128

/-- Whether no domain may hold the character. -/
def isDenied (c : Char) : Bool :=
  c.toNat ≤ 32 || c.toNat = 127 ||
    c ∈ ['%', '#', '/', ':', '<', '>', '?', '@', '[', '\\', ']', '^', '|']

/-- The label that a label stands for: the one that was written in ASCII after the mark, or itself.
A label that need not have been written so stands for none. -/
def decodeLabel? (label : List Char) : Option (List Char) :=
  match dropLeading? asciiMark label with
  | none => some label
  | some cs => do
    let decoded ← Punycode.decode? cs
    if isAscii cs && !isAscii decoded && decoded.all (fun c => map? c = some [c]) &&
        normalize decoded = decoded then
      some decoded
    else none

/-- Whether the label may stand in a domain. -/
def isLabel (label : List Char) : Bool :=
  !label.any isDenied && !(label.head?.any isMark) && joinersFit [] label

/-- The label in ASCII. -/
def encodeLabel (label : List Char) : List Char :=
  if isAscii label then label else asciiMark ++ Punycode.encode label

/-- The domain in ASCII that the characters of a text write, where they do. -/
def ofChars? (cs : List Char) : Option (List Char) := do
  let mapped ← cs.mapM map?
  let labels ← (pieces '.' (normalize mapped.flatten)).mapM decodeLabel?
  if !labels.all isLabel then none
  else if labels.any hasRightToLeft && !labels.all isReadable then none
  else some (joinPieces ['.'] (labels.map encodeLabel))

/-- Whether a text in lower case is ASCII and none of its labels stands for another one. -/
def isPlain (cs : List Char) : Bool :=
  isAscii cs && (pieces '.' cs).all fun label => (dropLeading? asciiMark label).isNone

/-- The domain in ASCII that the bytes of a text write, where they do. A plain text needs nothing
but lower case. -/
def toAscii? (bytes : List UInt8) : Option (List Char) := do
  let text ← Percent.ofUtf8? bytes
  let lower := text.toList.map Char.toLower
  if isPlain lower then
    if lower.any isDenied then none else some lower
  else ofChars? text.toList

end PathRouting.Url.Domain
