import PathRouting.Unicode.Casing.Fold
import PathRouting.Unicode.Property

/-!
Sets of characters as a regular expression writes them: single characters and ranges, named classes,
the operations of bracketed classes, and closure under case.

`CharSet.contains` decides membership.
-/

namespace PathRouting.Regex

open PathRouting.Unicode

/-- The classes with one-letter escapes. -/
inductive Shorthand where
  | digit
  | space
  | word
  deriving DecidableEq, Repr

/-- Membership in a shorthand class, of all scripts or of ASCII alone. -/
def Shorthand.contains (shorthand : Shorthand) (unicode : Bool) (c : Char) : Bool :=
  match shorthand, unicode with
  | .digit, true => isDecimalDigit c
  | .space, true => isBlank c
  | .word, true => isWordCharacter c
  | .digit, false => c.isDigit
  | .space, false => c = ' ' || ('\t' ≤ c && c ≤ '\r')
  | .word, false => c.isAlphanum || c = '_'

/-- The classes of ASCII characters with names. -/
inductive AsciiClass where
  | alnum | alpha | ascii | blank | cntrl | digit | graph | lower | print | punct | space | upper
  | word | xdigit
  deriving DecidableEq, Repr

/-- The class with the given name. -/
def AsciiClass.ofName? : String → Option AsciiClass
  | "alnum" => some .alnum
  | "alpha" => some .alpha
  | "ascii" => some .ascii
  | "blank" => some .blank
  | "cntrl" => some .cntrl
  | "digit" => some .digit
  | "graph" => some .graph
  | "lower" => some .lower
  | "print" => some .print
  | "punct" => some .punct
  | "space" => some .space
  | "upper" => some .upper
  | "word" => some .word
  | "xdigit" => some .xdigit
  | _ => none

/-- Membership in a class of ASCII characters. -/
def AsciiClass.contains (cls : AsciiClass) (c : Char) : Bool :=
  match cls with
  | .alnum => c.isAlphanum
  | .alpha => c.isAlpha
  | .ascii => c.toNat < 128
  | .blank => c = ' ' || c = '\t'
  | .cntrl => c.toNat < 32 || c.toNat = 127
  | .digit => c.isDigit
  | .graph => '!' ≤ c && c ≤ '~'
  | .lower => c.isLower
  | .print => ' ' ≤ c && c ≤ '~'
  | .punct => '!' ≤ c && c ≤ '~' && !c.isAlphanum
  | .space => c = ' ' || ('\t' ≤ c && c ≤ '\r')
  | .upper => c.isUpper
  | .word => c.isAlphanum || c = '_'
  | .xdigit => c.isDigit || ('a' ≤ c && c ≤ 'f') || ('A' ≤ c && c ≤ 'F')

/-- The characters equal to the given one up to case, among all characters or in ASCII alone. -/
def variants (unicode : Bool) (c : Char) : List Char :=
  if unicode then caseVariants c
  else if c.isUpper then [c, c.toLower]
  else if c.isLower then [c, c.toUpper]
  else [c]

/-- A set of characters. A `bracketed` set has the same members as the set inside; the brackets
count for the nesting depth of an expression. -/
inductive CharSet where
  | empty
  | range (first last : Char)
  | shorthand (of : Shorthand) (unicode : Bool)
  | ascii (of : AsciiClass)
  | property (of : Property)
  | union (a b : CharSet)
  | inter (a b : CharSet)
  | diff (a b : CharSet)
  | symDiff (a b : CharSet)
  | compl (a : CharSet)
  | anyCase (unicode : Bool) (a : CharSet)
  | bracketed (a : CharSet)
  deriving DecidableEq, Repr

namespace CharSet

/-- Whether the character belongs to the set. -/
def contains : CharSet → Char → Bool
  | empty, _ => false
  | range first last, c => first ≤ c && c ≤ last
  | shorthand of unicode, c => of.contains unicode c
  | ascii of, c => of.contains c
  | property of, c => of.holds c
  | union a b, c => a.contains c || b.contains c
  | inter a b, c => a.contains c && b.contains c
  | diff a b, c => a.contains c && !b.contains c
  | symDiff a b, c => a.contains c != b.contains c
  | compl a, c => !a.contains c
  | anyCase unicode a, c => (variants unicode c).any a.contains
  | bracketed a, c => a.contains c

/-- The set of one character. -/
def single (c : Char) : CharSet :=
  range c c

/-- The set of all characters. -/
def all : CharSet :=
  compl empty

/-- The union of sets in order. -/
def unionOf : List CharSet → CharSet
  | [] => empty
  | a :: rest => rest.foldl union a

/-- Whether the set is written as a union of several. -/
def isUnion : CharSet → Bool
  | union _ _ => true
  | _ => false

/-- How deep brackets, unions of several parts and set operations nest. -/
def depth : CharSet → Nat
  | union a b => max (if a.isUnion then a.depth else a.depth + 1) (b.depth + 1)
  | inter a b | diff a b | symDiff a b => max a.depth b.depth + 1
  | compl a | anyCase _ a => a.depth
  | bracketed a => a.depth + 1
  | _ => 0

end CharSet

end PathRouting.Regex
