import PathRouting.Regex.Match
import PathRouting.Regex.Parser

/-!
Regular expressions together with the text they were written as. Two patterns are equal if their
texts are.
-/

namespace PathRouting.Regex

/-- A regular expression with its text. -/
structure Pattern where
  source : String
  tree : Tree
  deriving DecidableEq, Repr

/-- The pattern that a text writes. -/
def Pattern.compile (source : String) (limit : SizeLimit := .standard) : Except Fault Pattern :=
  (Tree.parse source limit).map fun tree => ⟨source, tree⟩

/-- Whether some part of the text matches. -/
def Pattern.isMatch (p : Pattern) (text : String) : Bool :=
  p.tree.isMatch text.toList

end PathRouting.Regex
