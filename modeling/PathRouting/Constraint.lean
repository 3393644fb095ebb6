import PathRouting.Regex.Pattern
import PathRouting.Text.Integer
import PathRouting.Text.Uuid

/-!
Constraints on captured texts: four named kinds, and regular expressions that have to match the
whole text.
-/

namespace PathRouting

/-- What a captured text has to be. -/
inductive Constraint where
  | int
  | uuid
  | alpha
  | slug
  | pattern (p : Regex.Pattern)
  deriving DecidableEq, Repr

namespace Constraint

/-- The text of a pattern that matches from the start to the end where the expression does. -/
def anchored (expression : String) : String :=
  "^(?:" ++ expression ++ ")$"

/-- The constraint that a text names, or the regular expression it writes. -/
def parse (expression : String) (limit : Regex.SizeLimit := .standard) :
    Except Regex.Fault Constraint :=
  match expression with
  | "int" => .ok .int
  | "uuid" => .ok .uuid
  | "alpha" => .ok .alpha
  | "slug" => .ok .slug
  | _ => (Regex.Pattern.compile (anchored expression) limit).map .pattern

/-- Whether the text satisfies the constraint. -/
def validate (constraint : Constraint) (value : String) : Bool :=
  match constraint with
  | int => (Text.readSigned? 64 value).isSome
  | uuid => Text.isUuid value
  | alpha => !value.isEmpty && value.toList.all Unicode.isAlphabetic
  | slug =>
    !value.isEmpty && value.toList.all fun c => Unicode.isAlphanumeric c || c = '-' || c = '_'
  | pattern p => p.isMatch value

end Constraint

end PathRouting
