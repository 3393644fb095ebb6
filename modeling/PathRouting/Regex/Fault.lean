/-!
Why a regular expression is refused.
-/

namespace PathRouting.Regex

/-- A regular expression is refused if it is malformed, or if it would take more memory than allowed
once its counted repetitions are written out. -/
inductive Fault where
  | malformed
  | tooLarge (limit : Nat)
  deriving DecidableEq, Repr

/-- What a message says about the fault after a colon. A malformed expression is not explained. -/
def Fault.detail? : Fault → Option String
  | .malformed => none
  | .tooLarge limit => some s!"Compiled regex exceeds size limit of {limit} bytes."

end PathRouting.Regex
