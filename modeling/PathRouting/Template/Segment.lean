import PathRouting.Constraint

/-!
Segment trees of path templates. The same tree is matched against paths and expanded to paths.
-/

namespace PathRouting.Template

/-- A node of a template: exact text, a capture of text without a slash, a splat that captures any
text, or segments that may be left out together. -/
inductive Segment where
  | literal (text : String)
  | capture (name : String) (constraint : Option Constraint)
  | splat (name : String) (constraint : Option Constraint)
  | optional (inner : List Segment)
  deriving BEq, Repr

namespace Segment

mutual

/-- Segments are compared part by part. -/
protected def decEq : (a b : Segment) → Decidable (a = b)
  | literal a, literal b => decidable_of_iff (a = b) (by rw [literal.injEq])
  | capture a c, capture b d => decidable_of_iff (a = b ∧ c = d) (by rw [capture.injEq])
  | splat a c, splat b d => decidable_of_iff (a = b ∧ c = d) (by rw [splat.injEq])
  | optional a, optional b =>
    match Segment.decEqAll a b with
    | isTrue same => isTrue (congrArg optional same)
    | isFalse differ => isFalse fun same => differ (optional.inj same)
  | literal _, capture _ _ | literal _, splat _ _ | literal _, optional _
  | capture _ _, literal _ | capture _ _, splat _ _ | capture _ _, optional _
  | splat _ _, literal _ | splat _ _, capture _ _ | splat _ _, optional _
  | optional _, literal _ | optional _, capture _ _ | optional _, splat _ _ => isFalse nofun

/-- Lists of segments are compared part by part. -/
protected def decEqAll : (a b : List Segment) → Decidable (a = b)
  | [], [] => isTrue rfl
  | s :: rest, t :: more =>
    match Segment.decEq s t, Segment.decEqAll rest more with
    | isTrue first, isTrue others => isTrue (by rw [first, others])
    | isFalse differ, _ => isFalse fun same => differ (List.cons.inj same).1
    | _, isFalse differ => isFalse fun same => differ (List.cons.inj same).2
  | [], _ :: _ | _ :: _, [] => isFalse nofun

end

instance : DecidableEq Segment :=
  Segment.decEq

/-- The name that a capture or splat binds. -/
def name? : Segment → Option String
  | capture name _ | splat name _ => some name
  | literal _ | optional _ => none

/-- Whether the segment is exact text. -/
def isLiteral : Segment → Bool
  | literal _ => true
  | _ => false

mutual

/-- The names that a segment binds, outside in and left to right. -/
def names : Segment → List String
  | literal _ => []
  | capture name _ => [name]
  | splat name _ => [name]
  | optional inner => namesOf inner

/-- The names that a list of segments binds, in order. -/
def namesOf : List Segment → List String
  | [] => []
  | s :: rest => s.names ++ namesOf rest

end

mutual

/-- The segment with a constraint on the capture or splat of the given name. -/
def constrain (key : String) (constraint : Constraint) : Segment → Segment
  | literal text => literal text
  | capture name old => capture name (if name = key then some constraint else old)
  | splat name old => splat name (if name = key then some constraint else old)
  | optional inner => optional (constrainAll key constraint inner)

/-- The segments with a constraint on the capture or splat of the given name. -/
def constrainAll (key : String) (constraint : Constraint) : List Segment → List Segment
  | [] => []
  | s :: rest => s.constrain key constraint :: constrainAll key constraint rest

end

end Segment

end PathRouting.Template
