import PathRouting.Error
import PathRouting.Template.Segment
import PathRouting.Template.Token

/-!
Compiled path templates: the tokens of a source text become a tree of segments, and constraints are
attached to its captures.

Main definitions: `Template.compile` and the fault it reports for the leftmost offending token.
-/

namespace PathRouting

/-- A compiled template: its source, its segments, and the names it declares in order. -/
structure Template where
  source : String
  segments : List Template.Segment
  names : List String
  deriving BEq, DecidableEq, Repr

namespace Template

/-- A template in the making: the segments of the innermost open group, last first, the groups that
are open with the byte each starts at and the segments before it, the names declared so far, and
whether the last token closed a group. -/
structure Draft where
  current : List Segment := []
  outer : List (Nat × List Segment) := []
  names : List String := []
  afterClose : Bool := false

/-- The draft with a capture or splat that declares a name. -/
def Draft.declare (d : Draft) (name : String) (segment : Segment) : Except TemplateFault Draft :=
  if name ∈ d.names then .error (.duplicateName name)
  else .ok { d with
    current := segment :: d.current, names := d.names ++ [name], afterClose := false }

/-- The segments, last first, with the last character, capture or splat made optional. -/
def makeLastOptional? : List Segment → Option (List Segment)
  | .literal text :: before =>
    match text.toList.reverse with
    | [] => none
    | c :: rest =>
      let last := Segment.optional [.literal (String.singleton c)]
      if rest.isEmpty then some (last :: before)
      else some (last :: .literal (String.ofList rest.reverse) :: before)
  | .capture name constraint :: before => some (.optional [.capture name constraint] :: before)
  | .splat name constraint :: before => some (.optional [.splat name constraint] :: before)
  | _ => none

/-- The draft after one more token. A question mark after a group changes nothing. -/
def Draft.step (d : Draft) (lexeme : Lexeme) : Except TemplateFault Draft :=
  match lexeme.token with
  | .literal text => .ok { d with current := .literal text :: d.current, afterClose := false }
  | .capture name =>
    if name.isEmpty then .error (.emptyName lexeme.offset)
    else d.declare name (.capture name none)
  | .splat name =>
    if name.isEmpty then .error (.emptyName lexeme.offset)
    else d.declare name (.splat name none)
  | .groupOpen =>
    .ok { d with
      current := [], outer := (lexeme.offset, d.current) :: d.outer, afterClose := false }
  | .groupClose =>
    match d.outer with
    | [] => .error (.unbalancedClose lexeme.offset)
    | (_, before) :: outer =>
      .ok { d with
        current := .optional d.current.reverse :: before, outer := outer, afterClose := true }
  | .optional =>
    if d.afterClose then .ok { d with afterClose := false }
    else
      match makeLastOptional? d.current with
      | some current => .ok { d with current := current }
      | none => .error (.strayOptional lexeme.offset)

/-- The segments and the names that a list of tokens writes. -/
def segmentsOf (lexemes : List Lexeme) : Except TemplateFault (List Segment × List String) := do
  let d ← lexemes.foldlM Draft.step {}
  match d.outer with
  | [] => .ok (d.current.reverse, d.names)
  | (offset, _) :: _ => .error (.unbalancedOpen offset)

/-- The segments with one more constraint, given by the name it is for and its expression. -/
def attach (names : List String) (segments : List Segment) (entry : String × String) :
    Except TemplateFault (List Segment) :=
  match Constraint.parse entry.2 with
  | .error fault => .error (.invalidConstraint entry.1 fault)
  | .ok constraint =>
    if entry.1 ∈ names then .ok (Segment.constrainAll entry.1 constraint segments)
    else .error (.unknownConstraint entry.1)

/-- The template that a source writes, with constraints attached in order, or what is wrong. -/
def compileOrFault (source : String) (constraints : List (String × String)) :
    Except TemplateFault Template := do
  let (segments, names) ← segmentsOf (tokenize source)
  let constrained ← constraints.foldlM (attach names) segments
  return ⟨source, constrained, names⟩

/-- The template that a source writes, with constraints attached in order. -/
def compile (source : String) (constraints : List (String × String)) : Except Error Template :=
  (compileOrFault source constraints).mapError (.template source)

/-- The template that a source writes, without constraints. -/
def parse (source : String) : Except Error Template :=
  compile source []

/-- Whether there are no captures, splats or optional parts. -/
def isStatic (t : Template) : Bool :=
  t.segments.all Segment.isLiteral

end Template

end PathRouting
