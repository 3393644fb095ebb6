import PathRouting.Params
import PathRouting.Template.Basic
import PathRouting.Template.Position
import PathRouting.Text.Percent

/-!
Matching paths against templates.

The segments are walked from left to right by positions in the path. A capture or splat ends as far
behind as it can first and gives bytes back when the rest fails, and an optional part is tried as
present before it is left out. The segments that come after an optional part wait in a chain until
its content is matched.

What was captured stands on a stack that the whole walk shares: each attempt puts its captures on
top, and one that fails takes them off again.

`Template.match?` takes the whole path, `Template.peek?` a beginning of it.
-/

namespace PathRouting.Template

/-- What was captured for a name: the part of the path between two positions. -/
structure Capture where
  name : String
  start : Nat
  stop : Nat
  deriving DecidableEq, Repr

/-- Where a walk ends, unless it fails, and the stack of captures after it, last one at the end; or
a fault. -/
abbrev Outcome :=
  Except PositionFault (Option Nat × List Capture)

/-- How much of the path a match has to take. -/
inductive Anchor where
  | wholePath
  | beginning
  deriving DecidableEq, Repr

/-- The end of a walk at a position, where the anchor allows an end. -/
def Anchor.finish? (anchor : Anchor) (path : List Char) (pos : Nat) : Option Nat :=
  match anchor with
  | .wholePath => if pos = byteSize path then some pos else none
  | .beginning => some pos

/-- Whether a text of the path, once decoded, satisfies the constraint, if there is one. -/
def accepts (constraint : Option Constraint) (text : List Char) : Bool :=
  constraint.all fun c => c.validate (Text.Percent.decode (String.ofList text))

/-- Captures the text between two positions, if there is one that may be captured, and goes on with
`next` behind it. If this fails, the capture is taken off the stack. -/
def tryEnd (path : List Char) (name : String) (constraint : Option Constraint)
    (next : Nat → List Capture → Outcome) (start stop : Nat) (captures : List Capture) : Outcome :=
  if isBoundary path stop then do
    let text ← textBetween path start stop
    if accepts constraint text then
      match ← next stop (captures ++ [⟨name, start, stop⟩]) with
      | (some done, captures) => return (some done, captures)
      | (none, captures) => return (none, captures.dropLast)
    else return (none, captures)
  else return (none, captures)

theorem lt_of_positionBefore {pos earlier : Nat} (h : positionBefore pos = .ok earlier) :
    earlier < pos := by
  cases pos with
  | zero => cases h
  | succ n =>
    cases h
    exact Nat.lt_succ_self earlier

/-- The first success of attempts to end at the positions from `stop` down to `shortest`. -/
def tryEnds (attempt : Nat → List Capture → Outcome) (shortest stop : Nat)
    (captures : List Capture) : Outcome :=
  if shortest ≤ stop then do
    match ← attempt stop captures with
    | (some done, captures) => return (some done, captures)
    | (none, captures) =>
      if stop = 0 then return (none, captures)
      else
        match _h : positionBefore stop with
        | .ok earlier => tryEnds attempt shortest earlier captures
        | .error fault => throw fault
  else return (none, captures)
termination_by stop
decreasing_by exact lt_of_positionBefore _h

/-- Matches the segments from a position on, and then those that wait in the chain. The chain holds
what follows each optional part that the walk is in, from the inside out. -/
def walk (path : List Char) (anchor : Anchor) (segments : List Segment)
    (chain : List (List Segment)) (pos : Nat) (captures : List Capture) : Outcome :=
  match segments with
  | [] =>
    match chain with
    | [] => return (anchor.finish? path pos, captures)
    | next :: chain => walk path anchor next chain pos captures
  | .literal text :: rest => do
    let ahead ← textFrom path pos
    if text.toList.isPrefixOf ahead then
      walk path anchor rest chain (pos + byteSize text.toList) captures
    else return (none, captures)
  | .capture name constraint :: rest => do
    let ahead ← textFrom path pos
    let limit := ((findChar? '/' ahead).map (pos + ·)).getD (byteSize path)
    let next := fun stop captures => walk path anchor rest chain stop captures
    tryEnds (tryEnd path name constraint next pos) (pos + 1) limit captures
  | .splat name constraint :: rest =>
    let next := fun stop captures => walk path anchor rest chain stop captures
    tryEnds (tryEnd path name constraint next pos) pos (byteSize path) captures
  | .optional inner :: rest => do
    match ← walk path anchor inner (rest :: chain) pos captures with
    | (some done, captures) => return (some done, captures)
    | (none, after) => walk path anchor rest chain pos (after.take captures.length)
termination_by sizeOf (segments :: chain)

/-! ### Results -/

/-- What is given for a declared name: the decoded text, if one was captured. The capture that was
made first counts. -/
def entryFor (path : List Char) (captures : List Capture) (name : String) :
    Except PositionFault (String × Option String) :=
  match captures.find? fun c => c.name = name with
  | some c => do
    let text ← textBetween path c.start c.stop
    return (name, some (Text.Percent.decode (String.ofList text)))
  | none => return (name, none)

/-- The parameters for the declared names. -/
def paramsOf (path : List Char) (names : List String) (captures : List Capture) :
    Except PositionFault Params := do
  return OrderedMap.ofList (← names.mapM (entryFor path captures))

/-- Where the template ends when it is matched from the beginning of a path, and the parameters. -/
def matching (t : Template) (anchor : Anchor) (path : List Char) :
    Except PositionFault (Option (Nat × Params)) := do
  match ← walk path anchor t.segments [] 0 [] with
  | (some stop, captures) => return some (stop, ← paramsOf path t.names captures)
  | (none, _) => return none

/-- The parameters of a path that the template matches as a whole. -/
def match? (t : Template) (path : String) : Option Params :=
  match t.matching .wholePath path.toList with
  | .ok found => found.map Prod.snd
  | .error _ => none

/-- The beginning of the path that the template matches first, and its parameters. -/
def peek? (t : Template) (path : String) : Option (String × Params) :=
  match t.matching .beginning path.toList with
  | .ok (some (stop, params)) =>
    match textBetween path.toList 0 stop with
    | .ok taken => some (String.ofList taken, params)
    | .error _ => none
  | .ok none | .error _ => none

end PathRouting.Template
