import PathRouting.Template.Segment

/-!
Lists of segments as trees: two inductions over them, and what they hold in the order of the
template.

`inductionOnTree` descends into a group and goes on after it; `inductionOnSplice` goes on with the
content of a group in front of what follows, which is how a path is read.

Main definitions: `literalsOf` (the literal texts), `slotsOf` (the captures and splats with their
constraints) and `bindersOf` (the captures and splats themselves). `map_fst_slotsOf` ties the slots
to the names.
-/

namespace PathRouting.Template.Segment

/-! ### Induction -/

section Induction

variable {motive : List Segment → Prop}

/-- Induction over a tree, with one case for each kind of first segment. -/
@[elab_as_elim]
theorem inductionOnTree (nil : motive [])
    (literal : ∀ text rest, motive rest → motive (.literal text :: rest))
    (capture : ∀ name constraint rest, motive rest → motive (.capture name constraint :: rest))
    (splat : ∀ name constraint rest, motive rest → motive (.splat name constraint :: rest))
    (optional : ∀ inner rest, motive inner → motive rest → motive (.optional inner :: rest)) :
    ∀ segments, motive segments
  | [] => nil
  | .literal text :: rest =>
    literal text rest (inductionOnTree nil literal capture splat optional rest)
  | .capture name constraint :: rest =>
    capture name constraint rest (inductionOnTree nil literal capture splat optional rest)
  | .splat name constraint :: rest =>
    splat name constraint rest (inductionOnTree nil literal capture splat optional rest)
  | .optional inner :: rest =>
    optional inner rest (inductionOnTree nil literal capture splat optional inner)
      (inductionOnTree nil literal capture splat optional rest)

theorem sizeOf_append (a b : List Segment) : sizeOf (a ++ b) + 1 = sizeOf a + sizeOf b := by
  induction a with
  | nil => simp; omega
  | cons s rest ih => simp; omega

/-- A group is larger than its content, so it may be replaced by it. -/
theorem sizeOf_splice (inner rest : List Segment) :
    sizeOf (inner ++ rest) < sizeOf (Segment.optional inner :: rest) := by
  have := sizeOf_append inner rest
  simp
  omega

/-- Induction along a reading of the segments: a group is replaced by its content, or left out. -/
@[elab_as_elim]
theorem inductionOnSplice (nil : motive [])
    (literal : ∀ text rest, motive rest → motive (.literal text :: rest))
    (capture : ∀ name constraint rest, motive rest → motive (.capture name constraint :: rest))
    (splat : ∀ name constraint rest, motive rest → motive (.splat name constraint :: rest))
    (optional : ∀ inner rest, motive (inner ++ rest) → motive rest →
      motive (.optional inner :: rest)) (segments : List Segment) : motive segments :=
  match segments with
  | [] => nil
  | .literal text :: rest =>
    literal text rest (inductionOnSplice nil literal capture splat optional rest)
  | .capture name constraint :: rest =>
    capture name constraint rest (inductionOnSplice nil literal capture splat optional rest)
  | .splat name constraint :: rest =>
    splat name constraint rest (inductionOnSplice nil literal capture splat optional rest)
  | .optional inner :: rest =>
    optional inner rest (inductionOnSplice nil literal capture splat optional (inner ++ rest))
      (inductionOnSplice nil literal capture splat optional rest)
termination_by sizeOf segments
decreasing_by
  all_goals first | exact sizeOf_splice _ _ | (simp only [List.cons.sizeOf_spec]; omega)

end Induction

/-! ### Names -/

@[simp] theorem namesOf_nil : namesOf [] = [] := rfl

@[simp] theorem namesOf_cons (s : Segment) (rest : List Segment) :
    namesOf (s :: rest) = s.names ++ namesOf rest := rfl

@[simp] theorem names_literal (text : String) : (literal text).names = [] := rfl

@[simp] theorem names_capture (name : String) (constraint : Option Constraint) :
    (capture name constraint).names = [name] := rfl

@[simp] theorem names_splat (name : String) (constraint : Option Constraint) :
    (splat name constraint).names = [name] := rfl

@[simp] theorem names_optional (inner : List Segment) : (optional inner).names = namesOf inner :=
  rfl

@[simp] theorem namesOf_append (a b : List Segment) :
    namesOf (a ++ b) = namesOf a ++ namesOf b := by
  induction a with
  | nil => rfl
  | cons s rest ih => simp [ih]

@[simp] theorem name?_literal (text : String) : (literal text).name? = none := rfl

@[simp] theorem name?_capture (name : String) (constraint : Option Constraint) :
    (capture name constraint).name? = some name := rfl

@[simp] theorem name?_splat (name : String) (constraint : Option Constraint) :
    (splat name constraint).name? = some name := rfl

@[simp] theorem name?_optional (inner : List Segment) : (optional inner).name? = none := rfl

theorem names_eq_of_name? {s : Segment} {name : String} (named : s.name? = some name) :
    s.names = [name] := by
  cases s with
  | literal text => cases named
  | capture other constraint => exact congrArg (fun n => [n]) (Option.some.inj named)
  | splat other constraint => exact congrArg (fun n => [n]) (Option.some.inj named)
  | optional inner => cases named

theorem mem_namesOf_of_name? {segments : List Segment} {s : Segment} {name : String}
    (mem : s ∈ segments) (named : s.name? = some name) : name ∈ namesOf segments := by
  obtain ⟨before, after, rfl⟩ := List.append_of_mem mem
  simp [names_eq_of_name? named]

/-! ### Literal texts -/

mutual

/-- The literal texts of a segment, in order. -/
def literals : Segment → List String
  | literal text => [text]
  | capture _ _ => []
  | splat _ _ => []
  | optional inner => literalsOf inner

/-- The literal texts of a list of segments, in order. -/
def literalsOf : List Segment → List String
  | [] => []
  | s :: rest => s.literals ++ literalsOf rest

end

@[simp] theorem literalsOf_nil : literalsOf [] = [] := rfl

@[simp] theorem literalsOf_cons (s : Segment) (rest : List Segment) :
    literalsOf (s :: rest) = s.literals ++ literalsOf rest := rfl

@[simp] theorem literals_literal (text : String) : (literal text).literals = [text] := rfl

@[simp] theorem literals_capture (name : String) (constraint : Option Constraint) :
    (capture name constraint).literals = [] := rfl

@[simp] theorem literals_splat (name : String) (constraint : Option Constraint) :
    (splat name constraint).literals = [] := rfl

@[simp] theorem literals_optional (inner : List Segment) :
    (optional inner).literals = literalsOf inner := rfl

@[simp] theorem literalsOf_append (a b : List Segment) :
    literalsOf (a ++ b) = literalsOf a ++ literalsOf b := by
  induction a with
  | nil => rfl
  | cons s rest ih => simp [ih]

/-! ### Captures and splats -/

mutual

/-- The captures and splats of a segment in order, each with its constraint. -/
def slots : Segment → List (String × Option Constraint)
  | literal _ => []
  | capture name constraint => [(name, constraint)]
  | splat name constraint => [(name, constraint)]
  | optional inner => slotsOf inner

/-- The captures and splats of a list of segments in order, each with its constraint. -/
def slotsOf : List Segment → List (String × Option Constraint)
  | [] => []
  | s :: rest => s.slots ++ slotsOf rest

end

@[simp] theorem slotsOf_nil : slotsOf [] = [] := rfl

@[simp] theorem slotsOf_cons (s : Segment) (rest : List Segment) :
    slotsOf (s :: rest) = s.slots ++ slotsOf rest := rfl

@[simp] theorem slots_literal (text : String) : (literal text).slots = [] := rfl

@[simp] theorem slots_capture (name : String) (constraint : Option Constraint) :
    (capture name constraint).slots = [(name, constraint)] := rfl

@[simp] theorem slots_splat (name : String) (constraint : Option Constraint) :
    (splat name constraint).slots = [(name, constraint)] := rfl

@[simp] theorem slots_optional (inner : List Segment) : (optional inner).slots = slotsOf inner :=
  rfl

@[simp] theorem slotsOf_append (a b : List Segment) :
    slotsOf (a ++ b) = slotsOf a ++ slotsOf b := by
  induction a with
  | nil => rfl
  | cons s rest ih => simp [ih]

/-- The slots have the declared names, in the same order. -/
theorem map_fst_slotsOf (segments : List Segment) :
    (slotsOf segments).map Prod.fst = namesOf segments := by
  induction segments using inductionOnTree with
  | nil => rfl
  | literal text rest ih => simpa using ih
  | capture name constraint rest ih => simpa using ih
  | splat name constraint rest ih => simpa using ih
  | optional inner rest ihInner ih => simp [ihInner, ih]

/-! ### Binders -/

mutual

/-- The captures and splats of a segment, in order. -/
def binders : Segment → List Segment
  | literal _ => []
  | capture name constraint => [capture name constraint]
  | splat name constraint => [splat name constraint]
  | optional inner => bindersOf inner

/-- The captures and splats of a list of segments, in order. -/
def bindersOf : List Segment → List Segment
  | [] => []
  | s :: rest => s.binders ++ bindersOf rest

end

@[simp] theorem bindersOf_nil : bindersOf [] = [] := rfl

@[simp] theorem bindersOf_cons (s : Segment) (rest : List Segment) :
    bindersOf (s :: rest) = s.binders ++ bindersOf rest := rfl

@[simp] theorem binders_literal (text : String) : (literal text).binders = [] := rfl

@[simp] theorem binders_capture (name : String) (constraint : Option Constraint) :
    (capture name constraint).binders = [capture name constraint] := rfl

@[simp] theorem binders_splat (name : String) (constraint : Option Constraint) :
    (splat name constraint).binders = [splat name constraint] := rfl

@[simp] theorem binders_optional (inner : List Segment) :
    (optional inner).binders = bindersOf inner := rfl

@[simp] theorem bindersOf_append (a b : List Segment) :
    bindersOf (a ++ b) = bindersOf a ++ bindersOf b := by
  induction a with
  | nil => rfl
  | cons s rest ih => simp [ih]

end PathRouting.Template.Segment
