import Mathlib.Control.Monad.Basic
import PathRouting.Proofs.Template.Printing

/-!
Constraints of templates: which ones are attached, and which one is refused.

Constraints are attached one after the other, each to the capture or splat of its name. In the end,
every capture and splat has the constraint that was given last for its name, at whatever depth it
stands, and nothing else about the template has changed. Main statements: `attach_eq_search` (one
constraint, as a search that stops where it has found the name), `foldlM_attach` (all constraints)
and `compile_constrained` (a whole template).
-/

namespace PathRouting.Template

open Segment

namespace Segment

/-! ### One constraint for each name -/

mutual

/-- The segment with the constraint that is given for each name, and without one where none is. -/
def assign (of : String → Option Constraint) : Segment → Segment
  | literal text => literal text
  | capture name _ => capture name (of name)
  | splat name _ => splat name (of name)
  | optional inner => optional (assignAll of inner)

/-- The segments with the constraint that is given for each name, and without one where none is. -/
def assignAll (of : String → Option Constraint) : List Segment → List Segment
  | [] => []
  | s :: rest => s.assign of :: assignAll of rest

end

section Assign

variable {of : String → Option Constraint} {key : String} {constraint : Constraint}

theorem assignAll_none (segments : List Segment) :
    assignAll (fun _ => none) segments = eraseAll segments := by
  induction segments using inductionOnTree with
  | nil => rfl
  | literal text rest ih => simpa [assignAll, assign, eraseAll, erase] using ih
  | capture name old rest ih => simpa [assignAll, assign, eraseAll, erase] using ih
  | splat name old rest ih => simpa [assignAll, assign, eraseAll, erase] using ih
  | optional inner rest ihInner ih => simp [assignAll, assign, eraseAll, erase, ihInner, ih]

/-- One more constraint takes the place of the one that its name had. -/
theorem constrainAll_assignAll (segments : List Segment) :
    constrainAll key constraint (assignAll of segments) =
      assignAll (Function.update of key (some constraint)) segments := by
  induction segments using inductionOnTree with
  | nil => rfl
  | literal text rest ih => simpa [constrainAll, constrain, assignAll, assign] using ih
  | capture name old rest ih =>
    simpa [constrainAll, constrain, assignAll, assign, Function.update_apply] using ih
  | splat name old rest ih =>
    simpa [constrainAll, constrain, assignAll, assign, Function.update_apply] using ih
  | optional inner rest ihInner ih =>
    simp [constrainAll, constrain, assignAll, assign, ihInner, ih]

/-- Where the name does not occur, nothing changes. -/
theorem constrainAll_of_notMem {segments : List Segment} (absent : key ∉ namesOf segments) :
    constrainAll key constraint segments = segments := by
  induction segments using inductionOnTree with
  | nil => rfl
  | literal text rest ih => simpa [constrainAll, constrain] using ih (by simpa using absent)
  | capture name old rest ih =>
    simp only [namesOf_cons, names_capture, List.singleton_append, List.mem_cons, not_or] at absent
    simpa [constrainAll, constrain, Ne.symm absent.1] using ih absent.2
  | splat name old rest ih =>
    simp only [namesOf_cons, names_splat, List.singleton_append, List.mem_cons, not_or] at absent
    simpa [constrainAll, constrain, Ne.symm absent.1] using ih absent.2
  | optional inner rest ihInner ih =>
    simp only [namesOf_cons, names_optional, List.mem_append, not_or] at absent
    simp [constrainAll, constrain, ihInner absent.1, ih absent.2]

end Assign

/-! ### Searching for a name -/

mutual

/-- The segment with a constraint on the first capture or splat of a name, if it has one. -/
def constrainFirst? (key : String) (constraint : Constraint) : Segment → Option Segment
  | literal _ => none
  | capture name _ => if name = key then some (capture name (some constraint)) else none
  | splat name _ => if name = key then some (splat name (some constraint)) else none
  | optional inner => (constrainFirstOf? key constraint inner).map optional

/-- The segments with a constraint on the first capture or splat of a name, if they have one. What
stands behind it is not looked at. -/
def constrainFirstOf? (key : String) (constraint : Constraint) :
    List Segment → Option (List Segment)
  | [] => none
  | s :: rest =>
    match s.constrainFirst? key constraint with
    | some changed => some (changed :: rest)
    | none => (constrainFirstOf? key constraint rest).map (s :: ·)

end

section Search

variable {key : String} {constraint : Constraint}

/-- A name that the first segment has is in no later one, so the search may stop there. -/
theorem constrainFirstOf?_cons {s : Segment} {rest : List Segment}
    (distinct : (s.names ++ namesOf rest).Nodup)
    (first : s.constrainFirst? key constraint =
      if key ∈ s.names then some (s.constrain key constraint) else none)
    (later : constrainFirstOf? key constraint rest =
      if key ∈ namesOf rest then some (constrainAll key constraint rest) else none) :
    constrainFirstOf? key constraint (s :: rest) =
      if key ∈ namesOf (s :: rest) then some (constrainAll key constraint (s :: rest))
      else none := by
  rw [constrainFirstOf?, first, later]
  by_cases here : key ∈ s.names
  · have absent : key ∉ namesOf rest := fun there =>
      (List.nodup_append.mp distinct).2.2 key here key there rfl
    simp [here, constrainAll, constrainAll_of_notMem absent]
  · have same : s.constrain key constraint = s := by
      have alone : key ∉ namesOf [s] := by simpa using here
      exact (List.cons.inj (constrainAll_of_notMem alone)).1
    by_cases there : key ∈ namesOf rest
    · simp [here, there, constrainAll, same]
    · simp [here, there]

/-- As names differ, a search that stops where it has found the name does what looking at every
segment does. -/
theorem constrainFirstOf?_eq {segments : List Segment} (distinct : (namesOf segments).Nodup) :
    constrainFirstOf? key constraint segments =
      if key ∈ namesOf segments then some (constrainAll key constraint segments) else none := by
  induction segments using inductionOnTree with
  | nil => rfl
  | literal text rest ih =>
    exact constrainFirstOf?_cons distinct rfl (ih (List.nodup_append.mp distinct).2.1)
  | capture name old rest ih =>
    refine constrainFirstOf?_cons distinct ?_ (ih (List.nodup_append.mp distinct).2.1)
    by_cases same : name = key
    · subst same
      simp [constrainFirst?, constrain]
    · simp [constrainFirst?, same, Ne.symm same]
  | splat name old rest ih =>
    refine constrainFirstOf?_cons distinct ?_ (ih (List.nodup_append.mp distinct).2.1)
    by_cases same : name = key
    · subst same
      simp [constrainFirst?, constrain]
    · simp [constrainFirst?, same, Ne.symm same]
  | optional inner rest ihInner ih =>
    obtain ⟨inside, behind, -⟩ := List.nodup_append.mp distinct
    refine constrainFirstOf?_cons distinct ?_ (ih behind)
    rw [constrainFirst?, ihInner inside, names_optional, constrain]
    split <;> rfl

end Search

end Segment

/-! ### Attaching constraints -/

/-- An entry of a list of constraints that can be attached: its expression is a constraint, and its
key is a name of the template. -/
def Attachable (names : List String) (entry : String × String) : Prop :=
  (∃ constraint, Constraint.parse entry.2 = .ok constraint) ∧ entry.1 ∈ names

/-- What is reported of an entry that cannot be attached. A malformed expression comes before an
unknown key. -/
def refusal (entry : String × String) : TemplateFault :=
  match Constraint.parse entry.2 with
  | .error fault => .invalidConstraint entry.1 fault
  | .ok _ => .unknownConstraint entry.1

/-- The constraint of the last entry for a name. -/
def lastConstraint? (constraints : List (String × String)) (name : String) : Option Constraint :=
  (constraints.reverse.find? fun entry => entry.1 = name).bind fun entry =>
    (Constraint.parse entry.2).toOption

section Attach

variable {names : List String} {segments : List Segment} {entry : String × String}
  {constraint : Constraint} {constraints : List (String × String)}

theorem attach_of_parse (parsed : Constraint.parse entry.2 = .ok constraint)
    (known : entry.1 ∈ names) :
    attach names segments entry = .ok (constrainAll entry.1 constraint segments) := by
  unfold attach
  rw [parsed]
  exact if_pos known

theorem attach_of_not_attachable (bad : ¬Attachable names entry) :
    attach names segments entry = .error (refusal entry) := by
  unfold attach refusal
  cases parsed : Constraint.parse entry.2 with
  | error fault => rfl
  | ok constraint => exact if_neg fun known => bad ⟨⟨constraint, parsed⟩, known⟩

/-- Attaching is a search for the first capture or splat of the key, which may stand at any
depth. -/
theorem attach_eq_search (distinct : (namesOf segments).Nodup) :
    attach (namesOf segments) segments entry =
      match Constraint.parse entry.2 with
      | .error fault => .error (.invalidConstraint entry.1 fault)
      | .ok constraint =>
        match constrainFirstOf? entry.1 constraint segments with
        | some changed => .ok changed
        | none => .error (.unknownConstraint entry.1) := by
  unfold attach
  cases parsed : Constraint.parse entry.2 with
  | error fault => rfl
  | ok constraint =>
    dsimp only
    rw [constrainFirstOf?_eq distinct]
    split <;> rfl

theorem lastConstraint?_append_singleton (parsed : Constraint.parse entry.2 = .ok constraint) :
    lastConstraint? (constraints ++ [entry]) =
      Function.update (lastConstraint? constraints) entry.1 (some constraint) := by
  funext name
  rw [Function.update_apply, lastConstraint?, List.reverse_append, List.reverse_singleton,
    List.singleton_append, List.find?_cons]
  by_cases same : entry.1 = name
  · simp [same, parsed, Except.toOption]
  · simp [same, Ne.symm same, lastConstraint?]

/-- Entries that can all be attached give each capture and splat the last constraint for its
name. -/
theorem foldlM_attach (each : ∀ entry ∈ constraints, Attachable names entry) :
    constraints.foldlM (attach names) (eraseAll segments) =
      .ok (assignAll (lastConstraint? constraints) segments) := by
  induction constraints using List.reverseRecOn with
  | nil => exact congrArg Except.ok (assignAll_none segments).symm
  | append_singleton constraints entry ih =>
    obtain ⟨⟨constraint, parsed⟩, known⟩ := each entry (by simp)
    have before := ih fun entry mem => each entry (List.mem_append_left _ mem)
    have last : attach names (assignAll (lastConstraint? constraints) segments) entry =
        .ok (assignAll (lastConstraint? (constraints ++ [entry])) segments) := by
      rw [attach_of_parse parsed known, constrainAll_assignAll,
        lastConstraint?_append_singleton parsed]
    rw [List.foldlM_append, before]
    change [entry].foldlM (attach names) (assignAll (lastConstraint? constraints) segments) = _
    rw [List.foldlM_cons, last]
    rfl

/-- Of entries that cannot be attached, the first is reported. -/
theorem foldlM_attach_of_not_attachable {back : List (String × String)}
    (each : ∀ entry ∈ constraints, Attachable names entry) (bad : ¬Attachable names entry) :
    (constraints ++ entry :: back).foldlM (attach names) (eraseAll segments) =
      .error (refusal entry) := by
  rw [List.foldlM_append, foldlM_attach each]
  change (entry :: back).foldlM (attach names)
    (assignAll (lastConstraint? constraints) segments) = _
  rw [List.foldlM_cons, attach_of_not_attachable bad]
  rfl

theorem attachable_of_foldlM {changed : List Segment}
    (attached : constraints.foldlM (attach names) segments = .ok changed) :
    ∀ entry ∈ constraints, Attachable names entry := by
  induction constraints generalizing segments with
  | nil => exact fun _ mem => absurd mem List.not_mem_nil
  | cons entry rest ih =>
    rw [List.foldlM_cons] at attached
    by_cases good : Attachable names entry
    · obtain ⟨⟨constraint, parsed⟩, known⟩ := good
      rw [attach_of_parse parsed known] at attached
      exact List.forall_mem_cons.mpr ⟨⟨⟨constraint, parsed⟩, known⟩, ih attached⟩
    · rw [attach_of_not_attachable good] at attached
      cases attached

end Attach

/-! ### Whole templates -/

section Compile

variable {source : String} {constraints : List (String × String)}

theorem compile_of_error {e : Error} (failed : compile source [] = .error e) :
    compile source constraints = .error e := by
  unfold compile compileOrFault at failed ⊢
  cases written : segmentsOf (tokenize source) with
  | error fault => rwa [written] at failed
  | ok found =>
    rw [written] at failed
    cases failed

/-- A template with constraints is the one without, with constraints attached to its segments. -/
theorem compile_of_plain {plain : Template} (compiled : compile source [] = .ok plain) :
    compile source constraints =
      ((constraints.foldlM (attach plain.names) (eraseAll plain.segments)).map fun segments =>
        ⟨plain.source, segments, plain.names⟩).mapError (.template source) := by
  obtain ⟨segments, written, attached, rfl⟩ := exists_segmentsOf_of_compile compiled
  obtain rfl : segments = plain.segments := Except.ok.inj attached
  have erased : eraseAll plain.segments = plain.segments :=
    (canonical_of_segmentsOf written).1.eraseAll_eq
  unfold compile compileOrFault
  rw [written, erased]
  rfl

/-- The fault of a source does not depend on its constraints. A source that compiles without
constraints compiles with them exactly if every expression is a constraint and every key is one of
its names; all that changes is that each capture and splat has the last constraint for its name, at
any depth, and none where no entry is for it. Otherwise the first bad entry is reported, a malformed
expression before an unknown key. -/
theorem compile_constrained (source : String) (constraints : List (String × String)) :
    ((∃ t, compile source constraints = .ok t) ↔
        ∃ plain, compile source [] = .ok plain ∧
          ∀ entry ∈ constraints, Attachable plain.names entry) ∧
      (∀ plain t, compile source [] = .ok plain → compile source constraints = .ok t →
        t = ⟨plain.source, assignAll (lastConstraint? constraints) plain.segments, plain.names⟩) ∧
      (∀ e, compile source [] = .error e → compile source constraints = .error e) ∧
      ∀ plain front entry back, compile source [] = .ok plain →
        constraints = front ++ entry :: back → (∀ x ∈ front, Attachable plain.names x) →
          ¬Attachable plain.names entry →
            compile source constraints = .error (.template source (refusal entry)) := by
  cases compiled : compile source [] with
  | error e =>
    have failed : compile source constraints = .error e := compile_of_error compiled
    rw [failed]
    refine ⟨⟨?_, ?_⟩, nofun, fun _ same => same, nofun⟩
    · rintro ⟨t, ok⟩
      cases ok
    · rintro ⟨plain, ok, -⟩
      cases ok
  | ok plain =>
    have whole : (∀ entry ∈ constraints, Attachable plain.names entry) →
        compile source constraints = .ok
          ⟨plain.source, assignAll (lastConstraint? constraints) plain.segments, plain.names⟩ := by
      intro each
      rw [compile_of_plain compiled, foldlM_attach each]
      rfl
    have refused : ∀ front entry back, constraints = front ++ entry :: back →
        (∀ x ∈ front, Attachable plain.names x) → ¬Attachable plain.names entry →
          compile source constraints = .error (.template source (refusal entry)) := by
      rintro front entry back rfl each bad
      rw [compile_of_plain compiled, foldlM_attach_of_not_attachable each bad]
      rfl
    have attachable : ∀ t, compile source constraints = .ok t →
        ∀ entry ∈ constraints, Attachable plain.names entry := by
      intro t ok
      rw [compile_of_plain compiled] at ok
      cases attached : constraints.foldlM (attach plain.names) (eraseAll plain.segments) with
      | error fault =>
        rw [attached] at ok
        cases ok
      | ok changed => exact attachable_of_foldlM attached
    refine ⟨⟨?_, ?_⟩, ?_, nofun, ?_⟩
    · rintro ⟨t, ok⟩
      exact ⟨plain, rfl, attachable t ok⟩
    · rintro ⟨found, same, each⟩
      obtain rfl := Except.ok.inj same
      exact ⟨_, whole each⟩
    · rintro found t same ok
      obtain rfl := Except.ok.inj same
      rw [whole (attachable t ok)] at ok
      exact (Except.ok.inj ok).symm
    · rintro found front entry back same eq each bad
      obtain rfl := Except.ok.inj same
      exact refused front entry back eq each bad

end Compile

/-- An identifier in a group is constrained twice, and the kind of a file once. An entry with a
malformed expression for an unknown key comes in front of an unknown key. -/
theorem compile_constrained_files :
    let source := "/:id(/:name)(.:kind)"
    let plain : Template :=
      ⟨source, [.literal "/", .capture "id" none, .optional [.literal "/", .capture "name" none],
        .optional [.literal ".", .capture "kind" none]], ["id", "name", "kind"]⟩
    let good := [("name", "slug"), ("id", "uuid"), ("name", "alpha")]
    let bad := [("id", "int"), ("size", "("), ("length", "int")]
    compile source [] = .ok plain ∧ (∀ entry ∈ good, Attachable plain.names entry) ∧
      (∃ t, compile source good = .ok t ∧
        t = ⟨source, assignAll (lastConstraint? good) plain.segments, plain.names⟩) ∧
      assignAll (lastConstraint? good) plain.segments =
        [.literal "/", .capture "id" (some .uuid),
          .optional [.literal "/", .capture "name" (some .alpha)],
          .optional [.literal ".", .capture "kind" none]] ∧
      Attachable plain.names ("id", "int") ∧ ¬Attachable plain.names ("size", "(") ∧
      compile source bad = .error (.template source (.invalidConstraint "size" .malformed)) ∧
      compile "/:id(" [] = .error (.template "/:id(" (.unbalancedOpen 4)) ∧
      compile "/:id(" bad = .error (.template "/:id(" (.unbalancedOpen 4)) := by
  intro source plain good bad
  have compiled : compile source [] = .ok plain := by decide +kernel
  have unbalanced : compile "/:id(" [] = .error (.template "/:id(" (.unbalancedOpen 4)) := rfl
  have each : ∀ entry ∈ good, Attachable plain.names entry := by
    have known : ∀ entry ∈ good, entry.1 ∈ plain.names := by decide
    have parsed : ∀ entry ∈ good, ∃ constraint, Constraint.parse entry.2 = .ok constraint := by
      simp only [good, List.mem_cons, List.not_mem_nil, or_false]
      rintro entry (rfl | rfl | rfl)
      · exact ⟨.slug, rfl⟩
      · exact ⟨.uuid, rfl⟩
      · exact ⟨.alpha, rfl⟩
    exact fun entry mem => ⟨parsed entry mem, known entry mem⟩
  have first : Attachable plain.names ("id", "int") := ⟨⟨.int, rfl⟩, by decide⟩
  have malformed : Constraint.parse "(" = .error .malformed := rfl
  have second : ¬Attachable plain.names ("size", "(") := by
    rintro ⟨⟨constraint, parsed⟩, -⟩
    rw [malformed] at parsed
    cases parsed
  obtain ⟨succeeds, changes, -, -⟩ := compile_constrained source good
  obtain ⟨-, -, -, reports⟩ := compile_constrained source bad
  obtain ⟨-, -, fails, -⟩ := compile_constrained "/:id(" bad
  obtain ⟨t, ok⟩ := succeeds.mpr ⟨plain, compiled, each⟩
  have refused := reports plain [("id", "int")] ("size", "(") [("length", "int")] compiled rfl
    (by simpa using first) second
  rw [refusal, malformed] at refused
  exact ⟨compiled, each, ⟨t, ok, changes plain t compiled ok⟩, rfl, first, second, refused,
    unbalanced, fails _ unbalanced⟩

end PathRouting.Template
