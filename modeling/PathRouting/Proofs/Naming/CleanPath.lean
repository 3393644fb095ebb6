import Mathlib.Data.List.Basic
import PathRouting.Router.Scope

/-!
The shape of cleaned paths, and cleaning in steps.

Cleaning follows a path component by component and only remembers where it has come to, so what it
makes of the rest of a path depends on where the beginning leads. A clean path leads where it says.

Main statements: `cleanPath_eq_self_iff` (the clean paths are those that cleaning leaves as they
are), `cleanPath_append` (the beginning may be cleaned first) and `cleaning_settles` (both, and what
follows for scopes).
-/

namespace PathRouting.Naming

open PathRouting.Text

/-! ### Following a path -/

/-- What a component of a clean path is: a text between slashes that is not empty and neither stays
nor goes back. -/
structure IsComponent (part : List Char) : Prop where
  filled : part ≠ []
  notHere : part ≠ ['.']
  notBack : part ≠ ['.', '.']
  undivided : '/' ∉ part

/-- The components that are visited once a path is followed from given ones, last first. -/
def visit (visited : List (List Char)) (cs : List Char) : List (List Char) :=
  (pieces '/' cs).foldl stepInto visited

theorem components_eq (cs : List Char) : components cs = (visit [] cs).reverse := rfl

/-- The rest of a path is followed from where its beginning leads. -/
theorem visit_append (visited : List (List Char)) (cs rest : List Char) :
    visit visited (cs ++ '/' :: rest) = visit (visit visited cs) rest := by
  rw [visit, pieces_append, List.foldl_append]
  rfl

/-- A step leads back along the way, or to the component itself. -/
theorem isComponent_of_mem_stepInto {visited : List (List Char)} {component : List Char}
    (known : ∀ part ∈ visited, IsComponent part) (undivided : '/' ∉ component) :
    ∀ part ∈ stepInto visited component, IsComponent part := by
  intro part mem
  unfold stepInto at mem
  split at mem
  · exact known part mem
  · next filled =>
    split at mem
    · exact known part (List.mem_of_mem_tail mem)
    · next notBack =>
      rcases List.mem_cons.mp mem with rfl | earlier
      · simp only [Bool.or_eq_true, List.isEmpty_iff, decide_eq_true_eq, not_or] at filled
        exact ⟨filled.1, filled.2, notBack, undivided⟩
      · exact known part earlier

theorem isComponent_of_mem_foldl {parts visited : List (List Char)}
    (known : ∀ part ∈ visited, IsComponent part) (undivided : ∀ part ∈ parts, '/' ∉ part) :
    ∀ part ∈ parts.foldl stepInto visited, IsComponent part := by
  induction parts generalizing visited with
  | nil => exact known
  | cons first rest ih =>
    have step := isComponent_of_mem_stepInto known (undivided first List.mem_cons_self)
    exact ih step fun part mem => undivided part (List.mem_cons_of_mem first mem)

theorem isComponent_of_mem_components {cs part : List Char} (mem : part ∈ components cs) :
    IsComponent part := by
  rw [components_eq, List.mem_reverse] at mem
  exact isComponent_of_mem_foldl (by simp) (fun _ piece => notMem_of_mem_pieces piece) part mem

theorem foldl_stepInto {parts : List (List Char)} (clean : ∀ part ∈ parts, IsComponent part)
    (visited : List (List Char)) :
    parts.foldl stepInto visited = parts.reverse ++ visited := by
  induction parts generalizing visited with
  | nil => rfl
  | cons part rest ih =>
    have here := clean part List.mem_cons_self
    have step : stepInto visited part = part :: visited := by
      simp [stepInto, here.filled, here.notHere, here.notBack]
    rw [List.foldl_cons, step, ih fun other mem => clean other (List.mem_cons_of_mem part mem)]
    simp

/-! ### Clean paths -/

/-- The path with a slash in front of every component, which is only a slash if there are none. -/
def pathOf (parts : List (List Char)) : List Char :=
  '/' :: joinPieces ['/'] parts

theorem cleanPathChars_eq (cs : List Char) : cleanPathChars cs = pathOf (components cs) := rfl

/-- The pieces of a clean path: nothing in front of the first slash, then its components. -/
theorem pieces_pathOf {parts : List (List Char)} (clean : ∀ part ∈ parts, IsComponent part) :
    pieces '/' (pathOf parts) = [] :: if parts = [] then [[]] else parts := by
  split
  · next empty => rw [empty]; rfl
  · next nonempty =>
    have cut := pieces_joinPieces nonempty fun part mem => (clean part mem).undivided
    simp [pathOf, pieces, cut]

/-- A clean path leads through its components. -/
theorem visit_pathOf {parts : List (List Char)} (clean : ∀ part ∈ parts, IsComponent part)
    (visited : List (List Char)) : visit visited (pathOf parts) = parts.reverse ++ visited := by
  rw [visit, pieces_pathOf clean, List.foldl_cons]
  split
  · next empty => rw [empty]; rfl
  · exact foldl_stepInto clean visited

theorem cleanPathChars_pathOf {parts : List (List Char)}
    (clean : ∀ part ∈ parts, IsComponent part) : cleanPathChars (pathOf parts) = pathOf parts := by
  rw [cleanPathChars_eq, components_eq, visit_pathOf clean]
  simp

/-- Paths that lead to the same place are cleaned alike. -/
theorem cleanPathChars_of_visit {cs ds : List Char} (same : visit [] cs = visit [] ds) :
    cleanPathChars cs = cleanPathChars ds := by
  rw [cleanPathChars_eq, cleanPathChars_eq, components_eq, components_eq, same]

/-- A path leads where the cleaned path does. -/
theorem visit_cleanPathChars (cs : List Char) : visit [] (cleanPathChars cs) = visit [] cs := by
  rw [cleanPathChars_eq, visit_pathOf fun _ => isComponent_of_mem_components, components_eq]
  simp

theorem cleanPathChars_append (cs rest : List Char) :
    cleanPathChars (cs ++ '/' :: rest) = cleanPathChars (cleanPathChars cs ++ '/' :: rest) := by
  refine cleanPathChars_of_visit ?_
  rw [visit_append, visit_append, visit_cleanPathChars]

/-- No two slashes of a clean path stand next to each other. -/
theorem not_doubled_pathOf {parts : List (List Char)} (clean : ∀ part ∈ parts, IsComponent part) :
    ¬['/', '/'] <:+: pathOf parts := by
  rintro ⟨front, back, eq⟩
  -- Between the two slashes there is an empty piece behind the first piece of the path.
  have cut := pieces_pathOf clean
  rw [← eq, List.append_assoc, List.cons_append, pieces_append] at cut
  obtain ⟨first, more, cutFront⟩ := List.exists_cons_of_ne_nil (pieces_ne_nil '/' front)
  rw [cutFront, List.cons_append, List.cons.injEq] at cut
  have between : [] ∈ (if parts = [] then [[]] else parts) := by
    rw [← cut.2]
    simp [pieces]
  split at cut
  · next empty =>
    rw [empty] at eq
    have long := congrArg List.length eq
    simp only [pathOf, joinPieces, List.length_append, List.length_cons, List.length_nil] at long
    omega
  · next nonempty =>
    rw [if_neg nonempty] at between
    exact (clean [] between).filled rfl

/-- Only the root ends with a slash. -/
theorem slash_suffix_pathOf_iff {parts : List (List Char)}
    (clean : ∀ part ∈ parts, IsComponent part) : ['/'] <:+ pathOf parts ↔ parts = [] := by
  constructor
  · rintro ⟨front, eq⟩
    by_contra nonempty
    have cut := pieces_pathOf clean
    rw [← eq, pieces_append, if_neg nonempty] at cut
    have final := congrArg List.getLast? cut
    have last : [] ∈ parts := by
      refine List.mem_of_getLast? ?_
      simpa [pieces, List.getLast?_cons, nonempty, List.getLast?_eq_some_getLast nonempty]
        using final.symm
    exact (clean [] last).filled rfl
  · rintro rfl
    exact List.suffix_rfl

/-! ### Paths as texts -/

/-- What a clean path is: a slash, and components with slashes between them. -/
def IsClean (path : String) : Prop :=
  ∃ parts : List String, (∀ part ∈ parts, IsComponent part.toList) ∧
    path = "/" ++ "/".intercalate parts

theorem isClean_iff {path : String} :
    IsClean path ↔ ∃ parts, (∀ part ∈ parts, IsComponent part) ∧ path.toList = pathOf parts := by
  constructor
  · rintro ⟨parts, clean, rfl⟩
    refine ⟨parts.map String.toList, by simpa using clean, ?_⟩
    simp [pathOf, String.toList_intercalate, joinPieces_eq_intercalate]
  · rintro ⟨parts, clean, eq⟩
    refine ⟨parts.map String.ofList, by simpa using clean, String.toList_inj.mp ?_⟩
    simp [eq, pathOf, String.toList_intercalate, joinPieces_eq_intercalate, Function.comp_def]

theorem toList_cleanPath (path : String) : (cleanPath path).toList = cleanPathChars path.toList :=
  String.toList_ofList

theorem isClean_cleanPath (path : String) : IsClean (cleanPath path) :=
  isClean_iff.mpr ⟨_, fun _ => isComponent_of_mem_components, toList_cleanPath path⟩

/-- The clean paths are those that cleaning leaves as they are. -/
theorem cleanPath_eq_self_iff {path : String} : cleanPath path = path ↔ IsClean path := by
  constructor
  · intro same
    rw [← same]
    exact isClean_cleanPath path
  · intro clean
    obtain ⟨parts, areComponents, eq⟩ := isClean_iff.mp clean
    rw [← String.toList_inj, toList_cleanPath, eq, cleanPathChars_pathOf areComponents]

/-- The beginning of a path may be cleaned first. -/
theorem cleanPath_append (a b : String) :
    cleanPath (a ++ "/" ++ b) = cleanPath (cleanPath a ++ "/" ++ b) := by
  rw [← String.toList_inj, toList_cleanPath, toList_cleanPath]
  simpa [toList_cleanPath] using cleanPathChars_append a.toList b.toList

/-- Empty parts make no difference to where a path leads. -/
theorem cleanPath_join (a b : String) :
    cleanPath (join [some a, some b] "/") = cleanPath (a ++ "/" ++ b) := by
  have left : cleanPath ("" ++ "/" ++ b) = cleanPath b := by
    rw [← String.toList_inj, toList_cleanPath, toList_cleanPath]
    simpa using cleanPathChars_of_visit (visit_append [] [] b.toList)
  have right : cleanPath (a ++ "/" ++ "") = cleanPath a := by
    rw [← String.toList_inj, toList_cleanPath, toList_cleanPath]
    simpa using cleanPathChars_of_visit (visit_append [] a.toList [])
  by_cases emptyLeft : a = ""
  · by_cases emptyRight : b = "" <;> simp_all [join]
  · by_cases emptyRight : b = ""
    · simp_all [join]
    · simp [join, emptyLeft, emptyRight, String.intercalate_cons_cons]

end PathRouting.Naming

namespace PathRouting.Router

open Naming

/-! ### Scopes -/

/-- The scope with a clean path. -/
def Scope.cleaned (scope : Scope) : Scope :=
  { scope with path := scope.path.map cleanPath }

theorem cleanPath_joinPath_cleaned (scope : Scope) (path : String) :
    cleanPath (scope.cleaned.joinPath path) = cleanPath (scope.joinPath path) := by
  obtain ⟨front, namespaceName, name⟩ := scope
  cases front with
  | none => rfl
  | some front =>
    show cleanPath (join [some (cleanPath front), some path] "/") =
      cleanPath (join [some front, some path] "/")
    rw [cleanPath_join, cleanPath_join, ← cleanPath_append]

theorem create_route_congr {path other : String} (same : cleanPath path = cleanPath other)
    (spec : RouteSpec) : Route.create path spec = Route.create other spec := by
  rw [Route.create, Route.create, same]

/-- A scope registers the same, whether its path is cleaned before or after what it stands in front
of is added. -/
theorem register_within_cleaned (r : Router) (scope : Scope) (registration : Registration) :
    r.register (registration.within scope.cleaned) = r.register (registration.within scope) := by
  cases registration with
  | route verb path spec =>
    have created := create_route_congr (cleanPath_joinPath_cleaned scope path) (scope.joinSpec spec)
    show r.register (.route verb (scope.cleaned.joinPath path) (scope.joinSpec spec)) =
      r.register (.route verb (scope.joinPath path) (scope.joinSpec spec))
    simp only [register, Registration.entry, created]
  | mount path endpoint host =>
    have created := create_route_congr (cleanPath_joinPath_cleaned scope path)
      { destination := .endpoint endpoint }
    show r.register (.mount (scope.cleaned.joinPath path) endpoint host) =
      r.register (.mount (scope.joinPath path) endpoint host)
    simp only [register, Registration.entry, Mount.create, created]

/-- A cleaned path is a slash with components behind it that are not empty and no dots, has a slash
between each two of them and none at its end unless it is the root, and is not changed when it is
cleaned again; and all such paths are cleaned. Whatever a path begins with may be cleaned first, so
whether the outermost prefix of all is clean makes no difference to what is registered in scopes. -/
theorem cleaning_settles :
    (∀ path, IsClean (cleanPath path)) ∧
      (∀ path, ¬['/', '/'] <:+: (cleanPath path).toList) ∧
      (∀ path, ['/'] <:+ (cleanPath path).toList ↔ cleanPath path = "/") ∧
      (∀ path, cleanPath path = path ↔ IsClean path) ∧
      (∀ path, cleanPath (cleanPath path) = cleanPath path) ∧
      (∀ a b, cleanPath (a ++ "/" ++ b) = cleanPath (cleanPath a ++ "/" ++ b)) ∧
      ∀ (r : Router) (inner : List Scope) (outer : Scope) (registration : Registration),
        r.registerWithin (inner ++ [outer.cleaned]) registration =
          r.registerWithin (inner ++ [outer]) registration := by
  have clean (path : String) : ∀ part ∈ components path.toList, IsComponent part :=
    fun _ => isComponent_of_mem_components
  refine ⟨isClean_cleanPath, ?_, ?_, fun _ => cleanPath_eq_self_iff, ?_, cleanPath_append, ?_⟩
  · intro path
    rw [toList_cleanPath]
    exact not_doubled_pathOf (clean path)
  · intro path
    have root : cleanPath path = "/" ↔ components path.toList = [] := by
      rw [← String.toList_inj, toList_cleanPath, cleanPathChars_eq]
      constructor
      · intro slash
        refine (slash_suffix_pathOf_iff (clean path)).mp ?_
        rw [slash]
        exact List.suffix_rfl
      · intro nothing
        rw [nothing]
        rfl
    rw [root, toList_cleanPath]
    exact slash_suffix_pathOf_iff (clean path)
  · intro path
    exact cleanPath_eq_self_iff.mpr (isClean_cleanPath path)
  · intro r inner outer registration
    simp only [registerWithin, List.foldl_append, List.foldl_cons, List.foldl_nil]
    exact register_within_cleaned r outer _

end PathRouting.Router
