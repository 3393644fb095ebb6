import Mathlib.Data.List.TakeWhile
import PathRouting.Proofs.Template.SegmentTree
import PathRouting.Template.Match

/-!
All ways in which segments can take a path from its beginning, in order of preference.

`ways` lists them without positions, a stack or backtracking, and `Consumes` says which there are
without an order. Main statements: `mem_ways_iff` (the list holds exactly what the relation admits)
and `ways_append` (the ways of segments that stand behind others).
-/

namespace PathRouting.Template

open Text (dropLeading? dropLeading?_eq_some_iff)

/-! ### Searching lists -/

theorem findSome?_flatMap {α β γ : Type} (l : List α) (f : α → List β) (g : β → Option γ) :
    (l.flatMap f).findSome? g = l.findSome? fun a => (f a).findSome? g := by
  rw [← List.head?_filterMap, List.filterMap_flatMap, List.head?_flatMap]
  simp only [List.head?_filterMap]

theorem findSome?_filter {α β : Type} (l : List α) (p : α → Bool) (g : α → Option β) :
    (l.filter p).findSome? g = l.findSome? fun a => if p a then g a else none := by
  rw [← List.head?_filterMap, List.filterMap_filter, List.head?_filterMap]

theorem findSome?_congr {α β : Type} {l : List α} {f g : α → Option β}
    (h : ∀ a ∈ l, f a = g a) : l.findSome? f = l.findSome? g := by
  induction l with
  | nil => rfl
  | cons a rest ih =>
    rw [List.findSome?_cons, List.findSome?_cons, h a List.mem_cons_self,
      ih fun b hb => h b (List.mem_cons_of_mem _ hb)]

/-- Searching a list that is in decreasing order finds the largest element with a result. -/
theorem findSome?_eq_some_iff_of_pairwise {α β : Type} {size : α → Nat} {l : List α}
    (sorted : l.Pairwise fun a b => size b < size a) {f : α → Option β} {b : β} :
    l.findSome? f = some b ↔
      ∃ a ∈ l, f a = some b ∧ ∀ other ∈ l, size a < size other → f other = none := by
  induction l with
  | nil => simp
  | cons first rest ih =>
    obtain ⟨smaller, sorted⟩ := List.pairwise_cons.mp sorted
    rw [List.findSome?_cons]
    constructor
    · intro found
      split at found
      · next c eq =>
        refine ⟨first, List.mem_cons_self, eq.trans found, ?_⟩
        intro other mem larger
        rcases List.mem_cons.mp mem with rfl | later
        · exact absurd larger (Nat.lt_irrefl _)
        · exact absurd larger (Nat.lt_asymm (smaller other later))
      · next eq =>
        obtain ⟨a, mem, result, others⟩ := (ih sorted).mp found
        refine ⟨a, List.mem_cons_of_mem _ mem, result, ?_⟩
        intro other mem larger
        rcases List.mem_cons.mp mem with rfl | later
        · exact eq
        · exact others other later larger
    · rintro ⟨a, mem, result, others⟩
      rcases List.mem_cons.mp mem with rfl | later
      · rw [result]
      · rw [others first List.mem_cons_self (smaller a later)]
        exact (ih sorted).mpr
          ⟨a, later, result, fun other mem => others other (List.mem_cons_of_mem _ mem)⟩

/-! ### Runs -/

/-- The runs of allowed characters at the beginning of a path, longest first and down to the empty
one, each with what follows it. -/
def runs (allowed : Char → Bool) : List Char → List (List Char × List Char)
  | [] => [([], [])]
  | c :: cs =>
    if allowed c then (runs allowed cs).map (fun r => (c :: r.1, r.2)) ++ [([], c :: cs)]
    else [([], c :: cs)]

theorem mem_runs_iff {allowed : Char → Bool} {path run rest : List Char} :
    (run, rest) ∈ runs allowed path ↔ path = run ++ rest ∧ ∀ c ∈ run, allowed c = true := by
  induction path generalizing run with
  | nil =>
    constructor
    · intro h
      obtain ⟨rfl, rfl⟩ : run = [] ∧ rest = [] := by simpa [runs] using h
      simp
    · rintro ⟨eq, -⟩
      obtain ⟨rfl, rfl⟩ := List.append_eq_nil_iff.mp eq.symm
      simp [runs]
  | cons c cs ih =>
    cases run with
    | nil =>
      have whole : ([], rest) ∈ runs allowed (c :: cs) ↔ rest = c :: cs := by
        by_cases h : allowed c = true <;> simp [runs, h]
      simpa using whole.trans eq_comm
    | cons d ds =>
      by_cases h : allowed c = true
      · constructor
        · intro mem
          obtain ⟨tail, rfl⟩ : (ds, rest) ∈ runs allowed cs ∧ c = d := by
            simpa [runs, h] using mem
          obtain ⟨rfl, all⟩ := ih.mp tail
          exact ⟨rfl, by simpa [h] using all⟩
        · rintro ⟨eq, all⟩
          obtain ⟨rfl, rfl⟩ := List.cons.inj eq
          have tail := ih.mpr ⟨rfl, fun x hx => all x (List.mem_cons_of_mem _ hx)⟩
          simpa [runs, h] using tail
      · constructor
        · intro mem
          simp [runs, h] at mem
        · rintro ⟨eq, all⟩
          obtain ⟨rfl, -⟩ := List.cons.inj eq
          exact absurd (all c List.mem_cons_self) h

/-- Longer runs come before shorter ones. -/
theorem pairwise_runs (allowed : Char → Bool) (path : List Char) :
    (runs allowed path).Pairwise fun a b => b.1.length < a.1.length := by
  induction path with
  | nil => simp [runs]
  | cons c cs ih =>
    unfold runs
    split
    · refine List.pairwise_append.mpr ⟨List.pairwise_map.mpr ?_, by simp, ?_⟩
      · simpa using ih
      · intro a ha b hb
        obtain ⟨r, -, rfl⟩ := List.mem_map.mp ha
        obtain rfl := List.mem_singleton.mp hb
        simp
    · simp

/-- The longest run comes first: what follows it is empty or begins with no allowed character. -/
theorem runs_append {allowed : Char → Bool} {run rest : List Char}
    (all : ∀ c ∈ run, allowed c = true) (stop : ∀ c ∈ rest.head?, allowed c = false) :
    ∃ shorter, runs allowed (run ++ rest) = (run, rest) :: shorter := by
  induction run with
  | nil =>
    cases rest with
    | nil => exact ⟨[], rfl⟩
    | cons d ds => exact ⟨[], by simp [runs, stop d (by simp)]⟩
  | cons c cs ih =>
    obtain ⟨shorter, eq⟩ := ih fun x hx => all x (List.mem_cons_of_mem _ hx)
    refine ⟨shorter.map (fun r => (c :: r.1, r.2)) ++ [([], c :: (cs ++ rest))], ?_⟩
    rw [List.cons_append, runs, if_pos (all c List.mem_cons_self), eq]
    rfl

/-- The runs by their lengths. -/
theorem runs_eq_map_range (allowed : Char → Bool) (path : List Char) :
    runs allowed path = (List.range ((path.takeWhile allowed).length + 1)).reverse.map
      fun n => (path.take n, path.drop n) := by
  induction path with
  | nil => rfl
  | cons c cs ih =>
    unfold runs
    split
    · next h =>
      rw [List.takeWhile_cons_of_pos h, List.length_cons, List.range_succ_eq_map, ih]
      simp [Function.comp_def]
    · next h => simp [List.takeWhile_cons_of_neg h]

/-- The runs that a capture may take: those without a slash, of at least one character, that satisfy
the constraint. -/
def captureRuns (constraint : Option Constraint) (path : List Char) :
    List (List Char × List Char) :=
  (runs (· ≠ '/') path).filter fun r => !r.1.isEmpty && accepts constraint r.1

/-- The runs that a splat may take: those that satisfy the constraint. -/
def splatRuns (constraint : Option Constraint) (path : List Char) : List (List Char × List Char) :=
  (runs (fun _ => true) path).filter fun r => accepts constraint r.1

theorem mem_captureRuns_iff {constraint : Option Constraint} {path run rest : List Char} :
    (run, rest) ∈ captureRuns constraint path ↔
      path = run ++ rest ∧ run ≠ [] ∧ '/' ∉ run ∧ accepts constraint run = true := by
  have free : (∀ c ∈ run, c ≠ '/') ↔ '/' ∉ run := by
    constructor
    · intro h mem
      exact h '/' mem rfl
    · rintro h c mem rfl
      exact h mem
  simp [captureRuns, mem_runs_iff, free, and_assoc, and_left_comm]

theorem mem_splatRuns_iff {constraint : Option Constraint} {path run rest : List Char} :
    (run, rest) ∈ splatRuns constraint path ↔
      path = run ++ rest ∧ accepts constraint run = true := by
  simp [splatRuns, mem_runs_iff]

theorem pairwise_captureRuns (constraint : Option Constraint) (path : List Char) :
    (captureRuns constraint path).Pairwise fun a b => b.1.length < a.1.length :=
  (pairwise_runs _ path).filter _

theorem pairwise_splatRuns (constraint : Option Constraint) (path : List Char) :
    (splatRuns constraint path).Pairwise fun a b => b.1.length < a.1.length :=
  (pairwise_runs _ path).filter _

/-- A capture that may take all that precedes the next slash tries this first. -/
theorem captureRuns_append {constraint : Option Constraint} {run path : List Char}
    (nonempty : run ≠ []) (free : '/' ∉ run) (ok : accepts constraint run = true)
    (stop : ∀ c ∈ path.head?, c = '/') :
    ∃ shorter, captureRuns constraint (run ++ path) = (run, path) :: shorter := by
  have allowed : ∀ c ∈ run, decide (c ≠ '/') = true := by
    intro c hc
    exact decide_eq_true fun eq => free (eq ▸ hc)
  have stops : ∀ c ∈ path.head?, decide (c ≠ '/') = false := by
    intro c hc
    simpa using stop c hc
  obtain ⟨shorter, eq⟩ := runs_append allowed stops
  rw [captureRuns, eq, List.filter_cons_of_pos (by simp [nonempty, ok])]
  exact ⟨_, rfl⟩

/-- A splat that may take the whole path tries this first. -/
theorem splatRuns_self {constraint : Option Constraint} {run : List Char}
    (ok : accepts constraint run = true) :
    ∃ shorter, splatRuns constraint run = (run, []) :: shorter := by
  obtain ⟨shorter, eq⟩ := @runs_append (fun _ => true) run [] (fun _ _ => rfl) (by simp)
  rw [List.append_nil] at eq
  rw [splatRuns, eq, List.filter_cons_of_pos (by simp [ok])]
  exact ⟨_, rfl⟩

/-! ### Ways -/

/-- What one segment does on a way: a literal takes its text, a capture or splat takes a run for its
name, and a group that is left out takes nothing, whatever names it declares. A group that is not
left out does what its content does. -/
inductive Piece where
  | text (taken : List Char)
  | run (name : String) (taken : List Char)
  | skipped (names : List String)
  deriving DecidableEq, Repr

/-- The characters of the path that are taken. -/
def Piece.taken : Piece → List Char
  | text taken => taken
  | run _ taken => taken
  | skipped _ => []

/-- The names that the piece says something of. -/
def Piece.names : Piece → List String
  | text _ => []
  | run name _ => [name]
  | skipped names => names

/-- The parameters that the piece gives: the decoded run, or none for the names that were left
out. -/
def Piece.entries : Piece → List (String × Option String)
  | text _ => []
  | run name taken => [(name, some (Text.Percent.decode (String.ofList taken)))]
  | skipped names => names.map fun name => (name, none)

/-- A way through a list of segments: what they do one after the other, and what remains of the
path. -/
structure Way where
  pieces : List Piece
  rest : List Char
  deriving DecidableEq, Repr

/-- The way that does one thing more at its beginning. -/
def Way.after (piece : Piece) (w : Way) : Way :=
  { w with pieces := piece :: w.pieces }

@[simp] theorem Way.pieces_after (piece : Piece) (w : Way) :
    (w.after piece).pieces = piece :: w.pieces := rfl

@[simp] theorem Way.rest_after (piece : Piece) (w : Way) : (w.after piece).rest = w.rest := rfl

open Segment in
/-- All ways of the segments to take a path from its beginning, in order of preference: longer runs
before shorter ones, and the content of a group in front of what follows it before the group left
out. -/
def ways : List Segment → List Char → List Way
  | [], path => [⟨[], path⟩]
  | .literal text :: rest, path =>
    match dropLeading? text.toList path with
    | some left => (ways rest left).map (Way.after (.text text.toList))
    | none => []
  | .capture name constraint :: rest, path =>
    (captureRuns constraint path).flatMap fun r =>
      (ways rest r.2).map (Way.after (.run name r.1))
  | .splat name constraint :: rest, path =>
    (splatRuns constraint path).flatMap fun r =>
      (ways rest r.2).map (Way.after (.run name r.1))
  | .optional inner :: rest, path =>
    ways (inner ++ rest) path ++ (ways rest path).map (Way.after (.skipped (namesOf inner)))
termination_by segments => sizeOf segments
decreasing_by
  all_goals first | exact sizeOf_splice _ _ | (simp only [List.cons.sizeOf_spec]; omega)

/-- What it is for pieces to take a path from its beginning as the segments say. -/
inductive Consumes : List Segment → List Char → List Piece → List Char → Prop where
  | done (path : List Char) : Consumes [] path [] path
  | literal {text rest path pieces left} :
    Consumes rest path pieces left →
      Consumes (.literal text :: rest) (text.toList ++ path) (.text text.toList :: pieces) left
  | capture {name constraint run rest path pieces left} :
    run ≠ [] → '/' ∉ run → accepts constraint run = true → Consumes rest path pieces left →
      Consumes (.capture name constraint :: rest) (run ++ path) (.run name run :: pieces) left
  | splat {name constraint run rest path pieces left} :
    accepts constraint run = true → Consumes rest path pieces left →
      Consumes (.splat name constraint :: rest) (run ++ path) (.run name run :: pieces) left
  | present {inner rest path pieces left} :
    Consumes (inner ++ rest) path pieces left → Consumes (.optional inner :: rest) path pieces left
  | absent {inner rest path pieces left} :
    Consumes rest path pieces left →
      Consumes (.optional inner :: rest) path (.skipped (Segment.namesOf inner) :: pieces) left

/-- The list of ways holds exactly the ways there are. -/
theorem mem_ways_iff {segments : List Segment} {path : List Char} {w : Way} :
    w ∈ ways segments path ↔ Consumes segments path w.pieces w.rest := by
  induction segments using Segment.inductionOnSplice generalizing path w with
  | nil =>
    rw [ways, List.mem_singleton]
    constructor
    · rintro rfl
      exact .done path
    · obtain ⟨pieces, left⟩ := w
      intro h
      cases h
      rfl
  | literal text rest ih =>
    rw [ways]
    constructor
    · intro h
      split at h
      · next left eq =>
        obtain rfl := dropLeading?_eq_some_iff.mp eq
        obtain ⟨v, hv, rfl⟩ := List.mem_map.mp h
        exact .literal (ih.mp hv)
      · simp at h
    · obtain ⟨pieces, left⟩ := w
      intro h
      cases h with
      | @literal _ _ path pieces _ h =>
        rw [dropLeading?_eq_some_iff.mpr rfl]
        exact List.mem_map.mpr ⟨⟨pieces, left⟩, ih.mpr h, rfl⟩
  | capture name constraint rest ih =>
    rw [ways, List.mem_flatMap]
    constructor
    · rintro ⟨⟨run, left⟩, hr, hw⟩
      obtain ⟨rfl, nonempty, free, ok⟩ := mem_captureRuns_iff.mp hr
      obtain ⟨v, hv, rfl⟩ := List.mem_map.mp hw
      exact .capture nonempty free ok (ih.mp hv)
    · obtain ⟨pieces, left⟩ := w
      intro h
      cases h with
      | @capture _ _ run _ path pieces _ nonempty free ok h =>
        exact ⟨(run, path), mem_captureRuns_iff.mpr ⟨rfl, nonempty, free, ok⟩,
          List.mem_map.mpr ⟨⟨pieces, left⟩, ih.mpr h, rfl⟩⟩
  | splat name constraint rest ih =>
    rw [ways, List.mem_flatMap]
    constructor
    · rintro ⟨⟨run, left⟩, hr, hw⟩
      obtain ⟨rfl, ok⟩ := mem_splatRuns_iff.mp hr
      obtain ⟨v, hv, rfl⟩ := List.mem_map.mp hw
      exact .splat ok (ih.mp hv)
    · obtain ⟨pieces, left⟩ := w
      intro h
      cases h with
      | @splat _ _ run _ path pieces _ ok h =>
        exact ⟨(run, path), mem_splatRuns_iff.mpr ⟨rfl, ok⟩,
          List.mem_map.mpr ⟨⟨pieces, left⟩, ih.mpr h, rfl⟩⟩
  | optional inner rest ihSpliced ih =>
    rw [ways, List.mem_append]
    constructor
    · rintro (h | h)
      · exact .present (ihSpliced.mp h)
      · obtain ⟨v, hv, rfl⟩ := List.mem_map.mp h
        exact .absent (ih.mp hv)
    · obtain ⟨pieces, left⟩ := w
      intro h
      cases h with
      | present h => exact Or.inl (ihSpliced.mpr h)
      | @absent _ _ _ pieces _ h =>
        exact Or.inr (List.mem_map.mpr ⟨⟨pieces, left⟩, ih.mpr h, rfl⟩)

/-- The pieces take what precedes the rest of the path. -/
theorem Consumes.taken_append {segments : List Segment} {path left : List Char}
    {pieces : List Piece} (h : Consumes segments path pieces left) :
    pieces.flatMap Piece.taken ++ left = path := by
  induction h with
  | done path => rfl
  | literal _ ih => simp [Piece.taken, ih]
  | capture _ _ _ _ ih => simp [Piece.taken, ih]
  | splat _ _ ih => simp [Piece.taken, ih]
  | present _ ih => exact ih
  | absent _ ih => simpa [Piece.taken] using ih

/-- The pieces speak of the declared names, once each and in order. -/
theorem Consumes.names_eq {segments : List Segment} {path left : List Char}
    {pieces : List Piece} (h : Consumes segments path pieces left) :
    pieces.flatMap Piece.names = Segment.namesOf segments := by
  induction h with
  | done path => rfl
  | literal _ ih => simpa [Piece.names] using ih
  | capture _ _ _ _ ih => simp [Piece.names, ih]
  | splat _ _ ih => simp [Piece.names, ih]
  | present _ ih => simpa using ih
  | absent _ ih => simp [Piece.names, ih]

/-- All ways of some segments followed by others. -/
theorem ways_append (a b : List Segment) (path : List Char) :
    ways (a ++ b) path =
      (ways a path).flatMap fun w =>
        (ways b w.rest).map fun v => ⟨w.pieces ++ v.pieces, v.rest⟩ := by
  induction a using Segment.inductionOnSplice generalizing path with
  | nil => simp [ways]
  | literal text rest ih =>
    rw [List.cons_append, ways, ways]
    split
    · rw [ih, List.map_flatMap, List.flatMap_map]
      simp [Function.comp_def, Way.after]
    · rfl
  | capture name constraint rest ih =>
    rw [List.cons_append, ways, ways, List.flatMap_assoc]
    congr 1
    funext r
    rw [ih, List.map_flatMap, List.flatMap_map]
    simp [Function.comp_def, Way.after]
  | splat name constraint rest ih =>
    rw [List.cons_append, ways, ways, List.flatMap_assoc]
    congr 1
    funext r
    rw [ih, List.map_flatMap, List.flatMap_map]
    simp [Function.comp_def, Way.after]
  | optional inner rest ihSpliced ih =>
    rw [List.cons_append, ways, ways, ← List.append_assoc, ihSpliced, ih, List.flatMap_append,
      List.map_flatMap, List.flatMap_map]
    simp [Function.comp_def, Way.after]

end PathRouting.Template
