import Mathlib.Control.Monad.Basic
import PathRouting.Proofs.Template.Compiled
import PathRouting.Proofs.Template.Walking

/-!
What matching a whole path gives: the parameters of the first way that takes all of it.

Main statements: `firstWhole?_append` (the search goes on behind each way of the first segments),
`match?_eq_firstWhole?` (matching is a search through the ways in order of preference) and
`match?_eq_none_iff` (it fails only where there is no way).
-/

namespace PathRouting.Template

open Segment

/-! ### The first way that takes the whole path -/

/-- The first way of the segments that takes all of a path. -/
def firstWhole? (segments : List Segment) (path : List Char) : Option (List Piece) :=
  ((ways segments path).find? fun w => w.rest.isEmpty).map Way.pieces

theorem firstWhole?_eq_none_iff {segments : List Segment} {path : List Char} :
    firstWhole? segments path = none ↔ ¬∃ pieces, Consumes segments path pieces [] := by
  rw [firstWhole?, Option.map_eq_none_iff, List.find?_eq_none]
  constructor
  · rintro noWay ⟨pieces, h⟩
    exact noWay ⟨pieces, []⟩ (mem_ways_iff.mpr h) rfl
  · rintro noReading ⟨pieces, left⟩ hw whole
    obtain rfl := List.isEmpty_iff.mp whole
    exact noReading ⟨pieces, mem_ways_iff.mp hw⟩

theorem consumes_of_firstWhole? {segments : List Segment} {path : List Char}
    {pieces : List Piece} (h : firstWhole? segments path = some pieces) :
    Consumes segments path pieces [] := by
  obtain ⟨w, found, rfl⟩ := Option.map_eq_some_iff.mp h
  have whole := List.find?_some found
  have consumes := mem_ways_iff.mp (List.mem_of_find?_eq_some found)
  rwa [List.isEmpty_iff.mp whole] at consumes

section Search

variable {path : List Char}

theorem find?_map_after (piece : Piece) (found : List Way) :
    ((found.map (Way.after piece)).find? fun w => w.rest.isEmpty).map Way.pieces =
      ((found.find? fun w => w.rest.isEmpty).map Way.pieces).map (piece :: ·) := by
  rw [List.find?_map, Option.map_map, Option.map_map]
  rfl

theorem firstWhole?_nil : firstWhole? [] [] = some [] := by
  rw [firstWhole?, ways]
  rfl

theorem firstWhole?_literal (text : String) (rest : List Segment) :
    firstWhole? (.literal text :: rest) (text.toList ++ path) =
      (firstWhole? rest path).map (.text text.toList :: ·) := by
  rw [firstWhole?, ways, Text.dropLeading?_eq_some_iff.mpr rfl]
  exact find?_map_after _ _

theorem firstWhole?_capture (name : String) (constraint : Option Constraint)
    (rest : List Segment) :
    firstWhole? (.capture name constraint :: rest) path =
      (captureRuns constraint path).findSome? fun r =>
        (firstWhole? rest r.2).map (.run name r.1 :: ·) := by
  rw [firstWhole?, ways, List.find?_flatMap, List.map_findSome?]
  exact findSome?_congr fun r _ => find?_map_after _ _

theorem firstWhole?_splat (name : String) (constraint : Option Constraint)
    (rest : List Segment) :
    firstWhole? (.splat name constraint :: rest) path =
      (splatRuns constraint path).findSome? fun r =>
        (firstWhole? rest r.2).map (.run name r.1 :: ·) := by
  rw [firstWhole?, ways, List.find?_flatMap, List.map_findSome?]
  exact findSome?_congr fun r _ => find?_map_after _ _

theorem firstWhole?_optional (inner rest : List Segment) :
    firstWhole? (.optional inner :: rest) path =
      (firstWhole? (inner ++ rest) path).or
        ((firstWhole? rest path).map (.skipped (namesOf inner) :: ·)) := by
  rw [firstWhole?, ways, List.find?_append, Option.map_or, find?_map_after]
  rfl

end Search

theorem firstWhole?_append (a b : List Segment) (path : List Char) :
    firstWhole? (a ++ b) path =
      (ways a path).findSome? fun w => (firstWhole? b w.rest).map (w.pieces ++ ·) := by
  rw [firstWhole?, ways_append, List.find?_flatMap, List.map_findSome?]
  refine findSome?_congr fun w _ => ?_
  rw [Function.comp_apply, firstWhole?, List.find?_map, Option.map_map, Option.map_map]
  rfl

/-- Segments are read by their first way that the others can follow. -/
theorem firstWhole?_of_choice {a b : List Segment} {path : List Char} {w : Way}
    (choice : ((ways a path).find? fun w => (firstWhole? b w.rest).isSome) = some w) :
    firstWhole? (a ++ b) path = (firstWhole? b w.rest).map (w.pieces ++ ·) := by
  obtain ⟨follows, before, after, eq, earlierFail⟩ := List.find?_eq_some_iff_append.mp choice
  obtain ⟨later, reads⟩ := Option.isSome_iff_exists.mp follows
  have skipped : (before.findSome? fun v => (firstWhole? b v.rest).map (v.pieces ++ ·)) = none := by
    rw [List.findSome?_eq_none_iff]
    intro v hv
    have fails := earlierFail v hv
    rw [Bool.not_eq_true', Option.isSome_eq_false_iff, Option.isNone_iff_eq_none] at fails
    rw [fails]
    rfl
  rw [firstWhole?_append, eq, List.findSome?_append, skipped, Option.none_or, List.findSome?_cons,
    reads]
  rfl

/-! ### Parameters -/

/-- What a piece takes for a name, if it is a run for this name. -/
def Piece.textFor? (name : String) : Piece → Option (List Char)
  | run other taken => if other = name then some taken else none
  | text _ | skipped _ => none

/-- What pieces give for a name: the decoded text of the first run for it. -/
def givenFor (pieces : List Piece) (name : String) : String × Option String :=
  (name, (pieces.findSome? (Piece.textFor? name)).map fun taken =>
    Text.Percent.decode (String.ofList taken))

theorem findSome?_textFor?_eq_none {pieces : List Piece} {name : String}
    (silent : name ∉ pieces.flatMap Piece.names) :
    pieces.findSome? (Piece.textFor? name) = none := by
  rw [List.findSome?_eq_none_iff]
  intro p mem
  cases p with
  | text taken => rfl
  | skipped names => rfl
  | run other taken =>
    have differs : other ≠ name := by
      rintro rfl
      exact silent (List.mem_flatMap.mpr ⟨_, mem, List.mem_singleton_self other⟩)
    exact if_neg differs

/-- Where no piece speaks of a name twice, the pieces give each name what their parameters say. -/
theorem map_givenFor {pieces : List Piece} (nodup : (pieces.flatMap Piece.names).Nodup) :
    (pieces.flatMap Piece.names).map (givenFor pieces) = pieces.flatMap Piece.entries := by
  induction pieces with
  | nil => rfl
  | cons p rest ih =>
    obtain ⟨-, nodupRest, apart⟩ := List.nodup_append.mp nodup
    rw [List.flatMap_cons, List.map_append, List.flatMap_cons, ← ih nodupRest]
    congr 1
    · have silent : ∀ name ∈ p.names, rest.findSome? (Piece.textFor? name) = none :=
        fun name here => findSome?_textFor?_eq_none fun later => apart name here name later rfl
      cases p with
      | text taken => rfl
      | run name taken => simp [Piece.names, Piece.entries, givenFor, Piece.textFor?]
      | skipped names =>
        refine List.map_congr_left fun name here => ?_
        rw [givenFor, List.findSome?_cons, Piece.textFor?, silent name here]
        rfl
    · refine List.map_congr_left fun name later => ?_
      have silent : p.textFor? name = none := by
        have single := @findSome?_textFor?_eq_none [p] name fun here =>
          apart name (by simpa using here) name later rfl
        simpa using single
      rw [givenFor, givenFor, List.findSome?_cons, silent]

/-- The parameters of the declared names, where each is spoken of by one piece. -/
theorem ofList_givenFor {pieces : List Piece} {names : List String}
    (names_eq : pieces.flatMap Piece.names = names) (nodup : names.Nodup) :
    OrderedMap.ofList (names.map (givenFor pieces)) = ⟨pieces.flatMap Piece.entries⟩ := by
  subst names_eq
  rw [OrderedMap.ofList_of_nodup, map_givenFor nodup]
  simpa [List.map_map, Function.comp_def, givenFor] using nodup

section Captured

variable {path : List Char}

theorem entryFor_cons_of_ne {c : Capture} {captures : List Capture} {name : String}
    (differs : c.name ≠ name) :
    entryFor path (c :: captures) name = entryFor path captures name := by
  rw [entryFor, entryFor, List.find?_cons_of_neg (by simpa using differs)]

/-- What was captured for a name on a way is what the pieces of this way give. -/
theorem entryFor_capturesFrom {front left : List Char} {pieces : List Piece}
    (eq : path = front ++ (pieces.flatMap Piece.taken ++ left)) (name : String) :
    entryFor path (capturesFrom (byteSize front) pieces) name = .ok (givenFor pieces name) := by
  induction pieces generalizing front with
  | nil => rfl
  | cons p rest ih =>
    have behind : path = (front ++ p.taken) ++ (rest.flatMap Piece.taken ++ left) := by
      rw [eq, List.flatMap_cons, List.append_assoc, List.append_assoc]
    have later := ih behind
    rw [byteSize_append] at later
    cases p with
    | text taken => exact later
    | skipped names => exact later
    | run other taken =>
      rw [capturesFrom]
      by_cases same : other = name
      · have cut := textBetween_append front taken (rest.flatMap Piece.taken ++ left)
        have whole : path = front ++ (taken ++ (rest.flatMap Piece.taken ++ left)) := by
          rw [behind, List.append_assoc]
          rfl
        rw [← whole] at cut
        simp only [entryFor, same, decide_true, List.find?_cons_of_pos, cut]
        simp [bind, Except.bind, pure, Except.pure, givenFor, Piece.textFor?]
      · rw [entryFor_cons_of_ne same]
        refine later.trans ?_
        simp [givenFor, Piece.textFor?, same]

theorem paramsOf_capturesFrom {left : List Char} {pieces : List Piece}
    (eq : path = pieces.flatMap Piece.taken ++ left) (names : List String) :
    paramsOf path names (capturesFrom 0 pieces) =
      .ok (OrderedMap.ofList (names.map (givenFor pieces))) := by
  have entries : entryFor path (capturesFrom 0 pieces) =
      fun name => pure (givenFor pieces name) := by
    funext name
    exact @entryFor_capturesFrom path [] left pieces eq name
  rw [paramsOf, entries, List.mapM_pure]
  rfl

end Captured

theorem keys_entries {pieces : List Piece} :
    (pieces.flatMap Piece.entries).map Prod.fst = pieces.flatMap Piece.names := by
  rw [List.map_flatMap]
  congr 1
  funext p
  cases p <;> simp [Piece.entries, Piece.names, Function.comp_def]

theorem mem_names_of_mem_entries {pieces : List Piece} {name : String} {text? : Option String}
    (mem : (name, text?) ∈ pieces.flatMap Piece.entries) : name ∈ pieces.flatMap Piece.names := by
  rw [← keys_entries]
  exact List.mem_map_of_mem mem

/-! ### Matching -/

/-- Matching a template from the beginning of a path never faults. It gives the first way that may
end where it does. -/
theorem matching_eq (t : Template) (anchor : Anchor) (path : List Char) :
    t.matching anchor path =
      .ok (((ways t.segments path).find? fun w => anchor.admits w.rest).map fun w =>
        (byteSize (w.pieces.flatMap Piece.taken),
          OrderedMap.ofList (t.names.map (givenFor w.pieces)))) := by
  have walked : walk path anchor t.segments [] 0 [] =
      outcomeOf [] (firstArrival? anchor (t.segments ++ []) 0 path) :=
    arrives path anchor t.segments [] 0 [] [] path rfl rfl
  rw [List.append_nil, firstArrival?_eq_map_find?] at walked
  rw [matching, walked]
  cases found : (ways t.segments path).find? fun w => anchor.admits w.rest with
  | none => rfl
  | some w =>
    have consumes := mem_ways_iff.mp (List.mem_of_find?_eq_some found)
    have params := paramsOf_capturesFrom consumes.taken_append.symm t.names
    simp only [Option.map_some, outcomeOf, List.nil_append, Nat.zero_add, bind, Except.bind, params]
    rfl

theorem match?_eq_map_firstWhole? (t : Template) (path : String) :
    t.match? path = (firstWhole? t.segments path.toList).map fun pieces =>
      OrderedMap.ofList (t.names.map (givenFor pieces)) := by
  rw [match?, matching_eq, firstWhole?]
  dsimp only
  rw [Option.map_map, Option.map_map]
  rfl

/-- A path fails to match exactly where there is no way to take it. -/
theorem match?_eq_none_iff (t : Template) (path : String) :
    t.match? path = none ↔ ¬∃ pieces, Consumes t.segments path.toList pieces [] := by
  rw [match?_eq_map_firstWhole?, Option.map_eq_none_iff, firstWhole?_eq_none_iff]

/-- Matching a path gives the parameters of the first way that takes all of it. -/
theorem match?_eq_firstWhole? {t : Template} (compiled : t.Compiled) (path : String) :
    t.match? path =
      (firstWhole? t.segments path.toList).map fun pieces => ⟨pieces.flatMap Piece.entries⟩ := by
  rw [match?_eq_map_firstWhole?]
  cases found : firstWhole? t.segments path.toList with
  | none => rfl
  | some pieces =>
    have consumes := consumes_of_firstWhole? found
    rw [Option.map_some, Option.map_some]
    exact congrArg some
      (ofList_givenFor (consumes.names_eq.trans compiled.names_eq.symm) compiled.nodup)

/-- Matching a path is a search through the ways of the segments in order of preference. It gives
the parameters of the first way that takes all of the path: every declared name once and in order,
with the decoded run that this way takes for it, or without one where the way leaves its group out.
It fails exactly where no way takes all of the path. -/
theorem match?_eq_search {source : String} {constraints : List (String × String)} {t : Template}
    (compiled : compile source constraints = .ok t) (path : String) :
    t.match? path =
        (((ways t.segments path.toList).find? fun w => w.rest.isEmpty).map fun w =>
          ⟨w.pieces.flatMap Piece.entries⟩) ∧
      (t.match? path = none ↔ ¬∃ pieces, Consumes t.segments path.toList pieces []) ∧
      ∀ params, t.match? path = some params → params.keys = t.names ∧ t.names.Nodup := by
  have wellFormed := Compiled.of_compile compiled
  have found := match?_eq_firstWhole? wellFormed path
  refine ⟨?_, ?_, ?_⟩
  · rw [found, firstWhole?, Option.map_map]
    rfl
  · exact match?_eq_none_iff t path
  · intro params h
    rw [found] at h
    obtain ⟨pieces, first, rfl⟩ := Option.map_eq_some_iff.mp h
    refine ⟨?_, wellFormed.nodup⟩
    rw [wellFormed.names_eq, ← (consumes_of_firstWhole? first).names_eq]
    exact keys_entries

/-- With two dots in the path the name keeps the first one; the splat is left out. -/
theorem match?_eq_search_archive :
    let t : Template :=
      ⟨"/:name.:kind(/*rest)",
        [.literal "/", .capture "name" none, .literal ".", .capture "kind" (some .alpha),
          .optional [.literal "/", .splat "rest" none]],
        ["name", "kind", "rest"]⟩
    compile "/:name.:kind(/*rest)" [("kind", "alpha")] = .ok t ∧
      t.match? "/é%20.tar.gz" =
        some ⟨[("name", some "é .tar"), ("kind", some "gz"), ("rest", none)]⟩ ∧
      t.match? "/é%20.tar.gz" =
        (((ways t.segments "/é%20.tar.gz".toList).find? fun w => w.rest.isEmpty).map fun w =>
          ⟨w.pieces.flatMap Piece.entries⟩) := by
  intro t
  have compiled : compile "/:name.:kind(/*rest)" [("kind", "alpha")] = .ok t := by decide +kernel
  exact ⟨compiled, by decide +kernel, (match?_eq_search compiled "/é%20.tar.gz").1⟩

end PathRouting.Template
