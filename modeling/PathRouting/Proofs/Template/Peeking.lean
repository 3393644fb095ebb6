import PathRouting.Proofs.Template.Matching
import PathRouting.Route

/-!
Beginnings of paths: what a template takes when it need not take the whole path.

The first way to take a beginning of a path is the first way to take just that beginning. Longer
runs come first, and a run that stays within the beginning keeps its place among those that do.

Main statements: `firstWhole?_of_head?` (cutting a path where its first way ends), `peek?_eq_head?`
(what the walk over a beginning gives) and `peek?_is_match` (peeking is matching a prefix, for
mounts as well).
-/

namespace PathRouting

namespace Template

open Segment

/-! ### Ways on longer and on shorter paths -/

/-- What takes a beginning of a path takes it of every longer path as well. -/
theorem Consumes.extend {segments : List Segment} {path left : List Char} {pieces : List Piece}
    (h : Consumes segments path pieces left) (more : List Char) :
    Consumes segments (path ++ more) pieces (left ++ more) := by
  induction h with
  | done path => exact .done _
  | literal _ ih =>
    rw [List.append_assoc]
    exact .literal ih
  | capture nonempty free ok _ ih =>
    rw [List.append_assoc]
    exact .capture nonempty free ok ih
  | splat ok _ ih =>
    rw [List.append_assoc]
    exact .splat ok ih
  | present _ ih => exact .present ih
  | absent _ ih => exact .absent ih

theorem ways_ne_nil_of_consumes {segments : List Segment} {path left : List Char}
    {pieces : List Piece} (h : Consumes segments path pieces left) : ways segments path ≠ [] :=
  List.ne_nil_of_mem (mem_ways_iff (w := ⟨pieces, left⟩).mpr h)

/-- Where nothing takes a beginning of a path, nothing takes the whole of a beginning. -/
theorem firstWhole?_eq_none_of_ways {segments : List Segment} {path more : List Char}
    (noWay : ways segments (path ++ more) = []) : firstWhole? segments path = none := by
  rw [firstWhole?_eq_none_iff]
  rintro ⟨pieces, consumes⟩
  exact ways_ne_nil_of_consumes (consumes.extend more) noWay

/-! ### The first way -/

/-- Cutting a path keeps the runs that end before the cut, in their order. So where the first way on
the whole path begins with one of them, the first way on the cut path does. -/
theorem findSome?_runs_of_head? {rest : List Segment} {name : String} {w : Way}
    {long short : List (List Char × List Char)}
    (sortedLong : long.Pairwise fun a b => b.1.length < a.1.length)
    (sortedShort : short.Pairwise fun a b => b.1.length < a.1.length)
    (kept : ∀ run left, (run, left) ∈ short ↔ (run, left ++ w.rest) ∈ long)
    (ih : ∀ {path : List Char} {v : Way}, (ways rest path).head? = some v →
      firstWhole? rest (v.pieces.flatMap Piece.taken) = some v.pieces)
    (first : (long.flatMap fun r => (ways rest r.2).map (Way.after (.run name r.1))).head? =
      some w) :
    (short.findSome? fun r => (firstWhole? rest r.2).map (.run name r.1 :: ·)) =
      some w.pieces := by
  rw [List.head?_flatMap, findSome?_eq_some_iff_of_pairwise sortedLong] at first
  obtain ⟨⟨run, left⟩, mem, chosen, longer⟩ := first
  rw [List.head?_map] at chosen
  obtain ⟨v, firstRest, rfl⟩ := Option.map_eq_some_iff.mp chosen
  have whole : v.pieces.flatMap Piece.taken ++ v.rest = left :=
    (mem_ways_iff.mp (List.mem_of_mem_head? firstRest)).taken_append
  rw [findSome?_eq_some_iff_of_pairwise sortedShort]
  refine ⟨(run, v.pieces.flatMap Piece.taken), ?_, ?_, ?_⟩
  · rw [kept, Way.rest_after, whole]
    exact mem
  · rw [ih firstRest]
    rfl
  · rintro ⟨other, otherLeft⟩ otherMem larger
    have noLonger := longer (other, otherLeft ++ v.rest) ((kept other otherLeft).mp otherMem) larger
    rw [List.head?_map, Option.map_eq_none_iff, List.head?_eq_none_iff] at noLonger
    rw [firstWhole?_eq_none_of_ways noLonger]
    rfl

/-- The first way to take a beginning of a path is the first way to take just that beginning. -/
theorem firstWhole?_of_head? {segments : List Segment} {path : List Char} {w : Way}
    (first : (ways segments path).head? = some w) :
    firstWhole? segments (w.pieces.flatMap Piece.taken) = some w.pieces := by
  have whole : path = w.pieces.flatMap Piece.taken ++ w.rest :=
    (mem_ways_iff.mp (List.mem_of_mem_head? first)).taken_append.symm
  induction segments using inductionOnSplice generalizing path w with
  | nil =>
    rw [ways] at first
    obtain rfl := Option.some.inj first
    exact firstWhole?_nil
  | literal text rest ih =>
    rw [ways] at first
    split at first
    · rw [List.head?_map] at first
      obtain ⟨v, firstRest, rfl⟩ := Option.map_eq_some_iff.mp first
      rw [Way.pieces_after, List.flatMap_cons, Piece.taken, firstWhole?_literal, ih firstRest]
      · rfl
      · exact (mem_ways_iff.mp (List.mem_of_mem_head? firstRest)).taken_append.symm
    · cases first
  | capture name constraint rest ih =>
    rw [ways] at first
    rw [firstWhole?_capture]
    refine findSome?_runs_of_head? (pairwise_captureRuns _ _) (pairwise_captureRuns _ _) ?_ ?_ first
    · intro run left
      rw [mem_captureRuns_iff, mem_captureRuns_iff, whole, ← List.append_assoc,
        List.append_cancel_right_eq]
    · intro path v firstRest
      exact ih firstRest (mem_ways_iff.mp (List.mem_of_mem_head? firstRest)).taken_append.symm
  | splat name constraint rest ih =>
    rw [ways] at first
    rw [firstWhole?_splat]
    refine findSome?_runs_of_head? (pairwise_splatRuns _ _) (pairwise_splatRuns _ _) ?_ ?_ first
    · intro run left
      rw [mem_splatRuns_iff, mem_splatRuns_iff, whole, ← List.append_assoc,
        List.append_cancel_right_eq]
    · intro path v firstRest
      exact ih firstRest (mem_ways_iff.mp (List.mem_of_mem_head? firstRest)).taken_append.symm
  | optional inner rest ihSpliced ih =>
    rw [ways, List.head?_append] at first
    rw [firstWhole?_optional]
    cases present : (ways (inner ++ rest) path).head? with
    | some v =>
      rw [present, Option.some_or] at first
      obtain rfl := Option.some.inj first
      rw [ihSpliced present whole]
      rfl
    | none =>
      rw [present, Option.none_or, List.head?_map] at first
      obtain ⟨v, firstRest, rfl⟩ := Option.map_eq_some_iff.mp first
      rw [List.head?_eq_none_iff, whole] at present
      rw [firstWhole?_eq_none_of_ways present]
      simp only [Way.pieces_after, List.flatMap_cons, Piece.taken, List.nil_append]
      rw [ih firstRest (mem_ways_iff.mp (List.mem_of_mem_head? firstRest)).taken_append.symm]
      rfl

/-! ### Peeking -/

/-- Peeking gives the first way there is, and the beginning of the path that it takes. -/
theorem peek?_eq_head? (t : Template) (path : String) :
    t.peek? path = (ways t.segments path.toList).head?.map fun w =>
      (String.ofList (w.pieces.flatMap Piece.taken),
        OrderedMap.ofList (t.names.map (givenFor w.pieces))) := by
  rw [peek?, matching_eq]
  cases found : ways t.segments path.toList with
  | nil => rfl
  | cons w others =>
    have consumes : Consumes t.segments path.toList w.pieces w.rest :=
      mem_ways_iff.mp (found ▸ List.mem_cons_self)
    have cut := textBetween_append [] (w.pieces.flatMap Piece.taken) w.rest
    rw [List.nil_append, consumes.taken_append, byteSize_nil, Nat.zero_add] at cut
    have first : ((w :: others).find? fun w => Anchor.beginning.admits w.rest) = some w := rfl
    simp only [first, Option.map_some, cut]
    rfl

/-- What peeking takes is a prefix of the path, and matching this prefix gives the same
parameters. -/
theorem match?_of_peek? {t : Template} {path taken : String} {params : Params}
    (h : t.peek? path = some (taken, params)) :
    taken.toList <+: path.toList ∧ t.match? taken = some params := by
  rw [peek?_eq_head?] at h
  obtain ⟨w, first, eq⟩ := Option.map_eq_some_iff.mp h
  obtain ⟨rfl, rfl⟩ := Prod.mk.inj eq
  have consumes := mem_ways_iff.mp (List.mem_of_mem_head? first)
  rw [match?_eq_map_firstWhole?, String.toList_ofList, firstWhole?_of_head? first]
  constructor
  · exact ⟨w.rest, consumes.taken_append⟩
  · rfl

/-- Peeking succeeds where some prefix of the path matches. -/
theorem isSome_peek?_iff {t : Template} {path : String} :
    (t.peek? path).isSome ↔ ∃ taken : String, taken.toList <+: path.toList ∧
      (t.match? taken).isSome := by
  constructor
  · intro h
    obtain ⟨⟨taken, params⟩, eq⟩ := Option.isSome_iff_exists.mp h
    obtain ⟨isPrefix, matched⟩ := match?_of_peek? eq
    exact ⟨taken, isPrefix, by rw [matched]; rfl⟩
  · rintro ⟨taken, ⟨more, whole⟩, matched⟩
    have ⟨pieces, consumes⟩ : ∃ pieces, Consumes t.segments taken.toList pieces [] := by
      by_contra unmatched
      rw [(match?_eq_none_iff t taken).mpr unmatched] at matched
      cases matched
    have longer := consumes.extend more
    rw [whole] at longer
    rw [peek?_eq_head?, Option.isSome_map, List.isSome_head?]
    exact ways_ne_nil_of_consumes longer

end Template

/-! ### Mounts -/

namespace Mount

variable {m : Mount} {env : Env} {trustForwarded : Bool}

theorem isSome_match?_iff :
    (m.match? env trustForwarded).isSome ↔
      m.acceptsHost env trustForwarded = true ∧ (m.route.template.peek? env.path).isSome := by
  unfold match?
  split
  · next accepted => simp [accepted]
  · next refused => simp [refused]

end Mount

namespace Template

/-- Peeking is matching a prefix: it succeeds exactly where some prefix of the path matches, and
what it takes is a prefix that matches with the very same parameters. So a mount that matches a path
matches every longer one, and a mount for all hosts accepts whatever its template matches as a
whole. -/
theorem peek?_is_match (t : Template) :
    (∀ path, (t.peek? path).isSome ↔
      ∃ taken : String, taken.toList <+: path.toList ∧ (t.match? taken).isSome) ∧
    (∀ path taken params, t.peek? path = some (taken, params) →
      taken.toList <+: path.toList ∧ t.match? taken = some params) ∧
    ∀ (m : Mount) (env : Env) (trustForwarded : Bool), m.route.template = t →
      ((m.match? env trustForwarded).isSome → ∀ more,
        (m.match? { env with path := env.path ++ more } trustForwarded).isSome) ∧
      (m.hostPattern = none → (t.match? env.path).isSome →
        (m.match? env trustForwarded).isSome) := by
  refine ⟨fun path => isSome_peek?_iff, fun path taken params => match?_of_peek?, ?_⟩
  rintro m env trustForwarded rfl
  constructor
  · intro matched more
    obtain ⟨accepted, peeked⟩ := Mount.isSome_match?_iff.mp matched
    obtain ⟨taken, isPrefix, whole⟩ := isSome_peek?_iff.mp peeked
    rw [Mount.isSome_match?_iff, isSome_peek?_iff]
    refine ⟨accepted, taken, ?_, whole⟩
    rw [String.toList_append]
    exact isPrefix.trans (List.prefix_append _ _)
  · intro anyHost whole
    rw [Mount.isSome_match?_iff, isSome_peek?_iff]
    refine ⟨?_, env.path, List.prefix_rfl, whole⟩
    rw [Mount.acceptsHost, anyHost]
    rfl

/-- The name gives one `.gz` back and keeps the other; what follows the second is not taken. -/
theorem peek?_is_match_archive :
    let t : Template :=
      ⟨"/:name.gz", [.literal "/", .capture "name" none, .literal ".gz"], ["name"]⟩
    let m : Mount := ⟨⟨"/:name.gz", t, .endpoint (.handler fun env => ({}, env)), none⟩, none⟩
    let env := Env.get "/é%20.gz.gz/more"
    let cut := Env.get "/é%20.gz.gz"
    t.peek? env.path = some (cut.path, ⟨[("name", some "é .gz")]⟩) ∧
      t.match? cut.path = some ⟨[("name", some "é .gz")]⟩ ∧ (m.match? env true).isSome ∧
      (m.match? { env with path := env.path ++ "/yet" } true).isSome ∧
      m.hostPattern = none ∧ (m.match? cut true).isSome := by
  intro t m env cut
  have peeked : t.peek? env.path = some (cut.path, ⟨[("name", some "é .gz")]⟩) := by decide +kernel
  have matched : (m.match? env true).isSome := by decide +kernel
  obtain ⟨-, taken, mounted⟩ := peek?_is_match t
  have whole := (taken _ _ _ peeked).2
  obtain ⟨longer, anyHost⟩ := mounted m env true rfl
  obtain ⟨-, atCut⟩ := mounted m cut true rfl
  exact ⟨peeked, whole, matched, longer matched "/yet", rfl, atCut rfl (by rw [whole]; rfl)⟩

end Template

end PathRouting
