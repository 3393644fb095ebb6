import PathRouting.Proofs.Template.Boundaries
import PathRouting.Proofs.Template.Walking

/-!
What a walk leaves on the stack of captures.

Whatever stands on the stack when a walk begins, the walk puts its own captures on top or leaves the
stack alone. `Lined` says where these captures lie: between the two ends of the walk, one behind the
other, from one character of the path to another. `Fills` says which text a capture or splat may
take.

Main statements: `lined_capturesFrom` and `Consumes.fills` (for the captures of one way) and
`walk_stays_in_path` (for every walk).
-/

namespace PathRouting.Template

open Segment

/-! ### Captures in order -/

/-- What it is for captures to lie between two positions of a path, in order and apart: each goes
from one boundary to another, and begins where the one before ends or later. -/
structure Lined (path : String) (start stop : Nat) (captures : List Capture) : Prop where
  within : ∀ c ∈ captures, start ≤ c.start ∧ c.start ≤ c.stop ∧ c.stop ≤ stop
  boundaries : ∀ c ∈ captures, IsBoundary path c.start ∧ IsBoundary path c.stop
  ordered : captures.Pairwise fun c d => c.stop ≤ d.start

namespace Lined

variable {path : String} {start middle stop : Nat} {captures : List Capture}

theorem nil : Lined path start stop [] :=
  ⟨by simp, by simp, .nil⟩

/-- Captures that begin behind a position also begin behind an earlier one. -/
theorem of_le (le : start ≤ middle) (h : Lined path middle stop captures) :
    Lined path start stop captures where
  within := fun c mem => ⟨le.trans (h.within c mem).1, (h.within c mem).2⟩
  boundaries := h.boundaries
  ordered := h.ordered

/-- One capture more, in front of those behind its end. -/
theorem cons {name : String} (first : IsBoundary path start) (last : IsBoundary path middle)
    (le : start ≤ middle) (le' : middle ≤ stop) (h : Lined path middle stop captures) :
    Lined path start stop (⟨name, start, middle⟩ :: captures) where
  within := by
    intro c mem
    rcases List.mem_cons.mp mem with rfl | later
    · exact ⟨le_rfl, le, le'⟩
    · exact (h.of_le le).within c later
  boundaries := by
    intro c mem
    rcases List.mem_cons.mp mem with rfl | later
    · exact ⟨first, last⟩
    · exact h.boundaries c later
  ordered := List.pairwise_cons.mpr ⟨fun c mem => (h.within c mem).1, h.ordered⟩

end Lined

/-- The captures that pieces make lie in order on the part of the path that the pieces take. -/
theorem lined_capturesFrom {path : String} {front left : List Char} {pieces : List Piece}
    (eq : path.toList = front ++ (pieces.flatMap Piece.taken ++ left)) :
    Lined path (byteSize front) (byteSize front + byteSize (pieces.flatMap Piece.taken))
      (capturesFrom (byteSize front) pieces) := by
  induction pieces generalizing front with
  | nil => exact .nil
  | cons p more ih =>
    have behind : path.toList = (front ++ p.taken) ++ (more.flatMap Piece.taken ++ left) := by
      rw [eq, List.flatMap_cons, List.append_assoc, List.append_assoc]
    have later := ih behind
    have size : byteSize front + byteSize ((p :: more).flatMap Piece.taken) =
        byteSize (front ++ p.taken) + byteSize (more.flatMap Piece.taken) := by
      rw [List.flatMap_cons, byteSize_append, byteSize_append, Nat.add_assoc]
    rw [size]
    have le := le_byteSize_append front p.taken
    cases p with
    | text taken =>
      rw [capturesFrom_text]
      exact later.of_le le
    | skipped names =>
      have same : front ++ (Piece.skipped names).taken = front := List.append_nil front
      rw [same] at later ⊢
      exact later
    | run name taken =>
      rw [capturesFrom_run]
      exact .cons (isBoundary_of_append eq) (isBoundary_of_append behind) le
        (Nat.le_add_right _ _) later

/-! ### Captured texts -/

/-- What a capture or splat of a template may take: any part of the path that satisfies the
constraint, which for a capture is not empty and holds no slash. -/
inductive Fills (path : String) : Segment → Capture → Prop where
  | capture {name : String} {constraint : Option Constraint} {start stop : Nat} :
    start < stop → '/' ∉ (between path start stop).toList →
      accepts constraint (between path start stop).toList = true →
      Fills path (.capture name constraint) ⟨name, start, stop⟩
  | splat {name : String} {constraint : Option Constraint} {start stop : Nat} :
    start ≤ stop → accepts constraint (between path start stop).toList = true →
      Fills path (.splat name constraint) ⟨name, start, stop⟩

/-- The captures made on a way are taken by captures and splats of the segments, in order. -/
theorem Consumes.fills {path : String} {segments : List Segment} {rest left : List Char}
    {pieces : List Piece} (h : Consumes segments rest pieces left) {front : List Char}
    (eq : path.toList = front ++ rest) :
    ∃ filled, filled.Sublist (bindersOf segments) ∧
      List.Forall₂ (Fills path) filled (capturesFrom (byteSize front) pieces) := by
  induction h generalizing front with
  | done rest => exact ⟨[], List.nil_sublist _, .nil⟩
  | @literal text _ _ _ _ _ ih =>
    rw [capturesFrom_text]
    exact ih (by rw [eq, List.append_assoc])
  | @capture name constraint run more rest pieces left filled free ok _ ih =>
    have behind : path.toList = (front ++ run) ++ rest := by rw [eq, List.append_assoc]
    have cut := between_of_append behind
    obtain ⟨others, part, fills⟩ := ih behind
    rw [capturesFrom_run]
    refine ⟨.capture name constraint :: others, part.cons_cons _, .cons (.capture ?_ ?_ ?_) fills⟩
    · have := byteSize_pos filled
      rw [byteSize_append]
      omega
    · rwa [byteSize_append, cut, String.toList_ofList]
    · rwa [byteSize_append, cut, String.toList_ofList]
  | @splat name constraint run more rest pieces left ok _ ih =>
    have behind : path.toList = (front ++ run) ++ rest := by rw [eq, List.append_assoc]
    have cut := between_of_append behind
    obtain ⟨others, part, fills⟩ := ih behind
    rw [capturesFrom_run]
    refine ⟨.splat name constraint :: others, part.cons_cons _, .cons (.splat ?_ ?_) fills⟩
    · exact le_byteSize_append front run
    · rwa [byteSize_append, cut, String.toList_ofList]
  | present _ ih =>
    obtain ⟨filled, part, fills⟩ := ih eq
    exact ⟨filled, by simpa using part, fills⟩
  | @absent inner _ _ _ _ _ ih =>
    obtain ⟨filled, part, fills⟩ := ih eq
    exact ⟨filled, part.trans (List.sublist_append_right _ _), fills⟩

/-! ### Walks -/

theorem between_of_suffix {path : String} {front rest : List Char}
    (eq : path.toList = front ++ rest) :
    (between path (byteSize front) path.utf8ByteSize).toList = rest := by
  have whole : path.toList = front ++ rest ++ [] := by rw [eq, List.append_nil]
  rw [← byteSize_toList, eq, byteSize_append, between_of_append whole, String.toList_ofList]

theorem isSome_firstArrival?_iff {anchor : Anchor} {segments : List Segment} {pos : Nat}
    {rest : List Char} :
    (firstArrival? anchor segments pos rest).isSome ↔
      ∃ pieces left, Consumes segments rest pieces left ∧ anchor.admits left = true := by
  rw [firstArrival?_eq_map_find?, Option.isSome_map, List.find?_isSome]
  constructor
  · rintro ⟨w, mem, ends⟩
    exact ⟨w.pieces, w.rest, mem_ways_iff.mp mem, ends⟩
  · rintro ⟨pieces, left, consumes, ends⟩
    exact ⟨⟨pieces, left⟩, mem_ways_iff.mpr consumes, ends⟩

/-- A walk that begins at a boundary of the path comes to an answer: it never cuts the path outside
of its boundaries or steps back from its first position. If it fails, the stack is as it was, and
there is no way. If it ends, it does so at a boundary that is not before its beginning, and it has
put captures on top of the stack: in order and apart, between its beginning and its end, each taken
by a capture or splat of the segments or of the chain. -/
theorem walk_stays_in_path {path : String} {pos : Nat} (boundary : IsBoundary path pos)
    (anchor : Anchor) (segments : List Segment) (chain : List (List Segment))
    (captures : List Capture) :
    ∃ found after, walk path.toList anchor segments chain pos captures = .ok (found, after) ∧
      (found = none → after = captures) ∧
      (∀ stop, found = some stop →
        pos ≤ stop ∧ stop ≤ path.utf8ByteSize ∧ IsBoundary path stop ∧
          ∃ added, after = captures ++ added ∧ Lined path pos stop added ∧
            ∃ filled, filled.Sublist (bindersOf (segments ++ chain.flatten)) ∧
              List.Forall₂ (Fills path) filled added) ∧
      (found.isSome ↔ ∃ pieces left, Consumes (segments ++ chain.flatten)
        (between path pos path.utf8ByteSize).toList pieces left ∧ anchor.admits left = true) := by
  obtain ⟨front, rest, eq, rfl⟩ := isBoundary_iff.mp (isBoundary_toList_iff.mpr boundary)
  have walked :=
    arrives path.toList anchor segments chain (byteSize front) captures front rest eq rfl
  have ends := @isSome_firstArrival?_iff anchor (segments ++ chain.flatten) (byteSize front) rest
  rw [between_of_suffix eq, ← ends, walked]
  cases arrived : firstArrival? anchor (segments ++ chain.flatten) (byteSize front) rest with
  | none =>
    refine ⟨none, captures, rfl, fun _ => rfl, ?_, Iff.rfl⟩
    intro stop clash
    cases clash
  | some arrival =>
    rw [firstArrival?_eq_map_find?] at arrived
    obtain ⟨w, found, rfl⟩ := Option.map_eq_some_iff.mp arrived
    have consumes := mem_ways_iff.mp (List.mem_of_find?_eq_some found)
    have taken : path.toList = front ++ (w.pieces.flatMap Piece.taken ++ w.rest) := by
      rw [consumes.taken_append, eq]
    have taken' : path.toList = (front ++ w.pieces.flatMap Piece.taken) ++ w.rest := by
      rw [taken, List.append_assoc]
    refine ⟨_, _, rfl, nofun, ?_, by simp⟩
    rintro stop ⟨⟩
    refine ⟨Nat.le_add_right _ _, ?_, ?_, _, rfl, lined_capturesFrom taken, consumes.fills eq⟩
    · rw [← byteSize_toList, taken', ← byteSize_append]
      exact le_byteSize_append _ w.rest
    · rw [← byteSize_append]
      exact isBoundary_of_append taken'

/-- A capture that gives back what a literal in the chain needs, behind a group that is left out.
The path holds a character of two bytes. -/
theorem walk_stays_in_path_archive :
    let path := "/é.tar.gz"
    let segments : List Segment :=
      [.capture "name" none, .optional [.literal "/", .splat "part" none]]
    let chain : List (List Segment) := [[.literal ".", .capture "kind" (some .alpha)]]
    let before : List Capture := [⟨"root", 0, 0⟩]
    let added : List Capture := [⟨"name", 1, 7⟩, ⟨"kind", 8, 10⟩]
    IsBoundary path 1 ∧
      walk path.toList .wholePath segments chain 1 before = .ok (some 10, before ++ added) ∧
      IsBoundary path 10 ∧ Lined path 1 10 added ∧
      ∃ filled, filled.Sublist (bindersOf (segments ++ chain.flatten)) ∧
        List.Forall₂ (Fills path) filled added := by
  intro path segments chain before added
  have boundary : IsBoundary path 1 := isBoundary_toList_iff.mp (by decide +kernel)
  have walked : walk path.toList .wholePath segments chain 1 before =
      .ok (some 10, before ++ added) := by decide +kernel
  obtain ⟨found, after, walked', -, ended, -⟩ :=
    walk_stays_in_path boundary .wholePath segments chain before
  obtain ⟨rfl, rfl⟩ := Prod.mk.inj (Except.ok.inj (walked.symm.trans walked'))
  obtain ⟨-, -, boundary', added', same, lined, fills⟩ := ended 10 rfl
  obtain rfl := List.append_cancel_left same
  exact ⟨boundary, walked, boundary', lined, fills⟩

/-- Inside of a character no walk can begin. -/
example :
    walk "/é.tar.gz".toList .wholePath [.capture "name" none] [] 2 [] = .error (.cut 2 10) := by
  decide +kernel

end PathRouting.Template
