import Mathlib.Control.Monad.Basic
import Mathlib.Data.List.Nodup
import PathRouting.Proofs.Template.Delimited
import PathRouting.Proofs.Template.LiveGroups

/-!
Canonical paths: what a template generates from the parameters of a path that it has matched.

The path may have been coded in many ways, with escapes that were not needed and escapes that stand
for no text. Its parameters are taken over as they were decoded. Main statements:
`Consumes.isGiven` and `Consumes.mem_used` (everything captured is written again),
`Consumes.exists_slot` (what was captured satisfies its constraint) and `match?_canonical` (a
delimited template reads the same parameters from the path it generates from them).
-/

namespace PathRouting

/-- The arguments that give every text that was captured. -/
def Params.captured (params : Params) : Args :=
  ⟨params.entries.filterMap fun e => e.2.map fun text => (e.1, .single text)⟩

theorem Params.mem_captured {params : Params} {name : String} {value : ArgValue} :
    (name, value) ∈ params.captured.entries ↔
      ∃ text, (name, some text) ∈ params.entries ∧ value = .single text := by
  rw [captured, List.mem_filterMap]
  constructor
  · rintro ⟨⟨other, text?⟩, mem, eq⟩
    obtain ⟨text, rfl, eq⟩ := Option.map_eq_some_iff.mp eq
    obtain ⟨rfl, rfl⟩ := Prod.mk.inj eq
    exact ⟨text, mem, rfl⟩
  · rintro ⟨text, mem, rfl⟩
    exact ⟨(name, some text), mem, rfl⟩

theorem Params.get?_captured {params : Params} (nodup : params.keys.Nodup) {name : String}
    {value : ArgValue} :
    params.captured.get? name = some value ↔
      ∃ text, (name, some text) ∈ params.entries ∧ value = .single text := by
  have keys : params.captured.keys.Sublist params.keys := by
    unfold OrderedMap.keys captured
    induction params.entries with
    | nil => exact .slnil
    | cons e rest ih =>
      obtain ⟨other, text?⟩ := e
      cases text? with
      | none => exact ih.cons other
      | some text => exact ih.cons_cons other
  rw [OrderedMap.get?_eq_some_iff (nodup.sublist keys), mem_captured]

namespace Template

open Segment
open Text.Percent (decode_ne_empty)

variable {args : Args}

/-! ### Writing a way again -/

/-- A group that has all it asks for uses what its content uses: where it is not written, its
content would use nothing. -/
theorem used_render_optional {inner : List Segment} (given : ∀ s ∈ inner, s.IsGiven args) :
    ((Segment.optional inner).render args).used = (renderAll args inner).used := by
  rw [render_optional]
  split
  · rfl
  · next skipped =>
    have nothing : (renderAll args inner).written = 0 := by
      by_contra something
      exact skipped (isWritten_iff.mpr ⟨given, Nat.pos_of_ne_zero something⟩)
    rw [← length_used, List.length_eq_zero_iff] at nothing
    exact nothing.symm

/-- The captured texts of a way, as arguments. -/
def Gives (args : Args) (pieces : List Piece) : Prop :=
  ∀ name text, (name, some text) ∈ pieces.flatMap Piece.entries →
    args.get? name = some (.single text)

theorem Gives.tail {piece : Piece} {pieces : List Piece} (h : Gives args (piece :: pieces)) :
    Gives args pieces := by
  intro name text mem
  exact h name text (List.mem_append_right _ mem)

/-- A way has a text for everything outside groups. -/
theorem Consumes.isGiven {segments : List Segment} {path left : List Char} {pieces : List Piece}
    (h : Consumes segments path pieces left) (gives : Gives args pieces) :
    ∀ s ∈ segments, s.IsGiven args := by
  induction h with
  | done => simp
  | literal _ ih => exact List.forall_mem_cons.mpr ⟨trivial, ih gives.tail⟩
  | @capture name _ run _ _ _ _ nonempty _ _ _ ih =>
    refine List.forall_mem_cons.mpr ⟨⟨_, gives name _ List.mem_cons_self, ?_⟩, ih gives.tail⟩
    exact decode_ne_empty (by simpa using nonempty)
  | @splat name _ run _ _ _ _ _ _ ih =>
    refine List.forall_mem_cons.mpr ⟨?_, ih gives.tail⟩
    exact OrderedMap.mem_keys_iff.mpr ⟨_, gives name _ List.mem_cons_self⟩
  | present _ ih =>
    refine List.forall_mem_cons.mpr ⟨trivial, fun s hs => ?_⟩
    exact ih gives s (List.mem_append_right _ hs)
  | absent _ ih => exact List.forall_mem_cons.mpr ⟨trivial, ih gives.tail⟩

/-- Every text that was captured on a way is written again. -/
theorem Consumes.mem_used {segments : List Segment} {path left : List Char} {pieces : List Piece}
    (h : Consumes segments path pieces left) (gives : Gives args pieces) {name text : String}
    (captured : (name, some text) ∈ pieces.flatMap Piece.entries) :
    name ∈ (renderAll args segments).used := by
  induction h with
  | done => cases captured
  | literal _ ih => exact ih gives.tail captured
  | capture nonempty free ok consumes ih =>
    have all := (Consumes.capture nonempty free ok consumes).isGiven gives
    rw [used_slot rfl (all _ List.mem_cons_self)]
    rcases List.mem_cons.mp captured with here | later
    · exact List.mem_cons.mpr (Or.inl (Prod.mk.inj here).1)
    · exact List.mem_cons_of_mem _ (ih gives.tail later)
  | splat ok consumes ih =>
    have all := (Consumes.splat ok consumes).isGiven gives
    rw [used_slot rfl (all _ List.mem_cons_self)]
    rcases List.mem_cons.mp captured with here | later
    · exact List.mem_cons.mpr (Or.inl (Prod.mk.inj here).1)
    · exact List.mem_cons_of_mem _ (ih gives.tail later)
  | present consumes ih =>
    have all := consumes.isGiven gives
    have inside := used_render_optional fun s hs => all s (List.mem_append_left _ hs)
    have mem := ih gives captured
    rwa [used_append_renderAll, ← inside] at mem
  | absent _ ih =>
    rcases List.mem_append.mp captured with skipped | later
    · simp [Piece.entries] at skipped
    · exact List.mem_append_right _ (ih gives.tail later)

/-! ### Constraints -/

/-- A text that was captured by the first of some pieces or by a later one satisfies the constraint
there. -/
theorem exists_slot_cons {name text other : String} {constraint : Option Constraint}
    {run : List Char} {pieces : List Piece} {rest : List Segment}
    (ok : accepts constraint run = true)
    (ih : (name, some text) ∈ pieces.flatMap Piece.entries → ∃ found,
      (name, found) ∈ slotsOf rest ∧ ∀ c, found = some c → c.validate text = true)
    (captured : (name, some text) ∈ (Piece.run other run :: pieces).flatMap Piece.entries) :
    ∃ found, (name, found) ∈ (other, constraint) :: slotsOf rest ∧
      ∀ c, found = some c → c.validate text = true := by
  rcases List.mem_cons.mp captured with here | later
  · obtain ⟨rfl, same⟩ := Prod.mk.inj here
    obtain rfl := Option.some.inj same
    refine ⟨constraint, List.mem_cons_self, ?_⟩
    rintro c rfl
    exact ok
  · obtain ⟨found, slot, valid⟩ := ih later
    exact ⟨found, List.mem_cons_of_mem _ slot, valid⟩

/-- What was captured on a way satisfies the constraint of its capture or splat. -/
theorem Consumes.exists_slot {segments : List Segment} {path left : List Char}
    {pieces : List Piece} (h : Consumes segments path pieces left) {name text : String}
    (captured : (name, some text) ∈ pieces.flatMap Piece.entries) :
    ∃ constraint, (name, constraint) ∈ slotsOf segments ∧
      ∀ c, constraint = some c → c.validate text = true := by
  induction h with
  | done => cases captured
  | literal _ ih => exact ih captured
  | capture _ _ ok _ ih => exact exists_slot_cons ok ih captured
  | splat ok _ ih => exact exists_slot_cons ok ih captured
  | present _ ih =>
    obtain ⟨found, slot, valid⟩ := ih captured
    refine ⟨found, ?_, valid⟩
    rwa [slotsOf_append] at slot
  | absent _ ih =>
    rcases List.mem_append.mp captured with skipped | later
    · simp [Piece.entries] at skipped
    · obtain ⟨found, slot, valid⟩ := ih later
      exact ⟨found, List.mem_append_right _ slot, valid⟩

/-- Given back, what was captured on a way satisfies the constraints. -/
theorem Consumes.usedValid {segments : List Segment} {path left : List Char}
    {pieces : List Piece} (h : Consumes segments path pieces left)
    (nodup : (namesOf segments).Nodup)
    (given : ∀ name value, args.get? name = some value →
      ∃ text, (name, some text) ∈ pieces.flatMap Piece.entries ∧ value = .single text) :
    UsedValid args segments := by
  intro name constraint value slot _ arg
  obtain ⟨text, captured, rfl⟩ := given name value arg
  obtain ⟨other, otherSlot, valid⟩ := h.exists_slot captured
  rw [← map_fst_slotsOf] at nodup
  have same := List.inj_on_of_nodup_map nodup otherSlot slot rfl
  exact valid constraint (Prod.mk.inj same).2

/-! ### Reading the canonical path -/

/-- The arguments that a way gives are used for just what was captured on it. -/
theorem usedEntries_eq {segments : List Segment} {path left : List Char} {pieces : List Piece}
    (h : Consumes segments path pieces left) (nodup : (namesOf segments).Nodup)
    (given : ∀ name value, args.get? name = some value ↔
      ∃ text, (name, some text) ∈ pieces.flatMap Piece.entries ∧ value = .single text) :
    usedEntries args (namesOf segments) (renderAll args segments).used =
      pieces.flatMap Piece.entries := by
  have gives : Gives args pieces := fun name text mem => (given _ _).mpr ⟨text, mem, rfl⟩
  have names : (pieces.flatMap Piece.entries).map Prod.fst = namesOf segments :=
    keys_entries.trans h.names_eq
  have distinct := names ▸ nodup
  rw [usedEntries, ← names, List.map_map]
  conv_rhs => rw [← List.map_id (pieces.flatMap Piece.entries)]
  refine List.map_congr_left fun e mem => ?_
  obtain ⟨name, text?⟩ := e
  cases text? with
  | some text =>
    have used := h.mem_used gives mem
    simp [used, gives name text mem, ArgValue.joined]
  | none =>
    have unused : name ∉ (renderAll args segments).used := by
      intro used
      obtain ⟨value, arg⟩ := exists_get?_of_mem_used used
      obtain ⟨text, captured, -⟩ := (given name value).mp arg
      cases List.inj_on_of_nodup_map distinct captured mem rfl
    simp [unused]

/-- A delimited template matches the path that it generates from the parameters of a path it has
matched, and gives the same parameters again. Every text that was captured is written, so no
argument is left over. -/
theorem match?_canonical {source : String} {constraints : List (String × String)} {t : Template}
    {path : String} {params : Params} (compiled : compile source constraints = .ok t)
    (delimited : isDelimited t.segments = true) (matched : t.match? path = some params) :
    ∃ e, t.expand params.captured = .ok e ∧ e.unused = {} ∧ t.match? e.path = some params := by
  have wellFormed := Compiled.of_compile compiled
  have nodup : (namesOf t.segments).Nodup := wellFormed.names_eq ▸ wellFormed.nodup
  rw [match?_eq_firstWhole? wellFormed] at matched
  obtain ⟨pieces, first, rfl⟩ := Option.map_eq_some_iff.mp matched
  have consumes := consumes_of_firstWhole? first
  have distinct : ((pieces.flatMap Piece.entries).map Prod.fst).Nodup := by
    rwa [keys_entries, consumes.names_eq]
  have given := fun name value =>
    @Params.get?_captured ⟨pieces.flatMap Piece.entries⟩ distinct name value
  have gives : Gives _ pieces := fun name text mem => (given _ _).mpr ⟨text, mem, rfl⟩
  have supplied := missing_eq_nil_iff.mpr (consumes.isGiven gives)
  obtain ⟨e, expanded⟩ : ∃ e, t.expand (Params.captured ⟨pieces.flatMap Piece.entries⟩) = .ok e :=
    ⟨_, expand_of_given (consumes.isGiven gives)⟩
  obtain ⟨-, written, unused⟩ := of_expand expanded
  refine ⟨e, expanded, ?_, ?_⟩
  · have allUsed : e.unused.entries = [] := by
      rw [unused, List.filter_eq_nil_iff]
      rintro ⟨name, value⟩ mem
      obtain ⟨text, captured, -⟩ := Params.mem_captured.mp mem
      simp [consumes.mem_used gives captured]
    exact congrArg OrderedMap.mk allUsed
  · have valid := consumes.usedValid nodup fun name value => (given name value).mp
    rw [match?_eq_firstWhole? wellFormed, written,
      firstWhole?_renderAll delimited wellFormed.filled supplied valid, Option.map_some,
      entries_readingAll nodup supplied, usedEntries_eq consumes nodup given]

/-- The escapes of the name stand for no text, so the name is what was written, and is escaped once
more; the letter v of a group without parameters is dropped. -/
theorem match?_canonical_release :
    let t : Template :=
      ⟨"/releases/:id(/:name(/v(/*file)))",
        [.literal "/releases/", .capture "id" (some .int),
          .optional [.literal "/", .capture "name" none,
            .optional [.literal "/v", .optional [.literal "/", .splat "file" none]]]],
        ["id", "name", "file"]⟩
    let path := "/releases/%38%32/a%2fb%zz%ff/v"
    let params : Params := ⟨[("id", some "82"), ("name", some "a%2fb%zz%ff"), ("file", none)]⟩
    compile t.source [("id", "int")] = .ok t ∧ isDelimited t.segments = true ∧
      t.match? path = some params ∧
      t.expand params.captured = .ok ⟨"/releases/82/a%252fb%25zz%25ff", {}⟩ ∧
      t.match? "/releases/82/a%252fb%25zz%25ff" = some params := by
  intro t path params
  have compiled : compile t.source [("id", "int")] = .ok t := by decide +kernel
  have delimited : isDelimited t.segments = true := rfl
  have matched : t.match? path = some params := by decide +kernel
  have expanded : t.expand params.captured = .ok ⟨"/releases/82/a%252fb%25zz%25ff", {}⟩ := rfl
  obtain ⟨e, again, -, back⟩ := match?_canonical compiled delimited matched
  obtain rfl := Except.ok.inj (expanded.symm.trans again)
  exact ⟨compiled, delimited, matched, expanded, back⟩

end Template

end PathRouting
