import Mathlib.Control.Monad.Basic
import PathRouting.Proofs.Template.Rendering

/-!
Templates whose captures, splats and groups are told apart by slashes.

In such a template a capture takes a whole component, a splat takes all that remains, and a group
stands last, so the first way to read a generated path is the one that was meant. Main statements:
`firstWhole?_renderAll` (the search finds the intended way) and `entries_readingAll` (what it gives
for each name).
-/

namespace PathRouting.Template

open Segment
open Text.Percent
  (encode encodePieces decode_encode decode_encodePieces encode_ne_nil notMem_encode)

/-! ### Delimited segments -/

/-- Whether the segments begin with a literal that begins with a slash. -/
def startsWithSlash : List Segment → Bool
  | .literal text :: _ => text.toList.head? = some '/'
  | _ => false

/-- Whether a capture in front of the segments takes a whole component: there are none, or they
begin with a slash, or with a group that does. -/
def endsComponent : List Segment → Bool
  | [] => true
  | .optional inner :: _ => startsWithSlash inner
  | segments => startsWithSlash segments

/-- Whether the segments begin with a literal or a capture. -/
def startsFilled : List Segment → Bool
  | .literal _ :: _ => true
  | .capture _ _ :: _ => true
  | _ => false

/-- Whether the segment may stand in front of the others: splats and groups stand last, and captures
take whole components. -/
def Segment.mayPrecede : Segment → List Segment → Bool
  | .literal _, _ => true
  | .capture _ _, rest => endsComponent rest
  | .splat _ _, rest => rest.isEmpty
  | .optional _, rest => rest.isEmpty

mutual

/-- Whether the content of the segment, if it is a group, begins with a literal or a capture and is
delimited. -/
def Segment.isDelimitedInside : Segment → Bool
  | .optional inner => startsFilled inner && isDelimited inner
  | _ => true

/-- Whether every segment may stand in front of what follows it, inside of groups as well. -/
def isDelimited : List Segment → Bool
  | [] => true
  | s :: rest => s.isDelimitedInside && s.mayPrecede rest && isDelimited rest

end

/-! ### The first way -/

variable {args : Args}

/-- Segments that begin with a slash are written with one. -/
theorem head?_text_of_startsWithSlash {segments : List Segment}
    (starts : startsWithSlash segments = true) :
    (renderAll args segments).text.toList.head? = some '/' := by
  unfold startsWithSlash at starts
  split at starts
  · next text more =>
    have first := of_decide_eq_true starts
    simp [first]
  · cases starts

/-- What is written after a capture is empty or begins with a slash. -/
theorem head?_text_renderAll {rest : List Segment} (ends : endsComponent rest = true)
    (delimited : isDelimited rest = true) :
    ∀ c ∈ (renderAll args rest).text.toList.head?, c = '/' := by
  intro c hc
  unfold endsComponent at ends
  split at ends
  · simp at hc
  · next inner more =>
    obtain rfl : more = [] := by
      simp only [isDelimited, mayPrecede, Bool.and_eq_true, List.isEmpty_iff] at delimited
      exact delimited.1.2
    rw [renderAll_cons, render_optional] at hc
    split at hc
    · simp [head?_text_of_startsWithSlash ends] at hc
      exact hc.symm
    · simp at hc
  · rw [head?_text_of_startsWithSlash ends] at hc
    exact (Option.some.inj hc).symm

/-- What begins with a literal or a capture takes at least one character. -/
theorem Consumes.path_ne_nil {segments : List Segment} {path left : List Char}
    {pieces : List Piece} (h : Consumes segments path pieces left)
    (starts : startsFilled segments = true) (filled : "" ∉ literalsOf segments) : path ≠ [] := by
  cases h with
  | done => cases starts
  | @literal text rest path =>
    have nonempty : text ≠ "" := by
      rintro rfl
      exact filled (by simp)
    simp [nonempty]
  | capture nonempty => simp [nonempty]
  | splat => cases starts
  | present => cases starts
  | absent => cases starts

theorem firstWhole?_eq_none_of_startsFilled {inner : List Segment}
    (starts : startsFilled inner = true) (filled : "" ∉ literalsOf inner) :
    firstWhole? inner [] = none := by
  rw [firstWhole?_eq_none_iff]
  rintro ⟨pieces, consumes⟩
  exact consumes.path_ne_nil starts filled rfl

/-- The first way to read what is written for delimited segments is the one that is meant. -/
theorem firstWhole?_renderAll {segments : List Segment} (delimited : isDelimited segments = true)
    (filled : "" ∉ literalsOf segments) (supplied : (renderAll args segments).missing = [])
    (valid : UsedValid args segments) :
    firstWhole? segments (renderAll args segments).text.toList =
      some (readingAll args segments) := by
  induction segments using inductionOnTree with
  | nil => exact firstWhole?_nil
  | literal text rest ih =>
    simp only [isDelimited, isDelimitedInside, mayPrecede, Bool.true_and] at delimited
    simp only [literalsOf_cons, List.mem_append, not_or] at filled
    have restFound := ih delimited filled.2 (by simpa using supplied) valid.tail
    simp only [renderAll_cons, text_append, render_literal, String.toList_append]
    rw [firstWhole?_literal, restFound]
    rfl
  | capture name constraint rest ih =>
    simp only [isDelimited, isDelimitedInside, mayPrecede, Bool.true_and, Bool.and_eq_true]
      at delimited
    rw [renderAll_cons, missing_append, List.append_eq_nil_iff] at supplied
    have restFound := ih delimited.2 (by simpa using filled) supplied.2 valid.tail
    cases text? : captureText? args name with
    | none => simp [render, text?] at supplied
    | some text =>
      obtain ⟨nonempty, ok⟩ := valid.capture text?
      obtain ⟨shorter, longest⟩ := captureRuns_append nonempty (notMem_encode rfl) ok
        (head?_text_renderAll delimited.1 delimited.2)
      simp only [renderAll_cons, text_append, render, text?, String.toList_append]
      rw [firstWhole?_capture, longest, List.findSome?_cons, restFound]
      simp [readingAll, reading, text?]
  | splat name constraint rest ih =>
    simp only [isDelimited, isDelimitedInside, mayPrecede, Bool.true_and, Bool.and_eq_true,
      List.isEmpty_iff] at delimited
    obtain rfl := delimited.1
    cases given : args.get? name with
    | none => simp [render, given] at supplied
    | some value =>
      have ok := valid.splat given
      obtain ⟨shorter, longest⟩ := splatRuns_self ok
      simp only [renderAll_cons, text_append, render, given, String.toList_append, renderAll_nil]
      rw [firstWhole?_splat, String.toList_empty, List.append_nil, longest, List.findSome?_cons,
        firstWhole?_nil]
      simp [readingAll, reading, given]
  | optional inner rest ihInner ih =>
    simp only [isDelimited, isDelimitedInside, mayPrecede, Bool.and_eq_true,
      List.isEmpty_iff] at delimited
    obtain ⟨⟨⟨starts, inside⟩, rfl⟩, -⟩ := delimited
    simp only [literalsOf_cons, literals_optional, literalsOf_nil, List.append_nil] at filled
    rw [firstWhole?_optional, List.append_nil, renderAll_cons, render_optional]
    by_cases written : isWritten args inner = true
    · have innerFound := ihInner inside filled (missing_eq_nil_of_isWritten written)
        (valid.inner written)
      simp [readingAll, reading, written, innerFound]
    · simp [readingAll, reading, written, firstWhole?_nil,
        firstWhole?_eq_none_of_startsFilled starts filled]

/-! ### What the intended way gives -/

/-- The parameters of some names: the text that the argument put into the path where the name is
used, and none elsewhere. -/
def usedEntries (args : Args) (names used : List String) : List (String × Option String) :=
  names.map fun name =>
    (name, if name ∈ used then (args.get? name).map ArgValue.joined else none)

theorem usedEntries_append {names later used usedLater : List String}
    (apart : (names ++ later).Nodup) (declared : ∀ name ∈ used, name ∈ names)
    (declaredLater : ∀ name ∈ usedLater, name ∈ later) :
    usedEntries args (names ++ later) (used ++ usedLater) =
      usedEntries args names used ++ usedEntries args later usedLater := by
  have disjoint := (List.nodup_append.mp apart).2.2
  rw [usedEntries, List.map_append]
  congr 1
  · refine List.map_congr_left fun name hn => ?_
    have here : name ∈ used ++ usedLater ↔ name ∈ used := by
      refine List.mem_append.trans ⟨?_, Or.inl⟩
      rintro (h | h)
      · exact h
      · exact absurd rfl (disjoint name hn name (declaredLater name h))
    simp only [here]
  · refine List.map_congr_left fun name hn => ?_
    have here : name ∈ used ++ usedLater ↔ name ∈ usedLater := by
      refine List.mem_append.trans ⟨?_, Or.inr⟩
      rintro (h | h)
      · exact absurd rfl (disjoint name (declared name h) name hn)
      · exact h
    simp only [here]

/-- Read as it is meant, a written path gives every name the text that went in for it. -/
theorem entries_readingAll {segments : List Segment} (nodup : (namesOf segments).Nodup)
    (supplied : (renderAll args segments).missing = []) :
    (readingAll args segments).flatMap Piece.entries =
      usedEntries args (namesOf segments) (renderAll args segments).used := by
  induction segments using inductionOnTree with
  | nil => rfl
  | literal text rest ih =>
    simpa [readingAll, reading, Piece.entries] using ih nodup (by simpa using supplied)
  | capture name constraint rest ih =>
    rw [renderAll_cons, missing_append, List.append_eq_nil_iff] at supplied
    have restUsed := ih (List.nodup_append.mp nodup).2.1 supplied.2
    cases text? : captureText? args name with
    | none => simp [render, text?] at supplied
    | some text =>
      obtain ⟨-, value, given, rfl⟩ := get?_of_captureText? text?
      have used : ((capture name constraint).render args).used = [name] := by
        simp [render, text?]
      rw [renderAll_cons, used_append, namesOf_cons,
        usedEntries_append nodup (by simp [used]) fun _ => mem_namesOf_of_mem_used, ← restUsed,
        used]
      simp [readingAll, reading, text?, Piece.entries, decode_encode, usedEntries, given]
  | splat name constraint rest ih =>
    rw [renderAll_cons, missing_append, List.append_eq_nil_iff] at supplied
    have restUsed := ih (List.nodup_append.mp nodup).2.1 supplied.2
    cases given : args.get? name with
    | none => simp [render, given] at supplied
    | some value =>
      have used : ((splat name constraint).render args).used = [name] := by
        simp [render, given]
      rw [renderAll_cons, used_append, namesOf_cons,
        usedEntries_append nodup (by simp [used]) fun _ => mem_namesOf_of_mem_used, ← restUsed,
        used]
      simp [readingAll, reading, given, Piece.entries, decode_encodePieces, usedEntries]
  | optional inner rest ihInner ih =>
    rw [renderAll_cons, missing_append, List.append_eq_nil_iff] at supplied
    obtain ⟨nodupInner, nodupRest, -⟩ := List.nodup_append.mp nodup
    have restUsed := ih nodupRest supplied.2
    have declared : ∀ name ∈ ((Segment.optional inner).render args).used,
        name ∈ (Segment.optional inner).names := by
      intro name used
      have singleton : name ∈ (renderAll args [.optional inner]).used := by simpa using used
      simpa using mem_namesOf_of_mem_used singleton
    rw [renderAll_cons, used_append, namesOf_cons,
      usedEntries_append nodup declared fun _ => mem_namesOf_of_mem_used, ← restUsed,
      render_optional]
    by_cases written : isWritten args inner = true
    · have innerUsed := ihInner nodupInner (missing_eq_nil_of_isWritten written)
      simp [readingAll, reading, written, innerUsed]
    · simp [readingAll, reading, written, Piece.entries, usedEntries]

/-- A delimited template reads a path that it generates as it was written: every declared name has
the text that its argument put into the path, and none where it put in nothing. -/
theorem match?_expand_of_isDelimited {source : String} {constraints : List (String × String)}
    {t : Template} {args : Args} {e : Expansion}
    (compiled : compile source constraints = .ok t) (delimited : isDelimited t.segments = true)
    (expanded : t.expand args = .ok e) (valid : ConsumedValid t args e) :
    t.match? e.path = some ⟨t.names.map fun name => (name, consumedText? args e name)⟩ := by
  have wellFormed := Compiled.of_compile compiled
  obtain ⟨supplied, path, -⟩ := of_expand expanded
  have nodup : (namesOf t.segments).Nodup := wellFormed.names_eq ▸ wellFormed.nodup
  rw [match?_eq_firstWhole? wellFormed, path,
    firstWhole?_renderAll delimited wellFormed.filled supplied (valid.usedValid expanded),
    Option.map_some, entries_readingAll nodup supplied, wellFormed.names_eq, usedEntries]
  simp only [consumedText?_eq expanded]

/-- A path of two components is given, the second with a slash in it, and no file. -/
theorem match?_expand_of_isDelimited_release :
    let t : Template :=
      ⟨"/releases/:id(/:name(/*file))",
        [.literal "/releases/", .capture "id" (some .int),
          .optional [.literal "/", .capture "name" none,
            .optional [.literal "/", .splat "file" none]]],
        ["id", "name", "file"]⟩
    let args : Args :=
      ⟨[("page", .single "2"), ("name", .list ["lib", "é"]), ("id", .single "82")]⟩
    let e : Expansion := ⟨"/releases/82/lib%2F%C3%A9", ⟨[("page", .single "2")]⟩⟩
    compile "/releases/:id(/:name(/*file))" [("id", "int")] = .ok t ∧
      isDelimited t.segments = true ∧ t.expand args = .ok e ∧ ConsumedValid t args e ∧
      t.match? e.path = some ⟨[("id", some "82"), ("name", some "lib/é"), ("file", none)]⟩ := by
  intro t args e
  have compiled : compile "/releases/:id(/:name(/*file))" [("id", "int")] = .ok t := by
    decide +kernel
  have delimited : isDelimited t.segments = true := rfl
  have expanded : t.expand args = .ok e := rfl
  have valid : ConsumedValid t args e := of_decide_eq_true rfl
  have params : t.names.map (fun name => (name, consumedText? args e name)) =
      [("id", some "82"), ("name", some "lib/é"), ("file", none)] := rfl
  refine ⟨compiled, delimited, expanded, valid, ?_⟩
  rw [match?_expand_of_isDelimited compiled delimited expanded valid, params]

end PathRouting.Template
