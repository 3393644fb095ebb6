import PathRouting.Proofs.Template.Matching
import PathRouting.Template.Expand

/-!
Paths that are written with arguments, and how they are read back.

`readingAll` is the way on which a written path is meant to be read. Main statements:
`missing_renderAll` (which names are missed), `used_sublist_namesOf` (which arguments are used, and
in what order), `of_expand` (what a successful expansion gives) and `consumes_readingAll` (the
intended way is one of the ways there are).
-/

namespace PathRouting.Template

open Text.Percent
  (encode encodePieces decode_encode decode_encodePieces encode_ne_nil notMem_encode)

/-- A capture that is supplied is given a value that is not empty. -/
theorem get?_of_captureText? {args : Args} {name text : String}
    (h : captureText? args name = some text) :
    text ≠ "" ∧ ∃ value, args.get? name = some value ∧ value.joined = text := by
  obtain ⟨joined, nonempty⟩ := Option.filter_eq_some_iff.mp h
  obtain ⟨value, given, rfl⟩ := Option.map_eq_some_iff.mp joined
  exact ⟨by simpa using nonempty, value, given, rfl⟩

namespace Segment

variable {args : Args}

/-! ### Writing segments -/

@[simp] theorem renderAll_nil : renderAll args [] = {} := rfl

@[simp] theorem renderAll_cons (s : Segment) (rest : List Segment) :
    renderAll args (s :: rest) = (s.render args).append (renderAll args rest) := rfl

@[simp] theorem text_append (a b : Rendering) : (a.append b).text = a.text ++ b.text := rfl

@[simp] theorem used_append (a b : Rendering) : (a.append b).used = a.used ++ b.used := rfl

@[simp] theorem missing_append (a b : Rendering) :
    (a.append b).missing = a.missing ++ b.missing := rfl

@[simp] theorem written_append (a b : Rendering) :
    (a.append b).written = a.written + b.written := rfl

@[simp] theorem render_literal (text : String) : (literal text).render args = { text := text } :=
  rfl

/-- Whether an optional group is written: its own captures and splats are supplied, and it writes
at least one, be it in a group inside. -/
def isWritten (args : Args) (inner : List Segment) : Bool :=
  inner.all (isSupplied args) && decide (0 < (renderAll args inner).written)

/-- The names that are missed are those of the captures and splats outside groups that are not
supplied. -/
theorem missing_renderAll (segments : List Segment) :
    (renderAll args segments).missing =
      (segments.filter fun s => !s.isSupplied args).filterMap name? := by
  induction segments with
  | nil => rfl
  | cons s rest ih =>
    rw [renderAll_cons, missing_append, ih]
    cases s with
    | literal text => simp [isSupplied]
    | capture name constraint =>
      cases supplied : captureText? args name with
      | none => simp [render, isSupplied, supplied, name?]
      | some text => simp [render, isSupplied, supplied]
    | splat name constraint =>
      cases supplied : args.get? name with
      | none => simp [render, isSupplied, OrderedMap.contains_eq_isSome, supplied, name?]
      | some value => simp [render, isSupplied, OrderedMap.contains_eq_isSome, supplied]
    | optional inner =>
      simp only [render, isSupplied, Bool.not_true, List.filter_cons_of_neg, Bool.false_eq_true,
        not_false_eq_true]
      split
      · split <;> rfl
      · rfl

/-- Nothing is missed inside of a group that is written. -/
theorem missing_eq_nil_of_isWritten {inner : List Segment} (h : isWritten args inner = true) :
    (renderAll args inner).missing = [] := by
  have supplied := List.all_eq_true.mp (Bool.and_eq_true_iff.mp h).1
  rw [missing_renderAll, List.filter_eq_nil_iff.mpr]
  · rfl
  · intro s hs
    simp [supplied s hs]

theorem render_optional (inner : List Segment) :
    (optional inner).render args = if isWritten args inner then renderAll args inner else {} := by
  rw [render]
  by_cases written : isWritten args inner = true
  · have ⟨supplied, positive⟩ := Bool.and_eq_true_iff.mp written
    have missing := missing_eq_nil_of_isWritten written
    rw [if_pos written, if_pos supplied, if_pos (of_decide_eq_true positive), ← missing]
  · rw [if_neg written]
    split
    · next supplied =>
      have nothing : ¬0 < (renderAll args inner).written := by
        intro positive
        exact written (by simp [isWritten, supplied, positive])
      exact if_neg nothing
    · rfl

/-! ### What is written and what is used -/

/-- The names that are used are declared, and are used in the order of the template. -/
theorem used_sublist_namesOf (segments : List Segment) :
    (renderAll args segments).used.Sublist (namesOf segments) := by
  induction segments using inductionOnTree with
  | nil => exact .slnil
  | literal text rest ih => simpa using ih
  | capture name constraint rest ih =>
    rw [renderAll_cons, used_append, render]
    split
    · exact ih.cons_cons name
    · exact ih.cons name
  | splat name constraint rest ih =>
    rw [renderAll_cons, used_append, render]
    split
    · exact ih.cons_cons name
    · exact ih.cons name
  | optional inner rest ihInner ih =>
    rw [renderAll_cons, used_append, render_optional, namesOf_cons, names_optional]
    split
    · exact ihInner.append ih
    · exact ih.trans (List.sublist_append_right _ _)

/-- Only declared names are used. -/
theorem mem_namesOf_of_mem_used {segments : List Segment} {name : String}
    (h : name ∈ (renderAll args segments).used) : name ∈ namesOf segments :=
  (used_sublist_namesOf segments).subset h

/-- Only arguments that are there are used. -/
theorem exists_get?_of_mem_used {segments : List Segment} {name : String}
    (h : name ∈ (renderAll args segments).used) : ∃ value, args.get? name = some value := by
  induction segments using inductionOnTree with
  | nil => cases h
  | literal text rest ih => exact ih h
  | capture other constraint rest ih =>
    rw [renderAll_cons, used_append, List.mem_append, render] at h
    rcases h with here | later
    · cases supplied : captureText? args other with
      | none => simp [supplied] at here
      | some text =>
        obtain rfl : name = other := by simpa [supplied] using here
        obtain ⟨-, value, given, -⟩ := get?_of_captureText? supplied
        exact ⟨value, given⟩
    · exact ih later
  | splat other constraint rest ih =>
    rw [renderAll_cons, used_append, List.mem_append, render] at h
    rcases h with here | later
    · cases given : args.get? other with
      | none => simp [given] at here
      | some value =>
        obtain rfl : name = other := by simpa [given] using here
        exact ⟨value, given⟩
    · exact ih later
  | optional inner rest ihInner ih =>
    rw [renderAll_cons, used_append, List.mem_append, render_optional] at h
    rcases h with here | later
    · split at here
      · exact ihInner here
      · cases here
    · exact ih later

theorem used_append_renderAll (a b : List Segment) :
    (renderAll args (a ++ b)).used = (renderAll args a).used ++ (renderAll args b).used := by
  induction a with
  | nil => rfl
  | cons s rest ih =>
    rw [List.cons_append, renderAll_cons, renderAll_cons, used_append, used_append, ih,
      List.append_assoc]

/-- As many captures and splats are written as arguments are used. -/
theorem length_used (segments : List Segment) :
    (renderAll args segments).used.length = (renderAll args segments).written := by
  induction segments using inductionOnTree with
  | nil => rfl
  | literal text rest ih => simpa using ih
  | capture name constraint rest ih =>
    rw [renderAll_cons, used_append, written_append, List.length_append, ih, render]
    split <;> rfl
  | splat name constraint rest ih =>
    rw [renderAll_cons, used_append, written_append, List.length_append, ih, render]
    split <;> rfl
  | optional inner rest ihInner ih =>
    rw [renderAll_cons, used_append, written_append, List.length_append, ih, render_optional]
    split
    · rw [ihInner]
    · rfl

/-! ### Reading back -/

mutual

/-- What the text written for a segment is meant to be read as. -/
def reading (args : Args) : Segment → List Piece
  | literal text => [.text text.toList]
  | capture name _ =>
    match captureText? args name with
    | some text => [.run name (encode text).toList]
    | none => []
  | splat name _ =>
    match args.get? name with
    | some value => [.run name (encodePieces value.joined).toList]
    | none => []
  | optional inner =>
    if isWritten args inner then readingAll args inner else [.skipped (namesOf inner)]

/-- What the text written for a list of segments is meant to be read as. -/
def readingAll (args : Args) : List Segment → List Piece
  | [] => []
  | s :: rest => s.reading args ++ readingAll args rest

end

end Segment

open Segment

/-- The values that went into the text of some segments satisfy the constraints there. -/
def UsedValid (args : Args) (segments : List Segment) : Prop :=
  ∀ name constraint value, (name, some constraint) ∈ slotsOf segments →
    name ∈ (renderAll args segments).used → args.get? name = some value →
      constraint.validate value.joined = true

variable {args : Args}

theorem UsedValid.tail {s : Segment} {rest : List Segment} (h : UsedValid args (s :: rest)) :
    UsedValid args rest := by
  intro name constraint value slot used given
  exact h name constraint value (List.mem_append_right _ slot) (List.mem_append_right _ used) given

theorem UsedValid.of_append {part rest : List Segment} (h : UsedValid args (part ++ rest)) :
    UsedValid args rest := by
  induction part with
  | nil => exact h
  | cons s more ih => exact ih h.tail

theorem UsedValid.inner {inner rest : List Segment}
    (h : UsedValid args (.optional inner :: rest)) (written : isWritten args inner = true) :
    UsedValid args inner := by
  intro name constraint value slot used given
  refine h name constraint value (List.mem_append_left _ slot) ?_ given
  rw [renderAll_cons, used_append, render_optional, if_pos written]
  exact List.mem_append_left _ used

theorem accepts_of_decode {constraint : Option Constraint} {code value : String}
    (decoded : Text.Percent.decode code = value)
    (valid : ∀ c, constraint = some c → c.validate value = true) :
    accepts constraint code.toList = true := by
  cases constraint with
  | none => rfl
  | some c => simpa [accepts, decoded] using valid c rfl

/-- The text that is written for a capture is one that it may take. -/
theorem UsedValid.capture {name text : String} {constraint : Option Constraint}
    {rest : List Segment} (h : UsedValid args (.capture name constraint :: rest))
    (supplied : captureText? args name = some text) :
    (encode text).toList ≠ [] ∧ accepts constraint (encode text).toList = true := by
  obtain ⟨nonempty, value, given, rfl⟩ := get?_of_captureText? supplied
  refine ⟨encode_ne_nil nonempty, accepts_of_decode (decode_encode _) fun c hc => ?_⟩
  subst hc
  exact h name c value (by simp) (by simp [render, supplied]) given

/-- The text that is written for a splat is one that it may take. -/
theorem UsedValid.splat {name : String} {constraint : Option Constraint} {value : ArgValue}
    {rest : List Segment} (h : UsedValid args (.splat name constraint :: rest))
    (given : args.get? name = some value) :
    accepts constraint (encodePieces value.joined).toList = true := by
  refine accepts_of_decode (decode_encodePieces _) fun c hc => ?_
  subst hc
  exact h name c value (by simp) (by simp [render, given]) given

/-- The text that is written can be read back as it is meant to be, if nothing is missed and all
values satisfy their constraints. -/
theorem consumes_readingAll {segments after : List Segment} {path left : List Char}
    {pieces : List Piece} (supplied : (renderAll args segments).missing = [])
    (valid : UsedValid args segments) (later : Consumes after path pieces left) :
    Consumes (segments ++ after) ((renderAll args segments).text.toList ++ path)
      (readingAll args segments ++ pieces) left := by
  induction segments using inductionOnTree generalizing after path pieces with
  | nil => exact later
  | literal text rest ih =>
    have restConsumed := ih (by simpa using supplied) valid.tail later
    simpa [readingAll, reading] using Consumes.literal restConsumed
  | capture name constraint rest ih =>
    rw [renderAll_cons, missing_append, List.append_eq_nil_iff] at supplied
    have restConsumed := ih supplied.2 valid.tail later
    cases text? : captureText? args name with
    | none => simp [render, text?] at supplied
    | some text =>
      obtain ⟨nonempty, ok⟩ := valid.capture text?
      have run : Consumes (.capture name constraint :: (rest ++ after)) _
          (.run name (encode text).toList :: _) left :=
        .capture nonempty (notMem_encode rfl) ok restConsumed
      simpa [readingAll, reading, render, text?] using run
  | splat name constraint rest ih =>
    rw [renderAll_cons, missing_append, List.append_eq_nil_iff] at supplied
    have restConsumed := ih supplied.2 valid.tail later
    cases given : args.get? name with
    | none => simp [render, given] at supplied
    | some value =>
      have run : Consumes (.splat name constraint :: (rest ++ after)) _
          (.run name (encodePieces value.joined).toList :: _) left :=
        .splat (valid.splat given) restConsumed
      simpa [readingAll, reading, render, given] using run
  | optional inner rest ihInner ih =>
    rw [renderAll_cons, missing_append, List.append_eq_nil_iff] at supplied
    have restConsumed := ih supplied.2 valid.tail later
    by_cases written : isWritten args inner = true
    · have present : Consumes (.optional inner :: (rest ++ after)) _ _ left :=
        .present (ihInner (missing_eq_nil_of_isWritten written) (valid.inner written) restConsumed)
      simpa [readingAll, reading, render_optional, written] using present
    · have absent : Consumes (.optional inner :: (rest ++ after)) _
          (.skipped (namesOf inner) :: _) left := .absent restConsumed
      simpa [readingAll, reading, render_optional, written] using absent

/-! ### Expansion -/

/-- What a successful expansion gives. -/
theorem of_expand {t : Template} {e : Expansion} (h : t.expand args = .ok e) :
    (renderAll args t.segments).missing = [] ∧ e.path = (renderAll args t.segments).text ∧
      e.unused.entries =
        args.entries.filter fun x => decide (x.1 ∉ (renderAll args t.segments).used) := by
  unfold expand at h
  dsimp only at h
  split at h
  · next noneMissing =>
    obtain rfl := Except.ok.inj h
    exact ⟨List.isEmpty_iff.mp noneMissing, rfl, rfl⟩
  · cases h

/-- The text that an argument put into a generated path; none where the argument is not given or is
left over. -/
def consumedText? (args : Args) (e : Expansion) (name : String) : Option String :=
  if e.unused.contains name then none else (args.get? name).map ArgValue.joined

/-- The arguments that went into a generated path satisfy the constraints of the captures and splats
they went to. -/
def ConsumedValid (t : Template) (args : Args) (e : Expansion) : Prop :=
  ∀ name constraint text, (name, some constraint) ∈ slotsOf t.segments →
    consumedText? args e name = some text → constraint.validate text = true

instance (t : Template) (args : Args) (e : Expansion) : Decidable (ConsumedValid t args e) :=
  decidable_of_iff
    (∀ slot ∈ slotsOf t.segments, ∀ constraint ∈ slot.2, ∀ text ∈ consumedText? args e slot.1,
      constraint.validate text = true)
    ⟨fun h name constraint text mem taken =>
        h (name, some constraint) mem constraint rfl text taken,
      fun h slot mem constraint constrained text taken =>
        h slot.1 constraint text (constrained ▸ mem) taken⟩

/-- An argument went into the path if its name is used. -/
theorem consumedText?_eq {t : Template} {e : Expansion} (h : t.expand args = .ok e)
    (name : String) :
    consumedText? args e name =
      if name ∈ (renderAll args t.segments).used then (args.get? name).map ArgValue.joined
      else none := by
  obtain ⟨-, -, unused⟩ := of_expand h
  have contains : e.unused.contains name = true ↔
      name ∉ (renderAll args t.segments).used ∧ ∃ value, (name, value) ∈ args.entries := by
    simp only [OrderedMap.contains, unused, List.any_eq_true, List.mem_filter,
      decide_eq_true_eq]
    constructor
    · rintro ⟨⟨key, value⟩, ⟨mem, unused⟩, rfl⟩
      exact ⟨unused, value, mem⟩
    · rintro ⟨unused, value, mem⟩
      exact ⟨(name, value), ⟨mem, unused⟩, rfl⟩
  unfold consumedText?
  by_cases used : name ∈ (renderAll args t.segments).used
  · rw [if_pos used, if_neg]
    intro left
    exact (contains.mp left).1 used
  · rw [if_neg used]
    split
    · rfl
    · next taken =>
      cases given : args.get? name with
      | none => rfl
      | some value =>
        exact absurd (contains.mpr ⟨used, value, OrderedMap.mem_entries_of_get? given⟩) taken

theorem ConsumedValid.usedValid {t : Template} {e : Expansion} (h : t.expand args = .ok e)
    (valid : ConsumedValid t args e) : UsedValid args t.segments := by
  intro name constraint value slot used given
  refine valid name constraint value.joined slot ?_
  rw [consumedText?_eq h, if_pos used, given]
  rfl

/-- A generated path is one that the segments can take as it is meant to be read. -/
theorem consumes_path_of_expand {t : Template} {e : Expansion} (h : t.expand args = .ok e)
    (valid : ConsumedValid t args e) :
    Consumes t.segments e.path.toList (readingAll args t.segments) [] := by
  obtain ⟨supplied, path, -⟩ := of_expand h
  have consumes := consumes_readingAll supplied (valid.usedValid h) (.done [])
  simpa [path] using consumes

/-- A template matches every path that it generates from values that satisfy its constraints. -/
theorem isSome_match?_expand {t : Template} {args : Args} {e : Expansion}
    (expanded : t.expand args = .ok e) (valid : ConsumedValid t args e) :
    (t.match? e.path).isSome := by
  rw [Option.isSome_iff_ne_none]
  intro unmatched
  exact (match?_eq_none_iff t e.path).mp unmatched ⟨_, consumes_path_of_expand expanded valid⟩

/-- A title with a slash and a space, no format, and a list with a space in it. -/
theorem isSome_match?_expand_shelf :
    let t : Template :=
      ⟨"/books/:id(/:title(.:format))/*rest",
        [.literal "/books/", .capture "id" (some .int),
          .optional [.literal "/", .capture "title" none,
            .optional [.literal ".", .capture "format" none]],
          .literal "/", .splat "rest" none],
        ["id", "title", "format", "rest"]⟩
    let args : Args :=
      ⟨[("rest", .list ["x", "y z"]), ("page", .single "2"), ("title", .single "a/b ü"),
        ("id", .single "82")]⟩
    let e : Expansion := ⟨"/books/82/a%2Fb%20%C3%BC/x/y%20z", ⟨[("page", .single "2")]⟩⟩
    t.expand args = .ok e ∧ ConsumedValid t args e ∧ (t.match? e.path).isSome := by
  intro t args e
  have expanded : t.expand args = .ok e := rfl
  have valid : ConsumedValid t args e := of_decide_eq_true rfl
  exact ⟨expanded, valid, isSome_match?_expand expanded valid⟩

end PathRouting.Template
