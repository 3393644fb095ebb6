import Mathlib.Control.Monad.Basic
import PathRouting.Proofs.Template.Delimited
import PathRouting.Proofs.Template.LiveGroups

/-!
Round trips through templates of any shape: which values come back from a generated path.

A path alone does not say where the value of one capture ends and the next begins, so matching
settles it: longer runs are preferred. Main statements: `firstWhole?_slot` (a capture or splat takes
the longest run that the rest can follow), `right_of_readsAsWritten` (where no capture or splat
could take more than was written for it, the values come back), `readsAsWritten_of_right` (and only
there, if groups stand last), `readsAsWritten_of_isDelimited` (slashes between the values are
enough), `match?_expand_recovers`, and `match?_expand_adjacent` (two values that do not come back).
-/

namespace PathRouting.Template

open Segment
open Text.Percent (encode encodePieces decode decode_encode decode_encodePieces notMem_encode
  decodeBytes_utf8_encode decodeBytes_utf8_encodePieces eq_nil_of_decode_append)

/-! ### Captures and splats -/

/-- The runs that a capture or splat may take. -/
def Segment.MayTake : Segment → List Char → Prop
  | capture _ constraint, run => run ≠ [] ∧ '/' ∉ run ∧ accepts constraint run = true
  | splat _ constraint, run => accepts constraint run = true
  | literal _, _ | optional _, _ => False

/-- The first of some runs that the others can follow is the longest of them. -/
theorem findSome?_runs_eq_some_iff {found : List (List Char × List Char)} {takes : List Char → Prop}
    {name : String} {rest : List Segment} {path : List Char} {pieces : List Piece}
    (sorted : found.Pairwise fun a b => b.1.length < a.1.length)
    (mem_iff : ∀ run left, (run, left) ∈ found ↔ path = run ++ left ∧ takes run) :
    (found.findSome? fun r => (firstWhole? rest r.2).map (.run name r.1 :: ·)) = some pieces ↔
      ∃ run left later, path = run ++ left ∧ takes run ∧ firstWhole? rest left = some later ∧
        pieces = .run name run :: later ∧
        ∀ longer shorter, path = longer ++ shorter → takes longer → run.length < longer.length →
          firstWhole? rest shorter = none := by
  rw [findSome?_eq_some_iff_of_pairwise sorted]
  constructor
  · rintro ⟨⟨run, left⟩, mem, chosen, others⟩
    obtain ⟨whole, ok⟩ := (mem_iff run left).mp mem
    obtain ⟨later, follows, rfl⟩ := Option.map_eq_some_iff.mp chosen
    refine ⟨run, left, later, whole, ok, follows, rfl, ?_⟩
    intro longer shorter cut taken more
    have fails := others (longer, shorter) ((mem_iff longer shorter).mpr ⟨cut, taken⟩) more
    exact Option.map_eq_none_iff.mp fails
  · rintro ⟨run, left, later, whole, ok, follows, rfl, others⟩
    refine ⟨(run, left), (mem_iff run left).mpr ⟨whole, ok⟩, by rw [follows]; rfl, ?_⟩
    rintro ⟨longer, shorter⟩ mem more
    obtain ⟨cut, taken⟩ := (mem_iff longer shorter).mp mem
    rw [others longer shorter cut taken more]
    rfl

/-- A capture or splat takes the longest run that it may take and that the others can follow. -/
theorem firstWhole?_slot {s : Segment} {name : String} (slot : s.name? = some name)
    {rest : List Segment} {path : List Char} {pieces : List Piece} :
    firstWhole? (s :: rest) path = some pieces ↔
      ∃ run left later, path = run ++ left ∧ s.MayTake run ∧ firstWhole? rest left = some later ∧
        pieces = .run name run :: later ∧
        ∀ longer shorter, path = longer ++ shorter → s.MayTake longer →
          run.length < longer.length → firstWhole? rest shorter = none := by
  cases s with
  | literal text => cases slot
  | optional inner => cases slot
  | capture other constraint =>
    obtain rfl := Option.some.inj slot
    rw [firstWhole?_capture]
    exact findSome?_runs_eq_some_iff (pairwise_captureRuns _ _) fun _ _ => mem_captureRuns_iff
  | splat other constraint =>
    obtain rfl := Option.some.inj slot
    rw [firstWhole?_splat]
    exact findSome?_runs_eq_some_iff (pairwise_splatRuns _ _) fun _ _ => mem_splatRuns_iff

/-! ### What is written -/

/-- The characters that are written for some segments. -/
def chars (args : Args) (segments : List Segment) : List Char :=
  (renderAll args segments).text.toList

variable {args : Args} {rest : List Segment}

theorem chars_literal (text : String) :
    chars args (.literal text :: rest) = text.toList ++ chars args rest := by
  simp [chars]

/-- A value for a capture or splat and the code that is written for it, which is a run that may be
taken and is read back as the value. -/
structure Coded (args : Args) (s : Segment) (name : String) (value : ArgValue)
    (code : List Char) : Prop where
  given : args.get? name = some value
  chars_cons : ∀ rest, chars args (s :: rest) = code ++ chars args rest
  mayTake : s.MayTake code
  decode_eq : decode (String.ofList code) = value.joined
  /-- More than the code is read back as another value. -/
  eq_nil : ∀ more, decode (String.ofList (code ++ more)) = value.joined → more = []

theorem exists_coded {s : Segment} {name : String} (slot : s.name? = some name)
    (given : s.IsGiven args) (valid : UsedValid args (s :: rest)) :
    ∃ value code, Coded args s name value code := by
  cases s with
  | literal text => cases slot
  | optional inner => cases slot
  | capture other constraint =>
    obtain rfl := Option.some.inj slot
    obtain ⟨value, arg, nonempty⟩ := given
    have supplied := captureText?_eq_some_iff.mpr ⟨value, arg, rfl, nonempty⟩
    obtain ⟨filled, ok⟩ := valid.capture supplied
    refine ⟨value, (encode value.joined).toList, arg, ?_, ⟨filled, notMem_encode rfl, ok⟩, ?_, ?_⟩
    · intro rest
      simp [chars, render, supplied]
    · rw [String.ofList_toList, decode_encode]
    · exact fun more => eq_nil_of_decode_append (decodeBytes_utf8_encode _)
  | splat other constraint =>
    obtain rfl := Option.some.inj slot
    obtain ⟨value, arg⟩ := OrderedMap.mem_keys_iff.mp given
    refine ⟨value, (encodePieces value.joined).toList, arg, ?_, valid.splat arg, ?_, ?_⟩
    · intro rest
      simp [chars, render, arg]
    · rw [String.ofList_toList, decode_encodePieces]
    · exact fun more => eq_nil_of_decode_append (decodeBytes_utf8_encodePieces _)

/-- What is written with valid values can be taken. -/
theorem exists_firstWhole?_chars {segments : List Segment}
    (given : ∀ s ∈ segments, s.IsGiven args) (valid : UsedValid args segments) :
    ∃ pieces, firstWhole? segments (chars args segments) = some pieces := by
  have intended := consumes_readingAll (missing_eq_nil_iff.mpr given) valid (.done [])
  rw [List.append_nil, List.append_nil, List.append_nil] at intended
  rw [← Option.isSome_iff_exists, Option.isSome_iff_ne_none]
  intro unread
  exact firstWhole?_eq_none_iff.mp unread ⟨_, intended⟩

/-- A capture or splat takes at least what was written for it, since the others can follow that. -/
theorem Coded.exists_first {s : Segment} {name : String} {value : ArgValue} {code : List Char}
    (coded : Coded args s name value code) (slot : s.name? = some name)
    (given : ∀ s ∈ rest, s.IsGiven args) (valid : UsedValid args rest) {pieces : List Piece}
    (found : firstWhole? (s :: rest) (chars args (s :: rest)) = some pieces) :
    ∃ run left later, code ++ chars args rest = run ++ left ∧ code.length ≤ run.length ∧
      s.MayTake run ∧ firstWhole? rest left = some later ∧ pieces = .run name run :: later ∧
      ∀ longer shorter, code ++ chars args rest = longer ++ shorter → s.MayTake longer →
        run.length < longer.length → firstWhole? rest shorter = none := by
  rw [coded.chars_cons] at found
  obtain ⟨run, left, later, whole, ok, follows, eq, others⟩ := (firstWhole?_slot slot).mp found
  refine ⟨run, left, later, whole, ?_, ok, follows, eq, others⟩
  obtain ⟨intended, reads⟩ := exists_firstWhole?_chars given valid
  by_contra shorter
  rw [others code (chars args rest) rfl coded.mayTake (by omega)] at reads
  cases reads

/-! ### Reading as written -/

/-- That segments are read from what is written for them in the parts that they were written in: no
capture or splat outside groups may take more than its code if the others are to follow, and the
literals and groups between two of them, tried in order of preference, first take their own text.
What comes after the last capture or splat is free. -/
inductive ReadsAsWritten (args : Args) : List Segment → Prop where
  | done {segments : List Segment} :
    (∀ s ∈ segments, s.name? = none) → ReadsAsWritten args segments
  | slot {s : Segment} {rest : List Segment} :
    s.name?.isSome →
      (∀ run left, chars args (s :: rest) = run ++ left → s.MayTake run →
        (∃ pieces, Consumes rest left pieces []) → (chars args rest).length ≤ left.length) →
      ReadsAsWritten args rest → ReadsAsWritten args (s :: rest)
  | between {part rest : List Segment} :
    (∀ s ∈ part, s.name? = none) →
      ((ways part (chars args (part ++ rest))).find? fun w =>
        (firstWhole? rest w.rest).isSome).map Way.rest = some (chars args rest) →
      ReadsAsWritten args rest → ReadsAsWritten args (part ++ rest)

theorem ReadsAsWritten.literal {text : String} (given : ∀ s ∈ rest, s.IsGiven args)
    (valid : UsedValid args rest) (reads : ReadsAsWritten args rest) :
    ReadsAsWritten args (.literal text :: rest) := by
  obtain ⟨pieces, found⟩ := exists_firstWhole?_chars given valid
  rw [← List.singleton_append]
  refine .between (by simp) ?_ reads
  rw [List.singleton_append, chars_literal, ways, Text.dropLeading?_eq_some_iff.mpr rfl]
  simp [ways, found]

/-- A run without a slash ends in front of the next slash. -/
theorem length_le_of_slash {code after run left : List Char} (cut : code ++ after = run ++ left)
    (stop : ∀ c ∈ after.head?, c = '/') (free : '/' ∉ run) : run.length ≤ code.length := by
  by_contra longer
  obtain ⟨more, rfl⟩ : code <+: run :=
    List.prefix_of_prefix_length_le ⟨_, rfl⟩ ⟨_, cut.symm⟩ (by omega)
  rw [List.append_assoc] at cut
  have next := List.append_cancel_left cut
  cases more with
  | nil => simp at longer
  | cons c others =>
    have slash : c = '/' := stop c (by rw [next]; rfl)
    exact free (by simp [slash])

/-- Delimited segments are read as written, whatever the values: a longer run for a capture would
have the slash in it that follows. -/
theorem readsAsWritten_of_isDelimited {segments : List Segment}
    (delimited : isDelimited segments = true) (given : ∀ s ∈ segments, s.IsGiven args)
    (valid : UsedValid args segments) : ReadsAsWritten args segments := by
  induction segments with
  | nil => exact .done (by simp)
  | cons s rest ih =>
    simp only [isDelimited, Bool.and_eq_true] at delimited
    obtain ⟨⟨-, precedes⟩, later⟩ := delimited
    obtain ⟨here, after⟩ := List.forall_mem_cons.mp given
    have reads := ih later after valid.tail
    cases s with
    | literal text => exact reads.literal after valid.tail
    | capture name constraint =>
      refine .slot rfl ?_ reads
      rintro run left cut ⟨-, free, -⟩ -
      obtain ⟨value, code, coded⟩ := exists_coded rfl here valid
      rw [coded.chars_cons] at cut
      have shorter := length_le_of_slash cut (head?_text_renderAll precedes later) free
      have lengths := congrArg List.length cut
      simp only [List.length_append] at lengths
      omega
    | splat name constraint =>
      obtain rfl := List.isEmpty_iff.mp precedes
      refine .slot rfl ?_ reads
      intro run left _ _ _
      exact Nat.zero_le _
    | optional inner =>
      obtain rfl := List.isEmpty_iff.mp precedes
      exact .done (by simp)

/-- That every capture and splat outside groups has its own value among the parameters of a way. -/
def Right (args : Args) (segments : List Segment) (pieces : List Piece) : Prop :=
  ∀ s ∈ segments, ∀ name, s.name? = some name → ∃ value, args.get? name = some value ∧
    (name, some value.joined) ∈ pieces.flatMap Piece.entries

/-! ### What comes back -/

theorem Right.cons {s : Segment} {piece : Piece} {pieces : List Piece}
    (here : ∀ name, s.name? = some name → ∃ value, args.get? name = some value ∧
      (name, some value.joined) ∈ piece.entries)
    (tail : Right args rest pieces) : Right args (s :: rest) (piece :: pieces) := by
  intro t ht name named
  rcases List.mem_cons.mp ht with rfl | inRest
  · obtain ⟨value, given, mem⟩ := here name named
    exact ⟨value, given, List.mem_append_left _ mem⟩
  · obtain ⟨value, given, mem⟩ := tail t inRest name named
    exact ⟨value, given, List.mem_append_right _ mem⟩

theorem Right.append {part : List Segment} {front pieces : List Piece}
    (anonymous : ∀ s ∈ part, s.name? = none) (tail : Right args rest pieces) :
    Right args (part ++ rest) (front ++ pieces) := by
  intro s hs name named
  rcases List.mem_append.mp hs with inPart | inRest
  · rw [anonymous s inPart] at named
    cases named
  · obtain ⟨value, given, mem⟩ := tail s inRest name named
    rw [List.flatMap_append]
    exact ⟨value, given, List.mem_append_right _ mem⟩

/-- Values come back where no capture or splat may take more than was written for it. -/
theorem right_of_readsAsWritten {segments : List Segment} (reads : ReadsAsWritten args segments)
    (given : ∀ s ∈ segments, s.IsGiven args) (valid : UsedValid args segments)
    {pieces : List Piece} (found : firstWhole? segments (chars args segments) = some pieces) :
    Right args segments pieces := by
  induction reads generalizing pieces with
  | done anonymous =>
    intro s hs name named
    rw [anonymous s hs] at named
    cases named
  | @slot s rest isSlot longest _ ih =>
    obtain ⟨name, slot⟩ := Option.isSome_iff_exists.mp isSlot
    obtain ⟨here, after⟩ := List.forall_mem_cons.mp given
    obtain ⟨value, code, coded⟩ := exists_coded slot here valid
    obtain ⟨run, left, later, whole, atLeast, ok, follows, rfl, -⟩ :=
      coded.exists_first slot after valid.tail found
    have atMost := longest run left ((coded.chars_cons rest).trans whole) ok
      ⟨later, consumes_of_firstWhole? follows⟩
    have same : code.length = run.length := by
      have lengths := congrArg List.length whole
      simp only [List.length_append] at lengths
      omega
    obtain ⟨rfl, rfl⟩ := List.append_inj whole same
    refine .cons ?_ (ih after valid.tail follows)
    rintro other named
    obtain rfl := Option.some.inj (slot.symm.trans named)
    exact ⟨value, coded.given, by simp [Piece.entries, coded.decode_eq]⟩
  | @between part rest anonymous first _ ih =>
    obtain ⟨w, choice, left⟩ := Option.map_eq_some_iff.mp first
    rw [firstWhole?_of_choice choice, left] at found
    obtain ⟨later, follows, rfl⟩ := Option.map_eq_some_iff.mp found
    exact .append anonymous
      (ih (fun s hs => given s (List.mem_append_right _ hs)) valid.of_append follows)

/-- That no group stands in front of a capture or splat. -/
def GroupsLast (segments : List Segment) : Prop :=
  segments.Pairwise fun s later => later.name?.isSome → ∀ inner, s ≠ .optional inner

theorem Right.tail {s : Segment} {piece : Piece} {pieces : List Piece}
    (right : Right args (s :: rest) (piece :: pieces))
    (apart : ∀ name ∈ piece.names, name ∉ namesOf rest) : Right args rest pieces := by
  intro t ht name named
  obtain ⟨value, given, mem⟩ := right t (List.mem_cons_of_mem _ ht) name named
  refine ⟨value, given, ?_⟩
  rcases List.mem_append.mp mem with here | later
  · have ofPiece : name ∈ [piece].flatMap Piece.names :=
      mem_names_of_mem_entries (List.mem_flatMap_of_mem List.mem_cons_self here)
    rw [List.flatMap_singleton] at ofPiece
    exact absurd (mem_namesOf_of_name? ht named) (apart name ofPiece)
  · exact later

/-- Where its value comes back, a capture or splat took just its code. -/
theorem Coded.eq_of_right {s : Segment} {name : String} {value : ArgValue}
    {code run left : List Char} {later : List Piece} (coded : Coded args s name value code)
    (slot : s.name? = some name) (whole : code ++ chars args rest = run ++ left)
    (atLeast : code.length ≤ run.length) (fresh : name ∉ later.flatMap Piece.names)
    (right : Right args (s :: rest) (.run name run :: later)) :
    run = code ∧ left = chars args rest := by
  have decoded : decode (String.ofList run) = value.joined := by
    obtain ⟨v, arg, mem⟩ := right s List.mem_cons_self name slot
    obtain rfl := Option.some.inj (coded.given.symm.trans arg)
    rcases List.mem_append.mp mem with own | other
    · rw [Piece.entries, List.mem_singleton] at own
      exact (Option.some.inj (Prod.mk.inj own).2).symm
    · exact absurd (mem_names_of_mem_entries other) fresh
  obtain ⟨more, rfl⟩ : code <+: run :=
    List.prefix_of_prefix_length_le ⟨_, rfl⟩ ⟨_, whole.symm⟩ atLeast
  obtain rfl := coded.eq_nil more decoded
  rw [List.append_nil] at whole ⊢
  exact ⟨rfl, (List.append_cancel_left whole).symm⟩

/-- Where no group stands in front of a capture or splat, values come back only if no capture or
splat may take more than was written for it. -/
theorem readsAsWritten_of_right {segments : List Segment} (groupsLast : GroupsLast segments)
    (given : ∀ s ∈ segments, s.IsGiven args) (valid : UsedValid args segments)
    (nodup : (namesOf segments).Nodup) {pieces : List Piece}
    (found : firstWhole? segments (chars args segments) = some pieces)
    (right : Right args segments pieces) : ReadsAsWritten args segments := by
  induction segments generalizing pieces with
  | nil => exact .done (by simp)
  | cons s rest ih =>
    obtain ⟨inFront, lastInRest⟩ := List.pairwise_cons.mp groupsLast
    obtain ⟨here, after⟩ := List.forall_mem_cons.mp given
    obtain ⟨-, nodupRest, apart⟩ := List.nodup_append.mp nodup
    cases named : s.name? with
    | some name =>
      obtain ⟨value, code, coded⟩ := exists_coded named here valid
      obtain ⟨run, left, later, whole, atLeast, ok, follows, rfl, others⟩ :=
        coded.exists_first named after valid.tail found
      have fresh : name ∉ later.flatMap Piece.names := by
        rw [(consumes_of_firstWhole? follows).names_eq]
        intro mem
        exact apart name (by simp [names_eq_of_name? named]) name mem rfl
      obtain ⟨rfl, rfl⟩ := coded.eq_of_right named whole atLeast fresh right
      have tail := right.tail fun n hn => by
        rw [List.mem_singleton.mp hn, ← (consumes_of_firstWhole? follows).names_eq]
        exact fresh
      refine .slot (by rw [named]; rfl) ?_ (ih lastInRest after valid.tail nodupRest follows tail)
      intro longer shorter cut taken consumes
      rw [coded.chars_cons] at cut
      by_contra less
      have lengths := congrArg List.length cut
      simp only [List.length_append] at lengths
      exact firstWhole?_eq_none_iff.mp (others longer shorter cut taken (by omega)) consumes
    | none =>
      cases s with
      | literal text =>
        rw [chars_literal, firstWhole?_literal] at found
        obtain ⟨later, follows, rfl⟩ := Option.map_eq_some_iff.mp found
        have tail := right.tail fun n hn => by cases hn
        exact (ih lastInRest after valid.tail nodupRest follows tail).literal after valid.tail
      | capture other constraint => cases named
      | splat other constraint => cases named
      | optional inner =>
        refine .done (List.forall_mem_cons.mpr ⟨rfl, fun t ht => ?_⟩)
        by_contra isSlot
        exact inFront t ht (Option.isSome_iff_ne_none.mpr isSlot) inner rfl

/-- That matching a path gives every capture and splat outside groups the value it has among the
arguments. -/
def Recovers (t : Template) (args : Args) (path : String) : Prop :=
  ∀ s ∈ t.segments, ∀ name, s.name? = some name → ∃ value, args.get? name = some value ∧
    (t.match? path).bind (fun params => params.value? name) = some value.joined

instance (t : Template) (args : Args) (path : String) : Decidable (Recovers t args path) :=
  decidable_of_iff
    (∀ s ∈ t.segments, ∀ name ∈ s.name?, ∃ value ∈ args.get? name,
      (t.match? path).bind (fun params => params.value? name) = some value.joined)
    Iff.rfl

theorem recovers_iff {t : Template} {path : String} {pieces : List Piece} (compiled : t.Compiled)
    (found : firstWhole? t.segments path.toList = some pieces) :
    Recovers t args path ↔ Right args t.segments pieces := by
  have distinct : ((pieces.flatMap Piece.entries).map Prod.fst).Nodup := by
    rw [keys_entries, (consumes_of_firstWhole? found).names_eq, ← compiled.names_eq]
    exact compiled.nodup
  have value_iff (name : String) (value : ArgValue) :
      (t.match? path).bind (fun params => params.value? name) = some value.joined ↔
        (name, some value.joined) ∈ pieces.flatMap Piece.entries := by
    rw [match?_eq_firstWhole? compiled, found, Option.map_some, Option.bind_some, Params.value?,
      Option.join_eq_some_iff]
    exact OrderedMap.get?_eq_some_iff distinct
  simp only [Recovers, Right, value_iff]

/-- An expansion with all captures and splats outside groups succeeds, and if all values that are
written satisfy their constraints its path matches. Every value outside groups comes back, whatever
the shape of the template, if no capture or splat outside groups could take more than was written
for it with the rest still taking all that is left; and only then, if no group stands in front of a
capture or splat. -/
theorem match?_expand_recovers {source : String} {constraints : List (String × String)}
    {t : Template} {args : Args} (compiled : compile source constraints = .ok t)
    (given : ∀ s ∈ t.segments, s.IsGiven args) :
    ∃ e, t.expand args = .ok e ∧
      (ConsumedValid t args e →
        (t.match? e.path).isSome ∧
        (ReadsAsWritten args t.segments → Recovers t args e.path) ∧
        (GroupsLast t.segments → Recovers t args e.path → ReadsAsWritten args t.segments)) := by
  have wellFormed := Compiled.of_compile compiled
  obtain ⟨e, expanded⟩ : ∃ e, t.expand args = .ok e := ⟨_, expand_of_given given⟩
  refine ⟨e, expanded, fun valid => ?_⟩
  have used := valid.usedValid expanded
  have written : e.path.toList = chars args t.segments := by rw [(of_expand expanded).2.1, chars]
  obtain ⟨pieces, found⟩ := exists_firstWhole?_chars given used
  have back := @recovers_iff args t e.path pieces wellFormed (written ▸ found)
  refine ⟨?_, ?_, ?_⟩
  · rw [match?_eq_firstWhole? wellFormed, written, found]
    rfl
  · intro reads
    exact back.mpr (right_of_readsAsWritten reads given used found)
  · intro groupsLast recovers
    exact readsAsWritten_of_right groupsLast given used (wellFormed.names_eq ▸ wellFormed.nodup)
      found (back.mp recovers)

/-- The name gives back one dot and keeps another, and the rest stands apart. -/
theorem match?_expand_recovers_archive :
    let t : Template :=
      ⟨"/:name.:kind(/*rest)",
        [.literal "/", .capture "name" none, .literal ".", .capture "kind" (some .alpha),
          .optional [.literal "/", .splat "rest" none]],
        ["name", "kind", "rest"]⟩
    let args : Args :=
      ⟨[("kind", .single "gz"), ("rest", .list ["a", "b.c"]), ("name", .single "é/1.tar")]⟩
    let e : Expansion := ⟨"/%C3%A9%2F1.tar.gz/a/b.c", {}⟩
    compile t.source [("kind", "alpha")] = .ok t ∧ (∀ s ∈ t.segments, s.IsGiven args) ∧
      t.expand args = .ok e ∧ ConsumedValid t args e ∧ (t.match? e.path).isSome ∧
      GroupsLast t.segments ∧ ReadsAsWritten args t.segments ∧ Recovers t args e.path := by
  intro t args e
  have compiled : compile t.source [("kind", "alpha")] = .ok t := by decide +kernel
  have given : ∀ s ∈ t.segments, s.IsGiven args := by decide
  have expanded : t.expand args = .ok e := rfl
  have valid : ConsumedValid t args e := of_decide_eq_true rfl
  have groupsLast : GroupsLast t.segments := by simp [GroupsLast, t]
  have recovers : Recovers t args e.path := by decide +kernel
  obtain ⟨_, again, follows⟩ := match?_expand_recovers compiled given
  obtain rfl := Except.ok.inj (expanded.symm.trans again)
  obtain ⟨matched, back, only⟩ := follows valid
  have reads := only groupsLast recovers
  exact ⟨compiled, given, expanded, valid, matched, groupsLast, reads, back reads⟩

/-- Of two captures side by side the first takes all it can, so `x` and `yz` come back as `xy` and
`z`; and a value in a group that its constraint refuses keeps the whole path from matching. -/
theorem match?_expand_adjacent :
    let t : Template :=
      ⟨"/:a:b", [.literal "/", .capture "a" none, .capture "b" none], ["a", "b"]⟩
    let args : Args := ⟨[("a", .single "x"), ("b", .single "yz")]⟩
    let u : Template :=
      ⟨"/:a(/:b)",
        [.literal "/", .capture "a" none, .optional [.literal "/", .capture "b" (some .int)]],
        ["a", "b"]⟩
    (compile t.source [] = .ok t ∧ (∀ s ∈ t.segments, s.IsGiven args) ∧
      t.expand args = .ok ⟨"/xyz", {}⟩ ∧ ConsumedValid t args ⟨"/xyz", {}⟩ ∧
      t.match? "/xyz" = some ⟨[("a", some "xy"), ("b", some "z")]⟩ ∧ ¬Recovers t args "/xyz") ∧
    compile u.source [("b", "int")] = .ok u ∧ (∀ s ∈ u.segments, s.IsGiven args) ∧
      u.expand args = .ok ⟨"/x/yz", {}⟩ ∧ u.match? "/x/yz" = none ∧ ¬Recovers u args "/x/yz" := by
  intro t args u
  have adjacent : ¬Recovers t args "/xyz" := by decide +kernel
  have refused : ¬Recovers u args "/x/yz" := by decide +kernel
  have valid : ConsumedValid t args ⟨"/xyz", {}⟩ := of_decide_eq_true rfl
  have unmatched : u.match? "/x/yz" = none := by decide +kernel
  exact ⟨⟨by decide +kernel, by decide, rfl, valid, by decide +kernel, adjacent⟩,
    by decide +kernel, by decide, rfl, unmatched, refused⟩

end PathRouting.Template
