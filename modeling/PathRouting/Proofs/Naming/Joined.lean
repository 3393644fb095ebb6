import Mathlib.Data.List.TakeWhile
import PathRouting.Proofs.Naming.RouteName

/-!
Names that are joined with slashes, and how they are spelled.

No pass of underscoring looks past a slash: it belongs to no word and to no scope, and it is neither
cased nor ignored where the end of a word is sought. So a joined name is spelled part by part. Main
statements: `join_cons_join` (joining in steps), `classify_intercalate` and `routeName_join`.
-/

namespace PathRouting.Naming

open PathRouting.Text PathRouting.Unicode

/-! ### Joining -/

/-- The parts that a join keeps: those that are present and not empty. -/
def kept (parts : List (Option String)) : List String :=
  (parts.filterMap id).filter fun part => !part.isEmpty

theorem join_eq (parts : List (Option String)) (sep : String) :
    join parts sep = sep.intercalate (kept parts) := rfl

theorem kept_cons (part : Option String) (parts : List (Option String)) :
    kept (part :: parts) = kept [part] ++ kept parts := by
  cases part with
  | none => rfl
  | some text => by_cases empty : text = "" <;> simp [kept, empty]

theorem kept_append (parts more : List (Option String)) :
    kept (parts ++ more) = kept parts ++ kept more := by
  simp [kept]

theorem kept_some {text : String} (filled : text ≠ "") : kept [some text] = [text] := by
  simp [kept, filled]

theorem ne_empty_of_mem_kept {parts : List (Option String)} {text : String}
    (mem : text ∈ kept parts) : text ≠ "" := by
  simpa using (List.mem_filter.mp mem).2

theorem intercalate_ne_empty {sep : String} {parts : List String} (nonempty : parts ≠ [])
    (filled : ∀ part ∈ parts, part ≠ "") : sep.intercalate parts ≠ "" := by
  obtain ⟨part, more, rfl⟩ := List.exists_cons_of_ne_nil nonempty
  have head := filled part List.mem_cons_self
  by_cases last : more = []
  · subst last
    simpa using head
  · rw [String.intercalate_cons_of_ne_nil last]
    simp [head]

@[simp] theorem join_none (parts : List (Option String)) (sep : String) :
    join (none :: parts) sep = join parts sep := rfl

@[simp] theorem join_some_empty (parts : List (Option String)) (sep : String) :
    join (some "" :: parts) sep = join parts sep := rfl

@[simp] theorem join_singleton (text sep : String) : join [some text] sep = text := by
  by_cases empty : text = ""
  · subst empty
    rfl
  · rw [join_eq, kept_some empty, String.intercalate_singleton]

theorem join_pair_empty (part : Option String) (sep : String) :
    join [part, some ""] sep = join [part] sep := by
  rw [join_eq, kept_cons, show kept [some ""] = [] from rfl, List.append_nil]
  rfl

/-- What a join keeps of another join is that join, unless it kept nothing. -/
theorem kept_some_join (parts : List (Option String)) (sep : String) :
    kept [some (join parts sep)] = if kept parts = [] then [] else [join parts sep] := by
  split
  · next nothing => rw [join_eq, nothing]; rfl
  · next something => exact kept_some (intercalate_ne_empty something fun _ => ne_empty_of_mem_kept)

/-- Parts may be joined in steps, from the inside out. -/
theorem join_cons_join (part : Option String) (parts : List (Option String)) (sep : String) :
    join [part, some (join parts sep)] sep = join (part :: parts) sep := by
  rw [join_eq, kept_cons, kept_some_join, join_eq (part :: parts), kept_cons part parts]
  by_cases nothing : kept parts = []
  · rw [if_pos nothing, nothing]
  · rw [if_neg nothing]
    by_cases first : kept [part] = []
    · simp [first, join_eq]
    · rw [String.intercalate_append_of_ne_nil first nothing,
        String.intercalate_append_of_ne_nil first (by simp), String.intercalate_singleton, join_eq]

/-- What the last part ends with is what the join ends with. -/
theorem join_append_end (parts : List (Option String)) {text : String} (filled : text ≠ "")
    (ending sep : String) :
    join (parts ++ [some (text ++ ending)]) sep = join (parts ++ [some text]) sep ++ ending := by
  have longer : text ++ ending ≠ "" := by simp [filled]
  rw [join_eq, join_eq, kept_append, kept_append, kept_some filled, kept_some longer]
  by_cases nothing : kept parts = []
  · simp [nothing]
  · rw [String.intercalate_append_of_ne_nil nothing (by simp),
      String.intercalate_append_of_ne_nil nothing (by simp)]
    simp [String.append_assoc]

theorem notMem_join {parts : List (Option String)} {sep : String} {c : Char}
    (between : c ∉ sep.toList) (free : ∀ part ∈ kept parts, c ∉ part.toList) :
    c ∉ (join parts sep).toList := by
  rw [join_eq]
  intro mem
  rcases Text.mem_intercalate mem with inside | ⟨part, member, inside⟩
  · exact between inside
  · exact free part member inside

/-! ### Passes of underscoring -/

theorem slashScopes_append (cs rest : List Char) :
    slashScopes (cs ++ '/' :: rest) = slashScopes cs ++ '/' :: slashScopes rest := by
  fun_induction slashScopes cs with
  | case1 more ih => simpa [slashScopes] using ih
  | case2 c more plain ih =>
    have apart : ∀ after, c = ':' → more ++ '/' :: rest = ':' :: after → False := by
      intro after colon eq
      cases more with
      | nil => cases eq
      | cons d more =>
        obtain ⟨rfl, -⟩ := List.cons.inj eq
        exact plain more colon rfl
    rw [List.cons_append, slashScopes.eq_2 _ _ apart, ih]
    rfl
  | case3 => simp [slashScopes]

/-- A rule for the ends of words that a slash keeps within its part: none ends at a slash, and a
slash that follows is as good as the end of the text. -/
structure KeepsApart (cut : Char → Char → Option Char → Bool) : Prop where
  before : ∀ c next, cut c '/' next = false
  after : ∀ d next, cut '/' d next = false
  next : ∀ c d, cut c d (some '/') = cut c d none

theorem keepsApart_acronymEnds : KeepsApart acronymEnds where
  before := by simp [acronymEnds]
  after := by
    have digit : isDecimalDigit '/' = false := by decide
    simp [acronymEnds, digit]
  next := by simp [acronymEnds]

theorem keepsApart_wordEnds : KeepsApart wordEnds where
  before := by simp [wordEnds]
  after := by
    have digit : isDecimalDigit '/' = false := by decide
    simp [wordEnds, digit]
  next := fun _ _ => rfl

theorem KeepsApart.breakWords_append {cut : Char → Char → Option Char → Bool}
    (h : KeepsApart cut) (cs rest : List Char) :
    breakWords cut (cs ++ '/' :: rest) = breakWords cut cs ++ '/' :: breakWords cut rest := by
  have slash : breakWords cut ('/' :: rest) = '/' :: breakWords cut rest := by
    cases rest with
    | nil => rfl
    | cons d rest => simp [breakWords, h.after]
  induction cs with
  | nil => exact slash
  | cons c cs ih =>
    cases cs with
    | nil => simpa [breakWords, h.before] using slash
    | cons d more =>
      have seen : cut c d (more ++ '/' :: rest).head? = cut c d more.head? := by
        cases more with
        | nil => exact h.next c d
        | cons e more => rfl
      simp only [List.cons_append] at ih ⊢
      rw [breakWords, seen, ih, breakWords]
      split
      · rfl
      · rfl

/-! ### Lower case -/

theorem meetsCased_append (cs rest : List Char) :
    meetsCased (cs ++ '/' :: rest) = meetsCased cs := by
  have stop : isCaseIgnorable '/' = false := by decide +kernel
  have plain : isCased '/' = false := by decide +kernel
  unfold meetsCased
  by_cases all : ∀ c ∈ cs, isCaseIgnorable c = true
  · rw [List.dropWhile_append_of_pos all, List.dropWhile_eq_nil_iff.mpr all,
      List.dropWhile_cons_of_neg (by simp [stop])]
    exact plain
  · obtain ⟨c, more, eq⟩ := List.exists_cons_of_ne_nil (mt List.dropWhile_eq_nil_iff.mp all)
    rw [List.dropWhile_append, eq]
    rfl

/-- What precedes a slash has no effect on the lower case of what follows it. -/
theorem lowerAfter_append_before (front before cs : List Char) :
    lowerAfter (front ++ '/' :: before) cs = lowerAfter front cs := by
  induction cs generalizing front with
  | nil => rfl
  | cons c cs ih =>
    have later := ih (c :: front)
    rw [List.cons_append] at later
    rw [lowerAfter_cons, lowerAfter_cons, later, lowerBetween, lowerBetween, meetsCased_append]

theorem lowerAfter_append (before cs rest : List Char) :
    lowerAfter before (cs ++ '/' :: rest) = lowerAfter before cs ++ '/' :: lowerText rest := by
  induction cs generalizing before with
  | nil =>
    have slash : lowerBetween before '/' rest = ['/'] := by
      rw [lowerBetween, if_neg (by decide)]
      decide +kernel
    rw [List.nil_append, lowerAfter_cons, slash]
    exact congrArg ('/' :: ·) (lowerAfter_append_before [] before rest)
  | cons c cs ih =>
    rw [List.cons_append, lowerAfter_cons, lowerAfter_cons, ih, List.append_assoc, lowerBetween,
      lowerBetween, meetsCased_append]

/-! ### Joined names -/

/-- Underscoring goes part by part. -/
theorem underscoreChars_append (cs rest : List Char) :
    underscoreChars (cs ++ '/' :: rest) = underscoreChars cs ++ '/' :: underscoreChars rest := by
  have slash : separator '/' = '/' := by decide
  unfold underscoreChars
  rw [slashScopes_append, keepsApart_acronymEnds.breakWords_append,
    keepsApart_wordEnds.breakWords_append, List.map_append, List.map_cons, slash]
  exact lowerAfter_append [] _ _

theorem classifyChars_append (cs rest : List Char) :
    classifyChars (cs ++ '/' :: rest) = classifyChars cs ++ [':', ':'] ++ classifyChars rest := by
  unfold classifyChars
  rw [underscoreChars_append, pieces_append, List.map_append]
  exact joinPieces_append (by simp [pieces_ne_nil]) (by simp [pieces_ne_nil])

theorem routeWords_append (cs rest : List Char) :
    routeWords (cs ++ '/' :: rest) = routeWords cs ++ routeWords rest := by
  have flat : flatChars (cs ++ '/' :: rest) = flatChars cs ++ '_' :: flatChars rest := by
    simp [flatChars, underscoreChars_append]
  rw [routeWords, flat, pieces_append, List.filter_append]
  rfl

/-- A name with parts is classified part by part, and `::` is put between them. -/
theorem classify_intercalate (parts : List String) :
    classify ("/".intercalate parts) = "::".intercalate (parts.map classify) := by
  induction parts with
  | nil => rfl
  | cons part more ih =>
    by_cases last : more = []
    · subst last
      simp
    · rw [String.intercalate_cons_of_ne_nil last, List.map_cons,
        String.intercalate_cons_of_ne_nil (by simpa using last), ← ih]
      simp [classify, classifyChars_append, ← String.toList_inj]

/-- The classified name of a join has the classified names of the parts that are kept. -/
theorem classify_join (parts : List (Option String)) :
    classify (join parts "/") = "::".intercalate ((kept parts).map classify) :=
  classify_intercalate (kept parts)

theorem ne_nil_of_mem_routeWords {cs word : List Char} (mem : word ∈ routeWords cs) :
    word ≠ [] := by
  simpa using (List.mem_filter.mp mem).2

/-- What a join keeps of a route name is that name, unless it has no words. -/
theorem kept_some_routeName (name : String) :
    kept [some (routeName name)] =
      if routeWords name.toList = [] then [] else [routeName name] := by
  split
  · next nothing =>
    rw [routeName, routeNameChars_eq, nothing]
    rfl
  · next something =>
    refine kept_some ?_
    rw [routeName, Ne, String.ofList_eq_empty_iff, routeNameChars_eq]
    exact joinPieces_ne_nil something fun _ => ne_nil_of_mem_routeWords

theorem routeName_empty : routeName "" = "" := by
  decide +kernel

theorem routeName_append (name rest : String) :
    routeName (name ++ "/" ++ rest) = join [some (routeName name), some (routeName rest)] "_" := by
  have words : routeName (name ++ "/" ++ rest) =
      String.ofList (joinPieces ['_'] (routeWords name.toList ++ routeWords rest.toList)) := by
    rw [← routeWords_append, ← routeNameChars_eq]
    simp [routeName]
  rw [words, join_eq, kept_cons, kept_some_routeName, kept_some_routeName]
  by_cases left : routeWords name.toList = []
  · by_cases right : routeWords rest.toList = []
    · simp [left, right, joinPieces]
    · simp [left, right, routeName, routeNameChars_eq]
  · by_cases right : routeWords rest.toList = []
    · simp [left, right, routeName, routeNameChars_eq]
    · rw [if_neg left, if_neg right, joinPieces_append left right]
      simp [routeName, routeNameChars_eq, ← String.toList_inj]

theorem routeName_join_pair (part : Option String) (rest : String) :
    routeName (join [part, some rest] "/") =
      join [part.map routeName, some (routeName rest)] "_" := by
  cases part with
  | none => rw [Option.map_none, join_none, join_none, join_singleton, join_singleton]
  | some text =>
    by_cases first : text = ""
    · subst first
      rw [Option.map_some, routeName_empty, join_some_empty, join_some_empty, join_singleton,
        join_singleton]
    · by_cases last : rest = ""
      · subst last
        rw [Option.map_some, routeName_empty, join_pair_empty, join_pair_empty, join_singleton,
          join_singleton]
      · have both : join [some text, some rest] "/" = text ++ "/" ++ rest := by
          rw [join_eq, kept_cons, kept_some first, kept_some last]
          simp [String.intercalate_cons_of_ne_nil]
        rw [both, routeName_append]
        rfl

/-- The route name of a join has the route names of its parts, without those that are empty. -/
theorem routeName_join (parts : List (Option String)) :
    routeName (join parts "/") = join (parts.map fun part => part.map routeName) "_" := by
  induction parts with
  | nil => exact routeName_empty
  | cons part parts ih =>
    rw [← join_cons_join, routeName_join_pair, ih, join_cons_join]
    rfl

end PathRouting.Naming
