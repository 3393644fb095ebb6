import PathRouting.Naming
import PathRouting.Proofs.Naming.LowerCase

/-!
Spellings that are final: what underscoring a name or naming a route has produced is not changed by
doing it again.

Each pass of underscoring leaves nothing behind for itself (no `::`, no capital, no blank or dash),
and no later pass brings that back. `Underscored` says what is left. `underscored_underscoreChars`
and `Underscored.underscoreChars_eq` tie it to the spelling, and `routeName_routeName` follows.
`IsRouteName` says what is left of a route name, and `spellings_settle` sums up.
-/

namespace PathRouting.Naming

open PathRouting.Text PathRouting.Unicode

/-! ### Scopes -/

/-- Two neighbours that are not the two colons of a scope. -/
def Apart (c d : Char) : Prop :=
  ¬(c = ':' ∧ d = ':')

theorem apart_left {c : Char} (h : c ≠ ':') (d : Char) : Apart c d :=
  fun both => h both.1

theorem apart_right {d : Char} (h : d ≠ ':') (c : Char) : Apart c d :=
  fun both => h both.2

theorem head?_slashScopes {cs : List Char} {d : Char} (head : d ∈ (slashScopes cs).head?) :
    d = '/' ∨ d ∈ cs.head? := by
  fun_cases slashScopes cs with
  | case1 rest => left; simpa [slashScopes, eq_comm] using head
  | case2 c rest plain => right; simpa [slashScopes, plain] using head
  | case3 => cases head

theorem isChain_slashScopes (cs : List Char) : (slashScopes cs).IsChain Apart := by
  fun_induction slashScopes cs with
  | case1 rest ih =>
    exact List.isChain_cons.mpr ⟨fun d _ => apart_left (by decide) d, ih⟩
  | case2 c rest plain ih =>
    refine List.isChain_cons.mpr ⟨?_, ih⟩
    intro d head
    rcases head?_slashScopes head with rfl | first
    · exact apart_right (by decide) c
    · rintro ⟨rfl, rfl⟩
      obtain ⟨more, rfl⟩ := List.head?_eq_some_iff.mp first
      exact plain more rfl rfl
  | case3 => exact List.isChain_nil

theorem slashScopes_eq_self {cs : List Char} (chain : cs.IsChain Apart) : slashScopes cs = cs := by
  fun_induction slashScopes cs with
  | case1 rest ih => exact absurd ⟨rfl, rfl⟩ (List.isChain_cons_cons.mp chain).1
  | case2 c rest _ ih => rw [ih chain.tail]
  | case3 => rfl

theorem isChain_of_notMem {cs : List Char} (free : ':' ∉ cs) : cs.IsChain Apart := by
  apply List.Pairwise.isChain
  apply List.pairwise_of_forall_mem_list
  intro c mem d _
  apply apart_left
  rintro rfl
  exact free mem

/-! ### Words -/

section Words

variable {cut : Char → Char → Option Char → Bool}

theorem head?_breakWords (cs : List Char) : (breakWords cut cs).head? = cs.head? := by
  fun_cases breakWords cut cs with
  | case1 c d rest asked => rfl
  | case2 c d rest asked => rfl
  | case3 => rfl

theorem isChain_breakWords {cs : List Char} (chain : cs.IsChain Apart) :
    (breakWords cut cs).IsChain Apart := by
  fun_induction breakWords cut cs with
  | case1 c d rest _ ih =>
    have tail := ih chain.tail
    have broken : ('_' :: breakWords cut (d :: rest)).IsChain Apart :=
      List.isChain_cons.mpr ⟨fun e _ => apart_left (by decide) e, tail⟩
    exact List.isChain_cons_cons.mpr ⟨apart_right (by decide) c, broken⟩
  | case2 c d rest _ ih =>
    refine List.isChain_cons.mpr ⟨?_, ih chain.tail⟩
    intro e head
    rw [head?_breakWords, List.head?_cons, Option.mem_some_iff] at head
    subst head
    exact (List.isChain_cons_cons.mp chain).1
  | case3 cs _ => exact chain

/-- Words end before capitals only, so a text without any is one word. -/
theorem breakWords_eq_self (capital : ∀ c d next, cut c d next = true → d.isUpper = true)
    {cs : List Char} (small : ∀ c ∈ cs, c.isUpper = false) : breakWords cut cs = cs := by
  fun_induction breakWords cut cs with
  | case1 c d rest asked ih =>
    have upper := capital c d _ asked
    rw [small d (by simp)] at upper
    cases upper
  | case2 c d rest _ ih => rw [ih fun e mem => small e (List.mem_cons_of_mem c mem)]
  | case3 cs _ => rfl

end Words

theorem isUpper_of_acronymEnds (c d : Char) (next : Option Char)
    (h : acronymEnds c d next = true) : d.isUpper = true := by
  simp only [acronymEnds, Bool.and_eq_true] at h
  exact h.1.2

theorem isUpper_of_wordEnds (c d : Char) (next : Option Char) (h : wordEnds c d next = true) :
    d.isUpper = true := by
  simp only [wordEnds, Bool.and_eq_true] at h
  exact h.2

/-! ### Single characters -/

/-- A character that underscoring leaves as it is, wherever it stands. -/
structure Plain (c : Char) : Prop where
  lowered : lowerChar c = [c]
  notBlank : isBlank c = false
  notDash : c ≠ '-'

theorem plain_of_isSmall {c : Char} (small : IsSmall c) : Plain c where
  lowered := small.lowered
  notBlank := small.notBlank
  notDash := by
    rintro rfl
    exact absurd small.letter (by decide)

theorem not_isUpper_of_plain {c : Char} (plain : Plain c) : c.isUpper = false := by
  rw [Bool.eq_false_iff]
  intro upper
  have below : c.toNat < 0x5b := by
    have bounds : 'A'.val ≤ c.val ∧ c.val ≤ 'Z'.val := of_decide_eq_true upper
    have high : c.toNat ≤ 0x5a := bounds.2
    omega
  have changed := char_of_table (P := fun c => c.isUpper = true → lowerChar c ≠ [c])
    (by decide +kernel) below
  exact changed upper plain.lowered

theorem separator_of_plain {c : Char} (plain : Plain c) : separator c = c := by
  simp [separator, plain.notBlank, plain.notDash]

theorem separator_eq_colon {c : Char} (h : separator c = ':') : c = ':' := by
  unfold separator at h
  split at h
  · exact absurd h (by decide)
  · exact h

/-- Blanks and dashes are gone once they were read as separators. -/
theorem notBlank_separator (c : Char) : isBlank (separator c) = false ∧ separator c ≠ '-' := by
  unfold separator
  split
  · decide
  · next other =>
    simp only [Bool.or_eq_true, decide_eq_true_eq, not_or, Bool.not_eq_true] at other
    exact other

/-! ### Underscored texts -/

/-- A text that underscoring leaves as it is. -/
structure Underscored (cs : List Char) : Prop where
  noScope : cs.IsChain Apart
  plain : ∀ c ∈ cs, Plain c

theorem underscored_underscoreChars (cs : List Char) : Underscored (underscoreChars cs) where
  noScope := by
    refine isChain_lowerAfter ?_ ?_ (List.isChain_map_of_isChain separator ?_
      (isChain_breakWords (isChain_breakWords (isChain_slashScopes cs))))
    · intro c d small
      refine apart_left ?_ d
      rintro rfl
      exact absurd small.letter (by decide)
    · intro c d small
      refine apart_right ?_ c
      rintro rfl
      exact absurd small.letter (by decide)
    · intro c d apart both
      exact apart ⟨separator_eq_colon both.1, separator_eq_colon both.2⟩
  plain := by
    intro d mem
    obtain ⟨lowered, source | small⟩ := mem_lowerText mem
    · obtain ⟨c, -, rfl⟩ := List.mem_map.mp source
      obtain ⟨notBlank, notDash⟩ := notBlank_separator c
      exact ⟨lowered, notBlank, notDash⟩
    · exact plain_of_isSmall small

theorem Underscored.underscoreChars_eq {cs : List Char} (h : Underscored cs) :
    underscoreChars cs = cs := by
  have small : ∀ c ∈ cs, c.isUpper = false := fun c mem => not_isUpper_of_plain (h.plain c mem)
  have same : cs.map separator = cs :=
    map_eq_self fun c mem => separator_of_plain (h.plain c mem)
  rw [underscoreChars, slashScopes_eq_self h.noScope,
    breakWords_eq_self isUpper_of_acronymEnds small, breakWords_eq_self isUpper_of_wordEnds small,
    same, lowerText_eq_self fun c mem => (h.plain c mem).lowered]

/-! ### Route names -/

/-- The underscored spelling with `_` for `/`. -/
def flatChars (cs : List Char) : List Char :=
  (underscoreChars cs).map fun c => if c = '/' then '_' else c

/-- The words of a route name. -/
def routeWords (cs : List Char) : List (List Char) :=
  (pieces '_' (flatChars cs)).filter fun word => !word.isEmpty

theorem routeNameChars_eq (cs : List Char) :
    routeNameChars cs = joinPieces ['_'] (routeWords cs) := rfl

theorem plain_underline : Plain '_' :=
  ⟨by decide +kernel, by decide, by decide⟩

theorem plain_of_mem_flatChars {cs : List Char} {d : Char} (mem : d ∈ flatChars cs) :
    Plain d ∧ d ≠ '/' := by
  obtain ⟨c, source, rfl⟩ := List.mem_map.mp mem
  split
  · exact ⟨plain_underline, by decide⟩
  · next other => exact ⟨(underscored_underscoreChars cs).plain c source, other⟩

theorem isChain_flatChars (cs : List Char) : (flatChars cs).IsChain Apart := by
  refine List.isChain_map_of_isChain _ ?_ (underscored_underscoreChars cs).noScope
  intro c d apart
  split
  · exact apart_left (by decide) _
  · split
    · exact apart_right (by decide) _
    · exact apart

theorem isChain_joinPieces {ps : List (List Char)} (chains : ∀ p ∈ ps, p.IsChain Apart) :
    (joinPieces ['_'] ps).IsChain Apart := by
  fun_induction joinPieces ['_'] ps with
  | case1 => exact List.isChain_nil
  | case2 p => exact chains p (by simp)
  | case3 p more _ ih =>
    have later := ih fun q mem => chains q (List.mem_cons_of_mem p mem)
    rw [List.append_assoc, List.singleton_append, List.isChain_append]
    refine ⟨chains p (by simp), ?_, ?_⟩
    · exact List.isChain_cons.mpr ⟨fun d _ => apart_left (by decide) d, later⟩
    · intro c _ d first
      rw [List.head?_cons, Option.mem_some_iff] at first
      subst first
      exact apart_right (by decide) c

theorem mem_routeNameChars {cs : List Char} {c : Char} (mem : c ∈ routeNameChars cs) :
    Plain c ∧ c ≠ '/' := by
  rcases mem_joinPieces mem with underline | ⟨word, member, inside⟩
  · rw [List.mem_singleton.mp underline]
    exact ⟨plain_underline, by decide⟩
  · have piece := (List.mem_filter.mp member).1
    exact plain_of_mem_flatChars ((infix_of_mem_pieces piece).subset inside)

theorem underscored_routeNameChars (cs : List Char) : Underscored (routeNameChars cs) where
  noScope := by
    refine isChain_joinPieces ?_
    intro word member
    obtain ⟨before, after, whole⟩ := infix_of_mem_pieces (List.mem_filter.mp member).1
    have chain : (before ++ word ++ after).IsChain Apart := whole ▸ isChain_flatChars cs
    exact chain.left_of_append.right_of_append
  plain := fun _ mem => (mem_routeNameChars mem).1

theorem flatChars_routeNameChars (cs : List Char) :
    flatChars (routeNameChars cs) = routeNameChars cs := by
  rw [flatChars, (underscored_routeNameChars cs).underscoreChars_eq]
  apply map_eq_self
  intro c mem
  exact if_neg (mem_routeNameChars mem).2

/-- The words of a route name are those that it was made of. -/
theorem routeWords_routeNameChars (cs : List Char) :
    routeWords (routeNameChars cs) = routeWords cs := by
  have filled : ∀ word ∈ routeWords cs, (!word.isEmpty) = true :=
    fun word member => (List.mem_filter.mp member).2
  have whole : ∀ word ∈ routeWords cs, '_' ∉ word :=
    fun word member => notMem_of_mem_pieces (List.mem_filter.mp member).1
  rw [routeWords, flatChars_routeNameChars, routeNameChars_eq]
  by_cases empty : routeWords cs = []
  · rw [empty]
    rfl
  · rw [pieces_joinPieces empty whole, List.filter_eq_self.mpr filled]

theorem routeName_routeName (name : String) : routeName (routeName name) = routeName name := by
  have same : routeNameChars (routeNameChars name.toList) = routeNameChars name.toList := by
    rw [routeNameChars_eq, routeWords_routeNameChars, ← routeNameChars_eq]
  rw [routeName, routeName, String.toList_ofList, same]

/-! ### The shape of route names -/

theorem not_scope_infix {cs : List Char} (chain : cs.IsChain Apart) : ¬[':', ':'] <:+: cs := by
  rintro ⟨before, after, rfl⟩
  have both := chain.left_of_append.right_of_append
  exact (List.isChain_cons_cons.mp both).1 ⟨rfl, rfl⟩

/-- Cut at its underscores, a route name has no empty piece, unless it is empty itself. -/
theorem notMem_pieces_routeNameChars {cs : List Char} (filled : routeNameChars cs ≠ []) :
    [] ∉ pieces '_' (routeNameChars cs) := by
  have nonempty : routeWords cs ≠ [] := by
    intro nothing
    apply filled
    rw [routeNameChars_eq, nothing]
    rfl
  have whole : ∀ word ∈ routeWords cs, '_' ∉ word :=
    fun word member => notMem_of_mem_pieces (List.mem_filter.mp member).1
  rw [routeNameChars_eq, pieces_joinPieces nonempty whole]
  intro empty
  exact absurd (List.mem_filter.mp empty).2 (by decide)

/-- What a route name looks like: none of the signs that names are written with is left, and
underscores stand between its words only. -/
structure IsRouteName (cs : List Char) : Prop where
  noSlash : '/' ∉ cs
  noScope : ¬[':', ':'] <:+: cs
  noDash : '-' ∉ cs
  noBlank : ∀ c ∈ cs, isBlank c = false
  noCapital : ∀ c ∈ cs, c.isUpper = false
  noDouble : ¬['_', '_'] <:+: cs
  noFirst : cs.head? ≠ some '_'
  noLast : cs.getLast? ≠ some '_'

theorem isRouteName_routeNameChars (cs : List Char) : IsRouteName (routeNameChars cs) where
  noSlash := fun mem => (mem_routeNameChars mem).2 rfl
  noScope := not_scope_infix (underscored_routeNameChars cs).noScope
  noDash := fun mem => (mem_routeNameChars mem).1.notDash rfl
  noBlank := fun _ mem => (mem_routeNameChars mem).1.notBlank
  noCapital := fun _ mem => not_isUpper_of_plain (mem_routeNameChars mem).1
  noDouble := by
    rintro ⟨before, after, eq⟩
    have filled : routeNameChars cs ≠ [] := by
      rw [← eq]
      simp
    apply notMem_pieces_routeNameChars filled
    rw [← eq, List.append_assoc, List.cons_append, pieces_append]
    simp [pieces]
  noFirst := by
    intro first
    obtain ⟨rest, eq⟩ := List.head?_eq_some_iff.mp first
    have filled : routeNameChars cs ≠ [] := by simp [eq]
    apply notMem_pieces_routeNameChars filled
    rw [eq]
    simp [pieces]
  noLast := by
    intro last
    obtain ⟨front, eq⟩ := List.getLast?_eq_some_iff.mp last
    have filled : routeNameChars cs ≠ [] := by simp [eq]
    apply notMem_pieces_routeNameChars filled
    rw [eq, pieces_append]
    simp [pieces]

/-- Spelled again, a name stays as it is: underscoring settles it, also for what it is classified
as, and so does naming a route, which leaves nothing but words with underscores between them. -/
theorem spellings_settle (name : String) :
    underscore (underscore name) = underscore name ∧
      routeName (routeName name) = routeName name ∧
      classify (underscore name) = classify name ∧ IsRouteName (routeName name).toList := by
  have settled : underscoreChars (underscoreChars name.toList) = underscoreChars name.toList :=
    (underscored_underscoreChars name.toList).underscoreChars_eq
  refine ⟨?_, routeName_routeName name, ?_, ?_⟩
  · rw [underscore, underscore, String.toList_ofList, settled]
  · rw [classify, classify, underscore, String.toList_ofList, classifyChars, settled]
    rfl
  · rw [routeName, String.toList_ofList]
    exact isRouteName_routeNameChars name.toList

end PathRouting.Naming
