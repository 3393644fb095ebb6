import Mathlib.Logic.Relation
import PathRouting.Proofs.Regex.Readers

/-!
What the readers of regular expressions leave of their text, and the steps of the machine without
its fuel.

Each reader leaves an end of the text that it is given. A step of the machine takes at least one
character besides, so the fuel that `Tree.read?` gives it is enough, and a run of the machine is a
sequence of steps.

Main statements: `State.shrinks_step?`, `State.run?_eq_some_iff`.
-/

namespace PathRouting.Regex

/-! ### Blanks and runs of characters -/

theorem dropVerbose_suffix (inComment : Bool) (cs : List Char) :
    dropVerbose inComment cs <:+ cs := by
  induction cs generalizing inComment with
  | nil => exact List.suffix_refl _
  | cons c rest ih =>
    rw [dropVerbose]
    split
    · exact (ih _).trans (List.suffix_cons ..)
    · split
      · exact (ih _).trans (List.suffix_cons ..)
      · split
        · exact (ih _).trans (List.suffix_cons ..)
        · exact List.suffix_refl _

namespace Flags

variable (flags : Flags)

theorem skip_suffix (cs : List Char) : flags.skip cs <:+ cs := by
  rw [skip]
  split
  · exact dropVerbose_suffix false cs
  · exact List.suffix_refl _

theorem span_suffix (p : Char → Bool) (fuel : Nat) (cs : List Char) :
    (flags.span p fuel cs).2 <:+ cs := by
  induction fuel generalizing cs with
  | zero => exact List.suffix_refl _
  | succ fuel ih =>
    cases cs with
    | nil => exact List.suffix_refl _
    | cons c rest =>
      rw [span]
      split
      · exact (ih _).trans ((flags.skip_suffix rest).trans (List.suffix_cons ..))
      · exact List.suffix_refl _

end Flags

/-- A reader leaves an end of the text. -/
def Shrinks {α : Type} (read : List Char → Option (α × List Char)) : Prop :=
  ∀ cs a rest, read cs = some (a, rest) → rest <:+ cs

namespace Flags

variable (flags : Flags)

theorem shrinks_take? (n : Nat) : Shrinks (flags.take? n) := by
  induction n with
  | zero =>
    rintro cs a rest ⟨⟩
    exact List.suffix_refl _
  | succ n ih =>
    intro cs a rest found
    cases cs with
    | nil => cases found
    | cons c more =>
      simp only [take?, Option.bind_eq_bind, Option.bind_eq_some_iff] at found
      obtain ⟨⟨inside, after⟩, taken, ⟨⟩⟩ := found
      exact (ih _ _ _ taken).trans ((flags.skip_suffix more).trans (List.suffix_cons ..))

theorem shrinks_braced? : Shrinks flags.braced? := by
  intro cs a rest found
  have spanned := (flags.span_suffix (· ≠ '\x7d') cs.length (flags.skip cs)).trans
    (flags.skip_suffix cs)
  unfold braced? at found
  split at found
  · rename_i inside brace after split
    cases found
    rw [split] at spanned
    exact (List.suffix_cons ..).trans spanned
  · cases found

theorem shrinks_hexAtom? (digits : Nat) : Shrinks (flags.hexAtom? digits) := by
  intro cs a rest found
  have skipped := flags.skip_suffix cs
  unfold hexAtom? at found
  split at found
  · rename_i opened brace
    simp only [Option.bind_eq_bind, Option.bind_eq_some_iff] at found
    obtain ⟨⟨inside, after⟩, taken, c, -, ⟨⟩⟩ := found
    rw [brace] at skipped
    exact (flags.shrinks_braced? _ _ _ taken).trans ((List.suffix_cons ..).trans skipped)
  · simp only [Option.bind_eq_bind, Option.bind_eq_some_iff] at found
    obtain ⟨⟨inside, after⟩, taken, c, -, ⟨⟩⟩ := found
    exact (flags.shrinks_take? _ _ _ _ taken).trans skipped

theorem shrinks_propertyAtom? (negated : Bool) : Shrinks (flags.propertyAtom? negated) := by
  intro cs a rest found
  have skipped := flags.skip_suffix cs
  unfold propertyAtom? at found
  split at found
  · cases found
  · rename_i opened brace
    simp only [Option.bind_eq_bind, Option.bind_eq_some_iff] at found
    obtain ⟨⟨inside, after⟩, taken, result⟩ := found
    have left : after = rest := by
      dsimp only at result
      split at result
      · cases result; rfl
      · split at result
        · cases result; rfl
        · split at result <;> (cases result; rfl)
    rw [brace] at skipped
    exact left ▸ (flags.shrinks_braced? _ _ _ taken).trans ((List.suffix_cons ..).trans skipped)
  · rename_i c more _ start
    split at found
    · cases found
    · cases found
      rw [start] at skipped
      exact (List.suffix_cons ..).trans skipped

theorem shrinks_wordEdge? : Shrinks flags.wordEdge? := by
  intro cs a rest found
  unfold wordEdge? at found
  grind [List.suffix_cons, List.IsSuffix.trans, skip_suffix, span_suffix]


theorem shrinks_escape? : Shrinks flags.escape? := by
  intro cs a rest found
  cases cs with
  | nil => cases found
  | cons c more =>
    suffices h : rest <:+ more from h.trans (List.suffix_cons ..)
    rcases flags.escape?_cons c more [] with
      ⟨n, same, -⟩ | ⟨negated, same, -⟩ | rfl | ⟨atom, same, -⟩
    · exact flags.shrinks_hexAtom? n _ _ _ (same ▸ found)
    · exact flags.shrinks_propertyAtom? negated _ _ _ (same ▸ found)
    · obtain ⟨⟨edge, after⟩, read, ⟨⟩⟩ := Option.map_eq_some_iff.1 found
      exact flags.shrinks_wordEdge? _ _ _ read
    · obtain ⟨_, -, ⟨⟩⟩ := Option.map_eq_some_iff.1 (same ▸ found)
      exact List.suffix_refl _

theorem shrinks_count? : Shrinks flags.count? := by
  intro cs n rest found
  simp only [count?, Option.bind_eq_bind, Option.bind_eq_some_iff] at found
  obtain ⟨count, digits, found⟩ := found
  split at found
  · cases found
    exact (List.dropWhile_suffix _).trans ((flags.span_suffix ..).trans (List.dropWhile_suffix _))
  · cases found

theorem closeCounts?_suffix {least low : Nat} {found : Nat × List Char} {most : Option Nat}
    {rest : List Char} (closed : closeCounts? least found = some (low, most, rest)) :
    rest <:+ found.2 := by
  unfold closeCounts? at closed
  split at closed
  · rename_i start
    split at closed
    · cases closed
      rw [start]
      exact List.suffix_cons ..
    · cases closed
  · cases closed

theorem upperCount?_suffix {least low : Nat} {cs rest : List Char} {most : Option Nat}
    (found : flags.upperCount? least cs = some (low, most, rest)) : rest <:+ cs := by
  refine List.IsSuffix.trans ?_ (flags.skip_suffix cs)
  unfold upperCount? at found
  split at found
  · rename_i start
    cases found
    rw [start]
    exact List.suffix_cons ..
  · obtain ⟨⟨high, left⟩, read, closed⟩ := Option.bind_eq_some_iff.1 found
    exact (closeCounts?_suffix closed).trans (flags.shrinks_count? _ _ _ read)

theorem counts?_suffix {cs rest : List Char} {least : Nat} {most : Option Nat}
    (found : flags.counts? cs = some (least, most, rest)) : rest <:+ cs := by
  obtain ⟨⟨low, left⟩, read, found⟩ := Option.bind_eq_some_iff.1 found
  refine List.IsSuffix.trans ?_ ((flags.shrinks_count? _ _ _ read).trans (flags.skip_suffix cs))
  dsimp only at found ⊢
  split at found
  · cases found
    exact List.suffix_cons ..
  · exact (flags.upperCount?_suffix found).trans (List.suffix_cons ..)
  · cases found

end Flags

theorem shrinks_groupName? : Shrinks groupName? := by
  intro cs name rest found
  have left := List.dropWhile_suffix (l := cs) (· ≠ '>')
  unfold groupName? at found
  grind [List.suffix_cons, List.IsSuffix.trans]

theorem readFlags?_suffix {flags after : Flags} {on : Bool} {seen letters cs rest : List Char}
    {stop : Char} (found : readFlags? flags on seen cs = some (after, letters, stop, rest)) :
    rest <:+ cs := by
  induction cs generalizing flags on seen with
  | nil => cases found
  | cons c more ih =>
    rw [readFlags?] at found
    grind [List.suffix_cons, List.IsSuffix.trans]

namespace State

variable (s : State)

theorem shrinks_openNamed? : Shrinks s.openNamed? := by
  intro cs next rest found
  obtain ⟨⟨name, after⟩, read, found⟩ := Option.bind_eq_some_iff.1 found
  split at found
  · cases found
  · cases found
    exact shrinks_groupName? _ _ _ read

theorem shrinks_openFlags? : Shrinks s.openFlags? := by
  intro cs next rest found
  obtain ⟨⟨flags, seen, stop, after⟩, read, found⟩ := Option.bind_eq_some_iff.1 found
  have left := readFlags?_suffix read
  split at found
  · cases found
    exact left
  · split at found
    · cases found
    · cases found
      exact left

theorem shrinks_openMarked? : Shrinks s.openMarked? := by
  intro cs next rest found
  unfold openMarked? at found
  split at found
  · cases found
  · cases found
  · cases found
  · cases found
  · exact (s.shrinks_openNamed? _ _ _ found).trans
      ((List.suffix_cons ..).trans (List.suffix_cons ..))
  · exact (s.shrinks_openNamed? _ _ _ found).trans (List.suffix_cons ..)
  · exact s.shrinks_openFlags? _ _ _ found

theorem shrinks_openGroup? : Shrinks s.openGroup? := by
  intro cs next rest found
  have skipped := s.flags.skip_suffix cs
  rw [openGroup?_eq] at found
  generalize s.flags.skip cs = start at skipped found
  split at found
  · exact (s.shrinks_openMarked? _ _ _ found).trans ((List.suffix_cons ..).trans skipped)
  · cases found
    exact skipped

end State

theorem asciiClass?_suffix {cs rest : List Char} {cls : AsciiClass} {negated : Bool}
    (found : asciiClass? cs = some (cls, negated, rest)) : rest <:+ cs := by
  unfold asciiClass? at found
  split at found
  · rename_i body
    split at found
    rename_i start negated name split
    have begun : name <:+ body := by
      split at split <;> cases split
      · exact List.suffix_cons ..
      · exact List.suffix_refl _
    split at found
    · rename_i after closed
      obtain ⟨_, -, ⟨⟩⟩ := Option.map_eq_some_iff.1 found
      have left := List.dropWhile_suffix (l := name) (· ≠ ':')
      rw [closed] at left
      exact (List.suffix_cons ..).trans
        ((List.suffix_cons ..).trans (left.trans (begun.trans (List.suffix_cons ..))))
    · cases found
  · cases found

namespace Flags

variable (flags : Flags)

theorem shrinks_bracketSign? : Shrinks flags.bracketSign? := by
  intro cs negated start found
  have skipped := flags.skip_suffix cs
  unfold bracketSign? at found
  split at found
  · cases found
  · rename_i more sign
    cases found
    rw [sign] at skipped
    exact (flags.skip_suffix more).trans ((List.suffix_cons ..).trans skipped)
  · cases found
    exact skipped

theorem shrinks_bracketHead? (negated : Bool) : Shrinks (flags.bracketHead? negated) := by
  intro cs bracket rest found
  have dashed := flags.span_suffix (· = '-') cs.length cs
  unfold bracketHead? at found
  dsimp only at found
  split at found
  · cases found
  · rename_i more closed
    rw [closed] at dashed
    have begun := (flags.skip_suffix more).trans (List.suffix_cons ']' more)
    grind [List.IsSuffix.trans]
  · cases found
    exact dashed

theorem shrinks_openBracket? : Shrinks flags.openBracket? := by
  intro cs bracket rest found
  rw [openBracket?_eq, Option.bind_eq_some_iff] at found
  obtain ⟨⟨negated, start⟩, begun, found⟩ := found
  exact (flags.shrinks_bracketHead? negated _ _ _ found).trans
    (flags.shrinks_bracketSign? _ _ _ begun)

theorem shrinks_bracketAtom? : Shrinks flags.bracketAtom? := by
  intro cs atom rest found
  unfold bracketAtom? at found
  split at found
  · cases found
  · exact (flags.shrinks_escape? _ _ _ found).trans (List.suffix_cons ..)
  · cases found
    exact List.suffix_cons ..

theorem shrinks_partFrom? (first : Atom) : Shrinks (flags.partFrom? first) := by
  intro cs set rest found
  have skipped := flags.skip_suffix cs
  unfold partFrom? at found
  split at found
  · cases found
  · rename_i more dash
    rw [dash] at skipped
    split at found
    · obtain ⟨_, -, ⟨⟩⟩ := Option.bind_eq_some_iff.1 found
      exact skipped
    · simp only [rangeTo?, Option.bind_eq_some_iff] at found
      obtain ⟨⟨last, after⟩, ended, low, -, high, -, found⟩ := found
      have ended := (flags.shrinks_bracketAtom? _ _ _ ended).trans (flags.skip_suffix more)
      grind [List.suffix_cons, List.IsSuffix.trans]
  · obtain ⟨_, -, ⟨⟩⟩ := Option.bind_eq_some_iff.1 found
    exact skipped

theorem shrinks_bracketPart? : Shrinks flags.bracketPart? := by
  intro cs set rest found
  rw [bracketPart?_eq] at found
  obtain ⟨⟨first, left⟩, read, found⟩ := Option.bind_eq_some_iff.1 found
  exact (flags.shrinks_partFrom? _ _ _ _ found).trans (flags.shrinks_bracketAtom? _ _ _ read)

theorem bracketPart?_length_lt {cs rest : List Char} {set : CharSet}
    (found : flags.bracketPart? cs = some (set, rest)) : rest.length < cs.length := by
  rw [bracketPart?_eq] at found
  obtain ⟨⟨first, left⟩, read, found⟩ := Option.bind_eq_some_iff.1 found
  have after : rest.length ≤ left.length := (flags.shrinks_partFrom? _ _ _ _ found).length_le
  cases cs with
  | nil => cases read
  | cons c more =>
    have taken : left <:+ more := by
      unfold bracketAtom? at read
      split at read
      · cases read
      · rename_i start
        cases start
        exact flags.shrinks_escape? _ _ _ read
      · rename_i start
        cases start
        cases read
        exact List.suffix_refl _
    have := taken.length_le
    simp only [List.length_cons]
    omega

theorem operator?_length_lt {cs rest : List Char} {op : ClassOp}
    (found : operator? cs = some (op, rest)) : rest.length < cs.length := by
  unfold operator? at found
  split at found <;> cases found <;> (simp only [List.length_cons]; omega)

theorem readBrackets?_suffix {fuel : Nat} {b : OpenBracket} {outer : List OpenBracket}
    {cs rest : List Char} {set : CharSet}
    (found : flags.readBrackets? fuel b outer cs = some (set, rest)) : rest <:+ cs := by
  induction fuel generalizing b outer cs with
  | zero => cases found
  | succ fuel ih =>
    refine List.IsSuffix.trans ?_ (flags.skip_suffix cs)
    rw [readBrackets?] at found
    generalize flags.skip cs = start at found ⊢
    split at found
    · cases found
    · split at found
      · rename_i named
        obtain ⟨_, -, found⟩ := Option.bind_eq_some_iff.1 found
        exact (ih found).trans ((asciiClass?_suffix named).trans (List.suffix_cons ..))
      · obtain ⟨⟨inner, after⟩, opened, found⟩ := Option.bind_eq_some_iff.1 found
        exact (ih found).trans
          ((flags.shrinks_openBracket? _ _ _ opened).trans (List.suffix_cons ..))
    · obtain ⟨_, -, found⟩ := Option.bind_eq_some_iff.1 found
      split at found
      · cases found
        exact List.suffix_cons ..
      · exact (ih found).trans (List.suffix_cons ..)
    · exact (ih found).trans ((List.suffix_cons ..).trans (List.suffix_cons ..))
    · exact (ih found).trans ((List.suffix_cons ..).trans (List.suffix_cons ..))
    · exact (ih found).trans ((List.suffix_cons ..).trans (List.suffix_cons ..))
    · obtain ⟨⟨part, after⟩, read, found⟩ := Option.bind_eq_some_iff.1 found
      exact (ih found).trans (flags.shrinks_bracketPart? _ _ _ read)

/-- Without a closing bracket there is no set. -/
theorem readBrackets?_eq_none {fuel : Nat} {b : OpenBracket} {outer : List OpenBracket}
    {cs : List Char} (unclosed : ']' ∉ cs) : flags.readBrackets? fuel b outer cs = none := by
  induction fuel generalizing b outer cs with
  | zero => rfl
  | succ fuel ih =>
    have within : ∀ {rest}, rest <:+ flags.skip cs → ']' ∉ rest := fun left inside =>
      unclosed (((left.trans (flags.skip_suffix cs)).subset) inside)
    rw [readBrackets?]
    generalize flags.skip cs = start at within ⊢
    split
    · rfl
    · split
      · rename_i named
        rw [Option.bind_eq_bind, Option.bind_eq_none_iff]
        exact fun set _ => ih (within ((asciiClass?_suffix named).trans (List.suffix_cons ..)))
      · rw [Option.bind_eq_bind, Option.bind_eq_none_iff]
        exact fun found opened => ih (within
          ((flags.shrinks_openBracket? _ _ _ opened).trans (List.suffix_cons ..)))
    · exact absurd (List.mem_cons_self ..) (within (List.suffix_refl _))
    · exact ih (within ((List.suffix_cons ..).trans (List.suffix_cons ..)))
    · exact ih (within ((List.suffix_cons ..).trans (List.suffix_cons ..)))
    · exact ih (within ((List.suffix_cons ..).trans (List.suffix_cons ..)))
    · rw [Option.bind_eq_bind, Option.bind_eq_none_iff]
      exact fun found read => ih (within (flags.shrinks_bracketPart? _ _ _ read))

theorem shrinks_bracketSet? : Shrinks flags.bracketSet? := by
  intro cs set rest found
  obtain ⟨⟨b, left⟩, opened, found⟩ := Option.bind_eq_some_iff.1 found
  exact (flags.readBrackets?_suffix found).trans (flags.shrinks_openBracket? _ _ _ opened)

end Flags

theorem dropLazy_suffix (cs : List Char) : dropLazy cs <:+ cs := by
  unfold dropLazy
  split
  · exact List.suffix_cons ..
  · exact List.suffix_refl _

theorem State.shrinks_step? (s : State) (c : Char) : Shrinks (s.step? c) := by
  intro cs next rest found
  unfold step? at found
  split at found
  · exact s.shrinks_openGroup? _ _ _ found
  · obtain ⟨_, -, ⟨⟩⟩ := Option.map_eq_some_iff.1 found
    exact List.suffix_refl _
  · cases found
    exact List.suffix_refl _
  · obtain ⟨⟨set, after⟩, read, ⟨⟩⟩ := Option.map_eq_some_iff.1 found
    exact s.flags.shrinks_bracketSet? _ _ _ read
  · obtain ⟨_, -, ⟨⟩⟩ := Option.map_eq_some_iff.1 found
    exact dropLazy_suffix cs
  · obtain ⟨_, -, ⟨⟩⟩ := Option.map_eq_some_iff.1 found
    exact dropLazy_suffix cs
  · obtain ⟨_, -, ⟨⟩⟩ := Option.map_eq_some_iff.1 found
    exact dropLazy_suffix cs
  · obtain ⟨⟨least, most, after⟩, read, found⟩ := Option.bind_eq_some_iff.1 found
    obtain ⟨next, -, ⟨⟩⟩ := Option.bind_eq_some_iff.1 found
    exact (dropLazy_suffix _).trans
      ((s.flags.skip_suffix after).trans (s.flags.counts?_suffix read))
  · obtain ⟨⟨atom, after⟩, read, found⟩ := Option.bind_eq_some_iff.1 found
    obtain ⟨part, -, ⟨⟩⟩ := Option.bind_eq_some_iff.1 found
    exact s.flags.shrinks_escape? _ _ _ read
  · obtain ⟨_, -, ⟨⟩⟩ := Option.map_eq_some_iff.1 found
    exact List.suffix_refl _
  · cases found
    exact List.suffix_refl _
  · cases found
    exact List.suffix_refl _
  · obtain ⟨_, -, ⟨⟩⟩ := Option.map_eq_some_iff.1 found
    exact List.suffix_refl _

/-! ### Steps of the machine -/

namespace State

/-- The machine reads one item: it passes over blanks and comments and takes the next character with
what belongs to it. -/
def Step (now next : State × List Char) : Prop :=
  ∃ c rest, now.1.flags.skip now.2 = c :: rest ∧ now.1.step? c rest = some next

/-- The machine reads some items. -/
abbrev Steps : State × List Char → State × List Char → Prop :=
  Relation.ReflTransGen Step

theorem Step.length_lt {now next : State × List Char} (step : Step now next) :
    next.2.length < now.2.length := by
  obtain ⟨c, rest, start, read⟩ := step
  have left := (now.1.shrinks_step? c _ _ _ read).length_le
  have skipped := (now.1.flags.skip_suffix now.2).length_le
  rw [start, List.length_cons] at skipped
  omega

/-- What the machine reads next is determined. -/
theorem Step.unique {now next other : State × List Char} (one : Step now next)
    (two : Step now other) : next = other := by
  obtain ⟨c, rest, start, read⟩ := one
  obtain ⟨d, more, start', read'⟩ := two
  cases start.symm.trans start'
  exact Option.some.inj (read.symm.trans read')

/-- Given more fuel than there are characters, the machine goes on to the end of the text or to the
first character that it refuses. -/
theorem run?_eq_some_iff {fuel : Nat} {s t : State} {cs : List Char} (enough : cs.length < fuel) :
    run? fuel s cs = some t ↔ ∃ rest, Steps (s, cs) (t, rest) ∧ t.flags.skip rest = [] := by
  induction fuel generalizing s cs with
  | zero => omega
  | succ fuel ih =>
    rw [run?]
    split
    · rename_i finished
      constructor
      · rintro ⟨⟩
        exact ⟨cs, .refl, finished⟩
      · rintro ⟨rest, steps, -⟩
        rcases Relation.ReflTransGen.cases_head steps with same | ⟨next, ⟨c, more, start, -⟩, -⟩
        · cases same
          rfl
        · exact absurd (finished.symm.trans start) (by simp)
    · rename_i c more start
      split
      · rename_i next after read
        have step : Step (s, cs) (next, after) := ⟨c, more, start, read⟩
        have shorter := step.length_lt
        rw [ih (by simp only at shorter; omega)]
        constructor
        · rintro ⟨rest, steps, finished⟩
          exact ⟨rest, .head step steps, finished⟩
        · rintro ⟨rest, steps, finished⟩
          rcases Relation.ReflTransGen.cases_head steps with same | ⟨other, first, steps⟩
          · cases same
            exact absurd (start.symm.trans finished) (by simp)
          · cases step.unique first
            exact ⟨rest, steps, finished⟩
      · rename_i refused
        refine iff_of_false (by simp) ?_
        rintro ⟨rest, steps, finished⟩
        rcases Relation.ReflTransGen.cases_head steps with same | ⟨other, ⟨d, left, again, read⟩, -⟩
        · cases same
          exact absurd (start.symm.trans finished) (by simp)
        · cases start.symm.trans again
          rw [refused] at read
          cases read

end State

/-- A text writes a tree if the machine reads it to its end and leaves no group open. -/
theorem Tree.read?_eq_some_iff {cs : List Char} {tree : Tree} :
    Tree.read? cs = some tree ↔ ∃ s rest, State.Steps ({}, cs) (s, rest) ∧
      s.flags.skip rest = [] ∧ s.outer = [] ∧ s.branches.tree = tree := by
  simp only [Tree.read?, Option.bind_eq_bind, Option.bind_eq_some_iff,
    State.run?_eq_some_iff (Nat.lt_succ_self cs.length), List.isEmpty_iff]
  constructor
  · rintro ⟨s, ⟨rest, steps, finished⟩, found⟩
    split at found
    · rename_i closed
      exact ⟨s, rest, steps, finished, closed, Option.some.inj found⟩
    · cases found
  · rintro ⟨s, rest, steps, finished, closed, rfl⟩
    exact ⟨s, ⟨rest, steps, finished⟩, if_pos closed⟩

end PathRouting.Regex
