import PathRouting.Proofs.Regex.ExtendedBrackets

/-!
Reading an expression between `^(?:` and `)$`. The machine does not see the groups that are open
underneath the one that it reads, so it goes through the wrapped expression as through the
expression alone, one step at a time, until it comes to the closing.

There are two ways in which this fails. An expression may close the wrapper itself (`Strays`), and
it may end in a comment, which hides the closing.

Main statements: `State.step?_extended`, `State.through_or_hidden`, `State.through_of_steps`,
`Tree.read?_anchored_iff`.
-/

namespace PathRouting.Regex

namespace Flags

variable (flags : Flags)

theorem skip_brace (cs : List Char) : flags.skip ('\x7b' :: cs) = '\x7b' :: cs := by
  simp only [skip]
  split
  · rfl
  · rfl

theorem count?_closing : flags.count? closing = none := by
  have digit : Char.isDigit ')' = false := rfl
  have blank : Unicode.isBlank ')' = false := rfl
  simp [count?, closing, blank, span, digit, Text.readDigits?]

end Flags

namespace State

variable (s : State)

/-! ### One step -/

/-- A step reads the extended text as it reads the text, unless an edge of a word stands before a
brace with nothing in it but blanks: there the text is refused, and the extended one is read up to
the brace, where it is refused as well. -/
theorem step?_extended (c : Char) {cs cs' : List Char} (h : Extended cs cs') :
    Agree ['$'] (s.step? c cs) (s.step? c cs') ∨
      s.step? c cs = none ∧ ∃ next more,
        s.step? c cs' = some (next, '\x7b' :: more) ∧ next.flags.skip more = closing := by
  have repeated : ∀ least most, Agree ['$']
      ((s.repeatLast? least most).map fun next => (next, dropLazy cs))
      ((s.repeatLast? least most).map fun next => (next, dropLazy cs')) := by
    intro least most
    cases s.repeatLast? least most with
    | none => exact .nothing
    | some next => exact .found next (dropLazy_extended h)
  have plain : ∀ next : Option State, Agree ['$'] (next.map fun next => (next, cs))
      (next.map fun next => (next, cs')) := by
    intro next
    cases next with
    | none => exact .nothing
    | some next => exact .found next h
  have part : ∀ part : Option Tree, Agree ['$'] (part.map fun part => (s.add part, cs))
      (part.map fun part => (s.add part, cs')) := by
    intro part
    cases part with
    | none => exact .nothing
    | some part => exact .found (s.add part) h
  unfold step?
  split
  · exact .inl (s.steady_openGroup? _ _ h)
  · exact .inl (plain _)
  · exact .inl (.found _ h)
  · left
    have read := s.flags.bracketSet?_extended h
    generalize s.flags.bracketSet? cs = x at read ⊢
    generalize s.flags.bracketSet? cs' = x' at read ⊢
    cases read with
    | @some found found' same =>
      obtain ⟨set, rest⟩ := found
      obtain ⟨_, rest'⟩ := found'
      obtain ⟨rfl, left⟩ := same
      exact .found _ left
    | none => exact .nothing
  · exact .inl (repeated _ _)
  · exact .inl (repeated _ _)
  · exact .inl (repeated _ _)
  · left
    have read := s.flags.counts?_extended h
    generalize s.flags.counts? cs = x at read ⊢
    generalize s.flags.counts? cs' = x' at read ⊢
    cases read with
    | @some found found' same =>
      obtain ⟨least, most, rest⟩ := found
      obtain ⟨_, _, rest'⟩ := found'
      obtain ⟨rfl, rfl, left⟩ := same
      simp only [Option.bind_eq_bind, Option.bind_some]
      cases s.repeatLast? least most with
      | none => exact .nothing
      | some next => exact .found next (dropLazy_extended (s.flags.skip_extended left))
    | none => exact .nothing
  · rcases s.flags.escape?_extended h with agree | ⟨alone, look, more, found, stuck⟩
    · exact .inl (agree.bind_value s.flags.part? s.add)
    · right
      rw [alone, found]
      exact ⟨rfl, s.add (.look look), more, rfl, stuck⟩
  · exact .inl (part _)
  · exact .inl (.found _ h)
  · exact .inl (.found _ h)
  · exact .inl (part _)

/-- The state with more open groups outside of those that it has. -/
def below (under : List OpenGroup) : State := { s with outer := s.outer ++ under }

section Below

variable (under : List OpenGroup)

theorem below_nil : s.below [] = s := by
  simp [below]

theorem openNamed?_below (cs : List Char) : (s.below under).openNamed? cs =
    (s.openNamed? cs).map fun found => (found.1.below under, found.2) := by
  unfold openNamed?
  cases groupName? cs with
  | none => rfl
  | some found =>
    simp only [Option.bind_some]
    rw [apply_ite (Option.map _)]
    rfl

theorem openFlags?_below (cs : List Char) : (s.below under).openFlags? cs =
    (s.openFlags? cs).map fun found => (found.1.below under, found.2) := by
  unfold openFlags?
  simp only [show (s.below under).flags = s.flags from rfl]
  cases readFlags? s.flags true [] cs with
  | none => rfl
  | some found =>
    simp only [Option.bind_some]
    rw [apply_ite (Option.map _), apply_ite (Option.map _)]
    rfl

theorem openMarked?_below (cs : List Char) : (s.below under).openMarked? cs =
    (s.openMarked? cs).map fun found => (found.1.below under, found.2) := by
  unfold openMarked?
  split
  · rfl
  · rfl
  · rfl
  · rfl
  · exact s.openNamed?_below under _
  · exact s.openNamed?_below under _
  · exact s.openFlags?_below under _

theorem openGroup?_below (cs : List Char) : (s.below under).openGroup? cs =
    (s.openGroup? cs).map fun found => (found.1.below under, found.2) := by
  rw [openGroup?_eq, openGroup?_eq]
  simp only [show (s.below under).flags = s.flags from rfl]
  split
  · exact s.openMarked?_below under _
  · rfl

theorem repeatLast?_below (least : Nat) (most : Option Nat) :
    (s.below under).repeatLast? least most =
      (s.repeatLast? least most).map (·.below under) := by
  unfold repeatLast?
  simp only [show (s.below under).branches = s.branches from rfl]
  split
  · rfl
  · rfl
  · rfl

/-- A step does not see the groups that stay open underneath, unless it closes one of them. -/
theorem step?_below (c : Char) (cs : List Char) (inside : c = ')' → s.outer ≠ []) :
    (s.below under).step? c cs =
      (s.step? c cs).map fun found => (found.1.below under, found.2) := by
  unfold step?
  simp only [show (s.below under).flags = s.flags from rfl, repeatLast?_below]
  split
  · exact s.openGroup?_below under cs
  · obtain ⟨g, outer, opened⟩ := List.exists_cons_of_ne_nil (inside rfl)
    simp [closeGroup?, below, opened]
  · rfl
  · cases s.flags.bracketSet? cs <;> rfl
  · cases s.repeatLast? 0 (some 1) <;> rfl
  · cases s.repeatLast? 0 none <;> rfl
  · cases s.repeatLast? 1 none <;> rfl
  · cases s.flags.counts? cs with
    | none => rfl
    | some found =>
      simp only [Option.bind_eq_bind, Option.bind_some]
      cases s.repeatLast? found.1 found.2.1 <;> rfl
  · cases s.flags.escape? cs with
    | none => rfl
    | some found =>
      simp only [Option.bind_eq_bind, Option.bind_some]
      cases s.flags.part? found.1 <;> rfl
  · cases s.flags.dot? <;> rfl
  · rfl
  · rfl
  · cases s.flags.part? _ <;> rfl

end Below

/-! ### Runs -/

/-- A parenthesis is read only where a group is open. -/
theorem outer_ne_nil_of_step? {s : State} {c : Char} {cs : List Char} {found : State × List Char}
    (read : s.step? c cs = some found) (paren : c = ')') : s.outer ≠ [] := by
  intro closed
  subst paren
  simp [step?, closeGroup?, closed] at read

/-- What is read in the text is read in the extended text, whatever groups are open underneath. -/
theorem Step.extend {s t : State} {cs cs' r : List Char} (step : Step (s, cs) (t, r))
    (h : Extended cs cs') :
    ∃ r', Extended r r' ∧ ∀ under, Step (s.below under, cs') (t.below under, r') := by
  obtain ⟨c, rest, start, read⟩ := step
  have skipped := s.flags.skip_extended h
  simp only at start read
  rw [start] at skipped
  generalize start' : s.flags.skip cs' = more at skipped
  cases skipped with
  | @cons _ _ rest' left =>
    have agree := s.step?_extended c left
    rw [read] at agree
    generalize read' : s.step? c rest' = found at agree
    rcases agree with agree | ⟨alone, -⟩
    · cases agree with
      | @found _ _ r' left =>
        refine ⟨r', left, fun under => ⟨c, rest', start', ?_⟩⟩
        rw [s.step?_below under c rest' (outer_ne_nil_of_step? read), read']
        rfl
    · cases alone

theorem Steps.extend {s t : State} {cs cs' r : List Char} (steps : Steps (s, cs) (t, r))
    (h : Extended cs cs') :
    ∃ r', Extended r r' ∧ ∀ under, Steps (s.below under, cs') (t.below under, r') := by
  generalize same : (s, cs) = now at steps
  induction steps using Relation.ReflTransGen.head_induction_on generalizing s cs cs' with
  | refl =>
    cases same
    exact ⟨cs', h, fun _ => .refl⟩
  | @head now next step _ ih =>
    cases same
    obtain ⟨u, mid⟩ := next
    obtain ⟨mid', left, first⟩ := step.extend h
    obtain ⟨r', ended, more⟩ := ih left rfl
    exact ⟨r', ended, fun under => .head (first under) (more under)⟩

/-- A run that ends at the end of its text passes through every state that is reached. -/
theorem Steps.onward {now next last : State × List Char} (reached : Steps now next)
    (run : Steps now last) (finished : last.1.flags.skip last.2 = []) : Steps next last := by
  induction reached using Relation.ReflTransGen.head_induction_on with
  | refl => exact run
  | head step _ ih =>
    rcases Relation.ReflTransGen.cases_head run with rfl | ⟨other, first, more⟩
    · obtain ⟨c, rest, start, -⟩ := step
      exact absurd (start.symm.trans finished) (by simp)
    · cases step.unique first
      exact ih more

/-- Without a closing parenthesis the groups underneath stay open. -/
theorem Steps.below_of_notMem {s : State} {under : List OpenGroup} {cs : List Char}
    {last : State × List Char} (steps : Steps (s.below under, cs) last) (unclosed : ')' ∉ cs) :
    ∃ t, last.1 = below t under := by
  generalize same : (s.below under, cs) = now at steps
  induction steps using Relation.ReflTransGen.head_induction_on generalizing s cs with
  | refl =>
    cases same
    exact ⟨s, rfl⟩
  | head step _ ih =>
    cases same
    obtain ⟨c, rest, start, read⟩ := step
    simp only at start read
    have inside : c :: rest <:+ cs := start ▸ s.flags.skip_suffix cs
    have plain : c ≠ ')' := fun paren => unclosed (inside.subset (paren ▸ List.mem_cons_self ..))
    rw [s.step?_below under c rest fun paren => absurd paren plain] at read
    obtain ⟨⟨t, after⟩, found, rfl⟩ := Option.map_eq_some_iff.1 read
    refine ih (fun paren => unclosed (inside.subset ?_)) rfl
    exact List.mem_cons_of_mem c ((s.shrinks_step? c _ _ _ found).subset paren)

/-! ### Text between the opening and the closing of a group -/

/-- Reading comes to a closing parenthesis that belongs to no open group. -/
def Strays (now : State × List Char) : Prop :=
  ∃ later, Steps now later ∧ later.1.outer = [] ∧ ∃ rest, later.1.flags.skip later.2 = ')' :: rest

/-- Nothing can be read where a parenthesis closes no group. -/
theorem not_step_of_stray {now next : State × List Char} {rest : List Char}
    (closed : now.1.outer = []) (stray : now.1.flags.skip now.2 = ')' :: rest) :
    ¬Step now next := by
  rintro ⟨c, more, start, read⟩
  cases stray.symm.trans start
  exact outer_ne_nil_of_step? read rfl closed

/-- Nothing can be read where a repetition in braces begins in front of the closing. -/
theorem not_step_of_brace (s : State) {more : List Char} {next : State × List Char}
    (ahead : s.flags.skip more = closing) : ¬Step (s, '\x7b' :: more) next := by
  rintro ⟨c, rest, start, read⟩
  simp only [s.flags.skip_brace] at start
  cases start
  have refused : s.flags.counts? more = none := by
    simp only [Flags.counts?, ahead, s.flags.count?_closing]
    rfl
  simp [step?, refused] at read

/-- A text is read to its end in the state `t`, and so is the extended text, up to the closing, with
whatever groups are open underneath. -/
structure Through (s : State) (cs cs' : List Char) (t : State) (rest' : List Char) : Prop where
  alone : ∃ rest, Steps (s, cs) (t, rest) ∧ t.flags.skip rest = []
  along : ∀ under, Steps (s.below under, cs') (t.below under, rest')
  ahead : t.flags.skip rest' = closing

/-- A text that is read to its end is so in front of the closing, or it hides the closing. -/
theorem through_or_hidden {s t : State} {cs cs' rest : List Char} (h : Extended cs cs')
    (steps : Steps (s, cs) (t, rest)) (finished : t.flags.skip rest = []) :
    ∃ rest', (∀ under, Steps (s.below under, cs') (t.below under, rest')) ∧
      (Through s cs cs' t rest' ∨ t.flags.skip rest' = []) := by
  obtain ⟨rest', left, along⟩ := steps.extend h
  refine ⟨rest', along, ?_⟩
  have skipped := t.flags.skip_extended left
  rw [finished] at skipped
  generalize ahead : t.flags.skip rest' = more at skipped
  cases skipped with
  | same => exact .inr rfl
  | closed => exact .inl ⟨⟨rest, steps, finished⟩, along, ahead⟩

/-- If the extended text is read to its end and closes the groups underneath, then the text alone is
read to its end, unless it closes a group underneath itself. -/
theorem through_of_steps {s : State} {under : List OpenGroup} {cs cs' : List Char}
    {last : State × List Char} (h : Extended cs cs') (opened : under ≠ [])
    (run : Steps (s.below under, cs') last) (finished : last.1.flags.skip last.2 = [])
    (closed : last.1.outer = []) (honest : ¬Strays (s, cs)) :
    ∃ t rest', Through s cs cs' t rest' := by
  have inside : ∀ {t}, last.1 ≠ below t under := by
    intro t same
    rw [same] at closed
    exact opened (List.append_eq_nil_iff.1 closed).2
  generalize same : (s.below under, cs') = now at run
  induction run using Relation.ReflTransGen.head_induction_on generalizing s cs cs' with
  | refl =>
    cases same
    exact absurd rfl inside
  | head step run ih =>
    cases same
    obtain ⟨c, more', start', read'⟩ := step
    simp only at start' read'
    change s.flags.skip cs' = _ at start'
    have skipped := s.flags.skip_extended h
    rw [start'] at skipped
    generalize start : s.flags.skip cs = more at skipped
    cases skipped with
    | closed => exact ⟨s, cs', ⟨cs, .refl, start⟩, fun _ => .refl, start'⟩
    | @cons _ rest _ left =>
      have within : c = ')' → s.outer ≠ [] := by
        rintro rfl closed
        exact honest ⟨(s, cs), .refl, closed, rest, start⟩
      rw [s.step?_below under c _ within] at read'
      obtain ⟨⟨next, after'⟩, found', rfl⟩ := Option.map_eq_some_iff.1 read'
      have agree := s.step?_extended c left
      rw [found'] at agree
      generalize found : s.step? c rest = x at agree
      rcases agree with agree | ⟨-, _, more, ⟨⟩, stuck⟩
      · cases agree with
        | @found _ after _ left =>
          have step : Step (s, cs) (next, after) := ⟨c, rest, start, found⟩
          have honest' : ¬Strays (next, after) := fun ⟨later, steps, stray⟩ =>
            honest ⟨later, .head step steps, stray⟩
          obtain ⟨t, rest', through⟩ := ih left honest' rfl
          obtain ⟨rest, alone, ended⟩ := through.alone
          refine ⟨t, rest', ⟨rest, .head step alone, ended⟩, fun u => ?_, through.ahead⟩
          refine .head ⟨c, _, start', ?_⟩ (through.along u)
          simp only
          rw [s.step?_below u c _ within, found']
          rfl
        | beyond _ within =>
          have unclosed : ')' ∉ after' := fun paren => by
            simpa using within.subset paren
          obtain ⟨t, same⟩ := Steps.below_of_notMem run unclosed
          exact absurd same inside
      · rcases Relation.ReflTransGen.cases_head run with rfl | ⟨_, step, -⟩
        · exact absurd rfl inside
        · exact absurd step (next.below under |>.not_step_of_brace stuck)

/-! ### The anchored text -/

/-- The group that an anchored expression stands in, with the start of the text in front of it. -/
def wrapper : OpenGroup := ⟨{ parts := [.look .textStart] }, {}, false⟩

/-- The state after the closing. -/
def anchored (t : State) : State :=
  ⟨{}, [], { parts := [.look .textEnd, .group false t.branches.tree, .look .textStart] }, t.names⟩

theorem steps_opening (cs : List Char) :
    Steps ({}, '^' :: '(' :: '?' :: ':' :: cs) (below {} [wrapper], cs) := by
  refine .head ⟨'^', _, rfl, rfl⟩ (.head ⟨'(', _, rfl, ?_⟩ .refl)
  rfl

/-- Where no other group is open, the closing closes the wrapper. -/
theorem steps_closing {t : State} {cs : List Char} (ahead : t.flags.skip cs = closing)
    (closed : t.outer = []) : Steps (t.below [wrapper], cs) (anchored t, []) := by
  have first : Step (t.below [wrapper], cs)
      (⟨{}, [], wrapper.before.add (.group false t.branches.tree), t.names⟩, ['$']) := by
    refine ⟨')', ['$'], ahead, ?_⟩
    simp [step?, closeGroup?, below, closed, wrapper]
  exact .head first (.single ⟨'$', [], rfl, rfl⟩)

/-- The closing cannot close more than one group. -/
theorem outer_eq_nil_of_closing {t : State} {cs : List Char} {last : State × List Char}
    (ahead : t.flags.skip cs = closing) (run : Steps (t.below [wrapper], cs) last)
    (finished : last.1.flags.skip last.2 = []) (closed : last.1.outer = []) : t.outer = [] := by
  rcases outer : t.outer with _ | ⟨g, others⟩
  · rfl
  · exfalso
    have step : Step (t.below [wrapper], cs)
        (below ⟨g.flags, others, g.before.add (.group g.capturing t.branches.tree), t.names⟩
          [wrapper], ['$']) := by
      refine ⟨')', ['$'], ahead, ?_⟩
      rw [t.step?_below [wrapper] _ _ (by simp [outer])]
      simp [step?, closeGroup?, outer]
    have run := Steps.onward (.single step) run finished
    obtain ⟨u, same⟩ := Steps.below_of_notMem run (by simp)
    rw [same] at closed
    exact absurd (List.append_eq_nil_iff.1 closed).2 (by simp)

end State

/-- The tree of an anchored expression. -/
def Tree.anchored (tree : Tree) : Tree :=
  .seq (.seq (.look .textStart) (.group false tree)) (.look .textEnd)

open State in
/-- An expression that closes no group but its own is read between `^(?:` and `)$` exactly if it is
read alone and does not hide the closing. -/
theorem Tree.read?_anchored_iff {cs : List Char} {tree : Tree} (honest : ¬Strays ({}, cs)) :
    Tree.read? ('^' :: '(' :: '?' :: ':' :: (cs ++ closing)) = some tree ↔
      ∃ inner, Tree.read? cs = some inner ∧ Tree.read? (cs ++ closing) = none ∧
        tree = inner.anchored := by
  have extended := Extended.append_closing cs
  constructor
  · intro read
    obtain ⟨s, rest, run, finished, closed, rfl⟩ := Tree.read?_eq_some_iff.1 read
    have run := Steps.onward (steps_opening (cs ++ closing)) run finished
    obtain ⟨t, rest', through⟩ :=
      through_of_steps extended (by simp) run finished closed honest
    have run := Steps.onward (through.along [wrapper]) run finished
    have outer := outer_eq_nil_of_closing through.ahead run finished closed
    obtain ⟨left, alone, ended⟩ := through.alone
    refine ⟨t.branches.tree, ?_, ?_, ?_⟩
    · exact Tree.read?_eq_some_iff.2 ⟨t, left, alone, ended, outer, rfl⟩
    · refine Option.eq_none_iff_forall_ne_some.2 fun other read => ?_
      obtain ⟨u, more, run, finished, -, -⟩ := Tree.read?_eq_some_iff.1 read
      have along := through.along []
      rw [below_nil, below_nil] at along
      rcases Relation.ReflTransGen.cases_head (along.onward run finished) with same | ⟨_, step, -⟩
      · cases same
        exact absurd (through.ahead.symm.trans finished) (by simp [closing])
      · exact not_step_of_stray outer through.ahead step
    · have run := Steps.onward (steps_closing through.ahead outer) run finished
      rcases Relation.ReflTransGen.cases_head run with same | ⟨_, ⟨_, _, start, -⟩, -⟩
      · cases same
        rfl
      · cases start
  · rintro ⟨inner, alone, hidden, rfl⟩
    obtain ⟨t, rest, run, finished, closed, rfl⟩ := Tree.read?_eq_some_iff.1 alone
    obtain ⟨rest', along, through | ended⟩ := through_or_hidden extended run finished
    · refine Tree.read?_eq_some_iff.2 ⟨t.anchored, [], ?_, rfl, rfl, rfl⟩
      exact (steps_opening _).trans
        ((through.along [wrapper]).trans (steps_closing through.ahead closed))
    · have along := along []
      rw [below_nil, below_nil] at along
      have read := Tree.read?_eq_some_iff.2 ⟨t, rest', along, ended, closed, rfl⟩
      rw [hidden] at read
      cases read

open State in
/-- An expression that closes a group of its surroundings is malformed alone. -/
theorem Tree.read?_eq_none_of_strays {cs : List Char} (strays : Strays ({}, cs)) :
    Tree.read? cs = none := by
  refine Option.eq_none_iff_forall_ne_some.2 fun tree read => ?_
  obtain ⟨s, rest, run, finished, -, -⟩ := Tree.read?_eq_some_iff.1 read
  obtain ⟨later, reached, closed, more, stray⟩ := strays
  rcases Relation.ReflTransGen.cases_head (reached.onward run finished) with rfl | ⟨_, step, -⟩
  · exact absurd (stray.symm.trans finished) (by simp)
  · exact not_step_of_stray closed stray step

end PathRouting.Regex
