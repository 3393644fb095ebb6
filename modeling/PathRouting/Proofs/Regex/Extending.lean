import PathRouting.Proofs.Regex.Reading

/-!
What the readers of regular expressions find in a text that goes on with `)$`, the closing of an
anchored expression. They find what they find in the text alone, with what is left extended in the
same way; only a comment at the end of the text hides the closing from what comes next. Where they
find nothing in the text alone they find nothing in the extended one, or they reach into the
closing.

The relation `Extended` is inductive and holds also of a text and itself, so that a reader is proved
by following what it matches on, whether or not the closing is still ahead.

Main statements: `Flags.escape?_extended`, `Flags.counts?_extended`, `State.steady_openGroup?`.
-/

namespace PathRouting.Regex

open PathRouting.Unicode

/-- What stands behind an expression where it is anchored. -/
def closing : List Char := [')', '$']

/-- The second text is the first one, or the first one with the closing behind it. -/
inductive Extended : List Char → List Char → Prop
  | same : Extended [] []
  | closed : Extended [] closing
  | cons (c : Char) {cs cs' : List Char} : Extended cs cs' → Extended (c :: cs) (c :: cs')

theorem Extended.append_closing (cs : List Char) : Extended cs (cs ++ closing) := by
  induction cs with
  | nil => exact .closed
  | cons c rest ih => exact .cons c ih

/-- What a reader finds in a text and in the extended text: the same; or nothing in the text, and in
the extended one at most something that reaches into the closing as far as `limit`. -/
inductive Agree (limit : List Char) {α : Type} :
    Option (α × List Char) → Option (α × List Char) → Prop
  | found (a : α) {rest rest' : List Char} :
    Extended rest rest' → Agree limit (some (a, rest)) (some (a, rest'))
  | nothing : Agree limit none none
  | beyond (a : α) {rest' : List Char} : rest' <:+ limit → Agree limit none (some (a, rest'))

/-- The same value, with what is left behind it in the relation. -/
def After {α ρ : Type} (related : ρ → ρ → Prop) (found found' : α × ρ) : Prop :=
  found.1 = found'.1 ∧ related found.2 found'.2

/-- A reader finds in the extended text what it finds in the text. -/
def Steady (limit : List Char) {α : Type} (read : List Char → Option (α × List Char)) : Prop :=
  ∀ cs cs', Extended cs cs' → Agree limit (read cs) (read cs')

section Agree

variable {α β : Type} {limit : List Char}

theorem Agree.of_none {x : Option (α × List Char)}
    (within : ∀ a rest, x = some (a, rest) → rest <:+ limit) : Agree limit none x := by
  rcases x with _ | ⟨a, rest⟩
  · exact .nothing
  · exact .beyond a (within a rest rfl)

theorem Agree.mono {limit' : List Char} {x x' : Option (α × List Char)} (h : Agree limit x x')
    (wider : limit <:+ limit') : Agree limit' x x' := by
  cases h with
  | found a extended => exact .found a extended
  | nothing => exact .nothing
  | beyond a within => exact .beyond a (within.trans wider)

theorem Agree.bind {x x' : Option (α × List Char)} (h : Agree limit x x')
    {k : α × List Char → Option (β × List Char)}
    (steady : ∀ a, Steady limit fun rest => k (a, rest))
    (shrinks : ∀ a, Shrinks fun rest => k (a, rest)) : Agree limit (x.bind k) (x'.bind k) := by
  cases h with
  | found a extended => exact steady a _ _ extended
  | nothing => exact .nothing
  | beyond a within =>
    exact .of_none fun b rest found => (shrinks a _ b rest found).trans within

theorem Agree.map {x x' : Option (α × List Char)} (h : Agree limit x x') (f : α → β) :
    Agree limit (x.map fun found => (f found.1, found.2))
      (x'.map fun found => (f found.1, found.2)) := by
  cases h with
  | found a extended => exact .found (f a) extended
  | nothing => exact .nothing
  | beyond a within => exact .beyond (f a) within

/-- What is made of a value, if it is not refused, leaves the text behind it as it is. -/
theorem Agree.bind_value {γ : Type} {x x' : Option (α × List Char)} (h : Agree limit x x')
    (value : α → Option β) (make : β → γ) :
    Agree limit (x.bind fun found => (value found.1).bind fun b => some (make b, found.2))
      (x'.bind fun found => (value found.1).bind fun b => some (make b, found.2)) := by
  refine h.bind (fun a rest rest' h => ?_) fun a rest c after found => ?_
  · dsimp only
    cases value a with
    | none => exact .nothing
    | some b => exact .found (make b) h
  · obtain ⟨_, -, ⟨⟩⟩ := Option.bind_eq_some_iff.1 found
    exact List.suffix_refl _

end Agree

/-! ### Blanks and runs of characters -/

theorem dropVerbose_extended (inComment : Bool) {cs cs' : List Char} (h : Extended cs cs') :
    Extended (dropVerbose inComment cs) (dropVerbose inComment cs') := by
  induction h generalizing inComment with
  | same => exact .same
  | closed =>
    cases inComment with
    | false => exact .closed
    | true => exact .same
  | cons c h ih =>
    simp only [dropVerbose]
    split
    · exact ih _
    · split
      · exact ih _
      · split
        · exact ih _
        · exact .cons c h

theorem dropWhile_extended {p : Char → Bool} (stops : p ')' = false ∨ p '$' = true)
    {cs cs' : List Char} (h : Extended cs cs') : Extended (cs.dropWhile p) (cs'.dropWhile p) := by
  induction h with
  | same => exact .same
  | closed =>
    cases paren : p ')' with
    | false => simpa [closing, List.dropWhile_cons, paren] using Extended.closed
    | true =>
      have dollar : p '$' = true := stops.resolve_left (by simp [paren])
      simpa [closing, List.dropWhile_cons, paren, dollar] using Extended.same
  | cons c h ih =>
    simp only [List.dropWhile_cons]
    split
    · exact ih
    · exact .cons c h

theorem takeWhile_extended {p : Char → Bool} {cs cs' : List Char} (h : Extended cs cs')
    (stopped : cs.dropWhile p ≠ []) : cs'.takeWhile p = cs.takeWhile p := by
  induction h with
  | same => rfl
  | closed => exact absurd rfl stopped
  | cons c h ih =>
    simp only [List.takeWhile_cons, List.dropWhile_cons] at stopped ⊢
    split
    · rw [ih (by simpa [*] using stopped)]
    · rfl

namespace Flags

variable (flags : Flags)

theorem skip_extended {cs cs' : List Char} (h : Extended cs cs') :
    Extended (flags.skip cs) (flags.skip cs') := by
  simp only [skip]
  split
  · exact dropVerbose_extended false h
  · exact h

theorem skip_nil : flags.skip [] = [] := by
  simp [skip, dropVerbose]

theorem skip_closing : flags.skip closing = closing := by
  simp only [skip]
  split
  · rfl
  · rfl

theorem skip_dollar : flags.skip ['$'] = ['$'] := by
  simp only [skip]
  split
  · rfl
  · rfl

theorem span_nil (p : Char → Bool) (n : Nat) : flags.span p n [] = ([], []) := by
  cases n <;> rfl

/-- In the closing a run of characters stops at once or takes all of it. -/
theorem span_closing {p : Char → Bool} (stops : p ')' = false ∨ p '$' = true) {n : Nat}
    (enough : 2 ≤ n) : Extended [] (flags.span p n closing).2 ∧
      (p ')' = false → (flags.span p n closing).1 = []) := by
  obtain ⟨n, rfl⟩ := Nat.exists_eq_add_of_le' enough
  cases paren : p ')' with
  | false => simpa [span, closing, paren] using Extended.closed
  | true =>
    have dollar : p '$' = true := stops.resolve_left (by simp [paren])
    simp [span, closing, paren, dollar, skip_dollar, skip_nil, span_nil, Extended.same]

/-- A run of characters is the same in the extended text if it stops before the closing, or if
something stands behind it. -/
theorem span_extended {p : Char → Bool} (stops : p ')' = false ∨ p '$' = true) {n n' : Nat}
    {cs cs' : List Char} (h : Extended cs cs')
    (enough : cs.length ≤ n) (enough' : cs'.length ≤ n') :
    Extended (flags.span p n cs).2 (flags.span p n' cs').2 ∧
      (p ')' = false ∨ (flags.span p n cs).2 ≠ [] →
        (flags.span p n' cs').1 = (flags.span p n cs).1) := by
  induction n generalizing n' cs cs' with
  | zero =>
    cases h with
    | same => simp [span_nil, Extended.same]
    | closed => simpa [span_nil] using flags.span_closing stops enough'
    | cons c h => cases enough
  | succ n ih =>
    cases h with
    | same => simp [span_nil, Extended.same]
    | closed => simpa [span_nil] using flags.span_closing stops enough'
    | @cons c rest rest' h =>
      obtain ⟨n', rfl⟩ := Nat.exists_eq_add_of_le' (Nat.le_of_add_left_le enough')
      have left := (flags.skip_suffix rest).length_le
      have left' := (flags.skip_suffix rest').length_le
      simp only [List.length_cons] at enough enough'
      simp only [span]
      split
      · obtain ⟨behind, same⟩ := @ih n' _ _ (flags.skip_extended h) (by omega) (by omega)
        exact ⟨behind, fun stopped => congrArg (c :: ·) (same stopped)⟩
      · exact ⟨.cons c h, fun _ => rfl⟩

/-! ### Escapes -/

theorem steady_take? (n : Nat) : Steady ['$'] (flags.take? n) := by
  induction n with
  | zero => exact fun cs cs' h => .found [] h
  | succ n ih =>
    intro cs cs' h
    cases h with
    | same => exact .nothing
    | closed =>
      refine .of_none fun inside rest found => ?_
      obtain ⟨⟨more, after⟩, taken, ⟨⟩⟩ := Option.bind_eq_some_iff.1 found
      exact (flags.shrinks_take? n _ _ _ taken).trans (flags.skip_suffix _)
    | cons c h =>
      refine (ih _ _ (flags.skip_extended h)).bind (fun more => ?_) fun more => ?_
      · exact fun rest rest' h => .found (c :: more) h
      · rintro rest a after ⟨⟩
        exact List.suffix_refl _

theorem steady_braced? : Steady ['$'] flags.braced? := by
  intro cs cs' h
  have skipped := flags.skip_extended h
  obtain ⟨left, same⟩ := flags.span_extended (p := (· ≠ '\x7d')) (.inr rfl) skipped
    (flags.skip_suffix cs).length_le (flags.skip_suffix cs').length_le
  unfold braced?
  revert left same
  rcases flags.span (· ≠ '\x7d') cs.length (flags.skip cs) with ⟨inside, left⟩
  rcases flags.span (· ≠ '\x7d') cs'.length (flags.skip cs') with ⟨inside', left'⟩
  intro left same
  cases left with
  | same => exact .nothing
  | closed => exact .beyond _ (List.suffix_refl _)
  | cons c h =>
    obtain rfl : inside' = inside := same (.inr (by simp))
    exact .found _ h

theorem steady_hexAtom? (digits : Nat) : Steady ['$'] (flags.hexAtom? digits) := by
  intro cs cs' h
  unfold hexAtom?
  have skipped := flags.skip_extended h
  generalize flags.skip cs = start at skipped ⊢
  generalize flags.skip cs' = start' at skipped ⊢
  have fixed := fun {start start'} (h : Extended start start') =>
    (flags.steady_take? digits _ _ h).bind_value charOfHex? (Atom.char · (digits = 2))
  cases skipped with
  | same => exact fixed .same
  | closed => exact fixed .closed
  | cons c h =>
    by_cases brace : c = '\x7b'
    · subst brace
      exact (flags.steady_braced? _ _ h).bind_value charOfHex? (Atom.char · false)
    · simpa [brace] using fixed (.cons c h)

theorem steady_propertyAtom? (negated : Bool) : Steady ['$'] (flags.propertyAtom? negated) := by
  intro cs cs' h
  have skipped := flags.skip_extended h
  unfold propertyAtom?
  generalize flags.skip cs = start at skipped ⊢
  generalize flags.skip cs' = start' at skipped ⊢
  cases skipped with
  | same => exact .nothing
  | closed => exact .beyond _ (List.suffix_refl _)
  | cons c h =>
    by_cases brace : c = '\x7b'
    · subst brace
      refine (flags.steady_braced? _ _ h).bind (fun inside rest rest' h => ?_)
        fun inside rest atom after found => ?_
      · dsimp only
        split
        · exact .found _ h
        · split
          · exact .found _ h
          · split <;> exact .found _ h
      · dsimp only at found
        split at found
        · cases found
          exact List.suffix_refl _
        · split at found
          · cases found
            exact List.suffix_refl _
          · split at found <;> (cases found; exact List.suffix_refl _)
    · by_cases backslash : c = '\\'
      · subst backslash
        exact .nothing
      · simpa [brace, backslash] using Agree.found _ h

/-- A name in braces is read as it stands, unless there is nothing in the brace but blanks: then the
closing makes it the brace of a repetition, which has no count. -/
theorem wordEdge?_extended {cs cs' : List Char} (h : Extended cs cs') :
    Agree ['$'] (flags.wordEdge? cs) (flags.wordEdge? cs') ∨
      flags.wordEdge? cs = none ∧ ∃ rest, flags.wordEdge? cs' = some (.boundary, '\x7b' :: rest) ∧
        flags.skip rest = closing := by
  cases h with
  | same => exact .inl (.found _ .same)
  | closed => exact .inl (.found _ .closed)
  | @cons c rest rest' h =>
    by_cases brace : c = '\x7b'
    · subst brace
      have skipped := flags.skip_extended h
      rw [wordEdge?_brace, wordEdge?_brace]
      generalize skipRest : flags.skip rest = inside at skipped ⊢
      generalize skipRest' : flags.skip rest' = inside' at skipped ⊢
      cases skipped with
      | same => exact .inl .nothing
      | closed => exact .inr ⟨rfl, rest', rfl, skipRest'⟩
      | @cons c more more' after =>
        left
        dsimp only
        split
        · obtain ⟨left, same⟩ := flags.span_extended (p := inEdgeName) (.inl rfl)
            (.cons c after) (Nat.le_refl _) (Nat.le_refl _)
          rw [closeEdge?, closeEdge?, same (.inl rfl)]
          generalize (flags.span inEdgeName (c :: more).length (c :: more)).2 = behind at left ⊢
          generalize (flags.span inEdgeName (c :: more').length (c :: more')).2 = behind' at left ⊢
          cases left with
          | same => exact .nothing
          | closed => exact .nothing
          | cons d h =>
            by_cases closes : d = '\x7d'
            · subst closes
              cases edgeNamed? _ with
              | none => exact .nothing
              | some edge => exact .found edge h
            · simpa [closes] using Agree.nothing
        · exact .found _ (.cons _ h)
    · left
      unfold wordEdge?
      simpa [brace] using Agree.found _ (.cons c h)

/-- An escape is read as it stands, unless it is an edge of a word before a brace with nothing in it
but blanks. -/
theorem escape?_extended {cs cs' : List Char} (h : Extended cs cs') :
    Agree ['$'] (flags.escape? cs) (flags.escape? cs') ∨
      flags.escape? cs = none ∧ ∃ look rest,
        flags.escape? cs' = some (.look look, '\x7b' :: rest) ∧ flags.skip rest = closing := by
  cases h with
  | same => exact .inl .nothing
  | closed =>
    refine .inl (.of_none fun atom rest found => ?_)
    have plain : flags.escape? closing = some (.char ')' false, ['$']) := rfl
    cases plain.symm.trans found
    exact List.suffix_refl _
  | @cons c rest rest' h =>
    rcases flags.escape?_cons c rest rest' with
      ⟨digits, one, other⟩ | ⟨negated, one, other⟩ | rfl | ⟨atom, one, other⟩
    · left
      rw [one, other]
      exact flags.steady_hexAtom? digits _ _ h
    · left
      rw [one, other]
      exact flags.steady_propertyAtom? negated _ _ h
    · refine (flags.wordEdge?_extended h).imp (fun agree => ?_)
        fun ⟨alone, more, stuck, skipped⟩ => ?_
      · exact agree.map fun edge => Atom.look (.word edge flags.unicode)
      · constructor
        · exact congrArg (Option.map _) alone
        · exact ⟨_, more, congrArg (Option.map _) stuck, skipped⟩
    · left
      rw [one, other]
      cases atom with
      | none => exact .nothing
      | some atom => exact .found atom h

/-! ### Repetition -/

theorem count?_extended {cs cs' : List Char} (h : Extended cs cs') :
    Option.Rel (After Extended) (flags.count? cs) (flags.count? cs') := by
  have start := dropWhile_extended (p := isBlank) (.inl rfl) h
  obtain ⟨left, same⟩ := flags.span_extended (p := Char.isDigit) (.inl rfl) start
    (Nat.le_refl _) (Nat.le_refl _)
  simp only [count?, same (.inl rfl), Option.bind_eq_bind]
  cases Text.readDigits? (flags.span Char.isDigit (cs.dropWhile isBlank).length
    (cs.dropWhile isBlank)).1 with
  | none => exact .none
  | some n =>
    simp only [Option.bind_some]
    split
    · exact .some ⟨rfl, dropWhile_extended (.inl rfl) left⟩
    · exact .none

theorem closeCounts?_extended (least : Nat) {x x' : Option (Nat × List Char)}
    (h : Option.Rel (After Extended) x x') :
    Option.Rel (After (After Extended)) (x.bind (closeCounts? least))
      (x'.bind (closeCounts? least)) := by
  cases h with
  | none => exact .none
  | @some found found' h =>
    obtain ⟨n, rest⟩ := found
    obtain ⟨_, rest'⟩ := found'
    obtain ⟨rfl, left⟩ := h
    simp only [Option.bind_some, closeCounts?]
    cases left with
    | same => exact .none
    | closed => exact .none
    | cons c h =>
      by_cases closes : c = '\x7d'
      · subst closes
        by_cases ordered : least ≤ n
        · simpa [ordered, After] using h
        · simp [ordered]
      · simp [closes]

theorem upperCount?_extended (least : Nat) {cs cs' : List Char} (h : Extended cs cs') :
    Option.Rel (After (After Extended)) (flags.upperCount? least cs)
      (flags.upperCount? least cs') := by
  have upper := fun {start start'} (h : Extended start start') =>
    closeCounts?_extended least (flags.count?_extended h)
  have skipped := flags.skip_extended h
  unfold upperCount?
  generalize flags.skip cs = start at skipped ⊢
  generalize flags.skip cs' = start' at skipped ⊢
  cases skipped with
  | same => exact upper .same
  | closed => exact upper .closed
  | cons c h =>
    by_cases closes : c = '\x7d'
    · subst closes
      exact .some ⟨rfl, rfl, h⟩
    · simpa [closes] using upper (.cons c h)

theorem counts?_extended {cs cs' : List Char} (h : Extended cs cs') :
    Option.Rel (After (After Extended)) (flags.counts? cs) (flags.counts? cs') := by
  have lower := flags.count?_extended (flags.skip_extended h)
  simp only [counts?, Option.bind_eq_bind]
  generalize flags.count? (flags.skip cs) = x at lower ⊢
  generalize flags.count? (flags.skip cs') = x' at lower ⊢
  cases lower with
  | none => exact .none
  | @some found found' h =>
    obtain ⟨least, rest⟩ := found
    obtain ⟨_, rest'⟩ := found'
    obtain ⟨rfl, left⟩ := h
    simp only [Option.bind_some]
    cases left with
    | same => exact .none
    | closed => exact .none
    | @cons c more more' left =>
      by_cases closes : c = '\x7d'
      · subst closes
        exact .some ⟨rfl, rfl, left⟩
      · by_cases comma : c = ','
        · subst comma
          exact flags.upperCount?_extended least left
        · simp [closes, comma]

end Flags

theorem dropLazy_extended {cs cs' : List Char} (h : Extended cs cs') :
    Extended (dropLazy cs) (dropLazy cs') := by
  cases h with
  | same => exact .same
  | closed => exact .closed
  | cons c h =>
    by_cases lazy : c = '?'
    · subst lazy
      exact h
    · simpa [dropLazy, lazy] using h.cons c

/-! ### Groups -/

theorem steady_groupName? : Steady ['$'] groupName? := by
  intro cs cs' h
  have left := dropWhile_extended (p := (· ≠ '>')) (.inr rfl) h
  have same := takeWhile_extended (p := (· ≠ '>')) h
  rw [groupName?_eq, groupName?_eq]
  generalize cs.dropWhile (· ≠ '>') = behind at left same ⊢
  generalize cs'.dropWhile (· ≠ '>') = behind' at left ⊢
  cases left with
  | same =>
    rw [closeName?_nil, closeName?_nil]
    exact .nothing
  | closed =>
    rw [closeName?_nil]
    refine .of_none fun name rest found => ?_
    generalize cs'.takeWhile (· ≠ '>') = before at found
    cases before with
    | nil => cases found
    | cons c more =>
      simp only [closeName?, closing, Option.ite_none_right_eq_some, Option.some.injEq,
        Prod.mk.injEq] at found
      obtain ⟨-, -, rfl⟩ := found
      exact List.suffix_refl _
  | cons c h =>
    rw [same (by simp)]
    cases cs.takeWhile (· ≠ '>') with
    | nil => exact .nothing
    | cons d more =>
      simp only [closeName?]
      split
      · exact .found _ h
      · exact .nothing

/-- Changes of flags are the same in the extended text, or they end only with the closing
parenthesis. -/
theorem readFlags?_extended {flags : Flags} {on : Bool} {seen cs cs' : List Char}
    (h : Extended cs cs') :
    Option.Rel (After (After (After Extended))) (readFlags? flags on seen cs)
        (readFlags? flags on seen cs') ∨
      readFlags? flags on seen cs = none ∧ ∃ after letters,
        readFlags? flags on seen cs' = some (after, letters, ')', ['$']) := by
  induction h generalizing flags on seen with
  | same => exact .inl .none
  | closed =>
    by_cases dash : seen.head? = some '-'
    · exact .inl (by simp [closing, readFlags?, dash])
    · exact .inr ⟨rfl, flags, seen, by simp [closing, readFlags?, dash]⟩
  | cons c h ih =>
    simp only [readFlags?]
    split
    · split
      · exact .inl .none
      · exact .inl (.some ⟨rfl, rfl, rfl, h⟩)
    · split
      · exact .inl .none
      · split
        · exact ih
        · split
          · exact ih
          · exact .inl .none

namespace State

variable (s : State)

theorem steady_openNamed? : Steady ['$'] s.openNamed? := by
  intro cs cs' h
  refine (steady_groupName? _ _ h).bind (fun name rest rest' h => ?_)
    fun name rest t after found => ?_
  · dsimp only
    split
    · exact .nothing
    · exact .found _ h
  · dsimp only at found
    split at found
    · cases found
    · cases found
      exact List.suffix_refl _

theorem steady_openFlags? : Steady ['$'] s.openFlags? := by
  intro cs cs' h
  have read := @readFlags?_extended s.flags true [] cs cs' h
  unfold openFlags?
  generalize readFlags? s.flags true [] cs = x at read ⊢
  generalize readFlags? s.flags true [] cs' = x' at read ⊢
  rcases read with same | ⟨rfl, after, letters, rfl⟩
  · cases same with
    | none => exact .nothing
    | @some found found' h =>
      obtain ⟨flags, letters, stop, rest⟩ := found
      obtain ⟨_, _, _, rest'⟩ := found'
      obtain ⟨rfl, rfl, rfl, left⟩ := h
      simp only [Option.bind_some]
      split
      · exact .found _ left
      · split
        · exact .nothing
        · exact .found _ left
  · cases letters with
    | nil => exact .nothing
    | cons c letters => exact .beyond _ (List.suffix_refl _)

theorem steady_openMarked? : Steady ['$'] s.openMarked? := by
  intro cs cs' h
  have flags := s.steady_openFlags?
  have named := s.steady_openNamed?
  cases h with
  | same => exact flags _ _ .same
  | closed => exact flags _ _ .closed
  | @cons c rest rest' h =>
    by_cases ahead : c = '=' ∨ c = '!'
    · rcases ahead with rfl | rfl
      · exact .nothing
      · exact .nothing
    · rw [not_or] at ahead
      by_cases angle : c = '<'
      · subst angle
        cases h with
        | same => exact named _ _ .same
        | closed => exact named _ _ .closed
        | cons d h =>
          by_cases behind : d = '=' ∨ d = '!'
          · rcases behind with rfl | rfl
            · exact .nothing
            · exact .nothing
          · rw [not_or] at behind
            simpa [openMarked?, behind] using named _ _ (.cons d h)
      · by_cases letter : c = 'P'
        · subst letter
          cases h with
          | same => exact flags _ _ (.cons _ .same)
          | closed => exact flags _ _ (.cons _ .closed)
          | cons d h =>
            by_cases angle : d = '<'
            · subst angle
              exact named _ _ h
            · simpa [openMarked?, angle] using flags _ _ (.cons 'P' (.cons d h))
        · simpa [openMarked?, ahead, angle, letter] using flags _ _ (.cons c h)

theorem steady_openGroup? : Steady ['$'] s.openGroup? := by
  intro cs cs' h
  have skipped := s.flags.skip_extended h
  rw [openGroup?_eq, openGroup?_eq]
  generalize s.flags.skip cs = start at skipped ⊢
  generalize s.flags.skip cs' = start' at skipped ⊢
  cases skipped with
  | same => exact .found _ .same
  | closed => exact .found _ .closed
  | cons c h =>
    by_cases mark : c = '?'
    · subst mark
      exact s.steady_openMarked? _ _ h
    · simpa [mark] using Agree.found _ (.cons c h)

end State

end PathRouting.Regex
