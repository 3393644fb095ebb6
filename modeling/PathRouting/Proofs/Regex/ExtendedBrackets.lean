import PathRouting.Proofs.Regex.Extending

/-!
What the reader of bracketed classes finds in a text that goes on with `)$`. There is no bracket in
the closing, so a class that the text leaves open stays open, and a class is the same with the
closing behind it or there is none in either text.

Main statement: `Flags.bracketSet?_extended`.
-/

namespace PathRouting.Regex

open PathRouting.Unicode

/-! ### Named classes and parts -/

theorem classBody?_extended (negated : Bool) {cs cs' : List Char} (h : Extended cs cs') :
    Option.Rel (After (After Extended)) (classBody? negated cs) (classBody? negated cs') := by
  have left := dropWhile_extended (p := (· ≠ ':')) (.inr rfl) h
  have same := takeWhile_extended (p := (· ≠ ':')) h
  unfold classBody?
  generalize cs.dropWhile (· ≠ ':') = behind at left same ⊢
  generalize cs'.dropWhile (· ≠ ':') = behind' at left ⊢
  cases left with
  | same => exact .none
  | closed => exact .none
  | @cons c rest rest' h =>
    rw [same (by simp)]
    unfold closeClass?
    by_cases colon : c = ':'
    · subst colon
      cases h with
      | same => exact .none
      | closed => exact .none
      | cons d h =>
        by_cases closes : d = ']'
        · subst closes
          cases AsciiClass.ofName? (String.ofList (cs.takeWhile (· ≠ ':'))) with
          | none => exact .none
          | some cls => exact .some ⟨rfl, rfl, h⟩
        · simp [closes]
    · simp [colon]

theorem asciiClass?_extended {cs cs' : List Char} (h : Extended cs cs') :
    Option.Rel (After (After Extended)) (asciiClass? cs) (asciiClass? cs') := by
  rw [asciiClass?_eq, asciiClass?_eq]
  cases h with
  | same => exact .none
  | closed => exact .none
  | cons c h =>
    by_cases colon : c = ':'
    · subst colon
      cases h with
      | same => exact classBody?_extended false .same
      | closed => exact classBody?_extended false .closed
      | cons d h =>
        by_cases sign : d = '^'
        · subst sign
          exact classBody?_extended true h
        · simpa [sign] using classBody?_extended false (.cons d h)
    · simp [colon]

namespace Flags

variable (flags : Flags)

theorem steady_bracketSign? : Steady closing flags.bracketSign? := by
  intro cs cs' h
  have skipped := flags.skip_extended h
  unfold bracketSign?
  generalize flags.skip cs = start at skipped ⊢
  generalize flags.skip cs' = start' at skipped ⊢
  cases skipped with
  | same => exact .nothing
  | closed => exact .beyond _ (List.suffix_refl _)
  | cons c h =>
    by_cases sign : c = '^'
    · subst sign
      exact .found _ (flags.skip_extended h)
    · simpa [sign] using Agree.found _ (.cons c h)

theorem steady_bracketHead? (negated : Bool) : Steady closing (flags.bracketHead? negated) := by
  intro cs cs' h
  obtain ⟨left, same⟩ := flags.span_extended (p := (· = '-')) (.inl rfl) h
    (Nat.le_refl _) (Nat.le_refl _)
  simp only [bracketHead?, same (.inl rfl)]
  generalize (flags.span (· = '-') cs.length cs).2 = start at left ⊢
  generalize (flags.span (· = '-') cs'.length cs').2 = start' at left ⊢
  cases left with
  | same => exact .nothing
  | closed => exact .beyond _ (List.suffix_refl _)
  | @cons c rest rest' h =>
    by_cases closes : c = ']'
    · subst closes
      change Agree closing
        (if _ then if (flags.skip rest).isEmpty then none else some (_, flags.skip rest)
          else some (_, ']' :: rest))
        (if _ then if (flags.skip rest').isEmpty then none else some (_, flags.skip rest')
          else some (_, ']' :: rest'))
      split
      · have skipped := flags.skip_extended h
        generalize flags.skip rest = start at skipped ⊢
        generalize flags.skip rest' = start' at skipped ⊢
        cases skipped with
        | same => exact .nothing
        | closed => exact .beyond _ (List.suffix_refl _)
        | cons c h => exact .found _ (.cons c h)
      · exact .found _ (.cons _ h)
    · simpa [closes] using Agree.found _ (.cons c h)

theorem steady_openBracket? : Steady closing flags.openBracket? := by
  intro cs cs' h
  rw [openBracket?_eq, openBracket?_eq]
  exact (flags.steady_bracketSign? _ _ h).bind (fun negated => flags.steady_bracketHead? negated)
    fun negated => flags.shrinks_bracketHead? negated

/-- Between brackets an atom is read as it stands, unless it is an assertion, which may not stand
there. -/
theorem bracketAtom?_extended {cs cs' : List Char} (h : Extended cs cs') :
    Agree ['$'] (flags.bracketAtom? cs) (flags.bracketAtom? cs') ∨
      flags.bracketAtom? cs = none ∧ ∃ look rest,
        flags.bracketAtom? cs' = some (.look look, rest) := by
  cases h with
  | same => exact .inl .nothing
  | closed => exact .inl (.beyond _ (List.suffix_refl _))
  | cons c h =>
    by_cases backslash : c = '\\'
    · subst backslash
      refine (flags.escape?_extended h).imp id fun ⟨alone, look, _, found, _⟩ => ?_
      exact ⟨alone, look, _, found⟩
    · left
      simpa [bracketAtom?, backslash] using Agree.found _ h

/-- Whether a certain character comes next does not depend on the closing. -/
theorem peek?_extended {x : Char} (plain : x ≠ ')' ∧ x ≠ '#' ∧ isBlank x = false)
    {cs cs' : List Char} (h : Extended cs cs') :
    flags.peek? cs = some x ↔ flags.peek? cs' = some x := by
  obtain ⟨paren, sharp, blank⟩ := plain
  have head : cs.head? = some x ↔ cs'.head? = some x := by
    cases h with
    | same => exact Iff.rfl
    | closed => simp [closing, paren.symm]
    | cons c h => simp
  have first : cs.head? = some x → (cs.dropWhile isBlank).head? = some x := by
    intro found
    obtain ⟨rest, rfl⟩ := List.head?_eq_some_iff.1 found
    simp [blank]
  have blanks : ∀ {cs cs' : List Char}, Extended cs cs' →
      Extended (cs.dropWhile isBlank) (cs'.dropWhile isBlank) :=
    dropWhile_extended (.inl rfl)
  unfold peek?
  split
  · have start := blanks h
    generalize cs.dropWhile isBlank = start at start first ⊢
    generalize cs'.dropWhile isBlank = start' at start ⊢
    cases start with
    | same => exact head
    | closed =>
      refine iff_of_false (fun found => ?_) ?_
      · simpa using first found
      · simpa [closing] using paren.symm
    | @cons c rest rest' h =>
      by_cases comment : c = '#'
      · subst comment
        have start := blanks h
        change headOr cs.head? (rest.dropWhile isBlank) = some x ↔
          headOr cs'.head? (rest'.dropWhile isBlank) = some x
        generalize rest.dropWhile isBlank = start at start ⊢
        generalize rest'.dropWhile isBlank = start' at start ⊢
        cases start with
        | same => exact head
        | closed =>
          refine iff_of_false (fun found => ?_) ?_
          · simpa [sharp.symm] using first found
          · simpa [closing, headOr] using paren.symm
        | cons c h => exact Iff.rfl
      · simp
  · exact head

theorem rangeTo?_extended (first : Atom) {cs cs' : List Char} (h : Extended cs cs') :
    Agree ['$'] ((flags.bracketAtom? cs).bind (flags.rangeTo? first))
      ((flags.bracketAtom? cs').bind (flags.rangeTo? first)) := by
  rcases flags.bracketAtom?_extended h with agree | ⟨alone, look, rest, found⟩
  · refine agree.bind (fun last rest rest' h => ?_) fun last rest set after found => ?_
    · dsimp only [rangeTo?]
      cases flags.bracketChar? first with
      | none => exact .nothing
      | some low =>
        cases flags.bracketChar? last with
        | none => exact .nothing
        | some high =>
          dsimp only [Option.bind_some]
          split
          · exact .found _ h
          · exact .nothing
    · simp only [rangeTo?, Option.bind_eq_some_iff] at found
      obtain ⟨low, -, high, -, found⟩ := found
      split at found
      · cases found
        exact List.suffix_refl _
      · cases found
  · rw [alone, found]
    simp [rangeTo?, bracketChar?, Agree.nothing]

theorem steady_partFrom? (first : Atom) : Steady closing (flags.partFrom? first) := by
  intro cs cs' h
  have skipped := flags.skip_extended h
  have alone : ∀ {rest rest' : List Char}, Extended rest rest' →
      Agree closing ((flags.partAlone? first).bind fun set => some (set, rest))
        ((flags.partAlone? first).bind fun set => some (set, rest')) := by
    intro rest rest' h
    cases flags.partAlone? first with
    | none => exact .nothing
    | some set => exact .found set h
  unfold partFrom?
  generalize flags.skip cs = start at skipped ⊢
  generalize flags.skip cs' = start' at skipped ⊢
  cases skipped with
  | same => exact .nothing
  | closed =>
    refine .of_none fun set rest found => ?_
    obtain ⟨_, -, ⟨⟩⟩ := Option.bind_eq_some_iff.1 found
    exact List.suffix_refl _
  | @cons c more more' h =>
    by_cases dash : c = '-'
    · subst dash
      have bracket := flags.peek?_extended (x := ']') (by decide) h
      have again := flags.peek?_extended (x := '-') (by decide) h
      have range := flags.rangeTo?_extended first (flags.skip_extended h)
      change Agree closing
        (if flags.peek? more = some ']' || flags.peek? more = some '-' then
          (flags.partAlone? first).bind fun set => some (set, '-' :: more) else _)
        (if flags.peek? more' = some ']' || flags.peek? more' = some '-' then
          (flags.partAlone? first).bind fun set => some (set, '-' :: more') else _)
      simp only [bracket, again]
      split
      · exact alone (.cons _ h)
      · exact range.mono (List.suffix_cons ..)
    · simpa [dash] using alone (.cons c h)

theorem steady_bracketPart? : Steady closing flags.bracketPart? := by
  intro cs cs' h
  rw [bracketPart?_eq, bracketPart?_eq]
  rcases flags.bracketAtom?_extended h with agree | ⟨alone, look, rest, found⟩
  · exact (agree.mono (List.suffix_cons ..)).bind (fun first => flags.steady_partFrom? first)
      fun first => flags.shrinks_partFrom? first
  · rw [alone, found]
    simp [partFrom?_look, Agree.nothing]

theorem operator?_extended {cs cs' : List Char} (h : Extended cs cs') :
    Option.Rel (After Extended) (operator? cs) (operator? cs') := by
  cases h with
  | same => exact .none
  | closed => exact .none
  | cons c h =>
    cases h with
    | same =>
      have short : operator? [c] = none := by unfold operator?; split <;> simp_all
      rw [short]
      exact .none
    | closed =>
      unfold operator?
      split <;> split <;> simp_all [closing]
    | cons d h =>
      unfold operator?
      split <;> split <;> simp_all [After]

/-- Brackets are the same in the extended text, with so much fuel. -/
def ReadsOn (n n' : Nat) : Prop :=
  ∀ b outer {cs cs' : List Char}, Extended cs cs' → cs.length < n → cs'.length < n' →
    Option.Rel (After Extended) (flags.readBrackets? n b outer cs)
      (flags.readBrackets? n' b outer cs')

section ReadsOn

variable {flags} {n n' : Nat} (readsOn : flags.ReadsOn n n') (b : OpenBracket)
  (outer : List OpenBracket) {cs cs' : List Char} (h : Extended cs cs')

include readsOn h

theorem ReadsOn.opened (enough : cs.length < n) (enough' : cs'.length < n') :
    Option.Rel (After Extended) (flags.readOpened? n b outer cs)
      (flags.readOpened? n' b outer cs') := by
  have named := asciiClass?_extended h
  have suffix := fun {cls negated after} =>
    @asciiClass?_suffix cs after cls negated
  have suffix' := fun {cls negated after} =>
    @asciiClass?_suffix cs' after cls negated
  unfold readOpened?
  generalize asciiClass? cs = x at named suffix ⊢
  generalize asciiClass? cs' = x' at named suffix' ⊢
  cases named with
  | @some found found' same =>
    obtain ⟨cls, negated, after⟩ := found
    obtain ⟨_, _, after'⟩ := found'
    obtain ⟨rfl, rfl, left⟩ := same
    have := (suffix rfl).length_le
    have := (suffix' rfl).length_le
    dsimp only
    cases flags.negate? negated (flags.closeCase (.ascii cls)) with
    | none => exact .none
    | some set => exact readsOn _ _ left (by omega) (by omega)
  | none =>
    have opened := flags.steady_openBracket? _ _ h
    have suffix := flags.shrinks_openBracket? cs
    have suffix' := flags.shrinks_openBracket? cs'
    dsimp only
    generalize flags.openBracket? cs = x at opened suffix ⊢
    generalize flags.openBracket? cs' = x' at opened suffix' ⊢
    cases opened with
    | found inner left =>
      exact readsOn _ _ left (Nat.lt_of_le_of_lt (suffix _ _ rfl).length_le enough)
        (Nat.lt_of_le_of_lt (suffix' _ _ rfl).length_le enough')
    | nothing => exact .none
    | @beyond inner rest' within =>
      have unclosed : ']' ∉ rest' := fun inside => by
        simpa [closing] using within.subset inside
      simp [flags.readBrackets?_eq_none unclosed]

theorem ReadsOn.closed (enough : cs.length < n) (enough' : cs'.length < n') :
    Option.Rel (After Extended) (flags.readClosed? n b outer cs)
      (flags.readClosed? n' b outer cs') := by
  unfold readClosed?
  cases b.close? flags with
  | none => exact .none
  | some set =>
    cases outer with
    | nil => exact .some ⟨rfl, h⟩
    | cons parent others => exact readsOn _ _ h enough enough'

theorem ReadsOn.part (enough : cs.length ≤ n) (enough' : cs'.length ≤ n') :
    Option.Rel (After Extended) (flags.readPart? n b outer cs)
      (flags.readPart? n' b outer cs') := by
  have read := flags.steady_bracketPart? _ _ h
  have shorter := fun {set rest} => @flags.bracketPart?_length_lt cs rest set
  have shorter' := fun {set rest} => @flags.bracketPart?_length_lt cs' rest set
  unfold readPart?
  generalize flags.bracketPart? cs = x at read shorter ⊢
  generalize flags.bracketPart? cs' = x' at read shorter' ⊢
  cases read with
  | found set left =>
    exact readsOn _ _ left (Nat.lt_of_lt_of_le (shorter rfl) enough)
      (Nat.lt_of_lt_of_le (shorter' rfl) enough')
  | nothing => exact .none
  | @beyond set rest' within =>
    have unclosed : ']' ∉ rest' := fun inside => by
      simpa [closing] using within.subset inside
    simp [flags.readBrackets?_eq_none unclosed]

theorem ReadsOn.inner (enough : cs.length ≤ n) (enough' : cs'.length ≤ n') :
    Option.Rel (After Extended) (flags.readInner? n b outer cs)
      (flags.readInner? n' b outer cs') := by
  have read := operator?_extended h
  have shorter := fun {op rest} => @operator?_length_lt cs rest op
  have shorter' := fun {op rest} => @operator?_length_lt cs' rest op
  have part := readsOn.part b outer h enough enough'
  unfold readInner?
  generalize operator? cs = x at read shorter ⊢
  generalize operator? cs' = x' at read shorter' ⊢
  cases read with
  | @some found found' same =>
    obtain ⟨op, rest⟩ := found
    obtain ⟨_, rest'⟩ := found'
    obtain ⟨rfl, left⟩ := same
    exact readsOn _ _ left (Nat.lt_of_lt_of_le (shorter rfl) enough)
      (Nat.lt_of_lt_of_le (shorter' rfl) enough')
  | none => exact part

end ReadsOn

theorem readsOn (n n' : Nat) : flags.ReadsOn n n' := by
  induction n generalizing n' with
  | zero => exact fun b outer cs cs' h enough _ => absurd enough (Nat.not_lt_zero _)
  | succ n ih =>
    intro b outer cs cs' h enough enough'
    obtain ⟨n', rfl⟩ := Nat.exists_eq_succ_of_ne_zero (Nat.ne_zero_of_lt enough')
    have skipped := flags.skip_extended h
    have left := (flags.skip_suffix cs).length_le
    have left' := (flags.skip_suffix cs').length_le
    rw [Nat.succ_eq_add_one, readBrackets?_succ, readBrackets?_succ]
    generalize flags.skip cs = start at skipped left ⊢
    generalize flags.skip cs' = start' at skipped left' ⊢
    cases skipped with
    | same => exact .none
    | closed =>
      have unclosed := @flags.readBrackets?_eq_none (n' + 1) b outer closing (by simp [closing])
      rw [readBrackets?_succ, skip_closing] at unclosed
      rw [unclosed]
      exact .none
    | cons c h =>
      simp only [List.length_cons] at left left'
      by_cases opens : c = '['
      · subst opens
        exact (ih n').opened b outer h (by omega) (by omega)
      · by_cases closes : c = ']'
        · subst closes
          exact (ih n').closed b outer h (by omega) (by omega)
        · simpa [opens, closes] using
            (ih n').inner b outer (.cons c h) (by simp; omega) (by simp; omega)

theorem bracketSet?_extended {cs cs' : List Char} (h : Extended cs cs') :
    Option.Rel (After Extended) (flags.bracketSet? cs) (flags.bracketSet? cs') := by
  have opened := flags.steady_openBracket? _ _ h
  simp only [bracketSet?, Option.bind_eq_bind]
  generalize flags.openBracket? cs = x at opened ⊢
  generalize flags.openBracket? cs' = x' at opened ⊢
  cases opened with
  | found b h => exact flags.readsOn _ _ b [] h (Nat.lt_succ_self _) (Nat.lt_succ_self _)
  | nothing => exact .none
  | @beyond b rest' within =>
    have unclosed : ']' ∉ rest' := fun inside => by
      simpa [closing] using within.subset inside
    simp [flags.readBrackets?_eq_none unclosed]

end Flags

end PathRouting.Regex
