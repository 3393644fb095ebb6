import PathRouting.Proofs.Template.SegmentTree
import PathRouting.Template.Basic

/-!
What every compiled template satisfies: its names are those of its segments in order, no name is
declared twice, and no literal is empty.

A draft satisfies the same of the segments that it holds so far, open groups included, and every
token and every constraint keeps it. Main statements: `Draft.Sound.step` (one token),
`Compiled.of_compile` (a whole source with its constraints).
-/

namespace PathRouting.Template

open Segment

/-- A property that every step keeps holds after all of them. -/
theorem foldlM_keeps {σ α ε : Type} {P : σ → Prop} {step : σ → α → Except ε σ} {items : List α}
    (keeps : ∀ s, P s → ∀ a ∈ items, ∀ s', step s a = .ok s' → P s') {start final : σ}
    (first : P start) (run : items.foldlM step start = .ok final) : P final := by
  induction items generalizing start with
  | nil =>
    obtain rfl : start = final := Except.ok.inj run
    exact first
  | cons a rest ih =>
    rw [List.foldlM_cons] at run
    cases stepped : step start a with
    | error e =>
      rw [stepped] at run
      cases run
    | ok next =>
      rw [stepped] at run
      have second := keeps start first a List.mem_cons_self next stepped
      exact ih (fun s hs b hb => keeps s hs b (List.mem_cons_of_mem _ hb)) second run

/-! ### Tokens -/

theorem readText_ne_nil {c : Char} {cs : List Char} (plain : isSpecial c = false) :
    (readText (c :: cs)).1 ≠ [] := by
  unfold readText
  split
  · next h => cases h
  · simp
  · next h =>
    obtain ⟨rfl, rfl⟩ := List.cons.inj h
    simp [plain]

/-- A text that begins with no special character is read as a literal. -/
theorem readToken?_of_plain {c : Char} {cs : List Char} (plain : isSpecial c = false) :
    readToken? (c :: cs) =
      some (.literal (String.ofList (readText (c :: cs)).1), (readText (c :: cs)).2) := by
  unfold readToken?
  split
  · next h => cases h
  · next h => obtain ⟨rfl, -⟩ := List.cons.inj h; simp [isSpecial] at plain
  · next h => obtain ⟨rfl, -⟩ := List.cons.inj h; simp [isSpecial] at plain
  · next h => obtain ⟨rfl, -⟩ := List.cons.inj h; simp [isSpecial] at plain
  · next h => obtain ⟨rfl, -⟩ := List.cons.inj h; simp [isSpecial] at plain
  · next h => obtain ⟨rfl, -⟩ := List.cons.inj h; simp [isSpecial] at plain
  · rfl

/-- A literal token has at least one character. -/
theorem readToken?_ne_literal_empty {cs rest : List Char} {token : Token}
    (h : readToken? cs = some (token, rest)) : token ≠ .literal "" := by
  cases cs with
  | nil => cases h
  | cons c cs =>
    cases special : isSpecial c with
    | true =>
      simp only [isSpecial, Bool.or_eq_true, decide_eq_true_eq] at special
      rcases special with (((rfl | rfl) | rfl) | rfl) | rfl <;>
        (obtain ⟨rfl, -⟩ := Prod.mk.inj (Option.some.inj h); intro eq; cases eq)
    | false =>
      rw [readToken?_of_plain special] at h
      obtain ⟨rfl, -⟩ := Prod.mk.inj (Option.some.inj h)
      intro eq
      have empty := String.ofList_eq_empty_iff.mp (Token.literal.inj eq)
      exact readText_ne_nil special empty

theorem token_ne_literal_empty_of_mem {offset fuel : Nat} {cs : List Char} {lexeme : Lexeme}
    (mem : lexeme ∈ lexemesFrom offset fuel cs) : lexeme.token ≠ .literal "" := by
  induction fuel generalizing offset cs with
  | zero => simp [lexemesFrom] at mem
  | succ fuel ih =>
    rw [lexemesFrom] at mem
    split at mem
    · simp at mem
    · next token rest read =>
      rcases List.mem_cons.mp mem with rfl | later
      · exact readToken?_ne_literal_empty read
      · exact ih later

/-! ### Drafts -/

namespace Draft

/-- The segments that a draft holds, in order, with the content of open groups in their place. -/
def written (d : Draft) : List Segment :=
  (d.outer.reverse.flatMap fun g => g.2.reverse) ++ d.current.reverse

/-- What a draft satisfies while it is made. -/
structure Sound (d : Draft) : Prop where
  names_eq : d.names = namesOf d.written
  nodup : d.names.Nodup
  filled : "" ∉ literalsOf d.written

theorem sound_empty : Sound {} :=
  ⟨rfl, List.nodup_nil, by simp [written]⟩

/-- What one token may do to a draft. -/
inductive Advances (d : Draft) (offset : Nat) : Token → Draft → Prop where
  | literal (text : String) :
    Advances d offset (.literal text)
      { d with current := .literal text :: d.current, afterClose := false }
  | capture {name : String} :
    name ≠ "" → name ∉ d.names →
      Advances d offset (.capture name)
        { d with
          current := .capture name none :: d.current, names := d.names ++ [name],
          afterClose := false }
  | splat {name : String} :
    name ≠ "" → name ∉ d.names →
      Advances d offset (.splat name)
        { d with
          current := .splat name none :: d.current, names := d.names ++ [name],
          afterClose := false }
  | groupOpen :
    Advances d offset .groupOpen
      { d with current := [], outer := (offset, d.current) :: d.outer, afterClose := false }
  | groupClose {opened : Nat} {before : List Segment} {outer : List (Nat × List Segment)} :
    d.outer = (opened, before) :: outer →
      Advances d offset .groupClose
        { d with
          current := .optional d.current.reverse :: before, outer := outer, afterClose := true }
  | afterGroup : d.afterClose = true → Advances d offset .optional { d with afterClose := false }
  | lastOptional {current : List Segment} :
    d.afterClose = false → makeLastOptional? d.current = some current →
      Advances d offset .optional { d with current := current }

theorem advances_of_declare {d d' : Draft} {name : String} {segment : Segment}
    (h : d.declare name segment = .ok d') :
    name ∉ d.names ∧ d' = { d with
      current := segment :: d.current, names := d.names ++ [name], afterClose := false } := by
  unfold declare at h
  split at h
  · cases h
  · next new => exact ⟨new, (Except.ok.inj h).symm⟩

/-- A token that is no fault does one of these things. -/
theorem advances_of_step {d d' : Draft} {lexeme : Lexeme} (h : d.step lexeme = .ok d') :
    Advances d lexeme.offset lexeme.token d' := by
  obtain ⟨offset, token⟩ := lexeme
  cases token with
  | literal text =>
    obtain rfl := Except.ok.inj h
    exact .literal text
  | capture name =>
    simp only [step] at h
    split at h
    · cases h
    · next nonempty =>
      obtain ⟨new, rfl⟩ := advances_of_declare h
      exact .capture (by simpa using nonempty) new
  | splat name =>
    simp only [step] at h
    split at h
    · cases h
    · next nonempty =>
      obtain ⟨new, rfl⟩ := advances_of_declare h
      exact .splat (by simpa using nonempty) new
  | groupOpen =>
    obtain rfl := Except.ok.inj h
    exact .groupOpen
  | groupClose =>
    simp only [step] at h
    split at h
    · cases h
    · next opened before outer eq =>
      obtain rfl := Except.ok.inj h
      exact .groupClose eq
  | optional =>
    simp only [step] at h
    split at h
    · next closed =>
      obtain rfl := Except.ok.inj h
      exact .afterGroup closed
    · next unclosed =>
      split at h
      · next current eq =>
        obtain rfl := Except.ok.inj h
        exact .lastOptional (by simpa using unclosed) eq
      · cases h

end Draft

/-- Making the last character, capture or splat optional changes no name, and leaves no literal
empty. -/
theorem makeLastOptional?_keeps {current changed : List Segment}
    (h : makeLastOptional? current = some changed) :
    namesOf changed.reverse = namesOf current.reverse ∧
      ("" ∉ literalsOf current.reverse → "" ∉ literalsOf changed.reverse) := by
  unfold makeLastOptional? at h
  split at h
  · next text before =>
    split at h
    · cases h
    · next c rest eq =>
      have last : String.singleton c ≠ "" := by simp
      dsimp only at h
      split at h
      · obtain rfl := Option.some.inj h
        refine ⟨by simp, fun full => ?_⟩
        simp only [List.reverse_cons, literalsOf_append, List.mem_append, not_or] at full
        simp [full.1, last.symm]
      · next left =>
        have init : String.ofList rest.reverse ≠ "" := by
          simpa [String.ofList_eq_empty_iff] using left
        obtain rfl := Option.some.inj h
        refine ⟨by simp, fun full => ?_⟩
        simp only [List.reverse_cons, literalsOf_append, List.mem_append, not_or] at full
        simp [full.1, last.symm, init.symm]
  · obtain rfl := Option.some.inj h
    exact ⟨by simp, by simp⟩
  · obtain rfl := Option.some.inj h
    exact ⟨by simp, by simp⟩
  · cases h

/-- One token keeps a draft sound. -/
theorem Draft.Sound.step {d d' : Draft} {lexeme : Lexeme} (sound : d.Sound)
    (filled : lexeme.token ≠ .literal "") (h : d.step lexeme = .ok d') : d'.Sound := by
  obtain ⟨names_eq, nodup, full⟩ := sound
  obtain ⟨offset, token⟩ := lexeme
  cases advances_of_step h with
  | literal text =>
    have nonempty : text ≠ "" := fun eq => filled (by rw [eq])
    refine ⟨?_, nodup, ?_⟩
    · simpa [written] using names_eq
    · simpa [written, nonempty.symm] using full
  | capture _ new =>
    refine ⟨?_, ?_, ?_⟩
    · simp [names_eq, written]
    · exact List.nodup_append.mpr ⟨nodup, by simp, by grind⟩
    · simpa [written] using full
  | splat _ new =>
    refine ⟨?_, ?_, ?_⟩
    · simp [names_eq, written]
    · exact List.nodup_append.mpr ⟨nodup, by simp, by grind⟩
    · simpa [written] using full
  | groupOpen =>
    refine ⟨?_, nodup, ?_⟩
    · simpa [written] using names_eq
    · simpa [written] using full
  | groupClose outer =>
    refine ⟨?_, nodup, ?_⟩
    · simpa [written, outer] using names_eq
    · simpa [written, outer] using full
  | afterGroup => exact ⟨names_eq, nodup, full⟩
  | lastOptional _ changed =>
    obtain ⟨sameNames, keepsFull⟩ := makeLastOptional?_keeps changed
    simp only [written, literalsOf_append, List.mem_append, not_or] at full
    refine ⟨?_, nodup, ?_⟩
    · simpa [written, sameNames] using names_eq
    · simpa [written] using ⟨full.1, keepsFull full.2⟩

/-! ### Constraints -/

namespace Segment

theorem namesOf_constrainAll (key : String) (constraint : Constraint) (segments : List Segment) :
    namesOf (constrainAll key constraint segments) = namesOf segments := by
  induction segments using inductionOnTree with
  | nil => rfl
  | literal text rest ih => simpa [constrainAll, constrain] using ih
  | capture name old rest ih => simpa [constrainAll, constrain] using ih
  | splat name old rest ih => simpa [constrainAll, constrain] using ih
  | optional inner rest ihInner ih => simp [constrainAll, constrain, ihInner, ih]

theorem literalsOf_constrainAll (key : String) (constraint : Constraint)
    (segments : List Segment) :
    literalsOf (constrainAll key constraint segments) = literalsOf segments := by
  induction segments using inductionOnTree with
  | nil => rfl
  | literal text rest ih => simpa [constrainAll, constrain] using ih
  | capture name old rest ih => simpa [constrainAll, constrain] using ih
  | splat name old rest ih => simpa [constrainAll, constrain] using ih
  | optional inner rest ihInner ih => simp [constrainAll, constrain, ihInner, ih]

end Segment

theorem eq_constrainAll_of_attach {names : List String} {segments changed : List Segment}
    {entry : String × String} (h : attach names segments entry = .ok changed) :
    ∃ constraint, changed = constrainAll entry.1 constraint segments := by
  unfold attach at h
  split at h
  · cases h
  · next constraint _ =>
    split at h
    · exact ⟨constraint, (Except.ok.inj h).symm⟩
    · cases h

/-! ### Templates -/

/-- What every compiled template satisfies. -/
structure Compiled (t : Template) : Prop where
  names_eq : t.names = namesOf t.segments
  nodup : t.names.Nodup
  filled : "" ∉ literalsOf t.segments

/-- What a source writes before constraints are attached. -/
theorem sound_of_segmentsOf {lexemes : List Lexeme} {segments : List Segment}
    {names : List String} (filled : ∀ lexeme ∈ lexemes, lexeme.token ≠ .literal "")
    (h : segmentsOf lexemes = .ok (segments, names)) :
    names = namesOf segments ∧ names.Nodup ∧ "" ∉ literalsOf segments := by
  unfold segmentsOf at h
  cases drafted : lexemes.foldlM Draft.step {} with
  | error fault =>
    rw [drafted] at h
    cases h
  | ok d =>
    rw [drafted] at h
    have sound : d.Sound :=
      foldlM_keeps (fun s hs lexeme mem _ => hs.step (filled lexeme mem)) Draft.sound_empty drafted
    cases nested : d.outer with
    | cons g outer =>
      simp only [nested, bind, Except.bind] at h
      cases h
    | nil =>
      simp only [nested, bind, Except.bind] at h
      obtain ⟨rfl, rfl⟩ := Prod.mk.inj (Except.ok.inj h)
      have written : d.written = d.current.reverse := by simp [Draft.written, nested]
      exact ⟨written ▸ sound.names_eq, sound.nodup, written ▸ sound.filled⟩

/-- A template that compiles comes from the segments of its source, and from its constraints. -/
theorem exists_segmentsOf_of_compile {source : String} {constraints : List (String × String)}
    {t : Template} (h : compile source constraints = .ok t) :
    ∃ segments, segmentsOf (tokenize source) = .ok (segments, t.names) ∧
      constraints.foldlM (attach t.names) segments = .ok t.segments ∧ t.source = source := by
  unfold compile compileOrFault at h
  cases written : segmentsOf (tokenize source) with
  | error fault =>
    rw [written] at h
    cases h
  | ok found =>
    obtain ⟨segments, names⟩ := found
    cases attached : constraints.foldlM (attach names) segments with
    | error fault =>
      simp only [written, bind, Except.bind, attached] at h
      cases h
    | ok constrained =>
      simp only [written, bind, Except.bind, attached] at h
      obtain rfl := Except.ok.inj h
      exact ⟨segments, rfl, attached, rfl⟩

theorem Compiled.of_compile {source : String} {constraints : List (String × String)}
    {t : Template} (h : compile source constraints = .ok t) : t.Compiled := by
  obtain ⟨segments, written, attached, -⟩ := exists_segmentsOf_of_compile h
  obtain ⟨names_eq, nodup, filled⟩ :=
    sound_of_segmentsOf (fun lexeme mem => token_ne_literal_empty_of_mem mem) written
  have same : namesOf t.segments = namesOf segments ∧
      literalsOf t.segments = literalsOf segments := by
    refine foldlM_keeps (P := fun s => namesOf s = namesOf segments ∧
      literalsOf s = literalsOf segments) ?_ ⟨rfl, rfl⟩ attached
    intro s hs entry _ changed step
    obtain ⟨constraint, rfl⟩ := eq_constrainAll_of_attach step
    exact ⟨(namesOf_constrainAll ..).trans hs.1, (literalsOf_constrainAll ..).trans hs.2⟩
  exact ⟨names_eq.trans same.1.symm, nodup, same.2 ▸ filled⟩

end PathRouting.Template
