import PathRouting.Proofs.Template.Grammar
import PathRouting.Proofs.Template.Tokens

/-!
The compiler agrees with the grammar of templates.

A draft is tied to the tokens that were read by `Draft.Follows`: the innermost open group is read as
the segments it holds, each group around it as those it held when the next one was opened. Main
statements: `Draft.Follows.exists_step` and `Draft.Follows.step_eq_error` (one token), `Draft.run`
(all tokens), `Reads.leads_to` (there is no other reading), `segmentsOf_agrees` (a whole template).
-/

namespace PathRouting.Template

/-- What every token of a text satisfies, apart from where it stands. -/
def Legible (lexemes : List Lexeme) : Prop :=
  ∀ x ∈ lexemes, x.token ≠ .literal "" ∧ x.token ≠ .splat ""

theorem legible_tokenize (source : String) : Legible (tokenize source) := by
  intro x mem
  obtain ⟨front, rest, after, -, -, takes⟩ := standsIn_of_mem_tokenize mem
  exact ⟨token_ne_literal_empty_of_mem mem, takes.ne_splat_empty⟩

/-! ### Question marks -/

theorem makeLastOptional?_literal (front : List Char) (c : Char) (before : List Segment) :
    makeLastOptional? (.literal (String.ofList (front ++ [c])) :: before) =
      some (.optional [.literal (String.singleton c)] :: (plainText front ++ before)) := by
  unfold makeLastOptional? plainText
  cases front <;> simp

theorem makeLastOptional?_slot {token : Token} {segment : Segment}
    (slot : token.slot? = some segment) (before : List Segment) :
    makeLastOptional? (segment :: before) = some (.optional [segment] :: before) := by
  cases token <;> cases slot <;> rfl

@[simp] theorem reverse_plainText (text : List Char) :
    (plainText text).reverse = plainText text := by
  unfold plainText
  split <;> rfl

/-- What reads as a text, capture or splat at its end reads on with a question mark. -/
theorem Reads.exists_mark {tokens : List Token} {token : Token} {current : List Segment}
    (h : Reads (tokens ++ [token]) current.reverse) (filled : token ≠ .literal "")
    (markable : token.takesMark = true) (notClose : token ≠ .groupClose) :
    ∃ changed, makeLastOptional? current = some changed ∧
      Reads (tokens ++ [token, .optional]) changed.reverse := by
  obtain ⟨segments, rfl⟩ : ∃ segments, current = segments.reverse := ⟨current.reverse, by simp⟩
  rw [List.reverse_reverse] at h
  cases h.endsAt with
  | literal text reads =>
    rcases List.eq_nil_or_concat text.toList with empty | ⟨front, c, chars⟩
    · exact absurd (congrArg Token.literal (String.toList_eq_nil_iff.mp empty)) filled
    · obtain rfl : text = String.ofList (front ++ [c]) := by
        rw [← List.concat_eq_append, ← chars, String.ofList_toList]
      rw [List.reverse_append]
      refine ⟨_, makeLastOptional?_literal front c _, ?_⟩
      simpa using reads.lastCharacter front c
  | slot slot reads =>
    rw [List.reverse_append]
    refine ⟨_, makeLastOptional?_slot slot _, ?_⟩
    simpa using reads.optionalSlot slot
  | groupClose => exact absurd rfl notClose
  | optional => cases markable

/-! ### Open groups -/

/-- What it is for a draft to hold the readings of the lexemes so far. -/
inductive Opened : List Lexeme → List (Nat × List Segment) → List Segment → Prop where
  | ground {lexemes current} :
    Reads (lexemes.map Lexeme.token) current.reverse → Opened lexemes [] current
  | group {before outer held inner current} (offset : Nat) :
    Opened before outer held → Reads (inner.map Lexeme.token) current.reverse →
      Opened (before ++ ⟨offset, .groupOpen⟩ :: inner) ((offset, held) :: outer) current

namespace Opened

variable {lexemes : List Lexeme} {outer : List (Nat × List Segment)} {current : List Segment}

/-- The lexemes of the innermost open group can be read as the draft holds them, and any other ones
could stand in their place. -/
theorem exists_innermost (h : Opened lexemes outer current) :
    ∃ front inner, lexemes = front ++ inner ∧
      (front = [] ∨ ∃ x ∈ front.getLast?, x.token = .groupOpen) ∧
      Reads (inner.map Lexeme.token) current.reverse ∧
      ∀ other changed, Reads (other.map Lexeme.token) changed.reverse →
        Opened (front ++ other) outer changed := by
  cases h with
  | ground reads => exact ⟨[], lexemes, rfl, .inl rfl, reads, fun _ _ => .ground⟩
  | @group before outer held inner current offset opened reads =>
    refine ⟨before ++ [⟨offset, .groupOpen⟩], inner, by simp, .inr ?_, reads, ?_⟩
    · exact ⟨⟨offset, .groupOpen⟩, by simp, rfl⟩
    · intro other changed readsOther
      simpa using opened.group offset readsOther

/-- If the last token opens no group, then the innermost group was read up to that token. -/
theorem exists_last (h : Opened lexemes outer current) {token : Token}
    (last : (lexemes.map Lexeme.token).getLast? = some token) (notOpen : token ≠ .groupOpen) :
    ∃ front inner y, lexemes = front ++ (inner ++ [y]) ∧ y.token = token ∧
      Reads (inner.map Lexeme.token ++ [token]) current.reverse ∧
      ∀ other changed, Reads (other.map Lexeme.token) changed.reverse →
        Opened (front ++ other) outer changed := by
  obtain ⟨front, inner, rfl, ends, reads, replace⟩ := h.exists_innermost
  rcases List.eq_nil_or_concat inner with rfl | ⟨init, y, rfl⟩
  · exfalso
    rcases ends with rfl | ⟨x, final, opens⟩
    · simp at last
    · rw [List.append_nil, List.getLast?_map, final, Option.map_some, opens] at last
      exact notOpen (Option.some.inj last).symm
  · rw [List.concat_eq_append] at last reads ⊢
    have same : y.token = token := by simpa using last
    exact ⟨front, init, y, rfl, same, by simpa [same] using reads, replace⟩

/-- Without a token that takes a question mark, the innermost group ends in nothing that a question
mark can make optional. -/
theorem makeLastOptional?_eq_none (h : Opened lexemes outer current)
    (unmarkable : (lexemes.map Lexeme.token).getLast?.any Token.takesMark = false) :
    makeLastOptional? current = none := by
  obtain ⟨front, inner, rfl, -, reads, -⟩ := h.exists_innermost
  obtain ⟨segments, rfl⟩ : ∃ segments, current = segments.reverse := ⟨current.reverse, by simp⟩
  rw [List.reverse_reverse] at reads
  rcases List.eq_nil_or_concat inner with rfl | ⟨init, y, rfl⟩
  · obtain rfl := reads.eq_nil
    rfl
  · rw [List.concat_eq_append] at reads unmarkable
    have refused : y.token.takesMark = false := by simpa using unmarkable
    rw [List.map_append, List.map_singleton] at reads
    generalize y.token = token at reads refused
    cases reads.endsAt with
    | literal | groupClose => cases refused
    | slot slot =>
      rw [Token.takesMark_of_slot? slot] at refused
      cases refused
    | optional => simp [makeLastOptional?]

/-- As many groups are open as were opened and not closed. -/
theorem count_eq (h : Opened lexemes outer current) :
    (lexemes.map Lexeme.token).count .groupOpen =
      (lexemes.map Lexeme.token).count .groupClose + outer.length := by
  induction h with
  | ground reads => simp [reads.balanced.count_eq]
  | @group before outer held inner current offset _ reads ih =>
    have inside := reads.balanced.count_eq
    simp only [List.map_append, List.map_cons, List.count_append, List.count_cons_self,
      List.length_cons, List.count_cons_of_ne (show Token.groupOpen ≠ .groupClose by simp)]
    omega

end Opened

/-! ### One token -/

namespace Draft

/-- What a draft satisfies after the given lexemes. -/
structure Follows (lexemes : List Lexeme) (d : Draft) : Prop where
  opened : Opened lexemes d.outer d.current
  names_eq : d.names = declared (lexemes.map Lexeme.token)
  closed_iff : d.afterClose = true ↔ (lexemes.map Lexeme.token).getLast? = some .groupClose

theorem follows_empty : Follows [] {} :=
  ⟨.ground .nil, rfl, by simp⟩

theorem declare_of_notMem {d : Draft} {name : String} (new : name ∉ d.names) (segment : Segment) :
    d.declare name segment = .ok { d with
      current := segment :: d.current, names := d.names ++ [name], afterClose := false } :=
  if_neg new

theorem declare_of_mem {d : Draft} {name : String} (known : name ∈ d.names) (segment : Segment) :
    d.declare name segment = .error (.duplicateName name) :=
  if_pos known

/-- A capture or splat with a name is declared. -/
theorem step_slot (d : Draft) {x : Lexeme} {segment : Segment} {name : String}
    (slot : x.token.slot? = some segment) (declares : x.token.name? = some name)
    (filled : name ≠ "") : d.step x = d.declare name segment := by
  obtain ⟨offset, token⟩ := x
  cases token <;> cases slot <;> cases declares <;> simp [step, filled]

namespace Follows

variable {before : List Lexeme} {d : Draft}

/-- A token that the innermost group can be read on with. -/
theorem extend (h : Follows before d) (x : Lexeme) (notClose : x.token ≠ .groupClose)
    (current : List Segment)
    (reads : ∀ tokens, Reads tokens d.current.reverse →
      Reads (tokens ++ [x.token]) current.reverse) :
    Follows (before ++ [x])
      { d with
        current := current, names := d.names ++ x.token.name?.toList, afterClose := false } := by
  obtain ⟨front, inner, rfl, -, readsInner, replace⟩ := h.opened.exists_innermost
  refine ⟨?_, ?_, ?_⟩
  · have longer := replace (inner ++ [x]) current (by simpa using reads _ readsInner)
    simpa using longer
  · simp [h.names_eq]
  · simpa using notClose

theorem groupOpen (h : Follows before d) (offset : Nat) :
    Follows (before ++ [⟨offset, .groupOpen⟩])
      { d with current := [], outer := (offset, d.current) :: d.outer, afterClose := false } := by
  refine ⟨h.opened.group offset .nil, ?_, ?_⟩
  · simp [h.names_eq, Token.name?]
  · simp

theorem groupClose (h : Follows before d) (offset : Nat) {opened : Nat} {held : List Segment}
    {outer : List (Nat × List Segment)} (nested : d.outer = (opened, held) :: outer) :
    Follows (before ++ [⟨offset, .groupClose⟩])
      { d with
        current := .optional d.current.reverse :: held, outer := outer, afterClose := true } := by
  refine ⟨?_, by simp [h.names_eq, Token.name?], by simp⟩
  have groups := h.opened
  rw [nested] at groups
  cases groups with
  | @group around _ _ content _ _ parent reads =>
    obtain ⟨front, inner, rfl, -, readsInner, replace⟩ := parent.exists_innermost
    have closed := readsInner.group reads
    have longer := replace (inner ++ ⟨opened, .groupOpen⟩ :: content ++ [⟨offset, .groupClose⟩])
      (.optional d.current.reverse :: held) (by simpa using closed)
    simpa using longer

/-- A question mark after a group changes no segment. -/
theorem markGroup (h : Follows before d) (offset : Nat) (closed : d.afterClose = true) :
    Follows (before ++ [⟨offset, .optional⟩]) { d with afterClose := false } := by
  refine ⟨?_, by simp [h.names_eq, Token.name?], by simp⟩
  obtain ⟨front, inner, y, rfl, token, reads, replace⟩ :=
    h.opened.exists_last (h.closed_iff.mp closed) (by simp)
  have marked : Reads (inner.map Lexeme.token ++ [.groupClose, .optional]) d.current.reverse := by
    generalize d.current.reverse = segments at reads
    cases reads.endsAt with
    | groupClose marked => exact marked
    | slot slot => cases slot
  have longer := replace (inner ++ [y] ++ [⟨offset, .optional⟩]) d.current
    (by simpa [token] using marked)
  simpa using longer

/-- A question mark makes what the last token wrote optional, where it can. -/
theorem exists_mark (h : Follows before d) (legible : Legible before) (offset : Nat)
    (closed : d.afterClose = false)
    (markable : (before.map Lexeme.token).getLast?.any Token.takesMark = true) :
    ∃ current, makeLastOptional? d.current = some current ∧
      Follows (before ++ [⟨offset, .optional⟩]) { d with current := current } := by
  cases last : (before.map Lexeme.token).getLast? with
  | none =>
    rw [last] at markable
    cases markable
  | some token =>
    rw [last] at markable
    have notOpen : token ≠ .groupOpen := by
      rintro rfl
      cases markable
    -- The flag is off, so the last token closed no group.
    have notClose : token ≠ .groupClose := by
      rintro rfl
      rw [h.closed_iff.mpr last] at closed
      cases closed
    obtain ⟨front, inner, y, rfl, rfl, reads, replace⟩ := h.opened.exists_last last notOpen
    have filled := (legible y (by simp)).1
    obtain ⟨current, changed, marked⟩ := reads.exists_mark filled (by simpa using markable) notClose
    refine ⟨current, changed, ?_, by simp [h.names_eq, Token.name?], by simp [closed]⟩
    have longer := replace (inner ++ [y, ⟨offset, .optional⟩]) current (by simpa using marked)
    simpa using longer

end Follows

section Step

variable {before : List Lexeme} {x : Lexeme} {d : Draft}

/-- A capture or splat with a new name leads to a draft that follows. -/
theorem Follows.exists_step_slot (h : Follows before d) {segment : Segment} {name : String}
    (slot : x.token.slot? = some segment) (declares : x.token.name? = some name)
    (filled : name ≠ "") (new : name ∉ declared (before.map Lexeme.token)) :
    ∃ next, d.step x = .ok next ∧ Follows (before ++ [x]) next := by
  have notClose := Token.ne_groupClose_of_slot? slot
  rw [← h.names_eq] at new
  refine ⟨_, (step_slot d slot declares filled).trans (declare_of_notMem new segment), ?_⟩
  have longer := h.extend x notClose (segment :: d.current)
    (fun _ reads => by simpa using reads.slot slot)
  simpa [declares] using longer

/-- A token that breaks no rule leads to a draft that follows. -/
theorem Follows.exists_step (h : Follows before d) (legible : Legible (before ++ [x]))
    (allowed : offence? (before.map Lexeme.token) x = none) :
    ∃ next, d.step x = .ok next ∧ Follows (before ++ [x]) next := by
  obtain ⟨offset, token⟩ := x
  cases token with
  | literal text =>
    refine ⟨_, rfl, ?_⟩
    have longer := h.extend ⟨offset, .literal text⟩ (by simp) (.literal text :: d.current)
      (fun _ reads => by simpa using reads.literal text)
    simpa [Token.name?] using longer
  | capture name =>
    have new := notMem_declared_of_offence? rfl allowed
    have filled : name ≠ "" := by
      rintro rfl
      cases allowed
    exact h.exists_step_slot rfl rfl filled new
  | splat name =>
    have new := notMem_declared_of_offence? rfl allowed
    have filled : name ≠ "" := fun eq => (legible ⟨offset, .splat name⟩ (by simp)).2 (by simp [eq])
    exact h.exists_step_slot rfl rfl filled new
  | groupOpen => exact ⟨_, rfl, h.groupOpen offset⟩
  | groupClose =>
    cases nested : d.outer with
    | nil =>
      have balance := h.opened.count_eq
      simp [offence?, balance, nested] at allowed
    | cons innermost outer =>
      exact ⟨_, by simp only [step, nested], h.groupClose offset nested⟩
  | optional =>
    have markable : (before.map Lexeme.token).getLast?.any Token.takesMark = true := by
      simpa [offence?] using allowed
    cases closed : d.afterClose with
    | true => exact ⟨_, by simp only [step, closed, if_true], h.markGroup offset closed⟩
    | false =>
      obtain ⟨current, changed, follows⟩ := h.exists_mark
        (fun y mem => legible y (List.mem_append_left _ mem)) offset closed markable
      exact ⟨_, by simp [step, closed, changed], follows⟩

/-- A token that breaks a rule is reported. -/
theorem Follows.step_eq_error {fault : TemplateFault} (h : Follows before d)
    (legible : Legible (before ++ [x]))
    (offends : offence? (before.map Lexeme.token) x = some fault) : d.step x = .error fault := by
  obtain ⟨offset, token⟩ := x
  cases token with
  | literal | groupOpen => cases offends
  | capture name =>
    by_cases empty : name = ""
    · subst empty
      obtain rfl := Option.some.inj offends
      rfl
    · simp only [offence?, empty, if_false, Option.ite_none_right_eq_some] at offends
      obtain ⟨known, reported⟩ := offends
      obtain rfl := Option.some.inj reported
      rw [← h.names_eq] at known
      rw [step_slot d rfl rfl empty, declare_of_mem known]
  | splat name =>
    have filled : name ≠ "" := fun eq => (legible ⟨offset, .splat name⟩ (by simp)).2 (by simp [eq])
    simp only [offence?, Option.ite_none_right_eq_some] at offends
    obtain ⟨known, reported⟩ := offends
    obtain rfl := Option.some.inj reported
    rw [← h.names_eq] at known
    rw [step_slot d rfl rfl filled, declare_of_mem known]
  | groupClose =>
    simp only [offence?, Option.ite_none_right_eq_some] at offends
    obtain ⟨balance, reported⟩ := offends
    obtain rfl := Option.some.inj reported
    rw [h.opened.count_eq] at balance
    have flat : d.outer = [] := List.length_eq_zero_iff.mp (by omega)
    simp only [step, flat]
  | optional =>
    simp only [offence?, Option.ite_none_left_eq_some] at offends
    obtain ⟨refused, reported⟩ := offends
    obtain rfl := Option.some.inj reported
    have unmarkable := Bool.eq_false_iff.mpr refused
    have closed : d.afterClose = false := by
      refine Bool.eq_false_iff.mpr fun closed => refused ?_
      rw [h.closed_iff.mp closed]
      rfl
    simp [step, closed, h.opened.makeLastOptional?_eq_none unmarkable]

end Step

/-! ### All tokens -/

/-- The tokens up to any one lead to a draft that follows, or the first that breaks a rule is
reported. -/
theorem run {lexemes : List Lexeme} (legible : Legible lexemes) :
    (∃ d, lexemes.foldlM step {} = .ok d ∧ Follows lexemes d ∧ Inoffensive lexemes) ∨
      ∃ before x after fault, lexemes = before ++ x :: after ∧ Inoffensive before ∧
        offence? (before.map Lexeme.token) x = some fault ∧
        lexemes.foldlM step {} = .error fault := by
  -- A token is judged by those in front of it, so the induction takes tokens off the end.
  induction lexemes using List.reverseRecOn with
  | nil => exact .inl ⟨{}, rfl, follows_empty, by simp [Inoffensive]⟩
  | append_singleton init y ih =>
    rw [List.foldlM_append]
    rcases ih fun z mem => legible z (List.mem_append_left _ mem) with
      ⟨d, drafted, follows, allowed⟩ | ⟨before, x, after, fault, rfl, allowed, offends, failed⟩
    · rw [drafted]
      cases offends : offence? (init.map Lexeme.token) y with
      | none =>
        obtain ⟨next, stepped, follows⟩ := follows.exists_step legible offends
        refine .inl ⟨next, ?_, follows, inoffensive_concat.mpr ⟨allowed, offends⟩⟩
        simp [bind, Except.bind, stepped, pure, Except.pure]
      | some fault =>
        have failed := follows.step_eq_error legible offends
        refine .inr ⟨init, y, [], fault, rfl, allowed, offends, ?_⟩
        simp [bind, Except.bind, failed]
    · rw [failed]
      exact .inr ⟨before, x, after ++ [y], fault, by simp, allowed, offends, rfl⟩

/-- What it is for tokens, wherever they stand, to lead from one draft to another. -/
def Leads (d : Draft) (tokens : List Token) (next : Draft) : Prop :=
  ∃ lexemes : List Lexeme, lexemes.map Lexeme.token = tokens ∧ lexemes.foldlM step d = .ok next

namespace Leads

variable {d next : Draft}

theorem eq_of_nil (h : Leads d [] next) : next = d := by
  obtain ⟨lexemes, empty, drafted⟩ := h
  obtain rfl := List.map_eq_nil_iff.mp empty
  exact (Except.ok.inj drafted).symm

theorem exists_append {a b : List Token} (h : Leads d (a ++ b) next) :
    ∃ middle, Leads d a middle ∧ Leads middle b next := by
  obtain ⟨lexemes, tokens, drafted⟩ := h
  obtain ⟨left, right, rfl, rfl, rfl⟩ := List.map_eq_append_iff.mp tokens
  rw [List.foldlM_append] at drafted
  cases first : left.foldlM step d with
  | error fault =>
    rw [first] at drafted
    cases drafted
  | ok middle =>
    rw [first] at drafted
    exact ⟨middle, ⟨left, rfl, first⟩, right, rfl, drafted⟩

theorem exists_cons {token : Token} {rest : List Token} (h : Leads d (token :: rest) next) :
    ∃ offset middle, Advances d offset token middle ∧ Leads middle rest next := by
  obtain ⟨lexemes, tokens, drafted⟩ := h
  obtain ⟨x, right, rfl, rfl, rfl⟩ := List.map_eq_cons_iff.mp tokens
  rw [List.foldlM_cons] at drafted
  cases first : d.step x with
  | error fault =>
    rw [first] at drafted
    cases drafted
  | ok middle =>
    rw [first] at drafted
    exact ⟨x.offset, middle, advances_of_step first, right, rfl, drafted⟩

/-- A group whose content adds segments to any draft adds one optional segment. -/
theorem exists_group {inner rest : List Token} {content : List Segment}
    (h : Leads d (.groupOpen :: inner ++ .groupClose :: rest) next)
    (reads : ∀ {a b : Draft}, Leads a inner b →
      b.current = content.reverse ++ a.current ∧ b.outer = a.outer) :
    ∃ closed, Leads closed rest next ∧ closed.current = .optional content :: d.current ∧
      closed.outer = d.outer ∧ closed.afterClose = true := by
  obtain ⟨offset, opened, opens, within⟩ := h.exists_cons
  obtain ⟨filled, inside, closing⟩ := within.exists_append
  obtain ⟨_, closed, closes, more⟩ := closing.exists_cons
  obtain ⟨current, outer⟩ := reads inside
  refine ⟨closed, more, ?_⟩
  cases opens with
  | groupOpen =>
    cases closes with
    | groupClose top =>
      rw [outer] at top
      obtain ⟨same, rfl⟩ := List.cons.inj top
      obtain ⟨-, rfl⟩ := Prod.mk.inj same
      exact ⟨by simp [current], rfl, rfl⟩

end Leads

section Advances

variable {d next : Draft} {offset : Nat} {token : Token}

theorem Advances.of_slot (h : Advances d offset token next) {segment : Segment}
    (slot : token.slot? = some segment) :
    next.current = segment :: d.current ∧ next.outer = d.outer ∧ next.afterClose = false := by
  cases h <;> cases slot <;> exact ⟨rfl, rfl, rfl⟩

theorem Advances.of_mark (h : Advances d offset .optional next) (unclosed : d.afterClose = false)
    {current : List Segment} (changed : makeLastOptional? d.current = some current) :
    next.current = current ∧ next.outer = d.outer := by
  cases h with
  | afterGroup closed =>
    rw [unclosed] at closed
    cases closed
  | lastOptional _ other =>
    rw [changed] at other
    exact ⟨(Option.some.inj other).symm, rfl⟩

end Advances

end Draft

open Draft in
/-- Tokens that have a reading add its segments to a draft and leave no group open. -/
theorem Reads.leads_to {tokens : List Token} {segments : List Segment} (h : Reads tokens segments)
    {d next : Draft} (leads : Leads d tokens next) :
    next.current = segments.reverse ++ d.current ∧ next.outer = d.outer := by
  -- The drafts stay arbitrary: the content of a group starts on a level of its own.
  induction h generalizing d next with
  | nil =>
    obtain rfl := leads.eq_of_nil
    exact ⟨rfl, rfl⟩
  | literal text _ ih =>
    obtain ⟨middle, first, second⟩ := leads.exists_append
    obtain ⟨current, outer⟩ := ih first
    obtain ⟨offset, last, advances, done⟩ := second.exists_cons
    obtain rfl := done.eq_of_nil
    cases advances with
    | literal => exact ⟨by simp [current], outer⟩
  | lastCharacter front c _ ih =>
    obtain ⟨middle, first, second⟩ := leads.exists_append
    obtain ⟨current, outer⟩ := ih first
    obtain ⟨offset, written, advances, third⟩ := second.exists_cons
    obtain ⟨_, last, marks, done⟩ := third.exists_cons
    obtain rfl := done.eq_of_nil
    cases advances with
    | literal =>
      obtain ⟨marked, same⟩ := marks.of_mark rfl (makeLastOptional?_literal front c middle.current)
      exact ⟨by simp [marked, current], same.trans outer⟩
  | slot slot _ ih =>
    obtain ⟨middle, first, second⟩ := leads.exists_append
    obtain ⟨current, outer⟩ := ih first
    obtain ⟨offset, last, advances, done⟩ := second.exists_cons
    obtain rfl := done.eq_of_nil
    obtain ⟨written, same, -⟩ := advances.of_slot slot
    exact ⟨by simp [written, current], same.trans outer⟩
  | optionalSlot slot _ ih =>
    obtain ⟨middle, first, second⟩ := leads.exists_append
    obtain ⟨current, outer⟩ := ih first
    obtain ⟨offset, named, advances, third⟩ := second.exists_cons
    obtain ⟨_, last, marks, done⟩ := third.exists_cons
    obtain rfl := done.eq_of_nil
    obtain ⟨written, same, unclosed⟩ := advances.of_slot slot
    obtain ⟨marked, sameMarked⟩ := marks.of_mark unclosed
      (written ▸ makeLastOptional?_slot slot middle.current)
    exact ⟨by simp [marked, current], (sameMarked.trans same).trans outer⟩
  | group _ _ ih ihInner =>
    rw [List.append_assoc] at leads
    obtain ⟨middle, first, second⟩ := leads.exists_append
    obtain ⟨current, outer⟩ := ih first
    obtain ⟨closed, done, written, same, -⟩ := second.exists_group ihInner
    obtain rfl := done.eq_of_nil
    exact ⟨by simp [written, current], same.trans outer⟩
  | optionalGroup _ _ ih ihInner =>
    rw [List.append_assoc] at leads
    obtain ⟨middle, first, second⟩ := leads.exists_append
    obtain ⟨current, outer⟩ := ih first
    obtain ⟨closed, more, written, same, afterClose⟩ := second.exists_group ihInner
    obtain ⟨offset, last, marks, done⟩ := more.exists_cons
    obtain rfl := done.eq_of_nil
    cases marks with
    | afterGroup => exact ⟨by simp [written, current], same.trans outer⟩
    | lastOptional unclosed =>
      rw [afterClose] at unclosed
      cases unclosed

/-! ### Whole templates -/

/-- What a template says: the reading of its tokens, or the fault to be reported. -/
theorem segmentsOf_agrees {lexemes : List Lexeme} (legible : Legible lexemes) :
    (∃ segments, segmentsOf lexemes = .ok (segments, declared (lexemes.map Lexeme.token)) ∧
      WellFormed (lexemes.map Lexeme.token) ∧
      ∀ other, Reads (lexemes.map Lexeme.token) other ↔ other = segments) ∨
    ∃ fault, segmentsOf lexemes = .error fault ∧ ¬ WellFormed (lexemes.map Lexeme.token) ∧
      Reported lexemes fault := by
  rcases Draft.run legible with
    ⟨d, drafted, follows, allowed⟩ | ⟨before, x, after, fault, rfl, allowed, offends, failed⟩
  · have balance := follows.opened.count_eq
    cases nested : d.outer with
    | nil =>
      rw [nested] at balance
      have opened := follows.opened
      rw [nested] at opened
      cases opened with
      | ground reads =>
        refine .inl ⟨d.current.reverse, ?_, ?_, ?_⟩
        · simp [segmentsOf, drafted, bind, Except.bind, nested, follows.names_eq]
        · exact wellFormed_iff.mpr ⟨allowed, by simpa using balance.symm⟩
        · intro other
          constructor
          · intro reads'
            have same := (reads'.leads_to ⟨lexemes, rfl, drafted⟩).1
            simp [same]
          · rintro rfl
            exact reads
    | cons innermost outer =>
      obtain ⟨offset, held⟩ := innermost
      refine .inr ⟨.unbalancedOpen offset, ?_, ?_, ?_⟩
      · simp [segmentsOf, drafted, bind, Except.bind, nested]
      · intro wellFormed
        have equal := (wellFormed_iff.mp wellFormed).2
        rw [balance, nested, List.length_cons] at equal
        omega
      · have opened := follows.opened
        rw [nested] at opened
        cases opened with
        | group offset parent reads => exact .unclosed rfl allowed reads.balanced
  · refine .inr ⟨fault, ?_, ?_, .offence rfl allowed offends⟩
    · simp [segmentsOf, failed, bind, Except.bind]
    · intro wellFormed
      have noOffence := (wellFormed_iff.mp wellFormed).1 before x after rfl
      rw [noOffence] at offends
      cases offends

theorem compile_of_segmentsOf {source : String} {segments : List Segment} {names : List String}
    (h : segmentsOf (tokenize source) = .ok (segments, names)) :
    compile source [] = .ok ⟨source, segments, names⟩ := by
  rw [compile, compileOrFault, h]
  rfl

theorem compile_of_fault {source : String} {fault : TemplateFault}
    (h : segmentsOf (tokenize source) = .error fault) :
    compile source [] = .error (.template source fault) := by
  rw [compile, compileOrFault, h]
  rfl

/-- A source compiles exactly if its tokens obey the rules. Its segments are then the reading of the
tokens; otherwise the fault of the leftmost token that breaks a rule is reported, and only if there
is none, the innermost open group. -/
theorem compile_agrees (source : String) :
    ((∃ t, compile source [] = .ok t) ↔ WellFormed ((tokenize source).map Lexeme.token)) ∧
      (∀ t, compile source [] = .ok t →
        ∀ segments, Reads ((tokenize source).map Lexeme.token) segments ↔
          segments = t.segments) ∧
      (∀ e, compile source [] = .error e →
        ∃ fault, e = .template source fault ∧ Reported (tokenize source) fault) ∧
      ∀ x ∈ tokenize source, x.StandsIn source.toList := by
  have stands (x : Lexeme) (mem : x ∈ tokenize source) := standsIn_of_mem_tokenize mem
  rcases segmentsOf_agrees (legible_tokenize source) with
    ⟨segments, written, wellFormed, reading⟩ | ⟨fault, failed, broken, reported⟩
  · have compiled := compile_of_segmentsOf written
    refine ⟨⟨fun _ => wellFormed, fun _ => ⟨_, compiled⟩⟩, ?_, ?_, stands⟩
    · intro t ok
      rw [compiled] at ok
      obtain rfl := Except.ok.inj ok
      exact reading
    · intro e error
      rw [compiled] at error
      cases error
  · have refused := compile_of_fault failed
    refine ⟨⟨?_, fun wellFormed => absurd wellFormed broken⟩, ?_, ?_, stands⟩
    · rintro ⟨t, ok⟩
      rw [refused] at ok
      cases ok
    · intro t ok
      rw [refused] at ok
      cases ok
    · intro e error
      rw [refused] at error
      exact ⟨fault, (Except.error.inj error).symm, reported⟩

theorem compile_agrees_pages :
    Reads ((tokenize "/ab?(/:id)?").map Lexeme.token)
        [.literal "/a", .optional [.literal "b"], .optional [.literal "/", .capture "id" none]] ∧
      WellFormed ((tokenize "/ab?(/:id)?").map Lexeme.token) ∧
      compile "/(:id(" [] = .error (.template "/(:id(" (.unbalancedOpen 5)) ∧
      Reported (tokenize "/(:id(") (.unbalancedOpen 5) ∧
      (⟨5, .groupOpen⟩ : Lexeme).StandsIn "/(:id(".toList := by
  have compiled : compile "/ab?(/:id)?" [] = .ok ⟨"/ab?(/:id)?",
      [.literal "/a", .optional [.literal "b"], .optional [.literal "/", .capture "id" none]],
      ["id"]⟩ := rfl
  have refused : compile "/(:id(" [] = .error (.template "/(:id(" (.unbalancedOpen 5)) := rfl
  obtain ⟨accepts, reading, -, -⟩ := compile_agrees "/ab?(/:id)?"
  obtain ⟨-, -, faults, stands⟩ := compile_agrees "/(:id("
  obtain ⟨fault, same, reported⟩ := faults _ refused
  obtain ⟨-, rfl⟩ := Error.template.inj same
  refine ⟨(reading _ compiled _).mpr rfl, accepts.mp ⟨_, compiled⟩, refused, reported, ?_⟩
  exact stands ⟨5, .groupOpen⟩ (by decide +kernel)

end PathRouting.Template
