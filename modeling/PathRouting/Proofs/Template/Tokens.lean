import Mathlib.Data.List.TakeWhile
import PathRouting.Proofs.Template.Compiled

/-!
How a text is cut into tokens.

Every token takes a piece of at least one character, and is read from this piece also when it stands
alone. `Covers` puts the pieces one after the other, each at its byte; without the bytes, the tokens
of a template are those of `Lexed`. Main statements: `Takes.exists_alone` (the piece of a token),
`covers_tokenize` and `lexed_tokenize` (all of the text is cut), `standsIn_of_mem_tokenize` (every
token starts at its byte).
-/

namespace PathRouting.Template

/-! ### One token -/

theorem readName_append (cs : List Char) : (readName cs).1 ++ (readName cs).2 = cs := by
  cases cs with
  | nil => rfl
  | cons c rest =>
    rw [readName]
    split
    · exact congrArg (c :: ·) List.takeWhile_append_dropWhile
    · rfl

theorem readName_readName (cs : List Char) :
    readName (readName cs).1 = ((readName cs).1, []) := by
  cases cs with
  | nil => rfl
  | cons c rest =>
    rw [readName]
    split
    · next start =>
      have whole : (rest.takeWhile isNameRest).dropWhile isNameRest = [] :=
        List.dropWhile_eq_nil_iff.mpr fun _ mem => List.mem_takeWhile_imp mem
      rw [readName, if_pos start, List.takeWhile_takeWhile, whole]
      simp
    · rfl

/-- The part of a text that is read as plain text is plain text by itself. -/
theorem exists_readText_alone (cs : List Char) :
    ∃ piece, cs = piece ++ (readText cs).2 ∧ readText piece = ((readText cs).1, []) := by
  induction cs using readText.induct with
  | case1 => exact ⟨[], rfl, rfl⟩
  | case2 c rest ih =>
    obtain ⟨piece, eq, alone⟩ := ih
    exact ⟨'\\' :: c :: piece, by simp [readText, ← eq], by simp [readText, alone]⟩
  | case3 c rest notEscape special => exact ⟨[], by simp [readText, special]⟩
  | case4 c rest notEscape special ih =>
    obtain ⟨piece, eq, alone⟩ := ih
    -- A backslash is the last character of the text here, and so it is in the piece.
    have notEscape' : ∀ d more, c = '\\' → piece = d :: more → False := by
      rintro d more rfl rfl
      exact notEscape d _ rfl eq
    refine ⟨c :: piece, by simp [readText, special, ← eq], ?_⟩
    rw [readText.eq_3 c piece notEscape', if_neg special, alone]
    simp [readText, special]

/-- What the token at the start of a text may be, and what it leaves of the text. -/
inductive Takes : List Char → Token → List Char → Prop where
  | capture (cs : List Char) :
    Takes (':' :: cs) (.capture (String.ofList (readName cs).1)) (readName cs).2
  | splat {cs : List Char} : (readName cs).1 ≠ [] →
    Takes ('*' :: cs) (.splat (String.ofList (readName cs).1)) (readName cs).2
  | namelessSplat {cs : List Char} : (readName cs).1 = [] →
    Takes ('*' :: cs) (.splat defaultSplatName) (readName cs).2
  | groupOpen (cs : List Char) : Takes ('(' :: cs) .groupOpen cs
  | groupClose (cs : List Char) : Takes (')' :: cs) .groupClose cs
  | optional (cs : List Char) : Takes ('?' :: cs) .optional cs
  | literal {c : Char} {cs : List Char} : isSpecial c = false →
    Takes (c :: cs) (.literal (String.ofList (readText (c :: cs)).1)) (readText (c :: cs)).2

theorem readToken?_splat (cs : List Char) :
    readToken? ('*' :: cs) =
      some (.splat (if (readName cs).1 = [] then defaultSplatName
        else String.ofList (readName cs).1), (readName cs).2) := by
  simp [readToken?, String.isEmpty_iff]

/-- Every text but the empty one begins with a token. -/
theorem readToken?_eq_some_iff {cs rest : List Char} {token : Token} :
    readToken? cs = some (token, rest) ↔ Takes cs token rest := by
  constructor
  · intro h
    cases cs with
    | nil => cases h
    | cons c cs =>
      cases special : isSpecial c with
      | true =>
        simp only [isSpecial, Bool.or_eq_true, decide_eq_true_eq] at special
        rcases special with (((rfl | rfl) | rfl) | rfl) | rfl
        · obtain ⟨rfl, rfl⟩ := Prod.mk.inj (Option.some.inj h)
          exact .capture cs
        · rw [readToken?_splat] at h
          obtain ⟨rfl, rfl⟩ := Prod.mk.inj (Option.some.inj h)
          split
          · next nameless => exact .namelessSplat nameless
          · next named => exact .splat named
        · obtain ⟨rfl, rfl⟩ := Prod.mk.inj (Option.some.inj h)
          exact .groupOpen cs
        · obtain ⟨rfl, rfl⟩ := Prod.mk.inj (Option.some.inj h)
          exact .groupClose cs
        · obtain ⟨rfl, rfl⟩ := Prod.mk.inj (Option.some.inj h)
          exact .optional cs
      | false =>
        rw [readToken?_of_plain special] at h
        obtain ⟨rfl, rfl⟩ := Prod.mk.inj (Option.some.inj h)
        exact .literal special
  · intro h
    cases h with
    | capture | groupOpen | groupClose | optional => rfl
    | splat named => rw [readToken?_splat, if_neg named]
    | namelessSplat nameless => rw [readToken?_splat, if_pos nameless]
    | literal plain => exact readToken?_of_plain plain

theorem readToken?_eq_none {cs : List Char} (h : readToken? cs = none) : cs = [] := by
  unfold readToken? at h
  split at h
  · rfl
  all_goals cases h

/-- The piece of a text that a token takes is the same token by itself. -/
theorem Takes.exists_alone {cs rest : List Char} {token : Token} (h : Takes cs token rest) :
    ∃ piece, cs = piece ++ rest ∧ Takes piece token [] := by
  cases h with
  | capture cs =>
    have alone := Takes.capture (readName cs).1
    rw [readName_readName] at alone
    exact ⟨_, by simp [readName_append], alone⟩
  | @splat cs named =>
    have named' : (readName (readName cs).1).1 ≠ [] := by rwa [readName_readName]
    have alone := Takes.splat named'
    rw [readName_readName] at alone
    exact ⟨_, by simp [readName_append], alone⟩
  | @namelessSplat cs nameless =>
    have rest : (readName cs).2 = cs := by simpa [nameless] using readName_append cs
    rw [rest]
    exact ⟨['*'], rfl, .namelessSplat rfl⟩
  | groupOpen => exact ⟨['('], rfl, .groupOpen []⟩
  | groupClose => exact ⟨[')'], rfl, .groupClose []⟩
  | optional => exact ⟨['?'], rfl, .optional []⟩
  | @literal c cs plain =>
    obtain ⟨piece, eq, alone⟩ := exists_readText_alone (c :: cs)
    cases piece with
    | nil =>
      have empty := congrArg Prod.fst alone
      exact absurd empty.symm (readText_ne_nil plain)
    | cons d piece =>
      obtain ⟨rfl, -⟩ := List.cons.inj eq
      have token := @Takes.literal c piece plain
      rw [alone] at token
      exact ⟨c :: piece, eq, token⟩

theorem Takes.ne_nil {cs rest : List Char} {token : Token} (h : Takes cs token rest) :
    cs ≠ [] := by
  cases h <;> simp

/-- A splat token has a name. -/
theorem Takes.ne_splat_empty {cs rest : List Char} {token : Token} (h : Takes cs token rest) :
    token ≠ .splat "" := by
  cases h with
  | splat named => simpa [String.ofList_eq_empty_iff] using named
  | namelessSplat => decide
  | capture | groupOpen | groupClose | optional | literal => simp

/-! ### All tokens -/

/-- What it is for a text to be cut into tokens. -/
inductive Lexed : List Char → List Token → Prop where
  | nil : Lexed [] []
  | cons {cs rest token tokens} :
    Takes cs token rest → Lexed rest tokens → Lexed cs (token :: tokens)

/-- A text is cut in one way only. -/
theorem Lexed.unique {cs : List Char} {a b : List Token} (left : Lexed cs a) (right : Lexed cs b) :
    a = b := by
  induction left generalizing b with
  | nil =>
    cases right with
    | nil => rfl
    | cons takes => cases takes
  | cons takes _ ih =>
    cases right with
    | nil => cases takes
    | cons other rest =>
      have same := (readToken?_eq_some_iff.mpr takes).symm.trans (readToken?_eq_some_iff.mpr other)
      obtain ⟨rfl, rfl⟩ := Prod.mk.inj (Option.some.inj same)
      exact congrArg _ (ih rest)

/-! ### Pieces without gaps -/

/-- What it is for tokens to cover a text that starts at a byte: each takes a piece of it, and is
the token of this piece also when it stands alone. -/
inductive Covers : Nat → List Char → List Lexeme → Prop
  | nil (start : Nat) : Covers start [] []
  | cons {start : Nat} {piece rest : List Char} {token : Token} {more : List Lexeme}
    (takes : Takes (piece ++ rest) token rest) (alone : Takes piece token [])
    (later : Covers (start + byteSize piece) rest more) :
    Covers start (piece ++ rest) (⟨start, token⟩ :: more)

theorem covers_lexemesFrom {offset fuel : Nat} {cs : List Char} (enough : cs.length ≤ fuel) :
    Covers offset cs (lexemesFrom offset fuel cs) := by
  induction fuel generalizing offset cs with
  | zero =>
    obtain rfl := List.length_eq_zero_iff.mp (Nat.le_zero.mp enough)
    exact .nil offset
  | succ fuel ih =>
    rw [lexemesFrom]
    split
    · next unread =>
      obtain rfl := readToken?_eq_none unread
      exact .nil offset
    · next token rest read =>
      have takes := readToken?_eq_some_iff.mp read
      obtain ⟨piece, rfl, alone⟩ := takes.exists_alone
      have shorter := List.length_pos_iff.mpr alone.ne_nil
      rw [List.length_append] at enough
      rw [byteSize_append, Nat.add_sub_cancel]
      exact .cons takes alone (ih (by omega))

theorem covers_tokenize (source : String) : Covers 0 source.toList (tokenize source) :=
  covers_lexemesFrom le_rfl

theorem Covers.lexed {start : Nat} {cs : List Char} {lexemes : List Lexeme}
    (h : Covers start cs lexemes) : Lexed cs (lexemes.map Lexeme.token) := by
  induction h with
  | nil => exact .nil
  | cons takes _ _ ih => exact .cons takes ih

theorem lexed_tokenize (source : String) :
    Lexed source.toList ((tokenize source).map Lexeme.token) :=
  (covers_tokenize source).lexed

/-- What it is for a lexeme to stand at its byte of a text. -/
def Lexeme.StandsIn (x : Lexeme) (text : List Char) : Prop :=
  ∃ front rest after, text = front ++ rest ∧ x.offset = byteSize front ∧ Takes rest x.token after

theorem Covers.exists_takes {start : Nat} {cs : List Char} {lexemes : List Lexeme}
    (h : Covers start cs lexemes) {x : Lexeme} (mem : x ∈ lexemes) :
    ∃ front rest after, cs = front ++ rest ∧ x.offset = start + byteSize front ∧
      Takes rest x.token after := by
  induction h with
  | nil => cases mem
  | @cons start piece rest token more takes alone later ih =>
    rcases List.mem_cons.mp mem with rfl | behind
    · exact ⟨[], piece ++ rest, rest, rfl, rfl, takes⟩
    · obtain ⟨front, inside, after, rfl, offset, takes'⟩ := ih behind
      refine ⟨piece ++ front, inside, after, by simp, ?_, takes'⟩
      rw [offset, byteSize_append, Nat.add_assoc]

theorem standsIn_of_mem_tokenize {source : String} {x : Lexeme} (mem : x ∈ tokenize source) :
    x.StandsIn source.toList := by
  obtain ⟨front, rest, after, eq, offset, takes⟩ := (covers_tokenize source).exists_takes mem
  exact ⟨front, rest, after, eq, by simpa using offset, takes⟩

end PathRouting.Template
