import Mathlib.Control.Monad.Basic
import PathRouting.Proofs.Template.Boundaries
import PathRouting.Proofs.Template.Printing

/-!
The bytes between which the tokens of a template lie.

`spans` gives each token the byte at which it ends. Main statements: `Covers.exists_piece` and
`tokenize_between` (the piece of a token is what lies between its bytes), `exists_fault_of_compile`
(the byte that an error quotes is that of a token) and `tokens_cover`.
-/

namespace PathRouting.Template

/-! ### Pieces -/

theorem tokenize_of_takes {piece : List Char} {token : Token} (h : Takes piece token []) :
    tokenize (String.ofList piece) = [⟨0, token⟩] := by
  obtain ⟨c, cs, rfl⟩ := List.exists_cons_of_ne_nil h.ne_nil
  have done (offset fuel : Nat) : lexemesFrom offset fuel [] = [] := by
    cases fuel <;> rfl
  rw [tokenize, String.toList_ofList, List.length_cons, lexemesFrom, readToken?_eq_some_iff.mpr h]
  simp [done]

namespace Covers

variable {start : Nat} {cs : List Char} {lexemes : List Lexeme}

theorem le_offset (h : Covers start cs lexemes) : ∀ x ∈ lexemes, start ≤ x.offset := by
  induction h with
  | nil => simp
  | cons _ _ _ ih =>
    intro x mem
    rcases List.mem_cons.mp mem with rfl | later
    · exact le_rfl
    · exact (Nat.le_add_right _ _).trans (ih x later)

theorem pairwise_offset (h : Covers start cs lexemes) :
    (lexemes.map Lexeme.offset).Pairwise (· < ·) := by
  induction h with
  | nil => exact .nil
  | @cons start piece rest token more _ alone later ih =>
    refine List.pairwise_cons.mpr ⟨?_, ih⟩
    intro offset mem
    obtain ⟨x, inside, rfl⟩ := List.mem_map.mp mem
    have behind := later.le_offset x inside
    have filled := byteSize_pos alone.ne_nil
    show start < x.offset
    omega

/-- The first of the tokens that cover a text starts where the text does; without tokens the text
ends there. -/
theorem elim_head_offset (h : Covers start cs lexemes) :
    lexemes.head?.elim (start + byteSize cs) Lexeme.offset = start := by
  cases h with
  | nil => rfl
  | cons => rfl

end Covers

/-! ### Spans -/

/-- Tokens, each with the byte at which it ends: the one at which the next token starts, or the
given one. -/
def spansTo (finish : Nat) : List Lexeme → List (Lexeme × Nat)
  | [] => []
  | x :: more => (x, more.head?.elim finish Lexeme.offset) :: spansTo finish more

/-- The tokens of a template, each with the byte at which it ends. -/
def spans (source : String) : List (Lexeme × Nat) :=
  spansTo source.utf8ByteSize (tokenize source)

theorem map_fst_spansTo (finish : Nat) (lexemes : List Lexeme) :
    (spansTo finish lexemes).map Prod.fst = lexemes := by
  induction lexemes with
  | nil => rfl
  | cons x more ih => rw [spansTo, List.map_cons, ih]

/-- Between the bytes of its span, a token is cut out of the text. -/
theorem Covers.exists_piece {start finish : Nat} {cs : List Char} {lexemes : List Lexeme}
    (h : Covers start cs lexemes) (ends : finish = start + byteSize cs) :
    ∀ span ∈ spansTo finish lexemes, ∃ front piece back, cs = front ++ piece ++ back ∧
      span.1.offset = start + byteSize front ∧ span.2 = span.1.offset + byteSize piece ∧
      Takes piece span.1.token [] := by
  induction h with
  | nil => simp [spansTo]
  | @cons start piece rest token more _ alone later ih =>
    have ends' : finish = start + byteSize piece + byteSize rest := by
      rw [ends, byteSize_append, Nat.add_assoc]
    intro span mem
    rcases List.mem_cons.mp mem with rfl | behind
    · refine ⟨[], piece, rest, rfl, rfl, ?_, alone⟩
      rw [ends']
      exact later.elim_head_offset
    · obtain ⟨front, inside, back, rfl, offset, stop, token⟩ := ih ends' span behind
      refine ⟨piece ++ front, inside, back, by simp, ?_, stop, token⟩
      rw [offset, byteSize_append, Nat.add_assoc]

/-- The part of a template in the span of a token is, by itself, read as this token and no other. -/
theorem tokenize_between {source : String} {span : Lexeme × Nat} (mem : span ∈ spans source) :
    IsBoundary source span.1.offset ∧ IsBoundary source span.2 ∧
      tokenize (between source span.1.offset span.2) = [⟨0, span.1.token⟩] := by
  have ends : source.utf8ByteSize = 0 + byteSize source.toList := by
    rw [byteSize_toList, Nat.zero_add]
  obtain ⟨front, piece, back, eq, offset, stop, takes⟩ :=
    (covers_tokenize source).exists_piece ends span mem
  rw [Nat.zero_add] at offset
  rw [stop, offset, between_of_append eq, ← byteSize_append]
  have eq' : source.toList = front ++ (piece ++ back) := by rw [eq, List.append_assoc]
  exact ⟨isBoundary_of_append eq', isBoundary_of_append eq, tokenize_of_takes takes⟩

/-! ### Errors -/

/-- The token that a fault is about, if it quotes the byte at which that token starts. -/
def offender? : TemplateFault → Option Lexeme
  | .emptyName index => some ⟨index, .capture ""⟩
  | .unbalancedClose index => some ⟨index, .groupClose⟩
  | .unbalancedOpen index => some ⟨index, .groupOpen⟩
  | .strayOptional index => some ⟨index, .optional⟩
  | .duplicateName _ | .invalidConstraint .. | .unknownConstraint _ | .invalidHostPattern _
  | .other _ => none

theorem eq_of_offence? {before : List Token} {x y : Lexeme} {fault : TemplateFault}
    (offends : offence? before x = some fault) (about : offender? fault = some y) : y = x := by
  obtain ⟨offset, token⟩ := x
  cases token with
  | literal | groupOpen => cases offends
  | capture name =>
    simp only [offence?] at offends
    split at offends
    · next nameless =>
      cases offends
      cases about
      rw [nameless]
    · split at offends
      · cases offends
        cases about
      · cases offends
  | splat name =>
    simp only [offence?] at offends
    split at offends
    · cases offends
      cases about
    · cases offends
  | groupClose =>
    simp only [offence?] at offends
    split at offends
    · cases offends
      exact (Option.some.inj about).symm
    · cases offends
  | optional =>
    simp only [offence?] at offends
    split at offends
    · cases offends
    · cases offends
      exact (Option.some.inj about).symm

theorem Reported.mem {lexemes : List Lexeme} {fault : TemplateFault} (h : Reported lexemes fault)
    {x : Lexeme} (about : offender? fault = some x) : x ∈ lexemes := by
  cases h with
  | offence eq _ offends =>
    rw [eq, eq_of_offence? offends about]
    simp
  | unclosed eq =>
    rw [eq, ← Option.some.inj about]
    simp

theorem offender?_of_attach {names : List String} {entry : String × String}
    {segments : List Segment} {fault : TemplateFault}
    (failed : attach names segments entry = .error fault) : offender? fault = none := by
  unfold attach at failed
  split at failed
  · cases failed
    rfl
  · split at failed
    · cases failed
    · cases failed
      rfl

theorem offender?_of_foldlM_attach {names : List String} {constraints : List (String × String)}
    {segments : List Segment} {fault : TemplateFault}
    (failed : constraints.foldlM (attach names) segments = .error fault) :
    offender? fault = none := by
  induction constraints generalizing segments with
  | nil => cases failed
  | cons entry rest ih =>
    rw [List.foldlM_cons] at failed
    cases attached : attach names segments entry with
    | error other =>
      rw [attached] at failed
      cases failed
      exact offender?_of_attach attached
    | ok changed =>
      rw [attached] at failed
      exact ih failed

/-- The byte that a compile error quotes is the start of the token that it is about. -/
theorem exists_fault_of_compile {source : String} {constraints : List (String × String)} {e : Error}
    (failed : compile source constraints = .error e) :
    ∃ fault, e = .template source fault ∧
      ∀ x, offender? fault = some x → x ∈ tokenize source := by
  unfold compile compileOrFault at failed
  rcases segmentsOf_agrees (legible_tokenize source) with
    ⟨segments, written, -, -⟩ | ⟨fault, broken, -, reported⟩
  · rw [written] at failed
    cases attached : constraints.foldlM
        (attach (declared ((tokenize source).map Lexeme.token))) segments with
    | error fault =>
      simp only [bind, Except.bind, attached] at failed
      refine ⟨fault, (Except.error.inj failed).symm, ?_⟩
      intro x about
      rw [offender?_of_foldlM_attach attached] at about
      cases about
    | ok changed =>
      simp only [bind, Except.bind, attached] at failed
      cases failed
  · rw [broken] at failed
    exact ⟨fault, (Except.error.inj failed).symm, fun _ about => reported.mem about⟩

/-- The tokens of a template cover all of it. The first one starts at its first byte, each at a
later boundary of characters than the one before, and what lies between the start of one and that of
the next, or the end, is that token also by itself. No plain text is empty or has plain text next to
it. So the byte that an error quotes is where a piece begins that is just the token at fault. -/
theorem tokens_cover {source : String} (filled : source ≠ "")
    (constraints : List (String × String)) :
    (tokenize source).head?.map Lexeme.offset = some 0 ∧
      ((tokenize source).map Lexeme.offset).Pairwise (· < ·) ∧
      (spans source).map Prod.fst = tokenize source ∧
      (∀ span ∈ spans source,
        IsBoundary source span.1.offset ∧ IsBoundary source span.2 ∧
          tokenize (between source span.1.offset span.2) = [⟨0, span.1.token⟩]) ∧
      ((tokenize source).map Lexeme.token).IsChain
        (fun a b => a.isText = true → b.isText = false) ∧
      .literal "" ∉ (tokenize source).map Lexeme.token ∧
      ∀ e, compile source constraints = .error e →
        ∃ fault, e = .template source fault ∧
          ∀ x, offender? fault = some x → ∃ stop, (x, stop) ∈ spans source := by
  have covers := covers_tokenize source
  have lexed := lexed_tokenize source
  have names : (spans source).map Prod.fst = tokenize source := map_fst_spansTo _ _
  refine ⟨?_, covers.pairwise_offset, names, fun _ => tokenize_between, lexed.isChain_isText,
    lexed.literal_empty_notMem, ?_⟩
  · cases first : (tokenize source).head? with
    | none =>
      rw [List.head?_eq_none_iff.mp first] at lexed
      generalize empty : source.toList = cs at lexed
      cases lexed
      exact absurd (String.toList_eq_nil_iff.mp empty) filled
    | some x =>
      have offset := covers.elim_head_offset
      rw [first] at offset
      exact congrArg some offset
  · intro e failed
    obtain ⟨fault, rfl, quoted⟩ := exists_fault_of_compile failed
    refine ⟨fault, rfl, ?_⟩
    intro x about
    have mem := quoted x about
    rw [← names] at mem
    obtain ⟨⟨_, stop⟩, inside, rfl⟩ := List.mem_map.mp mem
    exact ⟨stop, inside⟩

/-- A group behind an escaped sign and a letter of two bytes is not closed. -/
theorem tokens_cover_open :
    let source := "/é\\:(:id"
    let opening : Lexeme := ⟨5, .groupOpen⟩
    source ≠ "" ∧
      spans source = [(⟨0, .literal "/é:"⟩, 5), (opening, 6), (⟨6, .capture "id"⟩, 9)] ∧
      compile source [("id", "int")] = .error (.template source (.unbalancedOpen 5)) ∧
      offender? (.unbalancedOpen 5) = some opening ∧ (∃ stop, (opening, stop) ∈ spans source) ∧
      tokenize (between source 5 6) = [⟨0, .groupOpen⟩] ∧
      tokenize (between source 0 5) = [⟨0, .literal "/é:"⟩] ∧ IsBoundary source 5 := by
  intro source opening
  have filled : source ≠ "" := by decide
  have cut : spans source = [(⟨0, .literal "/é:"⟩, 5), (opening, 6), (⟨6, .capture "id"⟩, 9)] := by
    decide +kernel
  have refused : compile source [("id", "int")] =
      .error (.template source (.unbalancedOpen 5)) := by decide +kernel
  obtain ⟨-, -, -, alone, -, -, quoted⟩ := tokens_cover filled [("id", "int")]
  obtain ⟨fault, same, about⟩ := quoted _ refused
  obtain ⟨-, rfl⟩ := Error.template.inj same
  have text := alone (⟨0, .literal "/é:"⟩, 5) (by rw [cut]; simp)
  have bracket := alone (opening, 6) (by rw [cut]; simp)
  exact ⟨filled, cut, refused, rfl, about opening rfl, bracket.2.2, text.2.2, bracket.1⟩

end PathRouting.Template
