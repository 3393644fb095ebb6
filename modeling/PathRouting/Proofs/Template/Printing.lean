import Mathlib.Control.Monad.Basic
import PathRouting.Proofs.Template.Compilation

/-!
Segment trees and the templates that write them.

A tree in `Canonical` form is printed with every character of a literal escaped, and compiles to
itself; and what any template compiles to is canonical apart from constraints. Main statements:
`lexed_printAll` (the tokens of a printed tree), `compile_printed_eq` (what a printed tree compiles
to) and `canonical_of_compile` (the form of what compiles).
-/

namespace PathRouting.Template

open Segment

/-! ### Names -/

/-- What it is for a text to be an identifier. -/
def IsIdentifier (name : String) : Prop :=
  ∃ c rest, name.toList = c :: rest ∧ isNameStart c = true ∧ ∀ d ∈ rest, isNameRest d = true

theorem IsIdentifier.ne_empty {name : String} (h : IsIdentifier name) : name ≠ "" := by
  rintro rfl
  obtain ⟨c, rest, eq, -⟩ := h
  cases eq

/-- A name that is read is an identifier. -/
theorem isIdentifier_readName {cs : List Char} (named : (readName cs).1 ≠ []) :
    IsIdentifier (String.ofList (readName cs).1) := by
  cases cs with
  | nil => exact absurd rfl named
  | cons c rest =>
    rw [readName] at named ⊢
    split at named
    · next start =>
      rw [if_pos start]
      refine ⟨c, rest.takeWhile isNameRest, String.toList_ofList, start, ?_⟩
      exact fun d mem => (List.mem_takeWhile_imp mem)
    · exact absurd rfl named

/-- An identifier is read up to the first character that cannot go on with it. -/
theorem readName_identifier {name : String} (h : IsIdentifier name) {tail : List Char}
    (ends : ∀ c ∈ tail.head?, isNameRest c = false) :
    readName (name.toList ++ tail) = (name.toList, tail) := by
  obtain ⟨c, rest, eq, start, more⟩ := h
  rw [eq, List.cons_append, readName, if_pos start]
  have stops : tail.takeWhile isNameRest = [] ∧ tail.dropWhile isNameRest = tail := by
    cases tail with
    | nil => exact ⟨rfl, rfl⟩
    | cons d tail => simp [ends d rfl]
  rw [List.takeWhile_append_of_pos more, List.dropWhile_append_of_pos more, stops.1, stops.2,
    List.append_nil]

/-! ### Printing -/

namespace Segment

mutual

/-- The template text for a segment. -/
def print : Segment → List Char
  | literal text => text.toList.flatMap fun c => ['\\', c]
  | capture name _ => ':' :: name.toList
  | splat name _ => '*' :: name.toList
  | optional inner => '(' :: printAll inner ++ [')']

/-- The template text for a list of segments. -/
def printAll : List Segment → List Char
  | [] => []
  | s :: rest => s.print ++ printAll rest

end

mutual

/-- The tokens for a segment. -/
def tokens : Segment → List Token
  | literal text => [.literal text]
  | capture name _ => [.capture name]
  | splat name _ => [.splat name]
  | optional inner => .groupOpen :: tokensOf inner ++ [.groupClose]

/-- The tokens for a list of segments. -/
def tokensOf : List Segment → List Token
  | [] => []
  | s :: rest => s.tokens ++ tokensOf rest

end

mutual

/-- The segment without constraints. -/
def erase : Segment → Segment
  | literal text => literal text
  | capture name _ => capture name none
  | splat name _ => splat name none
  | optional inner => optional (eraseAll inner)

/-- The segments without constraints. -/
def eraseAll : List Segment → List Segment
  | [] => []
  | s :: rest => s.erase :: eraseAll rest

end

end Segment

/-- The template that a tree is printed as. -/
def printed (tree : List Segment) : String :=
  String.ofList (printAll tree)

/-- Trees that a template text tells apart: captures and splats have no constraint and are named by
identifiers, no literal is empty, and no literal is followed by another one. -/
inductive Canonical : List Segment → Prop where
  | nil : Canonical []
  | literal {text rest} :
    text ≠ "" → rest.head?.any isLiteral = false → Canonical rest →
      Canonical (.literal text :: rest)
  | capture {name rest} :
    IsIdentifier name → Canonical rest → Canonical (.capture name none :: rest)
  | splat {name rest} :
    IsIdentifier name → Canonical rest → Canonical (.splat name none :: rest)
  | optional {inner rest} :
    Canonical inner → Canonical rest → Canonical (.optional inner :: rest)

/-! ### The tokens of a printed tree -/

/-- What it is for plain text to end in front of a text. -/
def EndsText (cs : List Char) : Prop :=
  ∀ c ∈ cs.head?, isSpecial c = true

theorem isNameRest_of_isSpecial {c : Char} (special : isSpecial c = true) :
    isNameRest c = false := by
  simp only [isSpecial, Bool.or_eq_true, decide_eq_true_eq] at special
  rcases special with (((rfl | rfl) | rfl) | rfl) | rfl <;> decide

theorem readText_of_endsText {tail : List Char} (ends : EndsText tail) :
    readText tail = ([], tail) := by
  cases tail with
  | nil => rfl
  | cons c tail =>
    have special := ends c rfl
    have notEscape : c ≠ '\\' := by
      rintro rfl
      cases special
    unfold readText
    split
    · next h => cases h
    · next h => exact absurd (List.cons.inj h).1 notEscape
    · next h =>
      obtain ⟨rfl, rfl⟩ := List.cons.inj h
      rw [if_pos special]

/-- Escaped text is read back. -/
theorem readText_escaped (text : List Char) {tail : List Char} (ends : EndsText tail) :
    readText (text.flatMap (fun c => ['\\', c]) ++ tail) = (text, tail) := by
  induction text with
  | nil => exact readText_of_endsText ends
  | cons c text ih =>
    simp only [List.flatMap_cons, List.cons_append, List.nil_append]
    rw [readText]
    simp [ih]

theorem endsText_printAll {segments : List Segment} {tail : List Char}
    (notLiteral : segments.head?.any isLiteral = false) (ends : EndsText tail) :
    EndsText (printAll segments ++ tail) := by
  cases segments with
  | nil => exact ends
  | cons s rest =>
    cases s with
    | literal => cases notLiteral
    | capture | splat | optional =>
      intro c first
      obtain rfl := Option.some.inj first
      rfl

/-- A printed tree does not begin with a character that goes on with a name. -/
theorem Canonical.endsName {segments : List Segment} (h : Canonical segments) {tail : List Char}
    (ends : EndsText tail) : ∀ c ∈ (printAll segments ++ tail).head?, isNameRest c = false := by
  cases h with
  | @literal text rest filled _ _ =>
    intro c first
    cases chars : text.toList with
    | nil => exact absurd (String.toList_eq_nil_iff.mp chars) filled
    | cons d more =>
      rw [printAll, print, chars] at first
      obtain rfl := Option.some.inj first
      rfl
  | nil | capture | splat | optional =>
    exact fun c first => isNameRest_of_isSpecial (endsText_printAll rfl ends c first)

theorem takes_literal {text : String} (filled : text ≠ "") {tail : List Char}
    (ends : EndsText tail) :
    Takes ((Segment.literal text).print ++ tail) (.literal text) tail := by
  have back := readText_escaped text.toList ends
  cases chars : text.toList with
  | nil => exact absurd (String.toList_eq_nil_iff.mp chars) filled
  | cons c rest =>
    rw [chars, List.flatMap_cons] at back
    rw [print, chars, List.flatMap_cons]
    have takes : Takes ('\\' :: ([c] ++ rest.flatMap (fun c => ['\\', c]) ++ tail)) _ _ :=
      .literal rfl
    simp only [List.cons_append, List.nil_append] at takes back ⊢
    rwa [back, ← chars, String.ofList_toList] at takes

theorem takes_capture {name : String} (identifier : IsIdentifier name) {tail : List Char}
    (ends : ∀ c ∈ tail.head?, isNameRest c = false) :
    Takes (':' :: name.toList ++ tail) (.capture name) tail := by
  have takes := Takes.capture (name.toList ++ tail)
  rwa [readName_identifier identifier ends, String.ofList_toList] at takes

theorem takes_splat {name : String} (identifier : IsIdentifier name) {tail : List Char}
    (ends : ∀ c ∈ tail.head?, isNameRest c = false) :
    Takes ('*' :: name.toList ++ tail) (.splat name) tail := by
  have read := readName_identifier identifier ends
  have named : (readName (name.toList ++ tail)).1 ≠ [] := by
    rw [read]
    exact fun empty => identifier.ne_empty (String.toList_eq_nil_iff.mp empty)
  have takes := Takes.splat named
  rwa [read, String.ofList_toList] at takes

/-- The tokens of a printed tree are those of its segments, whatever ends the text behind it. -/
theorem lexed_printAll {segments : List Segment} (h : Canonical segments) {tail : List Char}
    {more : List Token} (ends : EndsText tail) (rest : Lexed tail more) :
    Lexed (printAll segments ++ tail) (tokensOf segments ++ more) := by
  induction h generalizing tail more with
  | nil => exact rest
  | literal filled notLiteral _ ih =>
    rw [printAll, List.append_assoc]
    exact .cons (takes_literal filled (endsText_printAll notLiteral ends)) (ih ends rest)
  | capture identifier canonical ih =>
    rw [printAll, List.append_assoc]
    exact .cons (takes_capture identifier (canonical.endsName ends)) (ih ends rest)
  | splat identifier canonical ih =>
    rw [printAll, List.append_assoc]
    exact .cons (takes_splat identifier (canonical.endsName ends)) (ih ends rest)
  | @optional inner following _ _ ihInner ih =>
    have closing : Lexed (')' :: (printAll following ++ tail))
        (.groupClose :: (tokensOf following ++ more)) := .cons (.groupClose _) (ih ends rest)
    have closes : EndsText (')' :: (printAll following ++ tail)) := by
      intro c first
      obtain rfl := Option.some.inj first
      rfl
    have opening := Lexed.cons (.groupOpen _) (ihInner closes closing)
    simpa [printAll, print, tokensOf, tokens] using opening

/-- A tree is a reading of its tokens. -/
theorem Canonical.reads {segments : List Segment} (h : Canonical segments) :
    Reads (tokensOf segments) segments := by
  induction h with
  | nil => exact .nil
  | @literal text _ _ _ _ ih => exact (Reads.nil.literal text).append ih
  | @capture name _ _ _ ih =>
    have slot : Reads ([] ++ [.capture name]) ([] ++ [.capture name none]) := .slot rfl .nil
    exact slot.append ih
  | @splat name _ _ _ ih =>
    have slot : Reads ([] ++ [.splat name]) ([] ++ [.splat name none]) := .slot rfl .nil
    exact slot.append ih
  | optional _ _ ihInner ih => exact (Reads.nil.group ihInner).append ih

theorem Canonical.isIdentifier_of_mem {segments : List Segment} (h : Canonical segments)
    {name : String} (mem : name ∈ namesOf segments) : IsIdentifier name := by
  induction h with
  | nil => simp at mem
  | literal _ _ _ ih => exact ih (by simpa using mem)
  | capture identifier _ ih | splat identifier _ ih =>
    rcases List.mem_cons.mp (by simpa using mem) with rfl | later
    · exact identifier
    · exact ih later
  | optional _ _ ihInner ih =>
    rcases List.mem_append.mp (by simpa using mem) with inside | later
    · exact ihInner inside
    · exact ih later

/-- No question mark is printed. -/
theorem optional_notMem_tokensOf (segments : List Segment) : .optional ∉ tokensOf segments := by
  induction segments using inductionOnTree with
  | nil => simp [tokensOf]
  | literal text rest ih => simpa [tokensOf, tokens] using ih
  | capture name constraint rest ih => simpa [tokensOf, tokens] using ih
  | splat name constraint rest ih => simpa [tokensOf, tokens] using ih
  | optional inner rest ihInner ih => simp [tokensOf, tokens, ihInner, ih]

/-- The tokens of a tree with different names obey the rules. -/
theorem Canonical.wellFormed {segments : List Segment} (h : Canonical segments)
    (distinct : (namesOf segments).Nodup) : WellFormed (tokensOf segments) where
  balanced := h.reads.balanced
  named := by
    intro mem
    have declares : "" ∈ declared (tokensOf segments) :=
      List.mem_filterMap.mpr ⟨.capture "", mem, rfl⟩
    rw [h.reads.names_eq] at declares
    exact (h.isIdentifier_of_mem declares).ne_empty rfl
  distinct := h.reads.names_eq ▸ distinct
  placed := by
    intro before after split
    exact absurd (split ▸ by simp) (optional_notMem_tokensOf segments)

/-- A printed tree compiles to itself. -/
theorem compile_printed_eq {tree : List Segment} (h : Canonical tree)
    (distinct : (namesOf tree).Nodup) :
    compile (printed tree) [] = .ok ⟨printed tree, tree, namesOf tree⟩ := by
  have cut : (tokenize (printed tree)).map Lexeme.token = tokensOf tree := by
    have lexed := lexed_tokenize (printed tree)
    have intended : Lexed (printAll tree ++ []) (tokensOf tree ++ []) :=
      lexed_printAll h (by simp [EndsText]) .nil
    rw [List.append_nil, List.append_nil] at intended
    rw [show (printed tree).toList = printAll tree from String.toList_ofList] at lexed
    exact lexed.unique intended
  rcases segmentsOf_agrees (legible_tokenize (printed tree)) with
    ⟨segments, written, -, reading⟩ | ⟨fault, -, broken, -⟩
  · rw [cut] at written reading
    obtain rfl := (reading tree).mp h.reads
    rw [h.reads.names_eq] at written
    exact compile_of_segmentsOf written
  · exact absurd (cut ▸ h.wellFormed distinct) broken

/-! ### The form of what is read -/

/-- Whether the token is plain text. -/
def Token.isText : Token → Bool
  | .literal _ => true
  | _ => false

/-- What the tokens of a text satisfy if no capture is without a name. -/
structure Apart (tokens : List Token) : Prop where
  named : ∀ name ∈ declared tokens, IsIdentifier name
  filled : .literal "" ∉ tokens
  chain : tokens.IsChain fun a b => a.isText = true → b.isText = false

theorem endsText_readText (cs : List Char) : EndsText (readText cs).2 := by
  induction cs using readText.induct with
  | case1 => simp [readText, EndsText]
  | case2 c rest ih => simpa [readText] using ih
  | case3 c rest notEscape special =>
    intro d first
    rw [readText.eq_3 _ _ notEscape, if_pos special] at first
    obtain rfl := Option.some.inj first
    exact special
  | case4 c rest notEscape special ih => simpa [readText, special] using ih

/-- No text follows plain text. -/
theorem Takes.isText_eq_false {cs rest after : List Char} {token next : Token}
    (h : Takes cs token rest) (text : token.isText = true) (following : Takes rest next after) :
    next.isText = false := by
  cases h with
  | @literal c cs plain =>
    have ends := endsText_readText (c :: cs)
    generalize (readText (c :: cs)).2 = rest at following ends
    cases following with
    | @literal d _ plainNext =>
      rw [ends d rfl] at plainNext
      cases plainNext
    | capture | splat | namelessSplat | groupOpen | groupClose | optional => rfl
  | capture | splat | namelessSplat | groupOpen | groupClose | optional => cases text

theorem Takes.isIdentifier {cs rest : List Char} {token : Token} (h : Takes cs token rest)
    (nonempty : token ≠ .capture "") {name : String} (declares : token.name? = some name) :
    IsIdentifier name := by
  cases h with
  | @capture cs =>
    obtain rfl := Option.some.inj declares
    refine isIdentifier_readName fun nameless => nonempty ?_
    rw [nameless]
  | splat named =>
    obtain rfl := Option.some.inj declares
    exact isIdentifier_readName named
  | namelessSplat =>
    obtain rfl := Option.some.inj declares
    exact ⟨'s', ['p', 'l', 'a', 't'], by decide +kernel, by decide +kernel,
      List.all_eq_true.mp (by decide +kernel)⟩
  | groupOpen | groupClose | optional | literal => cases declares

theorem Lexed.literal_empty_notMem {cs : List Char} {tokens : List Token} (h : Lexed cs tokens) :
    .literal "" ∉ tokens := by
  induction h with
  | nil => simp
  | cons takes _ ih =>
    refine List.mem_cons.not.mpr (not_or.mpr ⟨?_, ih⟩)
    exact (readToken?_ne_literal_empty (readToken?_eq_some_iff.mpr takes)).symm

/-- Of two neighbours among the tokens of a text, only one is plain text. -/
theorem Lexed.isChain_isText {cs : List Char} {tokens : List Token} (h : Lexed cs tokens) :
    tokens.IsChain fun a b => a.isText = true → b.isText = false := by
  induction h with
  | nil => exact .nil
  | cons takes lexed ih =>
    cases lexed with
    | nil => exact .singleton _
    | cons following _ =>
      exact .cons_cons (fun text => takes.isText_eq_false text following) ih

/-- The tokens of a text are told apart by what they hold. -/
theorem Lexed.apart {cs : List Char} {tokens : List Token} (h : Lexed cs tokens)
    (named : .capture "" ∉ tokens) : Apart tokens := by
  refine ⟨?_, ?_, h.isChain_isText⟩
  · induction h with
    | nil => simp
    | cons takes _ ih =>
      obtain ⟨notNameless, namedRest⟩ := not_or.mp (List.mem_cons.not.mp named)
      intro name mem
      rw [declared_cons, List.mem_append, Option.mem_toList] at mem
      rcases mem with declares | later
      · exact takes.isIdentifier (Ne.symm notNameless) declares
      · exact ih namedRest name later
  · exact h.literal_empty_notMem

theorem Apart.of_append {a b : List Token} (h : Apart (a ++ b)) :
    Apart a ∧ Apart b ∧
      (a.getLast?.any Token.isText = true → b.head?.any Token.isText = false) := by
  obtain ⟨named, filled, chain⟩ := h
  obtain ⟨chainLeft, chainRight, meets⟩ := List.isChain_append.mp chain
  rw [declared_append] at named
  refine ⟨⟨?_, ?_, chainLeft⟩, ⟨?_, ?_, chainRight⟩, ?_⟩
  · exact fun name mem => named name (List.mem_append_left _ mem)
  · exact fun mem => filled (List.mem_append_left _ mem)
  · exact fun name mem => named name (List.mem_append_right _ mem)
  · exact fun mem => filled (List.mem_append_right _ mem)
  · intro text
    cases first : b.head? with
    | none => rfl
    | some next =>
      obtain ⟨last, final, isText⟩ := (Option.any_eq_true _ _).mp text
      exact meets last final next first isText

theorem Apart.of_group {before inner after : List Token}
    (h : Apart (before ++ .groupOpen :: inner ++ after)) : Apart before ∧ Apart inner := by
  obtain ⟨outside, within, -⟩ := h.of_append.1.of_append
  rw [← List.singleton_append] at within
  exact ⟨outside, within.of_append.2.1⟩

/-- Two canonical lists are one unless a literal meets a literal. -/
theorem Canonical.append {a b : List Segment} (left : Canonical a) (right : Canonical b)
    (between : a.getLast?.any isLiteral = true → b.head?.any isLiteral = false) :
    Canonical (a ++ b) := by
  have later {s : Segment} {rest : List Segment} (h : rest.getLast?.any isLiteral = true) :
      (s :: rest).getLast?.any isLiteral = true := by
    cases rest with
    | nil => cases h
    | cons => exact h
  induction left with
  | nil => exact right
  | @literal text rest filled notLiteral _ ih =>
    refine .literal filled ?_ (ih fun h => between (later h))
    cases rest with
    | nil => exact between rfl
    | cons => exact notLiteral
  | capture identifier _ ih => exact .capture identifier (ih fun h => between (later h))
  | splat identifier _ ih => exact .splat identifier (ih fun h => between (later h))
  | optional content _ _ ih => exact .optional content (ih fun h => between (later h))

/-- Segments may be followed by an optional one. -/
theorem Canonical.append_optional {segments inner : List Segment} (h : Canonical segments)
    (content : Canonical inner) : Canonical (segments ++ [.optional inner]) :=
  h.append (.optional content .nil) fun _ => rfl

theorem canonical_plainText (text : List Char) : Canonical (plainText text) := by
  unfold plainText
  split
  · exact .nil
  · next nonempty =>
    exact .literal (by simpa [String.ofList_eq_empty_iff] using nonempty) rfl .nil

/-- The segment of a token with an identifier is canonical by itself. -/
theorem canonical_slot {token : Token} {segment : Segment} (slot : token.slot? = some segment)
    (apart : Apart [token]) : Canonical [segment] ∧ segment.isLiteral = false := by
  cases token with
  | capture name =>
    cases slot
    exact ⟨.capture (apart.named name (by simp [Token.name?])) .nil, rfl⟩
  | splat name =>
    cases slot
    exact ⟨.splat (apart.named name (by simp [Token.name?])) .nil, rfl⟩
  | literal | groupOpen | groupClose | optional => cases slot

/-- What is read from tokens that are apart is canonical, and ends in a literal only if the tokens
end in plain text. -/
theorem canonical_of_reads {tokens : List Token} {segments : List Segment}
    (h : Reads tokens segments) (apart : Apart tokens) :
    Canonical segments ∧
      (segments.getLast?.any isLiteral = true → tokens.getLast?.any Token.isText = true) := by
  -- Without the second part, the case of a literal could not tell what it is put behind.
  induction h with
  | nil => exact ⟨.nil, fun h => h⟩
  | @literal tokens segments text _ ih =>
    obtain ⟨before, last, meets⟩ := apart.of_append
    obtain ⟨canonical, ends⟩ := ih before
    have filled : text ≠ "" := by
      rintro rfl
      exact last.filled (by simp)
    refine ⟨canonical.append (.literal filled rfl .nil) fun literal => ?_, by simp [Token.isText]⟩
    exact meets (ends literal)
  | @lastCharacter tokens segments front c _ ih =>
    obtain ⟨before, last, meets⟩ := apart.of_append
    obtain ⟨canonical, ends⟩ := ih before
    have text := canonical.append (canonical_plainText front) fun literal => by
      cases meets (ends literal)
    refine ⟨text.append_optional (.literal (by simp) rfl .nil), by simp [isLiteral]⟩
  | slot slot _ ih =>
    obtain ⟨before, last, -⟩ := apart.of_append
    obtain ⟨single, notLiteral⟩ := canonical_slot slot last
    refine ⟨(ih before).1.append single fun _ => by simpa using notLiteral, ?_⟩
    simp [notLiteral]
  | @optionalSlot tokens segments token segment slot _ ih =>
    obtain ⟨before, last, -⟩ := apart.of_append
    obtain ⟨single, -⟩ := canonical_slot slot (Apart.of_append (a := [token]) last).1
    exact ⟨(ih before).1.append_optional single, by simp [isLiteral]⟩
  | group _ _ ih ihInner | optionalGroup _ _ ih ihInner =>
    obtain ⟨outside, within⟩ := apart.of_group
    have canonical := (ih outside).1.append_optional (ihInner within).1
    exact ⟨canonical, by simp [isLiteral]⟩

/-! ### Constraints -/

namespace Segment

theorem eraseAll_constrainAll (key : String) (constraint : Constraint) (segments : List Segment) :
    eraseAll (constrainAll key constraint segments) = eraseAll segments := by
  induction segments using inductionOnTree with
  | nil => rfl
  | literal text rest ih => simpa [constrainAll, constrain, eraseAll, erase] using ih
  | capture name old rest ih => simpa [constrainAll, constrain, eraseAll, erase] using ih
  | splat name old rest ih => simpa [constrainAll, constrain, eraseAll, erase] using ih
  | optional inner rest ihInner ih =>
    simp [constrainAll, constrain, eraseAll, erase, ihInner, ih]

end Segment

/-- A canonical tree has no constraint to erase. -/
theorem Canonical.eraseAll_eq {segments : List Segment} (h : Canonical segments) :
    eraseAll segments = segments := by
  induction h with
  | nil => rfl
  | literal _ _ _ ih | capture _ _ ih | splat _ _ ih => rw [eraseAll, ih, erase]
  | optional _ _ ihInner ih => rw [eraseAll, ih, erase, ihInner]

theorem eraseAll_of_attached {names : List String} {segments changed : List Segment}
    {constraints : List (String × String)}
    (h : constraints.foldlM (attach names) segments = .ok changed) :
    eraseAll changed = eraseAll segments := by
  refine foldlM_keeps (P := fun s => eraseAll s = eraseAll segments) ?_ rfl h
  intro s same entry _ next step
  obtain ⟨constraint, rfl⟩ := eq_constrainAll_of_attach step
  exact (eraseAll_constrainAll ..).trans same

/-! ### Whole templates -/

/-- What a source writes is canonical, and has different names. -/
theorem canonical_of_segmentsOf {source : String} {segments : List Segment} {names : List String}
    (written : segmentsOf (tokenize source) = .ok (segments, names)) :
    Canonical segments ∧ (namesOf segments).Nodup ∧ names = namesOf segments := by
  rcases segmentsOf_agrees (legible_tokenize source) with
    ⟨found, same, wellFormed, reading⟩ | ⟨fault, failed, -, -⟩
  · rw [written] at same
    obtain ⟨rfl, rfl⟩ := Prod.mk.inj (Except.ok.inj same)
    have reads := (reading segments).mpr rfl
    have apart := (lexed_tokenize source).apart wellFormed.named
    rw [← reads.names_eq]
    exact ⟨(canonical_of_reads reads apart).1, wellFormed.distinct, rfl⟩
  · rw [written] at failed
    cases failed

/-- What a template compiles to is canonical without its constraints, and has the names of the
tree. -/
theorem canonical_of_compile {source : String} {constraints : List (String × String)}
    {t : Template} (h : compile source constraints = .ok t) :
    Canonical (eraseAll t.segments) ∧ (namesOf (eraseAll t.segments)).Nodup ∧
      t.names = namesOf (eraseAll t.segments) := by
  obtain ⟨segments, written, attached, -⟩ := exists_segmentsOf_of_compile h
  obtain ⟨canonical, distinct, names⟩ := canonical_of_segmentsOf written
  have erased : eraseAll t.segments = segments :=
    (eraseAll_of_attached attached).trans canonical.eraseAll_eq
  rw [erased]
  exact ⟨canonical, distinct, names⟩

/-- A canonical tree with different names is printed as a template that compiles to it, and every
template that compiles has such a tree once its constraints are erased. The names of the template
are those of the tree. -/
theorem compile_printed :
    (∀ tree, Canonical tree → (namesOf tree).Nodup →
      compile (printed tree) [] = .ok ⟨printed tree, tree, namesOf tree⟩) ∧
    ∀ source constraints t, compile source constraints = .ok t →
      Canonical (eraseAll t.segments) ∧ (namesOf (eraseAll t.segments)).Nodup ∧
        t.names = namesOf (eraseAll t.segments) :=
  ⟨fun _ canonical distinct => compile_printed_eq canonical distinct,
    fun _ _ _ compiles => canonical_of_compile compiles⟩

theorem compile_printed_file :
    compile "\\f\\(:id(()*rest)" [] =
        .ok ⟨"\\f\\(:id(()*rest)",
          [.literal "f(", .capture "id" none, .optional [.optional [], .splat "rest" none]],
          ["id", "rest"]⟩ ∧
      Canonical [.literal "/a", .optional [.literal "b"], .capture "id" none] := by
  obtain ⟨prints, reads⟩ := compile_printed
  have name (c : Char) (rest : List Char) (start : isNameStart c = true)
      (more : rest.all isNameRest = true) : IsIdentifier (String.ofList (c :: rest)) :=
    ⟨c, rest, String.toList_ofList, start, List.all_eq_true.mp more⟩
  constructor
  · have canonical : Canonical
        [.literal "f(", .capture "id" none, .optional [.optional [], .splat "rest" none]] :=
      .literal (by decide) rfl (.capture (name 'i' ['d'] rfl rfl)
        (.optional (.optional .nil (.splat (name 'r' ['e', 's', 't'] rfl rfl) .nil)) .nil))
    exact prints _ canonical (by decide)
  · have compiled : compile "/ab?:id" [("id", "int")] = .ok ⟨"/ab?:id",
        [.literal "/a", .optional [.literal "b"], .capture "id" (some .int)], ["id"]⟩ := by
      decide +kernel
    exact (reads _ _ _ compiled).1

end PathRouting.Template
