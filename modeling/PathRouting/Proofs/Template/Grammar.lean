import Mathlib.Data.Nat.SuccPred
import Mathlib.Order.Lattice.Nat
import PathRouting.Proofs.Template.SegmentTree
import PathRouting.Template.Basic

/-!
The grammar of templates, over tokens and without a machine.

`Reads` is the recursive reading of a list of tokens as segments, and `WellFormed` the rules that a
template obeys as a whole. `offence?` says whether a token breaks a rule given the tokens in front
of it, and `Reported` which fault a template is to be reported for. Main statement: `wellFormed_iff`
(the rules hold exactly if no token offends and every group is closed).
-/

namespace PathRouting.Template

/-! ### Tokens -/

namespace Token

/-- The name that a capture or splat declares. -/
def name? : Token → Option String
  | capture name | splat name => some name
  | literal _ | groupOpen | groupClose | optional => none

/-- The segment that a capture or splat writes. -/
def slot? : Token → Option Segment
  | capture name => some (.capture name none)
  | splat name => some (.splat name none)
  | literal _ | groupOpen | groupClose | optional => none

/-- Whether a question mark may follow the token. -/
def takesMark : Token → Bool
  | literal _ | capture _ | splat _ | groupClose => true
  | groupOpen | optional => false

theorem toList_name?_of_slot? {token : Token} {segment : Segment}
    (slot : token.slot? = some segment) : token.name?.toList = segment.names := by
  cases token <;> cases slot <;> rfl

theorem ne_groupClose_of_slot? {token : Token} {segment : Segment}
    (slot : token.slot? = some segment) : token ≠ .groupClose := by
  cases token <;> cases slot <;> simp

theorem takesMark_of_slot? {token : Token} {segment : Segment}
    (slot : token.slot? = some segment) : token.takesMark = true := by
  cases token <;> cases slot <;> rfl

end Token

/-- The names that tokens declare, in order. -/
def declared (tokens : List Token) : List String :=
  tokens.filterMap Token.name?

@[simp] theorem declared_nil : declared [] = [] := rfl

@[simp] theorem declared_cons (token : Token) (rest : List Token) :
    declared (token :: rest) = token.name?.toList ++ declared rest := by
  unfold declared
  rw [List.filterMap_cons]
  cases token.name? <;> rfl

@[simp] theorem declared_append (a b : List Token) :
    declared (a ++ b) = declared a ++ declared b :=
  List.filterMap_append

/-! ### The recursive reading -/

/-- The segments for plain text: none for no text. -/
def plainText (text : List Char) : List Segment :=
  if text.isEmpty then [] else [.literal (String.ofList text)]

/-- What it is for tokens to be read as segments: token by token from the left, a group as one
optional segment whose content is read the same way. A question mark makes the last character of a
text, or a capture or splat, optional, and adds nothing to a group. -/
inductive Reads : List Token → List Segment → Prop where
  | nil : Reads [] []
  | literal {tokens segments} (text : String) :
    Reads tokens segments → Reads (tokens ++ [.literal text]) (segments ++ [.literal text])
  | lastCharacter {tokens segments} (front : List Char) (c : Char) :
    Reads tokens segments →
      Reads (tokens ++ [.literal (String.ofList (front ++ [c])), .optional])
        (segments ++ plainText front ++ [.optional [.literal (String.singleton c)]])
  | slot {tokens segments token segment} :
    token.slot? = some segment → Reads tokens segments →
      Reads (tokens ++ [token]) (segments ++ [segment])
  | optionalSlot {tokens segments token segment} :
    token.slot? = some segment → Reads tokens segments →
      Reads (tokens ++ [token, .optional]) (segments ++ [.optional [segment]])
  | group {tokens segments inner content} :
    Reads tokens segments → Reads inner content →
      Reads (tokens ++ .groupOpen :: inner ++ [.groupClose]) (segments ++ [.optional content])
  | optionalGroup {tokens segments inner content} :
    Reads tokens segments → Reads inner content →
      Reads (tokens ++ .groupOpen :: inner ++ [.groupClose, .optional])
        (segments ++ [.optional content])

/-- Two readings one after the other are a reading. -/
theorem Reads.append {a b : List Token} {s t : List Segment} (left : Reads a s)
    (right : Reads b t) : Reads (a ++ b) (s ++ t) := by
  induction right with
  | nil => simpa using left
  | literal text _ ih => simpa using ih.literal text
  | lastCharacter front c _ ih => simpa using ih.lastCharacter front c
  | slot slot _ ih => simpa using ih.slot slot
  | optionalSlot slot _ ih => simpa using ih.optionalSlot slot
  | group _ inner ih _ => simpa using ih.group inner
  | optionalGroup _ inner ih _ => simpa using ih.optionalGroup inner

/-- The declared names are those of the segments, in the same order. -/
theorem Reads.names_eq {tokens : List Token} {segments : List Segment} (h : Reads tokens segments) :
    declared tokens = Segment.namesOf segments := by
  induction h with
  | nil => rfl
  | literal text _ ih => simpa [Token.name?] using ih
  | lastCharacter front c _ ih =>
    unfold plainText
    split <;> simpa [Token.name?] using ih
  | slot slot _ ih => simp [ih, Token.toList_name?_of_slot? slot]
  | optionalSlot slot _ ih =>
    simp only [declared_append, declared_cons, declared_nil, ih, Token.toList_name?_of_slot? slot]
    simp [Token.name?]
  | group _ _ ih ihInner => simp [Token.name?, ih, ihInner]
  | optionalGroup _ _ ih ihInner => simp [Token.name?, ih, ihInner]

/-! #### The end of a reading -/

theorem Reads.eq_nil {segments : List Segment} (h : Reads [] segments) : segments = [] := by
  generalize eq : ([] : List Token) = read at h
  cases h <;> simp_all

/-- What the last token of a reading may be, given the tokens in front of it, and how the segments
end then. No reading ends at an open group. -/
inductive EndsAt (tokens : List Token) : Token → List Segment → Prop where
  | literal {before} (text : String) :
    Reads tokens before → EndsAt tokens (.literal text) (before ++ [.literal text])
  | slot {before token segment} :
    token.slot? = some segment → Reads tokens before → EndsAt tokens token (before ++ [segment])
  | groupClose {segments} :
    Reads (tokens ++ [.groupClose, .optional]) segments → EndsAt tokens .groupClose segments
  | optional (before inner : List Segment) :
    EndsAt tokens .optional (before ++ [.optional inner])

theorem Reads.endsAt {tokens : List Token} {token : Token} {segments : List Segment}
    (h : Reads (tokens ++ [token]) segments) : EndsAt tokens token segments := by
  generalize eq : tokens ++ [token] = read at h
  have final : read.getLast? = some token := by simp [← eq]
  cases h with
  | nil => cases final
  | @literal front segments text h =>
    obtain ⟨rfl, same⟩ := List.append_inj' eq rfl
    obtain rfl := (List.cons.inj same).1
    exact .literal text h
  | @slot front segments other segment slot h =>
    obtain ⟨rfl, same⟩ := List.append_inj' eq rfl
    obtain rfl := (List.cons.inj same).1
    exact .slot slot h
  | @group front segments inner content h hInner =>
    obtain ⟨rfl, same⟩ := List.append_inj' eq rfl
    obtain rfl := (List.cons.inj same).1
    exact .groupClose (h.optionalGroup hInner)
  | lastCharacter | optionalSlot | optionalGroup =>
    obtain rfl : .optional = token := by simpa [List.getLast?_cons] using final
    exact .optional _ _

/-! ### Balanced groups -/

/-- What it is for groups to balance: no beginning closes more groups than it opens, and the whole
closes as many as it opens. -/
structure Balanced (tokens : List Token) : Prop where
  closes_le : ∀ n, (tokens.take n).count .groupClose ≤ (tokens.take n).count .groupOpen
  count_eq : tokens.count .groupClose = tokens.count .groupOpen

namespace Balanced

theorem nil : Balanced [] :=
  ⟨fun n => by simp, rfl⟩

theorem append {a b : List Token} (left : Balanced a) (right : Balanced b) : Balanced (a ++ b) where
  closes_le n := by
    have inLeft := left.closes_le n
    have inRight := right.closes_le (n - a.length)
    rw [List.take_append, List.count_append, List.count_append]
    omega
  count_eq := by rw [List.count_append, List.count_append, left.count_eq, right.count_eq]

/-- A token that is no bracket changes no balance. -/
theorem plain {token : Token} (notOpen : token ≠ .groupOpen) (notClose : token ≠ .groupClose) :
    Balanced [token] where
  closes_le n := by cases n <;> simp [notOpen, notClose]
  count_eq := by simp [notOpen, notClose]

theorem group {inner : List Token} (balanced : Balanced inner) :
    Balanced (.groupOpen :: inner ++ [.groupClose]) where
  closes_le n := by
    cases n with
    | zero => simp
    | succ n =>
      have inside := balanced.closes_le n
      have closed : ([Token.groupClose].take (n - inner.length)).count .groupClose ≤ 1 :=
        List.count_le_length.trans (by simp)
      rw [List.cons_append, List.take_succ_cons, List.take_append,
        List.count_cons_of_ne (by simp), List.count_cons_self, List.count_append,
        List.count_append]
      omega
  count_eq := by simp [List.count_append, balanced.count_eq]

end Balanced

/-- What is read as segments is balanced. -/
theorem Reads.balanced {tokens : List Token} {segments : List Segment} (h : Reads tokens segments) :
    Balanced tokens := by
  have mark : Balanced [.optional] := Balanced.plain (by simp) (by simp)
  have slotBalanced {token : Token} {segment : Segment} (slot : token.slot? = some segment) :
      Balanced [token] := by
    cases token <;> cases slot <;> exact Balanced.plain (by simp) (by simp)
  induction h with
  | nil => exact .nil
  | literal text _ ih => exact ih.append (.plain (by simp) (by simp))
  | lastCharacter front c _ ih =>
    have text : Balanced [Token.literal (String.ofList (front ++ [c]))] :=
      .plain (by simp) (by simp)
    exact ih.append (text.append mark)
  | slot slot _ ih => exact ih.append (slotBalanced slot)
  | optionalSlot slot _ ih => exact ih.append ((slotBalanced slot).append mark)
  | group _ _ ih ihInner => simpa using ih.append ihInner.group
  | optionalGroup _ _ ih ihInner => simpa using (ih.append ihInner.group).append mark

/-! ### The rules -/

/-- The rules of a template: groups balance, every capture has a name, no two captures or splats
have the same one, and every question mark stands directly after what it can make optional. -/
structure WellFormed (tokens : List Token) : Prop where
  balanced : Balanced tokens
  named : .capture "" ∉ tokens
  distinct : (declared tokens).Nodup
  placed : ∀ before after, tokens = before ++ .optional :: after →
    before.getLast?.any Token.takesMark = true

/-- What is wrong with a token that stands after the given ones. -/
def offence? (before : List Token) (x : Lexeme) : Option TemplateFault :=
  match x.token with
  | .literal _ | .groupOpen => none
  | .capture name =>
    if name = "" then some (.emptyName x.offset)
    else if name ∈ declared before then some (.duplicateName name)
    else none
  | .splat name =>
    if name ∈ declared before then some (.duplicateName name) else none
  | .groupClose =>
    if before.count .groupOpen ≤ before.count .groupClose then some (.unbalancedClose x.offset)
    else none
  | .optional =>
    if before.getLast?.any Token.takesMark then none else some (.strayOptional x.offset)

/-- That no token breaks a rule. -/
def Inoffensive (lexemes : List Lexeme) : Prop :=
  ∀ before x after, lexemes = before ++ x :: after →
    offence? (before.map Lexeme.token) x = none

/-- What is to be reported for a template that obeys not all rules: the fault of the leftmost token
that breaks one, and if there is none, the innermost group that is not closed. -/
inductive Reported (lexemes : List Lexeme) : TemplateFault → Prop where
  | offence {before x after fault} :
    lexemes = before ++ x :: after → Inoffensive before →
      offence? (before.map Lexeme.token) x = some fault → Reported lexemes fault
  | unclosed {before offset after} :
    lexemes = before ++ ⟨offset, .groupOpen⟩ :: after → Inoffensive lexemes →
      Balanced (after.map Lexeme.token) → Reported lexemes (.unbalancedOpen offset)

theorem notMem_declared_of_offence? {before : List Token} {x : Lexeme} {name : String}
    (declares : x.token.name? = some name) (h : offence? before x = none) :
    name ∉ declared before := by
  intro mem
  obtain ⟨offset, token⟩ := x
  cases token with
  | literal | groupOpen | groupClose | optional => cases declares
  | capture | splat =>
    cases declares
    simp only [offence?, mem, if_true] at h
    grind

theorem inoffensive_concat {before : List Lexeme} {x : Lexeme} :
    Inoffensive (before ++ [x]) ↔
      Inoffensive before ∧ offence? (before.map Lexeme.token) x = none := by
  constructor
  · intro h
    refine ⟨fun front y after eq => h front y (after ++ [x]) (by simp [eq]), ?_⟩
    exact h before x [] rfl
  · rintro ⟨h, last⟩ front y after eq
    rcases List.eq_nil_or_concat after with rfl | ⟨init, z, rfl⟩
    · obtain ⟨rfl, same⟩ := List.append_inj' eq rfl
      obtain rfl : x = y := by simpa using same
      exact last
    · rw [List.concat_eq_append, ← List.cons_append, ← List.append_assoc] at eq
      obtain ⟨rfl, -⟩ := List.append_inj' eq rfl
      exact h front y init rfl

namespace Inoffensive

variable {lexemes : List Lexeme}

theorem closes_le (h : Inoffensive lexemes) (n : Nat) :
    ((lexemes.map Lexeme.token).take n).count .groupClose ≤
      ((lexemes.map Lexeme.token).take n).count .groupOpen := by
  induction lexemes using List.reverseRecOn generalizing n with
  | nil => simp
  | append_singleton before x ih =>
    obtain ⟨earlier, last⟩ := inoffensive_concat.mp h
    rw [List.map_append]
    by_cases short : n ≤ before.length
    · rw [List.take_append_of_le_length (by simpa using short)]
      exact ih earlier n
    · have whole := ih earlier before.length
      rw [List.take_of_length_le (by simp)] at whole
      rw [List.take_of_length_le (by simp; omega), List.count_append, List.count_append]
      cases token : x.token with
      | groupClose =>
        have opened : (before.map Lexeme.token).count .groupClose <
            (before.map Lexeme.token).count .groupOpen := by
          simpa [offence?, token] using last
        simpa [token] using opened
      | literal | capture | splat | groupOpen | optional => simp [token]; omega

theorem distinct (h : Inoffensive lexemes) : (declared (lexemes.map Lexeme.token)).Nodup := by
  induction lexemes using List.reverseRecOn with
  | nil => simp
  | append_singleton before x ih =>
    obtain ⟨earlier, last⟩ := inoffensive_concat.mp h
    rw [List.map_append, declared_append]
    cases declares : x.token.name? with
    | none => simpa [declares] using ih earlier
    | some name =>
      have new := notMem_declared_of_offence? declares last
      simpa [declares] using List.nodup_append.mpr ⟨ih earlier, by simp, by grind⟩

theorem named (h : Inoffensive lexemes) : .capture "" ∉ lexemes.map Lexeme.token := by
  intro mem
  obtain ⟨x, inside, eq⟩ := List.mem_map.mp mem
  obtain ⟨before, after, split⟩ := List.append_of_mem inside
  have noOffence := h before x after split
  simp [offence?, eq] at noOffence

theorem placed (h : Inoffensive lexemes) {before after : List Token}
    (split : lexemes.map Lexeme.token = before ++ .optional :: after) :
    before.getLast?.any Token.takesMark = true := by
  obtain ⟨front, rest, eq, rfl, restEq⟩ := List.map_eq_append_iff.mp split
  obtain ⟨x, rest, rfl, token, -⟩ := List.map_eq_cons_iff.mp restEq
  have noOffence := h front x rest eq
  simpa [offence?, token] using noOffence

end Inoffensive

/-- The rules hold exactly if no token breaks one and every group is closed. -/
theorem wellFormed_iff {lexemes : List Lexeme} :
    WellFormed (lexemes.map Lexeme.token) ↔
      Inoffensive lexemes ∧
        (lexemes.map Lexeme.token).count .groupClose =
          (lexemes.map Lexeme.token).count .groupOpen := by
  constructor
  · rintro ⟨balanced, named, distinct, placed⟩
    refine ⟨?_, balanced.count_eq⟩
    rintro before ⟨offset, token⟩ after rfl
    have new : ∀ name, token.name? = some name → name ∉ declared (before.map Lexeme.token) := by
      intro name declares mem
      rw [List.map_append, declared_append] at distinct
      exact (List.nodup_append.mp distinct).2.2 name mem name (by simp [declares]) rfl
    cases token with
    | literal | groupOpen => rfl
    | capture name =>
      have given : name ≠ "" := fun eq => named (by simp [eq])
      simp only [offence?, given, new name rfl, if_false]
    | splat name => simp only [offence?, new name rfl, if_false]
    | groupClose =>
      have closes := balanced.closes_le (before.length + 1)
      have cut : ((before ++ ⟨offset, .groupClose⟩ :: after).map Lexeme.token).take
          (before.length + 1) = before.map Lexeme.token ++ [.groupClose] := by
        simp [List.take_append]
      rw [cut, List.count_append, List.count_append] at closes
      have opened : (before.map Lexeme.token).count .groupClose <
          (before.map Lexeme.token).count .groupOpen := by simpa using closes
      simp only [offence?, opened.not_ge, if_false]
    | optional =>
      have follows := placed (before.map Lexeme.token) (after.map Lexeme.token) (by simp)
      simp only [offence?, follows, if_true]
  · rintro ⟨h, count_eq⟩
    exact ⟨⟨h.closes_le, count_eq⟩, h.named, h.distinct, fun _ _ split => h.placed split⟩

end PathRouting.Template
