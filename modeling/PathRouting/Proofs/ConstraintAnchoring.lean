import PathRouting.Constraint
import PathRouting.Proofs.Regex.Matches
import PathRouting.Proofs.Regex.Wrapping

/-!
Custom constraints are regular expressions that the whole text has to match. They are anchored by
writing `^(?:` in front of the expression and `)$` behind it, and read only then.

For an expression that is accepted alone and with the anchors this is right: the constraint accepts
the texts that the expression matches from their first to their last character. Acceptance itself
differs. The anchors take two levels of nesting and add to the size, a comment at the end of the
expression hides the closing anchor, and an expression that closes the group of the anchors, which
is malformed alone, may be accepted and is then not anchored.

The size limit is any test of trees. How the size of an expression and its size with the anchors
compare is not assumed, so an expression may also be too large alone and not with the anchors.

Main statements: `Constraint.parse_anchored`, `Constraint.parse_not_anchored`.
-/

namespace PathRouting

namespace Regex.Tree

/-! ### The anchored tree -/

theorem depth_anchored (tree : Tree) : tree.anchored.depth = tree.depth + 2 := by
  simp [anchored, depth, isSeq]

/-- An anchored expression matches in a text where the expression matches all of it. -/
theorem isMatch_anchored_iff (tree : Tree) (text : List Char) :
    tree.anchored.isMatch text = true ↔ tree.Matches text 0 text.length := by
  have start : ∀ i, i ≤ text.length ∧ (charBefore text i).isNone = true ↔ i = 0 := by
    intro i
    cases i with
    | zero => simp [charBefore]
    | succ i =>
      simp only [charBefore, Option.isNone_iff_eq_none, List.getElem?_eq_none_iff]
      omega
  have stop : ∀ j, j ≤ text.length ∧ text[j]?.isNone = true ↔ j = text.length := by
    intro j
    rw [Option.isNone_iff_eq_none, List.getElem?_eq_none_iff]
    omega
  rw [isMatch_iff]
  simp only [anchored, Matches, Look.holds, start, stop]
  constructor
  · rintro ⟨i, -, j, k, ⟨l, ⟨rfl, rfl⟩, inner⟩, rfl, rfl⟩
    exact inner
  · intro inner
    exact ⟨0, Nat.zero_le _, _, _, ⟨0, ⟨rfl, rfl⟩, inner⟩, rfl, rfl⟩

variable {limit : SizeLimit}

/-- What is read of an expression is accepted if it keeps to the limits. -/
theorem parse_of_read {s : String} {tree : Tree} (read : Tree.read? s.toList = some tree) :
    Tree.parse s limit =
      if depthLimit < tree.depth then .error .malformed
      else if limit.allows tree then .ok tree
      else .error (.tooLarge limit.bytes) := by
  rw [Tree.parse, read]

/-- An expression is accepted if it is well formed and keeps to the limits. -/
theorem parse_eq_ok_iff {s : String} {tree : Tree} :
    Tree.parse s limit = .ok tree ↔
      Tree.read? s.toList = some tree ∧ tree.depth ≤ depthLimit ∧ limit.allows tree = true := by
  constructor
  · intro parsed
    cases read : Tree.read? s.toList with
    | none => simp [Tree.parse, read] at parsed
    | some other =>
      rw [parse_of_read read] at parsed
      split at parsed
      case isTrue => cases parsed
      case isFalse shallow =>
        split at parsed
        case isTrue small =>
          cases parsed
          exact ⟨rfl, by omega, small⟩
        case isFalse => cases parsed
  · rintro ⟨read, shallow, small⟩
    rw [parse_of_read read, if_neg (by omega), if_pos small]

/-- An expression that is too large is well formed. -/
theorem read_of_tooLarge {s : String} {bytes : Nat}
    (refused : Tree.parse s limit = .error (.tooLarge bytes)) :
    ∃ tree, Tree.read? s.toList = some tree ∧ limit.allows tree = false := by
  cases read : Tree.read? s.toList with
  | none => simp [Tree.parse, read] at refused
  | some tree =>
    rw [parse_of_read read] at refused
    split at refused
    case isTrue => cases refused
    case isFalse =>
      split at refused
      case isTrue => cases refused
      case isFalse large => exact ⟨tree, rfl, by simpa using large⟩

end Regex.Tree

namespace Constraint

open Regex

variable {limit : SizeLimit}

/-! ### Expressions that the anchors do not enclose -/

/-- The expression closes a group that it has not opened. -/
def Overcloses (expression : String) : Prop :=
  State.Strays ({}, expression.toList)

/-- The expression can be read with the closing of the anchors behind it although no group is open
there. The closing is then part of a comment. -/
def HidesClosing (expression : String) : Prop :=
  (Tree.read? (expression.toList ++ closing)).isSome = true

instance (expression : String) : Decidable (HidesClosing expression) :=
  inferInstanceAs (Decidable (_ = true))

theorem toList_anchored (expression : String) :
    (anchored expression).toList =
      '^' :: '(' :: '?' :: ':' :: (expression.toList ++ closing) := by
  simp [anchored, closing, String.toList_append]

/-- A custom constraint is the pattern of the anchored expression. -/
theorem parse_eq_ok_iff {expression : String}
    (custom : expression ∉ ["int", "uuid", "alpha", "slug"]) {c : Constraint} :
    parse expression limit = .ok c ↔ ∃ tree, Tree.parse (anchored expression) limit = .ok tree ∧
      c = .pattern ⟨anchored expression, tree⟩ := by
  simp only [List.mem_cons, List.not_mem_nil, or_false, not_or] at custom
  have written :
      parse expression limit = (Pattern.compile (anchored expression) limit).map .pattern := by
    unfold parse
    simp [custom]
  rw [written, Pattern.compile]
  cases Tree.parse (anchored expression) limit with
  | error fault => simp [Except.map]
  | ok tree => simp [Except.map, eq_comm]

/-- An accepted constraint whose expression does not overclose is the anchored expression. The
expression is then well formed alone and leaves the closing alone. -/
theorem parse_of_not_overcloses {expression : String} (honest : ¬Overcloses expression)
    {tree : Tree} :
    Tree.parse (anchored expression) limit = .ok tree ↔
      ∃ inner, Tree.read? expression.toList = some inner ∧ ¬HidesClosing expression ∧
        inner.depth + 2 ≤ depthLimit ∧ limit.allows inner.anchored = true ∧
        tree = inner.anchored := by
  rw [Tree.parse_eq_ok_iff, toList_anchored, Tree.read?_anchored_iff honest]
  simp only [HidesClosing, Option.isSome_iff_ne_none, not_not]
  constructor
  · rintro ⟨⟨inner, read, hidden, rfl⟩, shallow, small⟩
    rw [Tree.depth_anchored] at shallow
    exact ⟨inner, read, hidden, shallow, small, rfl⟩
  · rintro ⟨inner, read, hidden, shallow, small, rfl⟩
    rw [Tree.depth_anchored]
    exact ⟨⟨inner, read, hidden, rfl⟩, shallow, small⟩

/-- What overcloses is malformed. -/
theorem not_overcloses_of_read {expression : String} {tree : Tree}
    (read : Tree.read? expression.toList = some tree) : ¬Overcloses expression := by
  intro strays
  rw [Tree.read?_eq_none_of_strays strays] at read
  cases read

/-- A custom constraint whose expression is a valid regular expression is accepted if the expression
does not hide the closing and leaves room for the anchors, and it then accepts the texts that the
expression matches as a whole. One whose expression is malformed is refused unless the expression
overcloses, and one whose expression is too large is refused if it is too large with the anchors.
This is so under every size limit. -/
theorem parse_anchored (limit : SizeLimit) (expression : String)
    (custom : expression ∉ ["int", "uuid", "alpha", "slug"]) :
    (∀ tree, Tree.parse expression limit = .ok tree →
      ((∃ c, parse expression limit = .ok c) ↔ ¬HidesClosing expression ∧
        tree.depth + 2 ≤ depthLimit ∧ limit.allows tree.anchored = true) ∧
      ∀ c, parse expression limit = .ok c → ∀ value : String,
        c.validate value = true ↔ tree.Matches value.toList 0 value.toList.length) ∧
    (Tree.parse expression limit = .error .malformed →
      (∃ c, parse expression limit = .ok c) → Overcloses expression) ∧
    ∀ bytes, Tree.parse expression limit = .error (.tooLarge bytes) →
      (∃ c, parse expression limit = .ok c) →
        ∃ tree, Tree.read? expression.toList = some tree ∧ limit.allows tree = false ∧
          limit.allows tree.anchored = true := by
  refine ⟨?valid, ?malformed, ?tooLarge⟩
  case valid =>
    intro tree valid
    have read := (Tree.parse_eq_ok_iff.1 valid).1
    have anchors := fun {whole} => @parse_of_not_overcloses limit expression
      (not_overcloses_of_read read) whole
    constructor
    · constructor
      · rintro ⟨c, accepted⟩
        obtain ⟨whole, parsed, -⟩ := (parse_eq_ok_iff custom).1 accepted
        obtain ⟨inner, alone, visible, shallow, small, -⟩ := anchors.1 parsed
        cases read.symm.trans alone
        exact ⟨visible, shallow, small⟩
      · rintro ⟨visible, shallow, small⟩
        have parsed := anchors.2 ⟨tree, read, visible, shallow, small, rfl⟩
        exact ⟨_, (parse_eq_ok_iff custom).2 ⟨_, parsed, rfl⟩⟩
    · intro c accepted value
      obtain ⟨whole, parsed, rfl⟩ := (parse_eq_ok_iff custom).1 accepted
      obtain ⟨inner, alone, -, -, -, rfl⟩ := anchors.1 parsed
      cases read.symm.trans alone
      exact Tree.isMatch_anchored_iff tree value.toList
  case malformed =>
    rintro refused ⟨c, accepted⟩
    by_contra honest
    obtain ⟨whole, parsed, -⟩ := (parse_eq_ok_iff custom).1 accepted
    obtain ⟨inner, alone, -, shallow, -⟩ := (parse_of_not_overcloses honest).1 parsed
    rw [Tree.parse_of_read alone, if_neg (by omega)] at refused
    split at refused
    · cases refused
    · cases refused
  case tooLarge =>
    rintro bytes refused ⟨c, accepted⟩
    obtain ⟨tree, read, large⟩ := Tree.read_of_tooLarge refused
    obtain ⟨whole, parsed, -⟩ := (parse_eq_ok_iff custom).1 accepted
    obtain ⟨inner, alone, -, -, small, -⟩ :=
      (parse_of_not_overcloses (not_overcloses_of_read read)).1 parsed
    cases read.symm.trans alone
    exact ⟨tree, read, large, small⟩

theorem parse_anchored_alternatives :
    (∃ c, parse "a|b" = .ok c ∧ c.validate "b" = true ∧ c.validate "ab" = false) ∧
      Overcloses "a)|(?:b" := by
  have valid : Tree.parse "a|b" = .ok (.alt (.set (.single 'a')) (.set (.single 'b'))) := rfl
  obtain ⟨accepted, whole⟩ := (parse_anchored .standard "a|b" (by decide)).1 _ valid
  obtain ⟨c, parsed⟩ := accepted.2 (by decide)
  constructor
  · refine ⟨c, parsed, (whole c parsed "b").2 (.inr ⟨rfl, 'b', rfl, rfl⟩), ?_⟩
    rw [← Bool.not_eq_true, whole c parsed "ab"]
    rintro (⟨short, -⟩ | ⟨short, -⟩)
    · cases short
    · cases short
  · exact (parse_anchored .standard "a)|(?:b" (by decide)).2.1 rfl ⟨_, rfl⟩

example : HidesClosing "(?x)\\d+ # digits" := by decide

/-- An expression that is malformed alone is accepted and not anchored, and a valid one that ends in
a comment is refused. -/
theorem parse_not_anchored :
    (∃ c, parse "a)|(?:b" = .ok c ∧ c.validate "axxx" = true) ∧
      Tree.parse "a)|(?:b" = .error .malformed ∧
      parse "(?x)\\d+ # digits" = .error .malformed ∧
      ∃ tree, Tree.parse "(?x)\\d+ # digits" = .ok tree := by
  constructor
  · exact ⟨_, rfl, rfl⟩
  · exact ⟨rfl, rfl, _, rfl⟩

end Constraint

end PathRouting
