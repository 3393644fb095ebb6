import Mathlib.Tactic.NormNum
import PathRouting.Regex.Pattern

/-!
What a regular expression matches, as a relation between positions of a text, and the proof that the
sets of positions which the matcher passes on are those of the relation.

The matcher stops a repetition early and tries an unbounded one only as often as the text is long.
Both are right because no match goes backwards or leaves the text: a run of matches that does not
move on adds nothing.

Main statements: `Tree.testBit_ends`, `Tree.isMatch_iff`.
-/

namespace PathRouting.Regex

/-! ### The relation -/

/-- A number of steps of a relation, one after the other. -/
inductive Times (R : Nat → Nat → Prop) : Nat → Nat → Nat → Prop
  | zero (i : Nat) : Times R 0 i i
  | succ {n i k j : Nat} : R i k → Times R n k j → Times R (n + 1) i j

/-- The character in front of a position. -/
def charBefore (text : List Char) : Nat → Option Char
  | 0 => none
  | i + 1 => text[i]?

/-- The part of the text from the first to the second position matches. An upper bound of a
repetition that is below its lower bound counts as the lower bound. -/
def Tree.Matches (text : List Char) : Tree → Nat → Nat → Prop
  | empty, i, j => j = i
  | mode, i, j => j = i
  | set of, i, j => j = i + 1 ∧ ∃ c, text[i]? = some c ∧ of.contains c = true
  | look assertion, i, j =>
    j = i ∧ i ≤ text.length ∧ assertion.holds (charBefore text i) text[i]? = true
  | group _ inner, i, j => inner.Matches text i j
  | repeated inner least most, i, j =>
    ∃ n, least ≤ n ∧ (∀ m ∈ most, n ≤ max least m) ∧ Times (inner.Matches text) n i j
  | seq a b, i, j => ∃ k, a.Matches text i k ∧ b.Matches text k j
  | alt a b, i, j => a.Matches text i j ∨ b.Matches text i j

section Times

variable {R : Nat → Nat → Prop} {m n i k j : Nat}

theorem times_zero_iff : Times R 0 i j ↔ j = i := by
  constructor
  · intro h
    cases h
    rfl
  · rintro rfl
    exact .zero j

theorem times_succ_iff : Times R (n + 1) i j ↔ ∃ k, R i k ∧ Times R n k j := by
  constructor
  · intro h
    cases h with
    | succ first more => exact ⟨_, first, more⟩
  · rintro ⟨k, first, more⟩
    exact .succ first more

theorem times_add_iff : Times R (m + n) i j ↔ ∃ k, Times R m i k ∧ Times R n k j := by
  induction m generalizing i with
  | zero => simp [times_zero_iff]
  | succ m ih =>
    rw [Nat.add_right_comm]
    simp only [times_succ_iff, ih]
    grind

theorem Times.le (forward : ∀ i j, R i j → i ≤ j) (h : Times R n i j) : i ≤ j := by
  induction h with
  | zero => exact le_rfl
  | succ first _ ih => exact (forward _ _ first).trans ih

/-- Steps that stay where they are can be left out. -/
theorem Times.shorten (forward : ∀ i j, R i j → i ≤ j) (h : Times R n i j) :
    ∃ k ≤ j - i, Times R k i j := by
  induction h with
  | zero i => exact ⟨0, Nat.zero_le _, .zero i⟩
  | @succ n i k j first more ih =>
    obtain ⟨count, short, run⟩ := ih
    have moves := forward _ _ first
    have onward := more.le forward
    rcases moves.eq_or_lt with rfl | moved
    · exact ⟨count, short, run⟩
    · exact ⟨count + 1, by omega, .succ first run⟩

end Times

/-! ### Positions only grow, up to the end of the text -/

namespace Tree

variable {text : List Char} {i j : Nat}

theorem Matches.le {tree : Tree} (h : tree.Matches text i j) : i ≤ j := by
  induction tree generalizing i j with
  | empty | mode => exact h.ge
  | set of => exact h.1 ▸ Nat.le_succ i
  | look => exact h.1.ge
  | group _ inner ih => exact ih h
  | repeated inner least most ih =>
    obtain ⟨n, -, -, run⟩ := h
    exact run.le fun _ _ => ih
  | seq a b iha ihb =>
    obtain ⟨k, first, second⟩ := h
    exact (iha first).trans (ihb second)
  | alt a b iha ihb => exact h.elim iha ihb

theorem Matches.le_max {tree : Tree} (h : tree.Matches text i j) : j ≤ max i text.length := by
  induction tree generalizing i j with
  | empty | mode => exact h ▸ le_max_left ..
  | set of =>
    obtain ⟨rfl, c, at_i, -⟩ := h
    have inside := (List.getElem?_eq_some_iff.1 at_i).1
    omega
  | look => exact h.1 ▸ le_max_left ..
  | group _ inner ih => exact ih h
  | repeated inner least most ih =>
    obtain ⟨n, -, -, run⟩ := h
    induction run with
    | zero => exact le_max_left ..
    | succ first _ ihrun =>
      have := ih first
      omega
  | seq a b iha ihb =>
    obtain ⟨k, first, second⟩ := h
    have := iha first
    have := ihb second
    omega
  | alt a b iha ihb => exact h.elim iha ihb

end Tree

/-! ### Sets of positions -/

theorem testBit_bit (b : Bool) (x i : Nat) :
    ((if b then 1 else 0) + 2 * x).testBit i = match i with
      | 0 => b
      | i + 1 => x.testBit i := by
  cases i with
  | zero => cases b <;> simp [Nat.testBit_zero, Nat.add_mod]
  | succ i =>
    rw [Nat.testBit_succ]
    congr 1
    cases b
    · simp
    · simp
      omega

theorem CharSet.testBit_positions (of : CharSet) (text : List Char) (i : Nat) :
    (of.positions text).testBit i = true ↔ ∃ c, text[i]? = some c ∧ of.contains c = true := by
  induction text generalizing i with
  | nil => simp [positions]
  | cons c rest ih =>
    rw [positions, testBit_bit]
    cases i with
    | zero => simp
    | succ i => simpa using ih i

/-- The positions where an assertion holds, in a text that follows a given character. -/
theorem Look.testBit_positions (look : Look) (before : Option Char) (text : List Char) (i : Nat) :
    (look.positions before text).testBit i = true ↔
      i ≤ text.length ∧
        look.holds (if i = 0 then before else charBefore text i) text[i]? = true := by
  induction text generalizing before i with
  | nil =>
    rw [positions]
    cases i with
    | zero => by_cases holds : look.holds before none = true <;> simp [holds]
    | succ i => cases look.holds before none <;> simp [Nat.testBit_succ]
  | cons c rest ih =>
    rw [positions, testBit_bit]
    cases i with
    | zero => simp
    | succ i =>
      simp only [ih, List.length_cons, Nat.add_le_add_iff_right, Nat.succ_ne_zero, if_false,
        List.getElem?_cons_succ]
      cases i <;> simp [charBefore]

/-- A function on sets of positions leads to the positions that the relation reaches. -/
def Leads (R : Nat → Nat → Prop) (round : Nat → Nat) : Prop :=
  ∀ s j, (round s).testBit j = true ↔ ∃ i, s.testBit i = true ∧ R i j

section Rounds

variable {R : Nat → Nat → Prop} {round : Nat → Nat}

/-- Once a round changes nothing, no number of rounds does. -/
theorem Leads.times_of_fixed (leads : Leads R round) {s : Nat} (fixed : round s = s) (n j : Nat) :
    (∃ i, s.testBit i = true ∧ Times R n i j) ↔ s.testBit j = true := by
  induction n generalizing j with
  | zero => simp [times_zero_iff]
  | succ n ih =>
    have once : ∀ k, s.testBit k = true ↔ ∃ i, s.testBit i = true ∧ R i k := by
      intro k
      rw [← leads, fixed]
    simp only [times_succ_iff]
    rw [← ih]
    constructor
    · rintro ⟨i, at_i, k, first, more⟩
      exact ⟨k, (once k).2 ⟨i, at_i, first⟩, more⟩
    · rintro ⟨k, at_k, more⟩
      obtain ⟨i, at_i, first⟩ := (once k).1 at_k
      exact ⟨i, at_i, k, first, more⟩

theorem Leads.afterRounds (leads : Leads R round) (n : Nat) :
    Leads (Times R n) (afterRounds round n) := by
  induction n with
  | zero =>
    intro s j
    simp [Regex.afterRounds, times_zero_iff]
  | succ n ih =>
    intro s j
    rw [Regex.afterRounds]
    split
    · rename_i fixed
      exact (leads.times_of_fixed fixed (n + 1) j).symm
    · simp only [ih (round s) j, leads s, times_succ_iff]
      grind

/-- A set that a round adds nothing to holds all that can be reached from it. -/
theorem Leads.testBit_of_closed (leads : Leads R round) {s n i j : Nat} (closed : s ||| round s = s)
    (at_i : s.testBit i = true) (run : Times R n i j) : s.testBit j = true := by
  induction run with
  | zero => exact at_i
  | @succ n i k j first _ ih =>
    refine ih ?_
    rw [← closed, Nat.testBit_or, (leads s k).2 ⟨i, at_i, first⟩, Bool.or_true]

theorem Leads.withinRounds (leads : Leads R round) (n : Nat) :
    Leads (fun i j => ∃ k ≤ n, Times R k i j) (withinRounds round n) := by
  induction n with
  | zero =>
    intro s j
    simp [Regex.withinRounds, times_zero_iff]
  | succ n ih =>
    intro s j
    rw [Regex.withinRounds]
    split
    · rename_i closed
      constructor
      · intro at_j
        exact ⟨j, at_j, 0, Nat.zero_le _, .zero j⟩
      · rintro ⟨i, at_i, k, -, run⟩
        exact leads.testBit_of_closed closed at_i run
    · simp only [ih (s ||| round s) j, Nat.testBit_or, Bool.or_eq_true, leads s]
      constructor
      · rintro ⟨k, here, count, bound, run⟩
        rcases here with at_k | ⟨i, at_i, first⟩
        · exact ⟨k, at_k, count, by omega, run⟩
        · exact ⟨i, at_i, count + 1, by omega, .succ first run⟩
      · rintro ⟨i, at_i, count, bound, run⟩
        cases run with
        | zero => exact ⟨j, .inl at_i, 0, Nat.zero_le _, .zero j⟩
        | @succ count _ k _ first more =>
          exact ⟨k, .inr ⟨i, at_i, first⟩, count, by omega, more⟩

end Rounds

/-! ### The matcher -/

namespace Tree

variable {text : List Char}

/-- Repeating between two bounds is to repeat as often as the lower one says and then at most as
often as there is room. -/
theorem matches_repeated_iff {inner : Tree} {least most i j : Nat} :
    (repeated inner least (some most)).Matches text i j ↔
      ∃ k, Times (inner.Matches text) least i k ∧
        ∃ n ≤ most - least, Times (inner.Matches text) n k j := by
  constructor
  · rintro ⟨n, low, high, run⟩
    have bound := high most rfl
    obtain ⟨extra, rfl⟩ := Nat.exists_eq_add_of_le low
    obtain ⟨k, first, more⟩ := times_add_iff.1 run
    exact ⟨k, first, extra, by omega, more⟩
  · rintro ⟨k, first, n, bound, more⟩
    refine ⟨least + n, Nat.le_add_right .., ?_, times_add_iff.2 ⟨k, first, more⟩⟩
    rintro m ⟨⟩
    omega

/-- Without an upper bound, one repetition more than the text has characters is enough. -/
theorem matches_repeated_none_iff {inner : Tree} {least i j : Nat} :
    (repeated inner least none).Matches text i j ↔
      ∃ k, Times (inner.Matches text) least i k ∧
        ∃ n ≤ text.length + 1, Times (inner.Matches text) n k j := by
  constructor
  · rintro ⟨n, low, -, run⟩
    obtain ⟨extra, rfl⟩ := Nat.exists_eq_add_of_le low
    obtain ⟨k, first, more⟩ := times_add_iff.1 run
    obtain ⟨count, short, shorter⟩ := more.shorten fun _ _ => Matches.le
    have unbounded : (repeated inner 0 none).Matches text k j :=
      ⟨extra, Nat.zero_le _, by simp, more⟩
    have bound := unbounded.le_max
    exact ⟨k, first, count, by omega, shorter⟩
  · rintro ⟨k, first, n, -, more⟩
    exact ⟨least + n, Nat.le_add_right .., by simp, times_add_iff.2 ⟨k, first, more⟩⟩

/-- From a set of positions the matcher leads to the ends of the matches that start there. -/
theorem testBit_ends (tree : Tree) : Leads (tree.Matches text) (tree.ends text) := by
  simp only [show tree.ends text = (tree.plan text).ends from rfl]
  induction tree with
  | empty | mode =>
    intro s j
    simp [plan, Plan.ends, Matches]
  | set of =>
    intro s j
    rw [plan, Plan.ends, Nat.testBit_shiftLeft, Bool.and_eq_true, Nat.testBit_and,
      Bool.and_eq_true, CharSet.testBit_positions, decide_eq_true_eq]
    constructor
    · rintro ⟨positive, at_i, found⟩
      exact ⟨j - 1, at_i, by omega, found⟩
    · rintro ⟨i, at_i, rfl, found⟩
      exact ⟨by omega, at_i, found⟩
  | look assertion =>
    intro s j
    have same : (if j = 0 then none else charBefore text j) = charBefore text j := by
      cases j <;> simp [charBefore]
    rw [plan, Plan.ends, Nat.testBit_and, Bool.and_eq_true, Look.testBit_positions, same]
    constructor
    · rintro ⟨at_j, holds⟩
      exact ⟨j, at_j, rfl, holds⟩
    · rintro ⟨i, at_i, rfl, holds⟩
      exact ⟨at_i, holds⟩
  | group _ inner ih => exact ih
  | repeated inner least most ih =>
    intro s j
    cases most with
    | none =>
      simp only [plan, Plan.ends, ih.withinRounds _ _ j, ih.afterRounds least s,
        matches_repeated_none_iff]
      grind
    | some most =>
      simp only [plan, Plan.ends, ih.withinRounds _ _ j, ih.afterRounds least s,
        matches_repeated_iff]
      grind
  | seq a b iha ihb =>
    intro s j
    simp only [plan, Plan.ends, ihb _ j, iha s, Matches]
    grind
  | alt a b iha ihb =>
    intro s j
    simp only [plan, Plan.ends, Nat.testBit_or, Bool.or_eq_true, iha s j, ihb s j, Matches]
    grind

/-- The matcher says whether some part of the text matches. -/
theorem isMatch_iff {tree : Tree} :
    tree.isMatch text = true ↔ ∃ i ≤ text.length, ∃ j, tree.Matches text i j := by
  have everywhere : ∀ i, (1 <<< (text.length + 1) - 1).testBit i = true ↔ i ≤ text.length := by
    intro i
    rw [Nat.one_shiftLeft, Nat.testBit_two_pow_sub_one, decide_eq_true_eq]
    omega
  have nonempty : ∀ s : Nat, (s != 0) = true ↔ ∃ j, s.testBit j = true := by
    intro s
    rw [bne_iff_ne]
    constructor
    · exact Nat.exists_testBit_of_ne_zero
    · rintro ⟨j, at_j⟩ rfl
      simp at at_j
  rw [isMatch, nonempty]
  simp only [testBit_ends tree _ _, everywhere]
  grind

end Tree

end PathRouting.Regex
