import Mathlib.Data.List.Chain
import PathRouting.Unicode.Blank
import PathRouting.Unicode.Casing.LowerText

/-!
Lower case is final: what lowering has made of a character is not changed by lowering it again, and
it is never a blank or one of the signs that names are written with.

Main statements: `lowerChar_eq_or_small` (a character stays as it is or becomes small letters),
`mem_lowerText` and `lowerText_eq_self` (the same for texts, final sigma included).
-/

namespace PathRouting.Unicode

/-! ### Runs that keep apart -/

/-- Nothing that the first run gives is listed by the second: the two lie apart, or they interleave
with only every other code point in each. -/
def CodeRun.avoids (r s : CodeRun) : Bool :=
  Nat.blt (r.target + (r.last - r.first)) s.first || Nat.blt s.last r.target ||
    ((Nat.beq r.step 2 || Nat.beq r.first r.last) && Nat.beq s.step 2 &&
      Nat.beq ((r.target + s.first) % 2) 1)

theorem CodeRun.covers_eq_false_of_avoids {r s : CodeRun} (apart : r.avoids s = true) {n m : Nat}
    (image : r.image? n = some m) : s.covers m = false := by
  obtain ⟨covered, rfl⟩ := image?_eq_some_iff.mp image
  simp only [covers, Bool.and_eq_true, decide_eq_true_eq, beq_iff_eq] at covered
  obtain ⟨⟨low, high⟩, even⟩ := covered
  simp only [avoids, Bool.or_eq_true, Bool.and_eq_true, Nat.blt_eq, Nat.beq_eq] at apart
  rw [Bool.eq_false_iff]
  intro listed
  simp only [covers, Bool.and_eq_true, decide_eq_true_eq, beq_iff_eq] at listed
  obtain ⟨⟨low', high'⟩, even'⟩ := listed
  rcases apart with (below | above) | ⟨⟨double | single, double'⟩, odd⟩
  · omega
  · omega
  · rw [double] at even
    rw [double'] at even'
    omega
  · rw [double'] at even'
    omega

theorem exists_image_of_mapByRuns {runs : List CodeRun} {n m : Nat}
    (h : mapByRuns runs n = some m) : ∃ run ∈ runs, run.image? n = some m :=
  List.exists_of_findSome?_eq_some h

theorem mapByRuns_eq_none {runs : List CodeRun} {n : Nat}
    (h : ∀ run ∈ runs, run.covers n = false) : mapByRuns runs n = none := by
  refine List.findSome?_eq_none_iff.mpr ?_
  intro run mem
  simp [CodeRun.image?, h run mem]

/-- The code points that lowering never gives anew: all up to the small `a`, the capital I with a
dot above, the surrogates, and the blanks. -/
def reservedRuns : List CodeRun :=
  [⟨0, 0x60, 1, 0⟩, ⟨0x130, 0x130, 1, 0⟩, ⟨0xd800, 0xdfff, 1, 0⟩] ++
    blankRanges.map fun r => ⟨r.1, r.2, 1, 0⟩

/-- The table of lower case keeps apart from itself and from the reserved code points. -/
theorem lowerRuns_avoid :
    (lowerRuns.all fun run =>
      (lowerRuns.all fun other => run.avoids other) &&
      (reservedRuns.all fun other => run.avoids other) &&
      Nat.blt (run.target + (run.last - run.first)) 0x110000) = true := by
  decide +kernel

/-! ### Characters -/

/-- What a table says of all code points below a bound holds of a character there. -/
theorem char_of_table {P : Char → Prop} {bound : Nat}
    (table : ∀ n < bound, P (Char.ofNat n)) {c : Char} (below : c.toNat < bound) : P c := by
  have found := table c.toNat below
  rwa [Char.ofNat_toNat] at found

/-- What lowering gives: a character from the small `a` on that is no blank and that lowering leaves
as it is. -/
structure IsSmall (c : Char) : Prop where
  lowered : lowerChar c = [c]
  letter : 0x61 ≤ c.toNat
  notBlank : isBlank c = false

theorem isSmall_of_mapByRuns {n m : Nat} (h : mapByRuns lowerRuns n = some m) :
    IsSmall (Char.ofNat m) := by
  obtain ⟨run, mem, image⟩ := exists_image_of_mapByRuns h
  have checked := List.all_eq_true.mp lowerRuns_avoid run mem
  simp only [Bool.and_eq_true, Nat.blt_eq] at checked
  obtain ⟨⟨apart, reserved⟩, bound⟩ := checked
  have outside : ∀ other ∈ reservedRuns, other.covers m = false := by
    intro other member
    exact CodeRun.covers_eq_false_of_avoids (List.all_eq_true.mp reserved other member) image
  have free : ∀ low high, ⟨low, high, 1, 0⟩ ∈ reservedRuns → m < low ∨ high < m := by
    intro low high member
    have uncovered := outside _ member
    simp only [CodeRun.covers, Nat.mod_one, BEq.rfl, Bool.and_true, Bool.and_eq_false_iff,
      decide_eq_false_iff_not] at uncovered
    omega
  have letter := free 0 0x60 (by simp [reservedRuns])
  have dotted := free 0x130 0x130 (by simp [reservedRuns])
  have surrogate := free 0xd800 0xdfff (by simp [reservedRuns])
  have valid : m.isValidChar := by
    obtain ⟨covered, rfl⟩ := CodeRun.image?_eq_some_iff.mp image
    simp only [CodeRun.covers, Bool.and_eq_true, decide_eq_true_eq] at covered
    unfold Nat.isValidChar
    omega
  have code : (Char.ofNat m).toNat = m := by
    rw [Char.ofNat, dif_pos valid]
    rfl
  refine ⟨?_, by omega, ?_⟩
  · have other : Char.ofNat m ≠ '\u0130' := by
      intro same
      have : m = 0x130 := by rw [← code, same]; rfl
      omega
    have fixed : mapByRuns lowerRuns m = none := by
      refine mapByRuns_eq_none ?_
      intro run' member
      exact CodeRun.covers_eq_false_of_avoids (List.all_eq_true.mp apart run' member) image
    rw [lowerChar, if_neg other, code, fixed]
  · rw [Bool.eq_false_iff]
    intro blank
    obtain ⟨range, member, low, high⟩ := inRanges_iff.mp blank
    have away := free range.1 range.2
      (List.mem_append_right _ (List.mem_map.mpr ⟨range, member, rfl⟩))
    omega

/-- A character stays as it is in lower case, or becomes small letters. -/
theorem lowerChar_eq_or_small (c : Char) :
    lowerChar c = [c] ∨ lowerChar c ≠ [] ∧ ∀ d ∈ lowerChar c, IsSmall d := by
  by_cases dotted : c = '\u0130'
  · right
    subst dotted
    have plain : lowerChar '\u0130' = ['i', '\u0307'] := rfl
    rw [plain]
    refine ⟨by simp, ?_⟩
    intro d mem
    rcases List.mem_pair.mp mem with rfl | rfl
    · exact ⟨by decide +kernel, by decide, by decide⟩
    · exact ⟨by decide +kernel, by decide, by decide⟩
  · cases found : mapByRuns lowerRuns c.toNat with
    | none =>
      left
      rw [lowerChar, if_neg dotted, found]
    | some m =>
      right
      have plain : lowerChar c = [Char.ofNat m] := by rw [lowerChar, if_neg dotted, found]
      rw [plain]
      refine ⟨by simp, ?_⟩
      intro d mem
      rw [List.mem_singleton.mp mem]
      exact isSmall_of_mapByRuns found

/-! ### Texts -/

/-- The lower case of a character between what precedes it, last character first, and what follows
it. -/
def lowerBetween (before : List Char) (c : Char) (rest : List Char) : List Char :=
  if c = 'Σ' then if meetsCased before && !meetsCased rest then ['ς'] else ['σ'] else lowerChar c

theorem lowerAfter_cons (before : List Char) (c : Char) (rest : List Char) :
    lowerAfter before (c :: rest) = lowerBetween before c rest ++ lowerAfter (c :: before) rest :=
  rfl

theorem lowerBetween_eq_or_small (before : List Char) (c : Char) (rest : List Char) :
    lowerBetween before c rest = [c] ∧ lowerChar c = [c] ∨
      lowerBetween before c rest ≠ [] ∧ ∀ d ∈ lowerBetween before c rest, IsSmall d := by
  unfold lowerBetween
  split
  · right
    have final : IsSmall 'ς' := ⟨by decide +kernel, by decide, by decide⟩
    have inner : IsSmall 'σ' := ⟨by decide +kernel, by decide, by decide⟩
    split
    · simpa using final
    · simpa using inner
  · rcases lowerChar_eq_or_small c with same | small
    · exact Or.inl ⟨same, same⟩
    · exact Or.inr small

/-- What a text in lower case consists of: characters that were there before and stay as they are,
and small letters. -/
theorem mem_lowerAfter {before cs : List Char} {d : Char} (mem : d ∈ lowerAfter before cs) :
    lowerChar d = [d] ∧ (d ∈ cs ∨ IsSmall d) := by
  induction cs generalizing before with
  | nil => cases mem
  | cons c rest ih =>
    rw [lowerAfter_cons, List.mem_append] at mem
    rcases mem with here | later
    · rcases lowerBetween_eq_or_small before c rest with ⟨same, fixed⟩ | ⟨-, small⟩
      · rw [same, List.mem_singleton] at here
        subst here
        exact ⟨fixed, Or.inl List.mem_cons_self⟩
      · exact ⟨(small d here).lowered, Or.inr (small d here)⟩
    · obtain ⟨fixed, origin⟩ := ih later
      exact ⟨fixed, origin.imp_left (List.mem_cons_of_mem c)⟩

/-- Without a capital sigma, each character is lowered by itself. -/
theorem lowerAfter_eq_flatMap {before cs : List Char} (noSigma : 'Σ' ∉ cs) :
    lowerAfter before cs = cs.flatMap lowerChar := by
  induction cs generalizing before with
  | nil => rfl
  | cons c rest ih =>
    simp only [List.mem_cons, not_or] at noSigma
    rw [lowerAfter_cons, lowerBetween, if_neg (Ne.symm noSigma.1), ih noSigma.2]
    rfl

theorem flatMap_lowerChar_eq_self {cs : List Char} (fixed : ∀ c ∈ cs, lowerChar c = [c]) :
    cs.flatMap lowerChar = cs := by
  rw [List.flatMap_congr fixed]
  exact List.flatMap_singleton' cs

/-- A text of characters that lowering leaves as they are is in lower case. There is no capital
sigma among them. -/
theorem lowerAfter_eq_self {before cs : List Char} (fixed : ∀ c ∈ cs, lowerChar c = [c]) :
    lowerAfter before cs = cs := by
  have noSigma : 'Σ' ∉ cs := by
    intro mem
    have lowered : lowerChar 'Σ' = ['σ'] := by decide +kernel
    exact absurd (lowered.symm.trans (fixed 'Σ' mem)) (by decide)
  rw [lowerAfter_eq_flatMap noSigma, flatMap_lowerChar_eq_self fixed]

theorem mem_lowerText {cs : List Char} {d : Char} (mem : d ∈ lowerText cs) :
    lowerChar d = [d] ∧ (d ∈ cs ∨ IsSmall d) :=
  mem_lowerAfter mem

theorem lowerText_eq_self {cs : List Char} (fixed : ∀ c ∈ cs, lowerChar c = [c]) :
    lowerText cs = cs :=
  lowerAfter_eq_self fixed

theorem head?_lowerAfter {before cs : List Char} {d : Char}
    (head : d ∈ (lowerAfter before cs).head?) : d ∈ cs.head? ∨ IsSmall d := by
  cases cs with
  | nil => cases head
  | cons c rest =>
    rw [lowerAfter_cons] at head
    rcases lowerBetween_eq_or_small before c rest with ⟨same, -⟩ | ⟨filled, small⟩
    · rw [same] at head
      exact Or.inl head
    · rw [List.head?_append_of_ne_nil _ filled] at head
      exact Or.inr (small d (List.mem_of_mem_head? head))

/-- A relation between neighbours that a small letter on either side satisfies is kept by lower
case. -/
theorem isChain_lowerAfter {R : Char → Char → Prop} (left : ∀ c d, IsSmall c → R c d)
    (right : ∀ c d, IsSmall d → R c d) {before cs : List Char} (chain : cs.IsChain R) :
    (lowerAfter before cs).IsChain R := by
  induction cs generalizing before with
  | nil => exact List.isChain_nil
  | cons c rest ih =>
    rw [lowerAfter_cons, List.isChain_append]
    rcases lowerBetween_eq_or_small before c rest with ⟨same, -⟩ | ⟨-, small⟩
    · refine ⟨by rw [same]; exact List.isChain_singleton c, ih chain.tail, ?_⟩
      intro x last y head
      rw [same, List.getLast?_singleton, Option.mem_some_iff] at last
      subst last
      rcases head?_lowerAfter head with first | small
      · exact (List.isChain_cons.mp chain).1 y first
      · exact right _ y small
    · refine ⟨?_, ih chain.tail, ?_⟩
      · exact (List.pairwise_of_forall_mem_list fun x hx y _ => left x y (small x hx)).isChain
      · intro x last y _
        exact left x y (small x (List.mem_of_mem_getLast? last))

end PathRouting.Unicode
