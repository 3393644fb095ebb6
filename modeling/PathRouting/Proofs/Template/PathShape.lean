import Mathlib.Algebra.GroupWithZero.Nat
import PathRouting.Proofs.Template.LiveGroups

/-!
The shape of generated paths does not depend on the values that go into them.

Two lists of arguments are alike if they have the same keys in the same order and give empty texts
for the same of them. Main statements: `livePartsOf_eq` (alike arguments write the same literals,
captures and splats), `count_renderAll` (a character that is no code comes from the literals) and
`expand_alike` (what two expansions with alike arguments share).
-/

namespace PathRouting.Template

open Text.Percent (encode encodePieces isCoded notMem_encode)

/-! ### Alike arguments -/

/-- Whether two lists of arguments have the same keys in the same order, and the texts of the same
of them are empty. -/
def Alike (a b : Args) : Prop :=
  a.entries.map (fun x => (x.1, x.2.joined.isEmpty)) =
    b.entries.map fun x => (x.1, x.2.joined.isEmpty)

instance (a b : Args) : Decidable (Alike a b) :=
  inferInstanceAs (Decidable (_ = _))

/-- What is known of a value once only its being empty counts. -/
theorem lookup_map_snd {κ α β : Type} [BEq κ] (f : α → β) (entries : List (κ × α)) (key : κ) :
    (entries.map fun x => (x.1, f x.2)).lookup key = (entries.lookup key).map f := by
  induction entries with
  | nil => rfl
  | cons x rest ih =>
    rw [List.map_cons, List.lookup_cons, List.lookup_cons, ih]
    split <;> rfl

section Alike

variable {a b : Args}

theorem Alike.keys_eq (alike : Alike a b) : a.keys = b.keys := by
  have keys := congrArg (List.map Prod.fst) alike
  rwa [List.map_map, List.map_map] at keys

theorem Alike.isEmpty_get? (alike : Alike a b) (name : String) :
    (a.get? name).map (fun value => value.joined.isEmpty) =
      (b.get? name).map fun value => value.joined.isEmpty := by
  rw [OrderedMap.get?, OrderedMap.get?, ← lookup_map_snd, ← lookup_map_snd]
  exact congrArg (List.lookup name) alike

end Alike

namespace Segment

section Alike

variable {a b : Args}

theorem isGiven_capture_iff {args : Args} {name : String} {constraint : Option Constraint} :
    (capture name constraint).IsGiven args ↔
      (args.get? name).map (fun value => value.joined.isEmpty) = some false := by
  simp [IsGiven]

theorem isGiven_iff_of_alike (alike : Alike a b) (s : Segment) : s.IsGiven a ↔ s.IsGiven b := by
  cases s with
  | literal text => exact Iff.rfl
  | capture name constraint =>
    rw [isGiven_capture_iff, isGiven_capture_iff, alike.isEmpty_get?]
  | splat name constraint => rw [IsGiven, IsGiven, alike.keys_eq]
  | optional inner => exact Iff.rfl

theorem isLiveGroup_eq (alike : Alike a b) {inner : List Segment}
    (inside : hasLiveGroup a inner = hasLiveGroup b inner) :
    isLiveGroup a (optional inner) = isLiveGroup b (optional inner) := by
  rw [Bool.eq_iff_iff, isLiveGroup_iff, isLiveGroup_iff, inside]
  simp only [isGiven_iff_of_alike alike]

theorem hasLiveGroup_eq (alike : Alike a b) (segments : List Segment) :
    hasLiveGroup a segments = hasLiveGroup b segments := by
  induction segments using inductionOnTree with
  | nil => rfl
  | literal text rest ih => exact ih
  | capture name constraint rest ih => exact ih
  | splat name constraint rest ih => exact ih
  | optional inner rest ihInner ih =>
    rw [hasLiveGroup, hasLiveGroup, isLiveGroup_eq alike ihInner, ih]

/-- Alike arguments write the same groups. -/
theorem isWritten_eq (alike : Alike a b) (inner : List Segment) :
    isWritten a inner = isWritten b inner := by
  rw [isWritten_eq_isLiveGroup, isWritten_eq_isLiveGroup,
    isLiveGroup_eq alike (hasLiveGroup_eq alike inner)]

/-- Alike arguments write the same literals, captures and splats. -/
theorem livePartsOf_eq (alike : Alike a b) (segments : List Segment) :
    livePartsOf a segments = livePartsOf b segments := by
  induction segments using inductionOnTree with
  | nil => rfl
  | literal text rest ih => exact congrArg _ ih
  | capture name constraint rest ih => exact congrArg _ ih
  | splat name constraint rest ih => exact congrArg _ ih
  | optional inner rest ihInner ih =>
    rw [livePartsOf, livePartsOf, liveParts, liveParts, ih, ihInner,
      isLiveGroup_eq alike (hasLiveGroup_eq alike inner)]

end Alike

/-! ### Splats -/

mutual

/-- The names of the splats of a segment, in order. -/
def splats : Segment → List String
  | literal _ => []
  | capture _ _ => []
  | splat name _ => [name]
  | optional inner => splatsOf inner

/-- The names of the splats of a list of segments, in order. -/
def splatsOf : List Segment → List String
  | [] => []
  | s :: rest => s.splats ++ splatsOf rest

end

/-- What is written are literals, captures and splats, and the splats are those of the template. -/
theorem part_of_mem_livePartsOf {args : Args} {s : Segment} {segments : List Segment}
    (mem : s ∈ livePartsOf args segments) :
    (∀ inner, s ≠ optional inner) ∧ s.splats ⊆ splatsOf segments := by
  induction segments using inductionOnTree with
  | nil => cases mem
  | literal text rest ih =>
    rcases List.mem_cons.mp mem with rfl | later
    · exact ⟨by simp, List.subset_append_left _ _⟩
    · exact ⟨(ih later).1, List.subset_append_of_subset_right _ (ih later).2⟩
  | capture name constraint rest ih =>
    rcases List.mem_cons.mp mem with rfl | later
    · exact ⟨by simp, List.subset_append_left _ _⟩
    · exact ⟨(ih later).1, List.subset_append_of_subset_right _ (ih later).2⟩
  | splat name constraint rest ih =>
    rcases List.mem_cons.mp mem with rfl | later
    · exact ⟨by simp, List.subset_append_left _ _⟩
    · exact ⟨(ih later).1, List.subset_append_of_subset_right _ (ih later).2⟩
  | optional inner rest ihInner ih =>
    rcases List.mem_append.mp mem with here | later
    · rw [liveParts] at here
      split at here
      · exact ⟨(ihInner here).1, List.subset_append_of_subset_left _ (ihInner here).2⟩
      · cases here
    · exact ⟨(ih later).1, List.subset_append_of_subset_right _ (ih later).2⟩

/-! ### Characters that are no codes -/

/-- The code of a text with slashes holds no character that is no code, apart from the slashes. -/
theorem notMem_encodePieces {s : String} {c : Char} (uncoded : isCoded c = false)
    (other : c ≠ '/') : c ∉ (encodePieces s).toList := by
  rw [encodePieces, String.toList_ofList]
  intro mem
  rcases Text.mem_joinPieces mem with slash | ⟨piece, inside, mem⟩
  · exact other (List.mem_singleton.mp slash)
  · obtain ⟨plain, -, rfl⟩ := List.mem_map.mp inside
    exact notMem_encode uncoded mem

section Count

variable {args : Args} {c : Char}

/-- How often a character stands in some texts. -/
def occurrences (c : Char) (texts : List String) : Nat :=
  (texts.map fun text => text.toList.count c).sum

theorem occurrences_append (a b : List String) :
    occurrences c (a ++ b) = occurrences c a + occurrences c b := by
  simp [occurrences]

/-- A part has the character as often as it has it as a literal. -/
theorem count_partText {s : Segment} (part : ∀ inner, s ≠ optional inner)
    (uncoded : isCoded c = false)
    (slash : c = '/' → ∀ name constraint, s ≠ splat name constraint) :
    (partText args s).toList.count c = occurrences c s.literals := by
  cases s with
  | literal text => simp [partText, occurrences]
  | capture name constraint => exact List.count_eq_zero.mpr (notMem_encode uncoded)
  | splat name constraint =>
    refine List.count_eq_zero.mpr (notMem_encodePieces uncoded ?_)
    rintro rfl
    exact slash rfl name constraint rfl
  | optional inner => exact absurd rfl (part inner)

theorem count_join_partText {parts : List Segment}
    (each : ∀ s ∈ parts, (partText args s).toList.count c = occurrences c s.literals) :
    (String.join (parts.map (partText args))).toList.count c =
      occurrences c (literalsOf parts) := by
  induction parts with
  | nil => rfl
  | cons s rest ih =>
    obtain ⟨here, later⟩ := List.forall_mem_cons.mp each
    rw [List.map_cons, String.join_cons, String.toList_append, List.count_append, here, ih later,
      literalsOf_cons, occurrences_append]

/-- A character that is no code is in the text of some segments as often as in the literals that are
written, be it a slash as long as there is no splat. -/
theorem count_renderAll {segments : List Segment} (given : ∀ s ∈ segments, s.IsGiven args)
    (uncoded : isCoded c = false) (slash : c = '/' → splatsOf segments = []) :
    (renderAll args segments).text.toList.count c =
      occurrences c (literalsOf (livePartsOf args segments)) := by
  rw [(renderAll_of_given given).1]
  refine count_join_partText fun s mem => ?_
  obtain ⟨part, splats⟩ := part_of_mem_livePartsOf mem
  refine count_partText part uncoded ?_
  rintro isSlash name constraint rfl
  rw [slash isSlash] at splats
  exact List.not_mem_nil (splats List.mem_cons_self)

end Count

end Segment

/-! ### Expansion -/

open Segment

/-- What is left over are the keys of no capture or splat that is written. -/
theorem keys_unused {t : Template} {args : Args} {e : Expansion}
    (expanded : t.expand args = .ok e) :
    e.unused.keys =
      args.keys.filter fun key => decide (key ∉ (livePartsOf args t.segments).filterMap name?) := by
  obtain ⟨noneMissing, -, unused⟩ := of_expand expanded
  rw [(renderAll_of_given (missing_eq_nil_iff.mp noneMissing)).2] at unused
  rw [OrderedMap.keys, unused, OrderedMap.keys, List.filter_map]
  rfl

/-- Expansions with alike arguments have the same shape. Both succeed, or both fail with the same
error; the same groups are written, with the same literals, captures and splats in them; and the
same arguments are left over. The separators of a path are those of the literals that are written,
so both paths have the same numbers of them; for slashes this holds where there is no splat. -/
theorem expand_alike {t : Template} {a b : Args} (alike : Alike a b) :
    (∀ e, t.expand a = .error e ↔ t.expand b = .error e) ∧
      (∀ group, isWritten a group = isWritten b group) ∧
      livePartsOf a t.segments = livePartsOf b t.segments ∧
      ∀ x y, t.expand a = .ok x → t.expand b = .ok y →
        x.unused.keys = y.unused.keys ∧
          ∀ c ∈ ['/', '?', '#'], (c = '/' → splatsOf t.segments = []) →
            x.path.toList.count c = occurrences c (literalsOf (livePartsOf a t.segments)) ∧
              x.path.toList.count c = y.path.toList.count c := by
  have same := livePartsOf_eq alike t.segments
  have givenIff : (∀ s ∈ t.segments, s.IsGiven a) ↔ ∀ s ∈ t.segments, s.IsGiven b := by
    simp only [isGiven_iff_of_alike alike]
  refine ⟨fun e => ?_, isWritten_eq alike, same, fun x y expandedA expandedB => ?_⟩
  · by_cases given : ∀ s ∈ t.segments, s.IsGiven a
    · rw [expand_of_given given, expand_of_given (givenIff.mp given)]
      exact ⟨nofun, nofun⟩
    · rw [expand_of_not_given given, expand_of_not_given (mt givenIff.mpr given), alike.keys_eq]
      simp only [isGiven_iff_of_alike alike]
  · refine ⟨?_, fun c mem slash => ?_⟩
    · rw [keys_unused expandedA, keys_unused expandedB, same, alike.keys_eq]
    · have uncoded : isCoded c = false := by
        simp only [List.mem_cons, List.not_mem_nil, or_false] at mem
        rcases mem with rfl | rfl | rfl <;> rfl
      obtain ⟨givenA, pathA, -⟩ := of_expand expandedA
      obtain ⟨givenB, pathB, -⟩ := of_expand expandedB
      rw [pathA, pathB, count_renderAll (missing_eq_nil_iff.mp givenA) uncoded slash,
        count_renderAll (missing_eq_nil_iff.mp givenB) uncoded slash, same]
      exact ⟨rfl, rfl⟩

/-- A slash, a question mark and a list in place of plain values. The shelf is not given by either,
and the page is left over. -/
theorem expand_alike_shop :
    let t : Template :=
      ⟨"/:shop(/:dept(/:shelf))/all",
        [.literal "/", .capture "shop" none,
          .optional [.literal "/", .capture "dept" none,
            .optional [.literal "/", .capture "shelf" none]],
          .literal "/all"],
        ["shop", "dept", "shelf"]⟩
    let a : Args :=
      ⟨[("page", .single "1"), ("dept", .single "toys"), ("shelf", .list []),
        ("shop", .single "here")]⟩
    let b : Args :=
      ⟨[("page", .single "?"), ("dept", .list ["a", "../b"]), ("shelf", .single ""),
        ("shop", .single "/#/?x")]⟩
    let x : Expansion := ⟨"/here/toys/all", ⟨[("page", .single "1"), ("shelf", .list [])]⟩⟩
    let y : Expansion :=
      ⟨"/%2F%23%2F%3Fx/a%2F..%2Fb/all", ⟨[("page", .single "?"), ("shelf", .single "")]⟩⟩
    Alike a b ∧ t.expand a = .ok x ∧ t.expand b = .ok y ∧ splatsOf t.segments = [] ∧
      x.unused.keys = y.unused.keys ∧
      x.path.toList.count '/' = occurrences '/' (literalsOf (livePartsOf a t.segments)) ∧
      x.path.toList.count '/' = y.path.toList.count '/' := by
  intro t a b x y
  have alike : Alike a b := by decide
  have expandedA : t.expand a = .ok x := rfl
  have expandedB : t.expand b = .ok y := rfl
  obtain ⟨-, -, -, shared⟩ := expand_alike (t := t) alike
  obtain ⟨unused, counts⟩ := shared x y expandedA expandedB
  exact ⟨alike, expandedA, expandedB, rfl, unused, counts '/' (by decide) fun _ => rfl⟩

end PathRouting.Template
