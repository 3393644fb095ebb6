import Mathlib.Control.Monad.Basic
import PathRouting.Proofs.Template.Rendering

/-!
What a template writes with arguments, said of the tree and without the walk that writes it.

A group is live if the arguments give all of its own captures and splats, and it has one of them or
a live group directly inside. Literals, captures and splats are written where every group around
them is live.

Main statements: `isWritten_eq_isLiveGroup` (the groups that are written are the live ones),
`renderAll_of_given` (what is written, and which arguments for) and `expand_accounts` (what an
expansion gives, and where each argument goes).
-/

namespace PathRouting.Template

open Text.Percent (encode encodePieces)

namespace Segment

/-! ### Arguments that are given -/

/-- Whether the arguments give what the segment asks for by itself: a text that is not empty for a
capture, and any value for a splat. -/
def IsGiven (args : Args) : Segment → Prop
  | capture name _ => ∃ value, args.get? name = some value ∧ value.joined ≠ ""
  | splat name _ => name ∈ args.keys
  | literal _ | optional _ => True

section Given

variable {args : Args}

theorem captureText?_eq_some_iff {name text : String} :
    captureText? args name = some text ↔
      ∃ value, args.get? name = some value ∧ value.joined = text ∧ text ≠ "" := by
  constructor
  · intro h
    obtain ⟨nonempty, value, given, joined⟩ := get?_of_captureText? h
    exact ⟨value, given, joined, nonempty⟩
  · rintro ⟨value, given, rfl, nonempty⟩
    simp [captureText?, given, nonempty]

theorem isSupplied_iff {s : Segment} : s.isSupplied args = true ↔ s.IsGiven args := by
  cases s with
  | literal text => simp [isSupplied, IsGiven]
  | capture name constraint =>
    rw [isSupplied, Option.isSome_iff_exists]
    constructor
    · rintro ⟨text, supplied⟩
      obtain ⟨value, given, rfl, nonempty⟩ := captureText?_eq_some_iff.mp supplied
      exact ⟨value, given, nonempty⟩
    · rintro ⟨value, given, nonempty⟩
      exact ⟨_, captureText?_eq_some_iff.mpr ⟨value, given, rfl, nonempty⟩⟩
  | splat name constraint =>
    rw [isSupplied, OrderedMap.contains_eq_isSome, Option.isSome_iff_exists]
    exact OrderedMap.mem_keys_iff.symm
  | optional inner => simp [isSupplied, IsGiven]

instance : DecidablePred (IsGiven args) := fun _ => decidable_of_iff _ isSupplied_iff

end Given

/-! ### Live groups -/

mutual

/-- Whether the segment is a live group: all of its own captures and splats are given, and it has
one of them or a live group directly inside. -/
def isLiveGroup (args : Args) : Segment → Bool
  | optional inner =>
    decide (∀ s ∈ inner, s.IsGiven args) &&
      (inner.any (fun s => s.name?.isSome) || hasLiveGroup args inner)
  | literal _ | capture _ _ | splat _ _ => false

/-- Whether one of the segments is a live group. -/
def hasLiveGroup (args : Args) : List Segment → Bool
  | [] => false
  | s :: rest => s.isLiveGroup args || hasLiveGroup args rest

end

mutual

/-- The literals, captures and splats of a segment that stand in live groups only. -/
def liveParts (args : Args) : Segment → List Segment
  | optional inner => if isLiveGroup args (optional inner) then livePartsOf args inner else []
  | literal text => [literal text]
  | capture name constraint => [capture name constraint]
  | splat name constraint => [splat name constraint]

/-- The literals, captures and splats of some segments that stand in live groups only, in order. -/
def livePartsOf (args : Args) : List Segment → List Segment
  | [] => []
  | s :: rest => s.liveParts args ++ livePartsOf args rest

end

/-- The text for one literal, capture or splat: the code of the value where it takes one. -/
def partText (args : Args) : Segment → String
  | literal text => text
  | capture name _ => encode (((args.get? name).map ArgValue.joined).getD "")
  | splat name _ => encodePieces (((args.get? name).map ArgValue.joined).getD "")
  | optional _ => ""

section Live

variable {args : Args}

/-- A literal, capture or splat that is given writes its part and uses its name. -/
theorem render_part {s : Segment} (part : ∀ inner, s ≠ optional inner) (given : s.IsGiven args) :
    s.render args = ⟨partText args s, s.name?.toList, [], s.name?.toList.length⟩ := by
  cases s with
  | literal text => rfl
  | capture name constraint =>
    obtain ⟨value, here, nonempty⟩ := given
    have supplied := captureText?_eq_some_iff.mpr ⟨value, here, rfl, nonempty⟩
    simp [render, supplied, partText, here]
  | splat name constraint =>
    obtain ⟨value, here⟩ := OrderedMap.mem_keys_iff.mp given
    simp [render, partText, here]
  | optional inner => exact absurd rfl (part inner)

theorem liveParts_part {s : Segment} (part : ∀ inner, s ≠ optional inner) :
    s.liveParts args = [s] := by
  cases s with
  | literal text => rfl
  | capture name constraint => rfl
  | splat name constraint => rfl
  | optional inner => exact absurd rfl (part inner)

theorem isWritten_iff {inner : List Segment} :
    isWritten args inner = true ↔
      (∀ s ∈ inner, s.IsGiven args) ∧ 0 < (renderAll args inner).written := by
  simp [isWritten, isSupplied_iff]

theorem isLiveGroup_iff {inner : List Segment} :
    isLiveGroup args (optional inner) = true ↔
      (∀ s ∈ inner, s.IsGiven args) ∧
        (inner.any (fun s => s.name?.isSome) = true ∨ hasLiveGroup args inner = true) := by
  simp only [isLiveGroup, Bool.and_eq_true, decide_eq_true_eq, Bool.or_eq_true]

/-- Where all is given, something is written for a capture or splat, or in a live group. -/
theorem written_pos_iff {segments : List Segment} (given : ∀ s ∈ segments, s.IsGiven args) :
    0 < (renderAll args segments).written ↔
      segments.any (fun s => s.name?.isSome) = true ∨ hasLiveGroup args segments = true := by
  induction segments using inductionOnTree with
  | nil => simp [hasLiveGroup]
  | literal text rest ih =>
    simpa [hasLiveGroup, isLiveGroup] using ih (List.forall_mem_cons.mp given).2
  | capture name constraint rest ih =>
    have counted : 0 < 1 + (renderAll args rest).written := by omega
    simp [render_part (by simp) (List.forall_mem_cons.mp given).1, counted]
  | splat name constraint rest ih =>
    have counted : 0 < 1 + (renderAll args rest).written := by omega
    simp [render_part (by simp) (List.forall_mem_cons.mp given).1, counted]
  | optional inner rest ihInner ih =>
    have live : isWritten args inner = true ↔ isLiveGroup args (optional inner) = true := by
      rw [isWritten_iff, isLiveGroup_iff]
      exact and_congr_right ihInner
    have later := ih (List.forall_mem_cons.mp given).2
    rw [renderAll_cons, written_append, render_optional, hasLiveGroup, Bool.or_eq_true, ← live]
    by_cases written : isWritten args inner = true
    · have positive := (isWritten_iff.mp written).2
      simp only [written, if_true, true_or, or_true, iff_true]
      omega
    · simpa [written] using later

/-- The groups that are written are the live ones. -/
theorem isWritten_eq_isLiveGroup (inner : List Segment) :
    isWritten args inner = isLiveGroup args (optional inner) := by
  rw [Bool.eq_iff_iff, isWritten_iff, isLiveGroup_iff]
  exact and_congr_right written_pos_iff

/-! ### What is written -/

/-- In front of other segments, a literal, capture or splat that is given adds its text and its
name to what the live parts of those give. -/
theorem renderAll_cons_part {s : Segment} {rest : List Segment}
    (part : ∀ inner, s ≠ optional inner) (given : s.IsGiven args)
    (ih : (renderAll args rest).text =
        String.join ((livePartsOf args rest).map (partText args)) ∧
      (renderAll args rest).used = (livePartsOf args rest).filterMap name?) :
    (renderAll args (s :: rest)).text =
        String.join ((livePartsOf args (s :: rest)).map (partText args)) ∧
      (renderAll args (s :: rest)).used = (livePartsOf args (s :: rest)).filterMap name? := by
  rw [renderAll_cons, text_append, used_append, ih.1, ih.2, render_part part given, livePartsOf,
    liveParts_part part]
  constructor
  · simp
  · cases named : s.name? <;> simp [named]

/-- What is written is the text of the live parts, in order, and the arguments that are used are
theirs. -/
theorem renderAll_of_given {segments : List Segment} (given : ∀ s ∈ segments, s.IsGiven args) :
    (renderAll args segments).text =
        String.join ((livePartsOf args segments).map (partText args)) ∧
      (renderAll args segments).used = (livePartsOf args segments).filterMap name? := by
  induction segments using inductionOnTree with
  | nil => exact ⟨rfl, rfl⟩
  | literal text rest ih =>
    obtain ⟨here, after⟩ := List.forall_mem_cons.mp given
    exact renderAll_cons_part (by simp) here (ih after)
  | capture name constraint rest ih =>
    obtain ⟨here, after⟩ := List.forall_mem_cons.mp given
    exact renderAll_cons_part (by simp) here (ih after)
  | splat name constraint rest ih =>
    obtain ⟨here, after⟩ := List.forall_mem_cons.mp given
    exact renderAll_cons_part (by simp) here (ih after)
  | optional inner rest ihInner ih =>
    obtain ⟨text, used⟩ := ih (List.forall_mem_cons.mp given).2
    rw [renderAll_cons, text_append, used_append, text, used, render_optional,
      isWritten_eq_isLiveGroup, livePartsOf, liveParts]
    split
    · next live =>
      obtain ⟨textInner, usedInner⟩ := ihInner (isLiveGroup_iff.mp live).1
      rw [textInner, usedInner, List.map_append, String.join_append, List.filterMap_append]
      exact ⟨rfl, rfl⟩
    · simp

/-- A capture or splat that is given is used. -/
theorem used_slot {s : Segment} {name : String} (slot : s.name? = some name)
    (given : s.IsGiven args) (rest : List Segment) :
    (renderAll args (s :: rest)).used = name :: (renderAll args rest).used := by
  have part : ∀ inner, s ≠ optional inner := by
    rintro inner rfl
    cases slot
  rw [renderAll_cons, used_append, render_part part given, slot]
  rfl

/-- Nothing is missed where all is given. -/
theorem missing_eq_nil_iff {segments : List Segment} :
    (renderAll args segments).missing = [] ↔ ∀ s ∈ segments, s.IsGiven args := by
  rw [missing_renderAll, List.filterMap_eq_nil_iff]
  constructor
  · intro noneLacks s hs
    by_contra lacking
    rw [← isSupplied_iff, Bool.not_eq_true] at lacking
    have named := noneLacks s (List.mem_filter.mpr ⟨hs, by rw [lacking]; rfl⟩)
    cases s with
    | literal text => cases lacking
    | capture name constraint => cases named
    | splat name constraint => cases named
    | optional inner => cases lacking
  · intro given s hs
    obtain ⟨mem, lacking⟩ := List.mem_filter.mp hs
    simp [isSupplied_iff.mpr (given s mem)] at lacking

end Live

end Segment

/-! ### Expansion -/

open Segment

section Expansion

variable {t : Template} {args : Args}

theorem expand_of_given (given : ∀ s ∈ t.segments, s.IsGiven args) :
    t.expand args = .ok
      ⟨String.join ((livePartsOf args t.segments).map (partText args)),
        ⟨args.entries.filter fun x =>
          decide (x.1 ∉ (livePartsOf args t.segments).filterMap name?)⟩⟩ := by
  unfold expand
  dsimp only
  rw [missing_eq_nil_iff.mpr given, (renderAll_of_given given).1, (renderAll_of_given given).2]
  rfl

theorem expand_of_not_given (lacking : ¬∀ s ∈ t.segments, s.IsGiven args) :
    t.expand args = .error (.expansion t.source args.keys
      ((t.segments.filter fun s => decide (¬s.IsGiven args)).filterMap name?)) := by
  have missing : (renderAll args t.segments).missing =
      (t.segments.filter fun s => decide (¬s.IsGiven args)).filterMap name? := by
    rw [missing_renderAll]
    congr 2
    funext s
    rw [Bool.eq_iff_iff, decide_eq_true_eq, ← isSupplied_iff, Bool.not_eq_true', Bool.not_eq_true]
  have lacks : (renderAll args t.segments).missing.isEmpty = false := by
    rw [Bool.eq_false_iff, ne_eq, List.isEmpty_iff, missing_eq_nil_iff]
    exact lacking
  unfold expand
  dsimp only
  rw [lacks, missing]
  rfl

/-- Every argument is either used or left over, and none is used twice. -/
theorem perm_used_unused {e : Expansion} (names_nodup : (namesOf t.segments).Nodup)
    (distinct : args.keys.Nodup) (expanded : t.expand args = .ok e) :
    ((renderAll args t.segments).used ++ e.unused.keys).Perm args.keys := by
  obtain ⟨-, -, unused⟩ := of_expand expanded
  have once : (renderAll args t.segments).used.Nodup :=
    names_nodup.sublist (used_sublist_namesOf t.segments)
  have kept : e.unused.keys.Sublist args.keys := by
    rw [OrderedMap.keys, unused]
    exact List.filter_sublist.map _
  have left {name : String} : name ∈ e.unused.keys ↔
      name ∉ (renderAll args t.segments).used ∧ name ∈ args.keys := by
    simp [OrderedMap.keys, unused, and_comm]
  rw [List.perm_ext_iff_of_nodup (List.nodup_append.mpr ⟨once, distinct.sublist kept, ?_⟩) distinct]
  · intro name
    rw [List.mem_append, left]
    constructor
    · rintro (used | ⟨-, given⟩)
      · exact OrderedMap.mem_keys_iff.mpr (exists_get?_of_mem_used used)
      · exact given
    · intro given
      by_cases used : name ∈ (renderAll args t.segments).used
      · exact Or.inl used
      · exact Or.inr ⟨used, given⟩
  · rintro name used other leftOver rfl
    exact (left.mp leftOver).1 used

end Expansion

/-- An expansion succeeds exactly if the arguments give every capture and splat outside groups; else
the error lists those that they do not give, in the order of the template, and the keys of all
arguments. What is written is the text of the literals, captures and splats that stand in live
groups only, and what is left over are the arguments of no such capture or splat. As insertions keep
keys distinct, no argument is lost or used twice. Nothing is missed inside of a group whose own
captures and splats are given. -/
theorem expand_accounts {source : String} {constraints : List (String × String)} {t : Template}
    (compiled : compile source constraints = .ok t) (args : Args) :
    let parts := livePartsOf args t.segments
    let names := parts.filterMap name?
    t.expand args =
        (if ∀ s ∈ t.segments, s.IsGiven args then
          .ok ⟨String.join (parts.map (partText args)),
            ⟨args.entries.filter fun x => decide (x.1 ∉ names)⟩⟩
        else
          .error (.expansion t.source args.keys
            ((t.segments.filter fun s => decide (¬s.IsGiven args)).filterMap name?))) ∧
      (∀ e, t.expand args = .ok e → args.keys.Nodup →
        (names ++ e.unused.keys).Perm args.keys) ∧
      ∀ inner, (∀ s ∈ inner, s.IsGiven args) → (renderAll args inner).missing = [] := by
  intro parts names
  refine ⟨?_, ?_, fun inner => missing_eq_nil_iff.mpr⟩
  · split
    · next given => exact expand_of_given given
    · next lacking => exact expand_of_not_given lacking
  · intro e expanded distinct
    have wellFormed := Compiled.of_compile compiled
    have given := missing_eq_nil_iff.mp (of_expand expanded).1
    have moved := perm_used_unused (wellFormed.names_eq ▸ wellFormed.nodup) distinct expanded
    rwa [(renderAll_of_given given).2] at moved

/-- The shelf is not given, so its format is left over although its own group would be live; the
group of `/x` is live through the splat inside, which takes the empty list. -/
theorem expand_accounts_shop :
    let t : Template :=
      ⟨"/:shop(/:dept(/:shelf(.:format)))(/x(/*rest))",
        [.literal "/", .capture "shop" none,
          .optional [.literal "/", .capture "dept" none,
            .optional [.literal "/", .capture "shelf" none,
              .optional [.literal ".", .capture "format" none]]],
          .optional [.literal "/x", .optional [.literal "/", .splat "rest" none]]],
        ["shop", "dept", "shelf", "format", "rest"]⟩
    let args : Args :=
      ⟨[("format", .single "pdf"), ("rest", .list []), ("dept", .single "a b"),
        ("shelf", .single ""), ("shop", .list ["é", "1"])]⟩
    let e : Expansion :=
      ⟨"/%C3%A9%2F1/a%20b/x/", ⟨[("format", .single "pdf"), ("shelf", .single "")]⟩⟩
    let group : List Segment := [.literal "/", .splat "rest" none]
    compile t.source [] = .ok t ∧ args.keys.Nodup ∧ t.expand args = .ok e ∧
      (["shop", "dept", "rest"] ++ e.unused.keys).Perm args.keys ∧
      (∀ s ∈ group, s.IsGiven args) ∧ (renderAll args group).missing = [] := by
  intro t args e group
  have compiled : compile t.source [] = .ok t := by decide +kernel
  have distinct : args.keys.Nodup := by decide
  have given : ∀ s ∈ t.segments, s.IsGiven args := by decide
  have inside : ∀ s ∈ group, s.IsGiven args := by decide
  obtain ⟨expanded, moved, missed⟩ := expand_accounts compiled args
  have path : String.join ((livePartsOf args t.segments).map (partText args)) = e.path := rfl
  rw [if_pos given, path] at expanded
  exact ⟨compiled, distinct, expanded, moved e expanded distinct, inside, missed group inside⟩

end PathRouting.Template
