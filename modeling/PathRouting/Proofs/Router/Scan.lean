import PathRouting.Proofs.Router.Record
import PathRouting.Proofs.Template.Ways
import PathRouting.Router.Dispatch

/-!
The index by verb is not seen from outside: a request is recognized as by a scan of all calls in the
order in which they were made.

`Call.answer?` says what one call contributes by itself. Main statements:
`Recorded.firstMatch_positions` (the first match of the entries for a verb is the first one in the
record) and `Recorded.infosFor_eq` (the listing for a verb is the part of the whole listing that
names the verb).
-/

namespace PathRouting.Router

open Template (findSome?_congr findSome?_filter)

/-! ### One call by itself -/

/-- Whether a registration is for a verb: a route for the verb that its text names, a mount for
every verb. -/
def Registration.isFor (verb : Verb) : Registration → Bool
  | .route text _ _ => (Verb.parse text).toOption = some verb
  | .mount .. => true

/-- What a call by itself recognizes a request as. A route has to be for the verb and to match the
whole path. A mount is for every verb; its template has to match a beginning of the path, and if it
has a host pattern, there has to be a host and the pattern has to match it. -/
def Call.answer? (trustForwarded : Bool) (verb : Verb) (env : Env) (c : Call) : Option Match :=
  match c.joined.entry with
  | .ok (.route route, _) =>
    if c.joined.isFor verb then (route.template.match? env.path).map (⟨.route route, ·⟩) else none
  | .ok (.mount mount, _) =>
    if mount.hostPattern.all fun pattern =>
        (env.resolvedHost trustForwarded).any pattern.isMatch then
      (mount.route.template.peek? env.path).map fun found => ⟨.mount mount, found.2⟩
    else none
  | .error _ => none

/-- What a call recognizes is what it adds, where that is for the verb and matches. -/
theorem answer?_eq (trustForwarded : Bool) (verb : Verb) (env : Env) (c : Call) :
    c.answer? trustForwarded verb env =
      c.added?.bind fun added =>
        if verb ∈ added.2 then (added.1.match? env trustForwarded).map (⟨added.1, ·⟩)
        else none := by
  unfold Call.answer? Call.added?
  cases made : c.joined.entry with
  | error e => rfl
  | ok added =>
    cases registered : c.joined with
    | route text path spec =>
      rw [registered] at made
      obtain ⟨own, route, parsed, -, rfl⟩ := entry_route_eq_ok made
      have isFor : (Registration.route text path spec).isFor verb = decide (verb ∈ [own]) := by
        simp [Registration.isFor, parsed, Except.toOption, eq_comm]
      simp only [isFor, decide_eq_true_eq]
      rfl
    | mount path endpoint host =>
      rw [registered] at made
      obtain ⟨mount, -, rfl⟩ := entry_mount_eq_ok made
      simp only [Except.toOption, Option.bind_some, Verb.mem_all, if_true, Entry.match?_mount]
      unfold Mount.acceptsHost
      split
      · rw [Option.map_map]
        rfl
      · rfl

/-! ### Looking positions up -/

/-- Looking up the positions of some elements gives these elements. -/
theorem filterMap_findIdxs {α β : Type} (xs : List α) (p : α → Bool) (g : α → Nat → β) :
    (xs.findIdxs p).filterMap (fun i => xs[i]?.map (g · i)) =
      (xs.zipIdx.filter fun x => p x.1).map fun x => g x.1 x.2 := by
  rw [List.findIdxs_eq_filterMap_zipIdx, List.filterMap_filterMap, ← List.filterMap_eq_map,
    List.filterMap_filter]
  refine List.filterMap_congr ?_
  rintro ⟨a, i⟩ mem
  have found : xs[i]? = some a := List.mk_mem_zipIdx_iff_getElem?.mp mem
  cases p a with
  | false => rfl
  | true => simp [found]

namespace Recorded

variable {r : Router} {record : List (Entry × List Verb)} (h : Recorded r record)

include h

/-- Looking up the positions for a verb gives what is recorded for it, each with its position. -/
theorem filterMap_positions {β : Type} (verb : Verb) (g : Entry → Nat → β) :
    (r.positions verb).filterMap (fun position => r.entries[position]?.map (g · position)) =
      (record.zipIdx.filter fun x => decide (verb ∈ x.1.2)).map fun x => g x.1.1 x.2 := by
  have lookedUp : ∀ position,
      r.entries[position]?.map (g · position) =
        record[position]?.map fun added => g added.1 position := by
    intro position
    rw [h.getElem?_entries, Option.map_map]
    rfl
  simp only [h.positions, lookedUp]
  exact filterMap_findIdxs record (fun added => decide (verb ∈ added.2)) fun added => g added.1

/-- The entries for a verb are those recorded for it. -/
theorem entries_positions (verb : Verb) :
    (r.positions verb).filterMap (r.entries[·]?) =
      (record.filter fun added => decide (verb ∈ added.2)).map Prod.fst := by
  have looked := h.filterMap_positions verb fun entry _ => entry
  have unnumbered : (record.zipIdx.filter fun x => decide (verb ∈ x.1.2)).map Prod.fst =
      record.filter fun added => decide (verb ∈ added.2) := by
    conv_rhs => rw [← List.zipIdx_map_fst 0 record, List.filter_map]
    rfl
  rw [← unnumbered, List.map_map]
  simpa [Function.comp_def] using looked

/-- The first match of the entries for a verb is the first one in the record. -/
theorem firstMatch_positions (trustForwarded : Bool) (env : Env) (verb : Verb) :
    firstMatch trustForwarded env ((r.positions verb).filterMap (r.entries[·]?)) =
      record.findSome? fun added =>
        if verb ∈ added.2 then (added.1.match? env trustForwarded).map (⟨added.1, ·⟩)
        else none := by
  rw [h.entries_positions, firstMatch, List.findSome?_map, findSome?_filter]
  simp

/-- The listing for a verb is the part of the whole listing that names the verb. -/
theorem infosFor_eq (verb : Verb) :
    r.infosFor verb = r.infos.filter fun info => verb ∈ info.verbs := by
  have listed : r.infos = record.zipIdx.map fun x => r.info x.2 x.1.1 := by
    unfold infos
    rw [h.entries, List.zipIdx_map, List.map_map]
    rfl
  have named : ∀ x ∈ record.zipIdx,
      decide (verb ∈ (r.info x.2 x.1.1).verbs) = decide (verb ∈ x.1.2) := by
    rintro ⟨added, position⟩ mem
    have found := List.mk_mem_zipIdx_iff_getElem?.mp mem
    have iff : verb ∈ (r.info position added.1).verbs ↔ verb ∈ added.2 := by
      rw [info, List.mem_filter, decide_eq_true_eq, h.positions, mem_positionsFor, found]
      simp
    exact decide_eq_decide.mpr iff
  unfold infosFor
  rw [h.filterMap_positions verb fun entry position => r.info position entry, listed,
    List.filter_map]
  exact congrArg _ (List.filter_congr fun x mem => (named x mem).symm)

end Recorded

/-! ### All calls -/

/-- Whatever calls are made on a new router, a request is recognized as what the first call that
answers by itself says, and as nothing if none does or if the method is no verb. The listing for a
verb is what the listing of all entries has for that verb, in the same order. -/
theorem recognize_eq_scan (config : Config) (base : Url.Base) (calls : List Call) :
    let r := (blank config base).afterCalls calls
    (∀ env, r.recognize env =
      match Verb.ofMethod env.method with
      | .ok verb => calls.findSome? (Call.answer? config.trustForwardedHost verb env)
      | .error _ => none) ∧
      ∀ verb, r.infosFor verb = r.infos.filter fun info => verb ∈ info.verbs := by
  intro r
  have recorded : Recorded r (record calls) := recorded_afterCalls config base calls
  have settings : r.config = config := config_afterCalls _ calls
  refine ⟨?_, recorded.infosFor_eq⟩
  intro env
  unfold recognize candidates
  rw [settings]
  cases Verb.ofMethod env.method with
  | error e => rfl
  | ok verb =>
    rw [recorded.firstMatch_positions, record, ← List.head?_filterMap, List.filterMap_filterMap,
      List.head?_filterMap]
    exact findSome?_congr fun c _ => (answer?_eq _ verb env c).symm

end PathRouting.Router
