import Mathlib.Order.Lattice.Nat
import PathRouting.Proofs.Router.Record

/-!
The two indices of a router agree with its entries, whatever calls were made on it.

`WellIndexed` is the invariant: the positions for a verb ascend and are those of entries, a route is
found under one verb and a mount under all, and a name leads to the last route that has it.

Main statements: `wellIndexed_of_recorded` (the invariant is read off the record) and
`WellIndexed.named?_of_holdsRoute` (a name that some route has is found).
-/

namespace PathRouting.Router

/-! ### The invariant -/

/-- A position that holds a route of a name. -/
def HoldsRoute (r : Router) (name : String) (position : Nat) : Prop :=
  ∃ route, r.entries[position]? = some (.route route) ∧ route.name = some name

/-- The indices of a router agree with its entries. -/
structure WellIndexed (r : Router) : Prop where
  ascending : ∀ verb, (r.positions verb).Pairwise (· < ·)
  inRange : ∀ verb, ∀ position ∈ r.positions verb, position < r.size
  routeOnce : ∀ position route, r.entries[position]? = some (.route route) →
    ∃! verb, position ∈ r.positions verb
  mountAlways : ∀ position mount, r.entries[position]? = some (.mount mount) →
    ∀ verb, position ∈ r.positions verb
  unnamed : ∀ (position : Nat) (mount : Mount), r.entries[position]? = some (.mount mount) →
    mount.route.name = none
  spelled : ∀ name position, r.named.get? name = some position → Naming.routeName name = name
  named : ∀ name position, r.named.get? name = some position ↔
    IsGreatest {p | r.HoldsRoute name p} position

/-! ### Positions in a record -/

/-- The last element of an ascending list is its greatest. -/
theorem isGreatest_of_getLast? {positions : List Nat} (ascending : positions.Pairwise (· < ·))
    {position : Nat} (last : positions.getLast? = some position) :
    IsGreatest {p | p ∈ positions} position := by
  obtain ⟨before, rfl⟩ := List.getLast?_eq_some_iff.mp last
  refine ⟨by simp, ?_⟩
  intro p mem
  rcases List.mem_append.mp mem with earlier | here
  · exact ((List.pairwise_append.mp ascending).2.2 p earlier position (by simp)).le
  · exact (List.mem_singleton.mp here).le

theorem getLast?_eq_some_iff_isGreatest {positions : List Nat}
    (ascending : positions.Pairwise (· < ·)) {position : Nat} :
    positions.getLast? = some position ↔ IsGreatest {p | p ∈ positions} position := by
  constructor
  · exact isGreatest_of_getLast? ascending
  · intro greatest
    have filled : positions ≠ [] := List.ne_nil_of_mem greatest.1
    have last := List.getLast?_eq_some_getLast filled
    rw [last, (isGreatest_of_getLast? ascending last).unique greatest]

namespace Recorded

variable {r : Router} {record : List (Entry × List Verb)} (h : Recorded r record)

include h

theorem holdsRoute_iff (addable : ∀ added ∈ record, Addable added) {name : String}
    {position : Nat} : r.HoldsRoute name position ↔ position ∈ positionsOf name record := by
  rw [mem_positionsOf]
  constructor
  · rintro ⟨route, holds, named⟩
    rw [h.getElem?_entries] at holds
    obtain ⟨added, found, same⟩ := Option.map_eq_some_iff.mp holds
    exact ⟨added, found, by rw [same]; exact named⟩
  · rintro ⟨added, found, named⟩
    have entry := h.getElem?_entries position
    rw [found, Option.map_some] at entry
    cases addable added (List.mem_of_getElem? found) with
    | route route verb spelled => exact ⟨route, entry, named⟩
    | mount mount unnamed =>
      have none : mount.route.name = some name := named
      rw [unnamed] at none
      cases none

end Recorded

/-- The indices of a router agree with its entries if what was added to it can be added by calls. -/
theorem wellIndexed_of_recorded {r : Router} {record : List (Entry × List Verb)}
    (h : Recorded r record) (addable : ∀ added ∈ record, Addable added) : r.WellIndexed where
  ascending := by
    intro verb
    rw [h.positions]
    exact List.pairwise_findIdxs
  inRange := by
    intro verb position mem
    rw [h.positions, mem_positionsFor] at mem
    obtain ⟨added, found, -⟩ := mem
    rw [h.size]
    exact (List.getElem?_eq_some_iff.mp found).1
  routeOnce := by
    intro position route holds
    rw [h.getElem?_entries] at holds
    obtain ⟨added, found, same⟩ := Option.map_eq_some_iff.mp holds
    cases addable added (List.mem_of_getElem? found) with
    | mount => cases same
    | route route' verb _ =>
      refine ⟨verb, ?_, ?_⟩
      · show position ∈ r.positions verb
        rw [h.positions, mem_positionsFor]
        exact ⟨_, found, List.mem_singleton_self verb⟩
      · intro other mem
        rw [h.positions, mem_positionsFor] at mem
        obtain ⟨added', found', mem'⟩ := mem
        rw [found] at found'
        cases found'
        exact List.mem_singleton.mp mem'
  mountAlways := by
    intro position mount holds verb
    rw [h.getElem?_entries] at holds
    obtain ⟨added, found, same⟩ := Option.map_eq_some_iff.mp holds
    cases addable added (List.mem_of_getElem? found) with
    | route => cases same
    | mount mount' _ =>
      rw [h.positions, mem_positionsFor]
      exact ⟨_, found, Verb.mem_all verb⟩
  unnamed := by
    intro position mount holds
    rw [h.getElem?_entries] at holds
    obtain ⟨added, found, same⟩ := Option.map_eq_some_iff.mp holds
    cases addable added (List.mem_of_getElem? found) with
    | route => cases same
    | mount mount' unnamed => cases same; exact unnamed
  spelled := by
    intro name position found
    rw [h.named] at found
    obtain ⟨added, stored, named⟩ := mem_positionsOf.mp (List.mem_of_getLast? found)
    cases addable added (List.mem_of_getElem? stored) with
    | route route verb spelled => exact spelled name named
    | mount mount unnamed =>
      have none : mount.route.name = some name := named
      rw [unnamed] at none
      cases none
  named := by
    intro name position
    have ascending : (positionsOf name record).Pairwise (· < ·) := List.pairwise_findIdxs
    have same : {p | r.HoldsRoute name p} = {p | p ∈ positionsOf name record} := by
      ext p
      exact h.holdsRoute_iff addable
    rw [h.named, same]
    exact getLast?_eq_some_iff_isGreatest ascending

/-! ### What the indices are for -/

/-- Whether a registration is one of a mount. -/
def Registration.isMount : Registration → Bool
  | .route .. => false
  | .mount .. => true

theorem isMount_joined (c : Call) : c.joined.isMount = c.registration.isMount := by
  obtain ⟨scopes, registration⟩ := c
  simp only [Call.joined]
  induction scopes generalizing registration with
  | nil => rfl
  | cons scope scopes ih =>
    rw [List.foldl_cons, ih]
    cases registration with
    | route => rfl
    | mount => rfl

/-- A call that succeeds stores what it says at the end: a mount if it mounts, else a route. -/
theorem stored_of_registerWithin {r : Router} {c : Call} {entry : Entry} {after : Router}
    (h : r.registerWithin c.scopes c.registration = .ok (entry, after)) :
    after.entries[r.size]? = some entry ∧ entry.isMount = c.registration.isMount := by
  rw [registerWithin_eq] at h
  cases made : c.joined.entry with
  | error e => rw [made] at h; cases h
  | ok added =>
    rw [made] at h
    cases h
    refine ⟨by simp [push, Router.size], ?_⟩
    rw [← isMount_joined]
    cases registered : c.joined with
    | route text path spec =>
      rw [registered] at made
      obtain ⟨verb, route, -, -, rfl⟩ := entry_route_eq_ok made
      rfl
    | mount path endpoint host =>
      rw [registered] at made
      obtain ⟨mount, -, rfl⟩ := entry_mount_eq_ok made
      rfl

/-- What is listed stands at some position. -/
theorem exists_entry_of_mem_infos {r : Router} {info : Info} (mem : info ∈ r.infos) :
    ∃ position entry, r.entries[position]? = some entry ∧ info = r.info position entry := by
  obtain ⟨⟨entry, position⟩, listed, rfl⟩ := List.mem_map.mp mem
  have found := List.mk_mem_zipIdx_iff_getElem?.mp listed
  rw [Array.getElem?_toList] at found
  exact ⟨position, entry, found, rfl⟩

/-- A name that some route has leads to the last route that has it. -/
theorem WellIndexed.named?_of_holdsRoute {r : Router} (h : r.WellIndexed) {name : String}
    {position : Nat} (holds : r.HoldsRoute name position) :
    ∃ last route, IsGreatest {p | r.HoldsRoute name p} last ∧
      r.entries[last]? = some (.route route) ∧ r.named? name = some route := by
  have bounded : BddAbove {p | r.HoldsRoute name p} := by
    refine ⟨r.size, ?_⟩
    rintro p ⟨route, found, -⟩
    exact (Array.getElem?_eq_some_iff.mp found).1.le
  have greatest : IsGreatest {p | r.HoldsRoute name p} (sSup {p | r.HoldsRoute name p}) :=
    ⟨Nat.sSup_mem ⟨position, holds⟩ bounded, fun _ mem => le_csSup bounded mem⟩
  have indexed := (h.named name _).mpr greatest
  obtain ⟨route, found, named⟩ := greatest.1
  refine ⟨_, route, greatest, found, ?_⟩
  unfold named?
  rw [h.spelled name _ indexed, indexed]
  simp [found, Entry.toRoute]

/-- A name that is listed is that of a route. -/
theorem WellIndexed.exists_holdsRoute_of_listed {r : Router} (h : r.WellIndexed) {info : Info}
    (mem : info ∈ r.infos) {name : String} (shown : info.name = some name) :
    ∃ position, r.HoldsRoute name position := by
  obtain ⟨position, entry, found, rfl⟩ := exists_entry_of_mem_infos mem
  have named : entry.toRoute.name = some name := shown
  cases entry with
  | route route => exact ⟨position, route, found, named⟩
  | mount mount =>
    have unnamed : mount.route.name = none := h.unnamed position mount found
    rw [show mount.route.name = some name from named] at unnamed
    cases unnamed

/-- Whatever calls are made on a new router, its indices agree with its entries. So every position
that they hold is the position of an entry, a call that succeeds stores the mount or route that it
declares, and every name that is listed leads to the last route that was registered under it. -/
theorem indices_afterCalls (config : Config) (base : Url.Base) (calls : List Call) :
    let r := (blank config base).afterCalls calls
    r.WellIndexed ∧
      (∀ verb, ∀ position ∈ r.positions verb, ∃ entry, r.entries[position]? = some entry) ∧
      (∀ name position, r.named.get? name = some position →
        ∃ route, r.entries[position]? = some (.route route)) ∧
      (∀ (c : Call) (entry : Entry) (after : Router),
        r.registerWithin c.scopes c.registration = .ok (entry, after) →
          after.entries[r.size]? = some entry ∧ entry.isMount = c.registration.isMount) ∧
      ∀ info ∈ r.infos, ∀ name, info.name = some name →
        ∃ position route, IsGreatest {p | r.HoldsRoute name p} position ∧
          r.entries[position]? = some (.route route) ∧ r.named? name = some route := by
  intro r
  have indexed : r.WellIndexed := wellIndexed_of_recorded (recorded_afterCalls config base calls)
    fun _ mem => addable_of_mem_record mem
  refine ⟨indexed, ?_, ?_, ?_, ?_⟩
  · intro verb position mem
    have inRange := indexed.inRange verb position mem
    exact ⟨_, Array.getElem?_eq_getElem inRange⟩
  · intro name position found
    obtain ⟨⟨route, holds, -⟩, -⟩ := (indexed.named name position).mp found
    exact ⟨route, holds⟩
  · intro c entry after registered
    exact stored_of_registerWithin registered
  · intro info mem name shown
    obtain ⟨position, holds⟩ := indexed.exists_holdsRoute_of_listed mem shown
    exact indexed.named?_of_holdsRoute holds

end PathRouting.Router
