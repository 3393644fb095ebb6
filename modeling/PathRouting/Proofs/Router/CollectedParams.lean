import PathRouting.Proofs.OrderedMaps
import PathRouting.Proofs.Router.Nesting

/-!
Parameters that are collected on the way through nested routers.

Every router on the way merges what it has matched into the parameters that are there. As merging is
associative on maps without repeated keys, the way may be cut into groups of levels anywhere. Main
statements: `grouped_arrived_iff` (any grouping gives the same parameters) and
`changes_keep_order` (with the laws of the maps that parameters and arguments are).
-/

namespace PathRouting.Router

open OrderedMap

/-- The parameters at the end of a way are those of all stops, in whatever grouping they are
merged. -/
theorem grouped_arrived_iff {registry : Registry} {r : Router} {env : Env} {d : Descent}
    (way : Descends registry r env d) (collected : Params) :
    Grouped (env.params :: d.stops.map fun stop => stop.found.params) collected ↔
      collected = (d.arrived env).params := by
  have nodup : ∀ level ∈ d.stops.map fun stop => stop.found.params, level.keys.Nodup := by
    intro level mem
    obtain ⟨stop, onWay, rfl⟩ := List.mem_map.mp mem
    obtain ⟨remembered, recognizes⟩ := way.recognizes stop onWay
    exact nodup_keys_of_recognize recognizes
  rw [grouped_iff nodup, List.foldl_map, Descent.params_arrived]

/-- Parameters and arguments, as any maps that are made from the empty one by changes, have no key
twice. A change for a key puts its value in the place of the old one or at the end, or takes it
away, and leaves all other entries as they are and in order. A merged map has the keys of the first
map and then the new ones of the other, with the values of the other map for all of its keys;
merging is associative, has the empty map as identity on both sides, and is idempotent. So the
parameters that nested routers collect do not depend on how the levels are grouped. -/
theorem changes_keep_order {κ α : Type} [DecidableEq κ] :
    (∀ h : History κ α, h.result.keys.Nodup ∧
        (∀ key value, Placed key value h.result.entries (h.result.insert key value).entries) ∧
        ∀ key, Removed key h.result.entries (h.result.erase key).entries) ∧
      (∀ a b : History κ α,
        (a.result.merge b.result).keys =
            a.result.keys ++ b.result.keys.filter (fun key => decide (key ∉ a.result.keys)) ∧
          ∀ key, (a.result.merge b.result).get? key =
            (b.result.get? key).or (a.result.get? key)) ∧
      (∀ a b c : History κ α,
        (a.result.merge b.result).merge c.result = a.result.merge (b.result.merge c.result)) ∧
      (∀ a : History κ α, empty.merge a.result = a.result ∧ a.result.merge empty = a.result ∧
        a.result.merge a.result = a.result) ∧
      ∀ registry r env d, Descends registry r env d → ∀ collected : Params,
        Grouped (env.params :: d.stops.map fun stop => stop.found.params) collected ↔
          collected = (d.arrived env).params := by
  refine ⟨?_, ?_, ?_, ?_, fun _ _ _ _ way => grouped_arrived_iff way⟩
  · intro h
    exact ⟨h.nodup_keys, placed_insert h.result, removed_erase h.result⟩
  · intro a b
    exact ⟨keys_merge b.nodup_keys, get?_merge b.nodup_keys⟩
  · intro a b c
    exact merge_assoc a.result b.nodup_keys c.result
  · intro a
    exact ⟨empty_merge a.nodup_keys, merge_empty a.result, merge_self a.nodup_keys⟩

end PathRouting.Router
