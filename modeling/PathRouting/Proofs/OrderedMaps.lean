import Mathlib.Data.List.Induction
import Mathlib.Data.List.Nodup
import PathRouting.OrderedMap

/-!
What changes do to the order of a map, and how merged maps compose.

A map is only ever made from the empty one by insertion, erasure and merging; `History` is such a
making. Its keys are distinct, and that is all that the laws of merging ask for: `merge_assoc` needs
it of the map in the middle, and of no other.

Main statements: `placed_insert` and `removed_erase` (what one change does), `History.nodup_keys`
(what any number of them keeps), `keys_merge`, `merge_assoc`, `merge_self`, and `grouped_iff` (maps
that are merged one after the other may be grouped in any way).
-/

namespace PathRouting.OrderedMap

variable {κ α : Type}

/-! ### One change -/

/-- What it is for entries to get a value for a key: in the place of the old value, or at the end
for a new key. All other entries stay as they are and where they are. -/
inductive Placed (key : κ) (value : α) : List (κ × α) → List (κ × α) → Prop
  | replaced (before after : List (κ × α)) (old : α) :
    Placed key value (before ++ (key, old) :: after) (before ++ (key, value) :: after)
  | added {entries : List (κ × α)} (new : key ∉ entries.map Prod.fst) :
    Placed key value entries (entries ++ [(key, value)])

/-- What it is for entries to lose a key, if it is there. All others stay as they are, in order. -/
inductive Removed (key : κ) : List (κ × α) → List (κ × α) → Prop
  | taken (before after : List (κ × α)) (value : α) :
    Removed key (before ++ (key, value) :: after) (before ++ after)
  | absent {entries : List (κ × α)} (missing : key ∉ entries.map Prod.fst) :
    Removed key entries entries

theorem Placed.cons {key : κ} {value : α} {entries changed : List (κ × α)} {e : κ × α}
    (other : e.1 ≠ key) (h : Placed key value entries changed) :
    Placed key value (e :: entries) (e :: changed) := by
  cases h with
  | replaced before after old => exact .replaced (e :: before) after old
  | added new => exact .added (by simp [Ne.symm other, new])

theorem Placed.nodup_keys {key : κ} {value : α} {entries changed : List (κ × α)}
    (h : Placed key value entries changed) (nodup : (entries.map Prod.fst).Nodup) :
    (changed.map Prod.fst).Nodup := by
  cases h with
  | replaced => simpa using nodup
  | added new =>
    rw [List.map_append]
    exact List.nodup_append_comm.mp (List.nodup_cons.mpr ⟨new, nodup⟩)

theorem Removed.cons {key : κ} {entries changed : List (κ × α)} {e : κ × α} (other : e.1 ≠ key)
    (h : Removed key entries changed) : Removed key (e :: entries) (e :: changed) := by
  cases h with
  | taken before after value => exact .taken (e :: before) after value
  | absent missing => exact .absent (by simp [Ne.symm other, missing])

theorem Removed.nodup_keys {key : κ} {entries changed : List (κ × α)}
    (h : Removed key entries changed) (nodup : (entries.map Prod.fst).Nodup) :
    (changed.map Prod.fst).Nodup := by
  cases h with
  | taken before after value =>
    refine nodup.sublist (List.Sublist.map Prod.fst ?_)
    exact (List.sublist_cons_self _ after).append_left before
  | absent => exact nodup

variable [DecidableEq κ]

theorem placed_insert (m : OrderedMap κ α) (key : κ) (value : α) :
    Placed key value m.entries (m.insert key value).entries := by
  obtain ⟨entries⟩ := m
  show Placed key value entries (insertEntry key value entries)
  induction entries with
  | nil => exact .added (by simp)
  | cons e rest ih =>
    obtain ⟨d, old⟩ := e
    by_cases same : d = key
    · subst same
      simpa [insertEntry] using Placed.replaced [] rest old
    · simpa [insertEntry, same] using ih.cons same

theorem removed_erase (m : OrderedMap κ α) (key : κ) :
    Removed key m.entries (m.erase key).entries := by
  obtain ⟨entries⟩ := m
  show Removed key entries (entries.eraseP fun e => e.1 = key)
  induction entries with
  | nil => exact .absent (by simp)
  | cons e rest ih =>
    obtain ⟨d, old⟩ := e
    by_cases same : d = key
    · subst same
      simpa using Removed.taken [] rest old
    · simpa [same] using ih.cons same

theorem nodup_keys_insert {m : OrderedMap κ α} (nodup : m.keys.Nodup) (key : κ) (value : α) :
    (m.insert key value).keys.Nodup :=
  (placed_insert m key value).nodup_keys nodup

/-! ### Any number of changes -/

/-- How a map is made. -/
inductive History (κ α : Type) where
  | empty
  | insert (before : History κ α) (key : κ) (value : α)
  | erase (before : History κ α) (key : κ)
  | merge (before other : History κ α)

/-- The map that is made. -/
def History.result : History κ α → OrderedMap κ α
  | empty => OrderedMap.empty
  | insert before key value => before.result.insert key value
  | erase before key => before.result.erase key
  | merge before other => before.result.merge other.result

/-- No key comes twice, however a map is made. -/
theorem History.nodup_keys (h : History κ α) : h.result.keys.Nodup := by
  induction h with
  | empty => exact List.nodup_nil
  | insert before key value ih => exact nodup_keys_insert ih key value
  | erase before key ih => exact (removed_erase before.result key).nodup_keys ih
  | merge before other ih => exact nodup_keys_insertMany ih other.result.entries

/-! ### Merging -/

theorem insertMany_cons (m : OrderedMap κ α) (e : κ × α) (rest : List (κ × α)) :
    m.insertMany (e :: rest) = (m.insert e.1 e.2).insertMany rest := rfl

theorem keys_insertMany {m : OrderedMap κ α} {entries : List (κ × α)}
    (nodup : (entries.map Prod.fst).Nodup) :
    (m.insertMany entries).keys =
      m.keys ++ (entries.map Prod.fst).filter fun key => decide (key ∉ m.keys) := by
  induction entries generalizing m with
  | nil => simp [insertMany]
  | cons e rest ih =>
    rw [List.map_cons, List.nodup_cons] at nodup
    rw [insertMany_cons, ih nodup.2, keys_insert, List.map_cons]
    by_cases known : e.1 ∈ m.keys
    · simp [known]
    · -- The new key is none of the later ones, so these are new to both maps or to neither.
      have later : (rest.map Prod.fst).filter (fun key => decide (key ∉ m.keys ++ [e.1])) =
          (rest.map Prod.fst).filter fun key => decide (key ∉ m.keys) := by
        refine List.filter_congr fun key mem => ?_
        have other : key ≠ e.1 := fun same => nodup.1 (same ▸ mem)
        simp [other]
      rw [if_neg known, later, List.filter_cons_of_pos (by simpa using known)]
      simp

/-- A merged map has the keys of the first map in order, and then the new ones of the other. -/
theorem keys_merge {m other : OrderedMap κ α} (nodup : other.keys.Nodup) :
    (m.merge other).keys = m.keys ++ other.keys.filter fun key => decide (key ∉ m.keys) :=
  keys_insertMany nodup

theorem merge_empty (m : OrderedMap κ α) : m.merge empty = m := rfl

theorem empty_merge {m : OrderedMap κ α} (nodup : m.keys.Nodup) : empty.merge m = m :=
  ofList_of_nodup nodup

/-- A value that is there already changes nothing. -/
theorem insert_of_get? {m : OrderedMap κ α} {key : κ} {value : α}
    (given : m.get? key = some value) : m.insert key value = m := by
  obtain ⟨entries⟩ := m
  simp only [get?, insert, mk.injEq] at given ⊢
  induction entries with
  | nil => cases given
  | cons e rest ih =>
    obtain ⟨d, old⟩ := e
    by_cases same : key = d
    · subst same
      simp only [List.lookup_cons, BEq.rfl, Option.some.injEq] at given
      simp [insertEntry, given]
    · simp only [List.lookup_cons, beq_eq_false_iff_ne.mpr same] at given
      simp [insertEntry, Ne.symm same, ih given]

theorem insertMany_of_get? {m : OrderedMap κ α} {entries : List (κ × α)}
    (given : ∀ e ∈ entries, m.get? e.1 = some e.2) : m.insertMany entries = m := by
  induction entries with
  | nil => rfl
  | cons e rest ih =>
    rw [insertMany_cons, insert_of_get? (given e List.mem_cons_self)]
    exact ih fun other mem => given other (List.mem_cons_of_mem e mem)

theorem merge_self {m : OrderedMap κ α} (nodup : m.keys.Nodup) : m.merge m = m :=
  insertMany_of_get? fun _ mem => (get?_eq_some_iff nodup).mpr mem

/-! #### Merging in steps -/

theorem insert_insert (m : OrderedMap κ α) (key : κ) (old value : α) :
    (m.insert key old).insert key value = m.insert key value := by
  obtain ⟨entries⟩ := m
  simp only [insert, mk.injEq]
  induction entries with
  | nil => simp [insertEntry]
  | cons e rest ih => by_cases same : e.1 = key <;> simp [insertEntry, same, ih]

/-- A key that is there may get its value before or after another key does. -/
theorem insert_comm {m : OrderedMap κ α} {key other : κ} (known : key ∈ m.keys)
    (apart : key ≠ other) (value otherValue : α) :
    (m.insert other otherValue).insert key value =
      (m.insert key value).insert other otherValue := by
  obtain ⟨entries⟩ := m
  simp only [keys, insert, mk.injEq] at known ⊢
  induction entries with
  | nil => cases known
  | cons e rest ih =>
    obtain ⟨d, old⟩ := e
    by_cases here : d = key
    · subst here
      simp [insertEntry, apart]
    · have later : key ∈ rest.map Prod.fst := by simpa [Ne.symm here] using known
      by_cases there : d = other
      · subst there
        simp [insertEntry, Ne.symm apart]
      · simp [insertEntry, here, there, ih later]

theorem insertMany_insert {m : OrderedMap κ α} {key : κ} {entries : List (κ × α)}
    (known : key ∈ m.keys) (apart : key ∉ entries.map Prod.fst) (value : α) :
    (m.insertMany entries).insert key value = (m.insert key value).insertMany entries := by
  induction entries generalizing m with
  | nil => rfl
  | cons e rest ih =>
    simp only [List.map_cons, List.mem_cons, not_or] at apart
    have still : key ∈ (m.insert e.1 e.2).keys := (keys_prefix_insert m e.1 e.2).subset known
    rw [insertMany_cons, insertMany_cons, ih still apart.2, insert_comm known apart.1]

/-- A value that is inserted into a map before it is merged may be inserted afterwards. -/
theorem merge_insert (m : OrderedMap κ α) {other : OrderedMap κ α} (nodup : other.keys.Nodup)
    (key : κ) (value : α) :
    m.merge (other.insert key value) = (m.merge other).insert key value := by
  obtain ⟨entries⟩ := other
  simp only [keys] at nodup
  show m.insertMany (insertEntry key value entries) = (m.insertMany entries).insert key value
  induction entries generalizing m with
  | nil => rfl
  | cons e rest ih =>
    obtain ⟨d, old⟩ := e
    rw [List.map_cons, List.nodup_cons] at nodup
    by_cases same : d = key
    · subst same
      have known : d ∈ (m.insert d old).keys := mem_keys_iff.mpr ⟨old, by simp⟩
      rw [insertEntry, if_pos rfl, insertMany_cons, insertMany_cons,
        insertMany_insert known nodup.1, insert_insert]
    · rw [insertEntry, if_neg same, insertMany_cons, insertMany_cons]
      exact ih (m.insert d old) nodup.2

/-- It makes no difference which of three maps are merged first. -/
theorem merge_assoc (m : OrderedMap κ α) {middle : OrderedMap κ α} (nodup : middle.keys.Nodup)
    (last : OrderedMap κ α) : (m.merge middle).merge last = m.merge (middle.merge last) := by
  obtain ⟨entries⟩ := last
  show (m.merge middle).insertMany entries = m.merge (middle.insertMany entries)
  induction entries generalizing middle with
  | nil => rfl
  | cons e rest ih =>
    rw [insertMany_cons, insertMany_cons, ← ih (nodup_keys_insert nodup e.1 e.2),
      merge_insert m nodup]

/-! #### Groupings -/

/-- What it is for a map to be merged from maps in order, grouped in some way. -/
inductive Grouped : List (OrderedMap κ α) → OrderedMap κ α → Prop
  | single (m : OrderedMap κ α) : Grouped [m] m
  | merge {outer inner : List (OrderedMap κ α)} {front back : OrderedMap κ α}
    (left : Grouped outer front) (right : Grouped inner back) :
    Grouped (outer ++ inner) (front.merge back)

theorem Grouped.ne_nil {maps : List (OrderedMap κ α)} {m : OrderedMap κ α} (h : Grouped maps m) :
    maps ≠ [] := by
  induction h with
  | single => simp
  | merge _ _ ih => simp [ih]

theorem merge_foldl (m : OrderedMap κ α) {first : OrderedMap κ α} (nodup : first.keys.Nodup)
    (rest : List (OrderedMap κ α)) :
    m.merge (rest.foldl merge first) = rest.foldl merge (m.merge first) := by
  induction rest generalizing first with
  | nil => rfl
  | cons next rest ih =>
    have distinct : (first.merge next).keys.Nodup := nodup_keys_insertMany nodup next.entries
    rw [List.foldl_cons, ih distinct, List.foldl_cons, merge_assoc m nodup]

theorem Grouped.eq_foldl {maps : List (OrderedMap κ α)} {m : OrderedMap κ α} (h : Grouped maps m)
    {first : OrderedMap κ α} {rest : List (OrderedMap κ α)} (eq : maps = first :: rest)
    (nodup : ∀ other ∈ rest, other.keys.Nodup) : m = rest.foldl OrderedMap.merge first := by
  induction h generalizing first rest with
  | single m =>
    obtain ⟨rfl, rfl⟩ := List.cons.inj eq
    rfl
  | @merge outer inner front back left right ihLeft ihRight =>
    obtain ⟨head, outer, rfl⟩ := List.exists_cons_of_ne_nil left.ne_nil
    obtain ⟨next, inner, rfl⟩ := List.exists_cons_of_ne_nil right.ne_nil
    rw [List.cons_append, List.cons.injEq] at eq
    obtain ⟨rfl, rfl⟩ := eq
    have distinct : next.keys.Nodup := nodup next (by simp)
    rw [ihLeft rfl fun other mem => nodup other (by simp [mem]),
      ihRight rfl fun other mem => nodup other (by simp [mem]), merge_foldl _ distinct,
      List.foldl_append, List.foldl_cons]

/-- Maps that are merged one after the other may be grouped in any way. -/
theorem grouped_iff {first : OrderedMap κ α} {rest : List (OrderedMap κ α)}
    (nodup : ∀ other ∈ rest, other.keys.Nodup) {m : OrderedMap κ α} :
    Grouped (first :: rest) m ↔ m = rest.foldl merge first := by
  refine ⟨fun h => h.eq_foldl rfl nodup, ?_⟩
  rintro rfl
  clear nodup
  induction rest using List.reverseRecOn with
  | nil => exact .single first
  | append_singleton rest last ih =>
    rw [List.foldl_append]
    exact ih.merge (.single last)

end PathRouting.OrderedMap
