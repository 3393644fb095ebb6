/-!
Finite maps that keep the order in which keys first came. A new value for a key takes the place of
the old one, and a new key goes last.

Main statements: `get?_insert` and `keys_insert` (what one insertion does to look-up and order),
`get?_erase` (what erasure does to look-up), `get?_merge` (of two values for a key the later one
wins), `get?_eq_some_iff` (look-up without repeated keys), and `ofList_of_nodup` (a list without
repeated keys is the map it builds).
-/

namespace PathRouting

/-- A map from keys to values, as the list of its entries in order. -/
structure OrderedMap (κ α : Type) where
  entries : List (κ × α) := []
  deriving Repr, DecidableEq

namespace OrderedMap

variable {κ α β : Type} [DecidableEq κ]

/-- The map without entries. -/
def empty : OrderedMap κ α := {}

instance : Inhabited (OrderedMap κ α) := ⟨empty⟩

/-- The keys in order. -/
def keys (m : OrderedMap κ α) : List κ :=
  m.entries.map Prod.fst

/-- The number of keys. -/
def size (m : OrderedMap κ α) : Nat :=
  m.entries.length

/-- Whether there are no keys. -/
def isEmpty (m : OrderedMap κ α) : Bool :=
  m.entries.isEmpty

/-- The value of a key. -/
def get? (m : OrderedMap κ α) (key : κ) : Option α :=
  m.entries.lookup key

/-- Whether the key has a value. -/
def contains (m : OrderedMap κ α) (key : κ) : Bool :=
  m.entries.any fun e => e.1 = key

/-- The entries with a new value for a key, in its place if it has one and at the end if not. -/
def insertEntry (key : κ) (value : α) : List (κ × α) → List (κ × α)
  | [] => [(key, value)]
  | e :: rest => if e.1 = key then (key, value) :: rest else e :: insertEntry key value rest

/-- The map with a new value for a key. -/
def insert (m : OrderedMap κ α) (key : κ) (value : α) : OrderedMap κ α :=
  ⟨insertEntry key value m.entries⟩

/-- The map without the first entry of a key. -/
def erase (m : OrderedMap κ α) (key : κ) : OrderedMap κ α :=
  ⟨m.entries.eraseP fun e => e.1 = key⟩

/-- The map with the entries inserted one after the other. -/
def insertMany (m : OrderedMap κ α) (entries : List (κ × α)) : OrderedMap κ α :=
  entries.foldl (fun acc e => acc.insert e.1 e.2) m

/-- The map with every entry of another map inserted, the other map's values winning. -/
def merge (m other : OrderedMap κ α) : OrderedMap κ α :=
  m.insertMany other.entries

/-- The map built by inserting the entries in order. -/
def ofList (entries : List (κ × α)) : OrderedMap κ α :=
  empty.insertMany entries

/-! ### Look-up -/

theorem contains_eq_isSome (m : OrderedMap κ α) (key : κ) :
    m.contains key = (m.get? key).isSome := by
  obtain ⟨entries⟩ := m
  simp only [contains, get?]
  induction entries with
  | nil => rfl
  | cons e rest ih =>
    obtain ⟨d, w⟩ := e
    by_cases h : d = key
    · simp [h]
    · simp [List.lookup_cons, h, beq_eq_false_iff_ne.mpr (Ne.symm h), ih]

theorem mem_keys_iff {m : OrderedMap κ α} {key : κ} :
    key ∈ m.keys ↔ ∃ value, m.get? key = some value := by
  rw [← Option.isSome_iff_exists, ← contains_eq_isSome]
  simp [keys, contains]

theorem mem_entries_of_get? {m : OrderedMap κ α} {key : κ} {value : α}
    (h : m.get? key = some value) : (key, value) ∈ m.entries := by
  obtain ⟨entries⟩ := m
  simp only [get?] at h
  induction entries with
  | nil => cases h
  | cons e rest ih =>
    obtain ⟨d, w⟩ := e
    by_cases same : key = d
    · subst same
      simp only [List.lookup_cons, BEq.rfl, Option.some.injEq] at h
      simp [h]
    · simp only [List.lookup_cons, beq_eq_false_iff_ne.mpr same] at h
      exact List.mem_cons_of_mem _ (ih h)

theorem lookup_eq_none_of_notMem {entries : List (κ × α)} {key : κ}
    (absent : key ∉ entries.map Prod.fst) : entries.lookup key = none := by
  rw [List.lookup_eq_none_iff]
  intro e mem
  refine bne_iff_ne.mpr ?_
  rintro rfl
  exact absent (List.mem_map.mpr ⟨e, mem, rfl⟩)

/-- Where no key comes twice, every entry is found. -/
theorem get?_eq_some_iff {m : OrderedMap κ α} (nodup : m.keys.Nodup) {key : κ} {value : α} :
    m.get? key = some value ↔ (key, value) ∈ m.entries := by
  refine ⟨mem_entries_of_get?, fun mem => ?_⟩
  obtain ⟨before, after, eq⟩ := List.append_of_mem mem
  rw [get?, eq, List.lookup_eq_some_iff]
  refine ⟨before, after, rfl, fun e he => bne_iff_ne.mpr ?_⟩
  rintro rfl
  rw [keys, eq, List.map_append, List.map_cons] at nodup
  exact (List.nodup_append.mp nodup).2.2 e.1 (List.mem_map_of_mem he) e.1 List.mem_cons_self rfl

/-! ### Erasure -/

theorem erase_of_notMem {m : OrderedMap κ α} {key : κ} (absent : key ∉ m.keys) :
    m.erase key = m := by
  have other : ∀ e ∈ m.entries, ¬decide (e.1 = key) = true := by
    rintro e mem same
    exact absent (List.mem_map.mpr ⟨e, mem, of_decide_eq_true same⟩)
  exact congrArg OrderedMap.mk (List.eraseP_of_forall_not other)

/-- An erased key has no value, as it came only once, and all other keys keep theirs. -/
theorem get?_erase {m : OrderedMap κ α} (nodup : m.keys.Nodup) (key k : κ) :
    (m.erase key).get? k = if k = key then none else m.get? k := by
  obtain ⟨entries⟩ := m
  simp only [keys] at nodup
  simp only [erase, get?]
  induction entries with
  | nil => simp
  | cons e rest ih =>
    obtain ⟨d, w⟩ := e
    obtain ⟨fresh, nodup'⟩ := List.nodup_cons.mp nodup
    by_cases hd : d = key
    · subst hd
      rw [List.eraseP_cons_of_pos (by simp)]
      by_cases h : k = d
      · subst h
        rw [if_pos rfl, lookup_eq_none_of_notMem fresh]
      · simp [List.lookup_cons, h, beq_eq_false_iff_ne.mpr h]
    · rw [List.eraseP_cons_of_neg (by simpa using hd), List.lookup_cons, List.lookup_cons,
        ih nodup']
      by_cases h : k = d
      · subst h
        simp [hd]
      · simp [beq_eq_false_iff_ne.mpr h]

/-! ### One insertion -/

theorem lookup_insertEntry (key : κ) (value : α) (entries : List (κ × α)) (k : κ) :
    (insertEntry key value entries).lookup k =
      if k = key then some value else entries.lookup k := by
  induction entries with
  | nil =>
    by_cases h : k = key
    · simp [insertEntry, h]
    · simp [insertEntry, List.lookup_cons, h, beq_eq_false_iff_ne.mpr h]
  | cons e rest ih =>
    obtain ⟨d, w⟩ := e
    by_cases hd : d = key
    · subst hd
      by_cases h : k = d
      · simp [insertEntry, h]
      · simp [insertEntry, List.lookup_cons, h, beq_eq_false_iff_ne.mpr h]
    · by_cases h : k = d
      · subst h
        simp [insertEntry, hd]
      · simp [insertEntry, List.lookup_cons, hd, beq_eq_false_iff_ne.mpr h, ih]

@[simp] theorem get?_insert (m : OrderedMap κ α) (key : κ) (value : α) (k : κ) :
    (m.insert key value).get? k = if k = key then some value else m.get? k :=
  lookup_insertEntry key value m.entries k

theorem keys_insertEntry (key : κ) (value : α) (entries : List (κ × α)) :
    (insertEntry key value entries).map Prod.fst =
      if key ∈ entries.map Prod.fst then entries.map Prod.fst
      else entries.map Prod.fst ++ [key] := by
  induction entries with
  | nil => simp [insertEntry]
  | cons e rest ih =>
    obtain ⟨d, w⟩ := e
    simp only [insertEntry]
    by_cases hd : d = key
    · simp [hd]
    · by_cases hr : key ∈ rest.map Prod.fst
      · simp [hd, ih, hr]
      · simp [hd, Ne.symm hd, ih, hr]

theorem keys_insert (m : OrderedMap κ α) (key : κ) (value : α) :
    (m.insert key value).keys = if key ∈ m.keys then m.keys else m.keys ++ [key] :=
  keys_insertEntry key value m.entries

/-! ### Many insertions -/

theorem get?_insertMany {m : OrderedMap κ α} {entries : List (κ × α)}
    (nodup : (entries.map Prod.fst).Nodup) (k : κ) :
    (m.insertMany entries).get? k = (entries.lookup k).or (m.get? k) := by
  induction entries generalizing m with
  | nil => rfl
  | cons e rest ih =>
    obtain ⟨d, w⟩ := e
    obtain ⟨fresh, nodup'⟩ := List.nodup_cons.mp nodup
    have step : m.insertMany ((d, w) :: rest) = (m.insert d w).insertMany rest := rfl
    rw [step, ih nodup', get?_insert, List.lookup_cons]
    by_cases same : k = d
    · subst same
      simp [lookup_eq_none_of_notMem fresh]
    · simp [same, beq_eq_false_iff_ne.mpr same]

/-- A key has the value that the other map gives it, or else the one it had. -/
theorem get?_merge {m other : OrderedMap κ α} (nodup : other.keys.Nodup) (k : κ) :
    (m.merge other).get? k = (other.get? k).or (m.get? k) :=
  get?_insertMany nodup k

theorem keys_prefix_insert (m : OrderedMap κ α) (key : κ) (value : α) :
    m.keys <+: (m.insert key value).keys := by
  rw [keys_insert]
  split
  · exact List.prefix_rfl
  · exact List.prefix_append _ _

/-- Keys that are there keep their positions. -/
theorem keys_prefix_insertMany (m : OrderedMap κ α) (entries : List (κ × α)) :
    m.keys <+: (m.insertMany entries).keys := by
  induction entries generalizing m with
  | nil => exact List.prefix_rfl
  | cons e rest ih => exact (keys_prefix_insert m e.1 e.2).trans (ih _)

theorem nodup_keys_insertMany {m : OrderedMap κ α} (nodup : m.keys.Nodup)
    (entries : List (κ × α)) : (m.insertMany entries).keys.Nodup := by
  induction entries generalizing m with
  | nil => exact nodup
  | cons e rest ih =>
    refine ih ?_
    rw [keys_insert]
    split
    · exact nodup
    · next new =>
      refine List.nodup_append.mpr ⟨nodup, by simp, ?_⟩
      intro k mem other here same
      rw [List.mem_singleton.mp here] at same
      exact new (same ▸ mem)

theorem nodup_keys_ofList (entries : List (κ × α)) : (ofList entries).keys.Nodup :=
  nodup_keys_insertMany (show (empty : OrderedMap κ α).keys.Nodup from List.nodup_nil) entries

/-! ### Many insertions of new keys -/

theorem insertEntry_of_notMem {key : κ} {entries : List (κ × α)} (value : α)
    (new : key ∉ entries.map Prod.fst) :
    insertEntry key value entries = entries ++ [(key, value)] := by
  induction entries with
  | nil => rfl
  | cons e rest ih =>
    simp only [List.map_cons, List.mem_cons, not_or] at new
    simp [insertEntry, Ne.symm new.1, ih new.2]

theorem insertMany_of_nodup {m : OrderedMap κ α} {entries : List (κ × α)}
    (nodup : (m.keys ++ entries.map Prod.fst).Nodup) :
    m.insertMany entries = ⟨m.entries ++ entries⟩ := by
  induction entries generalizing m with
  | nil => simp [insertMany]
  | cons e rest ih =>
    have new : e.1 ∉ m.entries.map Prod.fst := by
      intro mem
      exact (List.nodup_append.mp nodup).2.2 e.1 mem e.1 (by simp) rfl
    have inserted : m.insert e.1 e.2 = ⟨m.entries ++ [e]⟩ := by
      rw [insert, insertEntry_of_notMem e.2 new]
    have step : m.insertMany (e :: rest) = (m.insert e.1 e.2).insertMany rest := rfl
    rw [step, inserted, ih (by simpa [keys] using nodup)]
    simp

theorem ofList_of_nodup {entries : List (κ × α)} (nodup : (entries.map Prod.fst).Nodup) :
    (ofList entries : OrderedMap κ α) = ⟨entries⟩ := by
  rw [ofList, insertMany_of_nodup (by simpa [keys, empty] using nodup)]
  rfl

end OrderedMap

end PathRouting
