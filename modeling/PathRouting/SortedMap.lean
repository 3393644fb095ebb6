/-!
Finite maps from texts, with their entries in order of the keys, by code point. Two maps with the
same entries are equal, whatever the order of insertion was.

Main statements: `get?_insert` and `get?_erase` (what a change does to look-up).
-/

namespace PathRouting

/-- A map from texts to values, as the list of its entries in order of the keys. -/
structure SortedMap (α : Type) where
  entries : List (String × α) := []
  deriving Repr, DecidableEq

namespace SortedMap

variable {α : Type}

/-- The map without entries. -/
def empty : SortedMap α := {}

instance : Inhabited (SortedMap α) := ⟨empty⟩

/-- The keys in order. -/
def keys (m : SortedMap α) : List String :=
  m.entries.map Prod.fst

/-- The value of a key. -/
def get? (m : SortedMap α) (key : String) : Option α :=
  m.entries.lookup key

/-- Whether the key has a value. -/
def contains (m : SortedMap α) (key : String) : Bool :=
  (m.get? key).isSome

/-- The entries with a new value for a key, before the first greater key. -/
def insertEntry (key : String) (value : α) : List (String × α) → List (String × α)
  | [] => [(key, value)]
  | e :: rest =>
    if e.1 = key then (key, value) :: rest
    else if key < e.1 then (key, value) :: e :: rest
    else e :: insertEntry key value rest

/-- The map with a new value for a key. -/
def insert (m : SortedMap α) (key : String) (value : α) : SortedMap α :=
  ⟨insertEntry key value m.entries⟩

/-- The map without the key. -/
def erase (m : SortedMap α) (key : String) : SortedMap α :=
  ⟨m.entries.filter fun e => e.1 ≠ key⟩

/-- The map with the entries inserted one after the other. -/
def insertMany (m : SortedMap α) (entries : List (String × α)) : SortedMap α :=
  entries.foldl (fun acc e => acc.insert e.1 e.2) m

/-! ### Look-up after a change -/

theorem lookup_insertEntry (key : String) (value : α) (entries : List (String × α)) (k : String) :
    (insertEntry key value entries).lookup k =
      if k = key then some value else entries.lookup k := by
  induction entries with
  | nil =>
    by_cases h : k = key
    · simp [insertEntry, h]
    · simp [insertEntry, List.lookup_cons, h, beq_eq_false_iff_ne.mpr h]
  | cons e rest ih =>
    obtain ⟨d, w⟩ := e
    by_cases hd : d = key
    · subst hd
      by_cases h : k = d
      · simp [insertEntry, h]
      · simp [insertEntry, List.lookup_cons, h, beq_eq_false_iff_ne.mpr h]
    · by_cases before : key < d
      · by_cases h : k = key
        · simp [insertEntry, hd, before, h]
        · simp [insertEntry, hd, before, h, List.lookup_cons, beq_eq_false_iff_ne.mpr h]
      · by_cases h : k = d
        · subst h
          simp [insertEntry, hd, before]
        · simp [insertEntry, List.lookup_cons, hd, before, beq_eq_false_iff_ne.mpr h, ih]

@[simp] theorem get?_empty (k : String) : (empty : SortedMap α).get? k = none := rfl

@[simp] theorem get?_insert (m : SortedMap α) (key : String) (value : α) (k : String) :
    (m.insert key value).get? k = if k = key then some value else m.get? k :=
  lookup_insertEntry key value m.entries k

@[simp] theorem get?_erase (m : SortedMap α) (key k : String) :
    (m.erase key).get? k = if k = key then none else m.get? k := by
  unfold erase get?
  induction m.entries with
  | nil => simp
  | cons e rest ih =>
    obtain ⟨d, w⟩ := e
    by_cases hd : d = key
    · subst hd
      by_cases h : k = d
      · simpa [h] using ih
      · simpa [h, List.lookup_cons, beq_eq_false_iff_ne.mpr h] using ih
    · by_cases h : k = d
      · subst h
        simp [hd]
      · simpa [List.filter_cons, hd, List.lookup_cons, beq_eq_false_iff_ne.mpr h] using ih

end SortedMap

end PathRouting
