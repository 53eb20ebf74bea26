/-!
# Maps in order of insertion

`OrderedMap β` maps texts to values of `β` and lists its entries in the order in which their keys
came in. Giving a present key a new value keeps its place; a removed key loses its place.

The main statements say this of the keys (`keys_insert`, `keys_erase`), and that `get?` reads what
was inserted last (`get?_insert`, `get?_erase`), which is an entry of the map (`mem_entries_iff`).
-/

namespace BuildScript

/-- A map from texts, in order of insertion. -/
structure OrderedMap (β : Type) where
  entries : List (String × β)
  deriving DecidableEq, Repr

namespace OrderedMap

variable {β : Type}

/-- The map without entries. -/
def empty : OrderedMap β := ⟨[]⟩

instance : Inhabited (OrderedMap β) := ⟨empty⟩

/-- Sets the value of the first entry for a key, or adds an entry at the end. -/
def insertEntry (key : String) (value : β) : List (String × β) → List (String × β)
  | [] => [(key, value)]
  | (k, v) :: rest => if k = key then (key, value) :: rest else (k, v) :: insertEntry key value rest

/-- The map with `key` bound to `value`. -/
def insert (m : OrderedMap β) (key : String) (value : β) : OrderedMap β :=
  ⟨insertEntry key value m.entries⟩

/-- The map without `key`. -/
def erase (m : OrderedMap β) (key : String) : OrderedMap β :=
  ⟨m.entries.filter fun entry => entry.1 != key⟩

/-- The value of a key. -/
def get? (m : OrderedMap β) (key : String) : Option β := m.entries.lookup key

/-- Whether a key has a value. -/
def contains (m : OrderedMap β) (key : String) : Bool := m.entries.any fun entry => entry.1 == key

/-- The keys, in order of insertion. -/
def keys (m : OrderedMap β) : List String := m.entries.map Prod.fst

/-- The number of entries. -/
def size (m : OrderedMap β) : Nat := m.entries.length

/-- Whether the map has no entry. -/
def isEmpty (m : OrderedMap β) : Bool := m.entries.isEmpty

/-- The map of a list of pairs, where a later pair wins. -/
def ofList (pairs : List (String × β)) : OrderedMap β :=
  pairs.foldl (fun m (key, value) => m.insert key value) empty

/-! ## What the operations do to keys and values -/

theorem map_fst_insertEntry (key : String) (value : β) (es : List (String × β)) :
    (insertEntry key value es).map Prod.fst =
      if key ∈ es.map Prod.fst then es.map Prod.fst else es.map Prod.fst ++ [key] := by
  induction es with
  | nil => rfl
  | cons e es ih =>
    obtain ⟨k, v⟩ := e
    by_cases h : k = key
    · simp [insertEntry, h]
    · simp only [insertEntry, h, if_false, List.map_cons, ih, List.mem_cons, Ne.symm h, false_or]
      split <;> rfl

theorem lookup_insertEntry (key k : String) (value : β) (es : List (String × β)) :
    (insertEntry key value es).lookup k = if k = key then some value else es.lookup k := by
  induction es with
  | nil =>
    by_cases h : k = key
    · simp [insertEntry, h]
    · simp [insertEntry, List.lookup_cons, h, beq_eq_false_iff_ne.2 h]
  | cons e es ih =>
    obtain ⟨k', v⟩ := e
    by_cases h : k' = key
    · subst h
      by_cases hk : k = k'
      · simp [insertEntry, hk]
      · simp [insertEntry, List.lookup_cons, hk, beq_eq_false_iff_ne.2 hk]
    · simp only [insertEntry, h, if_false, List.lookup_cons, ih]
      by_cases hk : k = key
      · subst hk
        simp [beq_eq_false_iff_ne.2 (Ne.symm h)]
      · simp [hk]

/-- A new key comes last, and a known one keeps its place. -/
theorem keys_insert (m : OrderedMap β) (key : String) (value : β) :
    (m.insert key value).keys = if key ∈ m.keys then m.keys else m.keys ++ [key] :=
  map_fst_insertEntry key value m.entries

theorem get?_insert (m : OrderedMap β) (key k : String) (value : β) :
    (m.insert key value).get? k = if k = key then some value else m.get? k :=
  lookup_insertEntry key k value m.entries

theorem keys_erase (m : OrderedMap β) (key : String) :
    (m.erase key).keys = m.keys.filter (· != key) := by
  simp [keys, erase, List.filter_map, Function.comp_def]

/-- The number of entries changes exactly if there was something to remove. -/
theorem size_erase_ne_iff (m : OrderedMap β) (key : String) :
    (m.erase key).size ≠ m.size ↔ key ∈ m.keys := by
  rw [size, size, erase, Ne, List.length_filter_eq_length_iff]
  simp [keys]

theorem erase_of_not_mem (m : OrderedMap β) {key : String} (absent : key ∉ m.keys) :
    m.erase key = m := by
  rw [erase]
  congr 1
  refine List.filter_eq_self.mpr fun entry member => ?_
  have other : entry.1 ≠ key := fun same => absent (List.mem_map.mpr ⟨entry, member, same⟩)
  simpa using other

theorem get?_erase (m : OrderedMap β) (key k : String) :
    (m.erase key).get? k = if k = key then none else m.get? k := by
  simp only [get?, erase]
  induction m.entries with
  | nil => simp
  | cons e es ih =>
    obtain ⟨k', v⟩ := e
    by_cases h : k' = key
    · subst h
      by_cases hk : k = k'
      · subst hk
        simpa using ih
      · simpa [hk, List.lookup_cons, beq_eq_false_iff_ne.2 hk] using ih
    · by_cases hk : k = k'
      · subst hk
        simp [h]
      · simp [h, List.lookup_cons, beq_eq_false_iff_ne.2 hk, ih]

/-- The entries of a map without repeated keys are what can be looked up in it. -/
theorem mem_entries_iff (m : OrderedMap β) (distinct : m.keys.Nodup)
    (key : String) (value : β) : (key, value) ∈ m.entries ↔ m.get? key = some value := by
  obtain ⟨entries⟩ := m
  simp only [keys, get?] at distinct ⊢
  induction entries with
  | nil => simp
  | cons entry entries ih =>
      obtain ⟨k, v⟩ := entry
      rw [List.map_cons, List.nodup_cons] at distinct
      rw [List.mem_cons, ih distinct.2, List.lookup_cons]
      by_cases same : key = k
      · subst same
        have absent : entries.lookup key ≠ some value := fun found =>
          distinct.1 (List.mem_map.mpr ⟨(key, value), (ih distinct.2).mpr found, rfl⟩)
        simp [absent, eq_comm]
      · simp [same, beq_eq_false_iff_ne.2 same]

end OrderedMap

end BuildScript
