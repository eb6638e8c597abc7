/-!
# Tables

Finite maps as lists of pairs in which no key stands twice. A new key goes to the end, and a key
that is there already keeps its place when its value changes.

What a table does is said by `get?`: each operation has one lemma about it, and `mem_entries_iff`
ties it to the pairs.
-/

namespace LongPoll

/-- A finite map. -/
structure Table (κ ν : Type) where
  /-- The keys with their values. -/
  entries : List (κ × ν)
  /-- No key stands twice. -/
  nodup_keys : (entries.map Prod.fst).Nodup

namespace Table

variable {κ ν μ : Type}

/-- The table without entries. -/
def empty : Table κ ν := ⟨[], List.nodup_nil⟩

instance : EmptyCollection (Table κ ν) := ⟨empty⟩

instance : Inhabited (Table κ ν) := ⟨empty⟩

/-- The number of entries. -/
def size (t : Table κ ν) : Nat := t.entries.length

/-- Whether there is no entry. -/
def isEmpty (t : Table κ ν) : Bool := t.entries.isEmpty

/-- The keys in order. -/
def keys (t : Table κ ν) : List κ := t.entries.map Prod.fst

/-- The values in order. -/
def values (t : Table κ ν) : List ν := t.entries.map Prod.snd

/-- The entries that satisfy `p`. -/
def filter (p : κ → ν → Bool) (t : Table κ ν) : Table κ ν :=
  ⟨t.entries.filter fun (k, v) => p k v, t.nodup_keys.sublist (List.filter_sublist.map _)⟩

/-- The same keys with changed values. -/
def mapEntries (f : κ → ν → μ) (t : Table κ ν) : Table κ μ :=
  ⟨t.entries.map fun (k, v) => (k, f k v), by
    simpa only [List.map_map, Function.comp_def] using t.nodup_keys⟩

/-- The same keys with values that are changed whatever their key. -/
def map (f : ν → μ) (t : Table κ ν) : Table κ μ := t.mapEntries fun _ => f

/-- The sum of a number for each value. -/
def total (f : ν → Nat) (t : Table κ ν) : Nat :=
  t.entries.foldr (fun (_, v) n => f v + n) 0

variable [DecidableEq κ]

/-- The value of a key in a list of pairs. -/
def lookUp? (k : κ) : List (κ × ν) → Option ν
  | [] => none
  | (k', v) :: rest => if k' = k then some v else lookUp? k rest

/-- The value of a key. -/
def get? (t : Table κ ν) (k : κ) : Option ν := lookUp? k t.entries

/-- Whether the key has a value. -/
def contains (t : Table κ ν) (k : κ) : Bool := (t.get? k).isSome

/-- A list of pairs with the value of a key replaced, or added at the end. -/
def put (k : κ) (v : ν) : List (κ × ν) → List (κ × ν)
  | [] => [(k, v)]
  | (k', v') :: rest => if k' = k then (k, v) :: rest else (k', v') :: put k v rest

/-- Putting adds one key and takes none away. -/
theorem mem_keys_put {k k' : κ} {v : ν} {entries : List (κ × ν)} :
    k' ∈ (put k v entries).map Prod.fst ↔ k' = k ∨ k' ∈ entries.map Prod.fst := by
  induction entries with
  | nil => simp [put]
  | cons e rest ih =>
    by_cases h : e.1 = k
    · simp [put, h]
    · simp only [put, h, if_false, List.map_cons, List.mem_cons, ih]
      exact or_left_comm

/-- Putting keeps keys from standing twice. -/
theorem nodup_keys_put (k : κ) (v : ν) {entries : List (κ × ν)}
    (h : (entries.map Prod.fst).Nodup) : ((put k v entries).map Prod.fst).Nodup := by
  induction entries with
  | nil => simp [put]
  | cons e rest ih =>
    obtain ⟨hnot, hrest⟩ := List.nodup_cons.mp h
    by_cases hk : e.1 = k
    · subst hk
      simpa [put] using h
    · simp only [put, hk, if_false, List.map_cons, List.nodup_cons]
      refine ⟨fun hmem => ?_, ih hrest⟩
      rcases mem_keys_put.mp hmem with heq | hin
      · exact hk heq
      · exact hnot hin

/-- The table in which the key has the value. -/
def insert (t : Table κ ν) (k : κ) (v : ν) : Table κ ν :=
  ⟨put k v t.entries, nodup_keys_put k v t.nodup_keys⟩

/-- The table without the key. -/
def erase (t : Table κ ν) (k : κ) : Table κ ν := t.filter fun k' _ => k' ≠ k

/-- The table with the value of the key changed, if it has one. -/
def modify (t : Table κ ν) (k : κ) (f : ν → ν) : Table κ ν :=
  match t.get? k with
  | some v => t.insert k (f v)
  | none => t

/-! ## Looking up -/

/-- A key has the value that was put there. -/
@[simp]
theorem lookUp?_put_self (k : κ) (v : ν) (entries : List (κ × ν)) :
    lookUp? k (put k v entries) = some v := by
  induction entries with
  | nil => simp [put, lookUp?]
  | cons e rest ih => by_cases h : e.1 = k <;> simp [put, lookUp?, h, ih]

/-- Putting for one key leaves the others alone. -/
theorem lookUp?_put_of_ne {k k' : κ} (h : k' ≠ k) (v : ν) (entries : List (κ × ν)) :
    lookUp? k (put k' v entries) = lookUp? k entries := by
  induction entries with
  | nil => simp [put, lookUp?, h]
  | cons e rest ih =>
    obtain ⟨key, value⟩ := e
    by_cases h' : key = k'
    · simp [put, lookUp?, h', h]
    · by_cases hk : key = k
      · subst hk
        simp [put, lookUp?, h']
      · simp [put, lookUp?, h', hk, ih]

/-- Of two values put for one key the second stays. -/
theorem put_put (k : κ) (v v' : ν) (entries : List (κ × ν)) :
    put k v' (put k v entries) = put k v' entries := by
  induction entries with
  | nil => simp [put]
  | cons e rest ih => by_cases h : e.1 = k <;> simp [put, h, ih]

/-- Putting the value that a key has changes nothing. -/
theorem put_of_lookUp? {k : κ} {v : ν} {entries : List (κ × ν)}
    (h : lookUp? k entries = some v) : put k v entries = entries := by
  induction entries with
  | nil => simp [lookUp?] at h
  | cons e rest ih =>
    obtain ⟨key, value⟩ := e
    by_cases hk : key = k
    · simp_all [lookUp?, put]
    · simp only [lookUp?, hk, if_false] at h
      simp [put, hk, ih h]

/-- Looking up finds pairs of the list. -/
theorem mem_of_lookUp? {k : κ} {v : ν} {entries : List (κ × ν)}
    (h : lookUp? k entries = some v) : (k, v) ∈ entries := by
  induction entries with
  | nil => simp [lookUp?] at h
  | cons e rest ih =>
    obtain ⟨key, value⟩ := e
    by_cases hk : key = k
    · simp_all [lookUp?]
    · simp only [lookUp?, hk, if_false] at h
      exact List.mem_cons_of_mem _ (ih h)

/-- Where no key stands twice, looking up finds exactly the pairs of the list. -/
theorem lookUp?_eq_some_iff {entries : List (κ × ν)} (h : (entries.map Prod.fst).Nodup) {k : κ}
    {v : ν} : lookUp? k entries = some v ↔ (k, v) ∈ entries := by
  induction entries with
  | nil => simp [lookUp?]
  | cons e rest ih =>
    obtain ⟨key, value⟩ := e
    obtain ⟨hnot, hrest⟩ := List.nodup_cons.mp h
    by_cases hk : key = k
    · subst hk
      have hout : (key, v) ∉ rest := fun hin => hnot (List.mem_map.mpr ⟨_, hin, rfl⟩)
      simp [lookUp?, hout, eq_comm]
    · have hne : k ≠ key := fun heq => hk heq.symm
      simp [lookUp?, hk, hne, ih hrest]

/-- The pairs of a table are its keys with the values found for them. -/
theorem mem_entries_iff {t : Table κ ν} {k : κ} {v : ν} :
    (k, v) ∈ t.entries ↔ t.get? k = some v :=
  (lookUp?_eq_some_iff t.nodup_keys).symm

theorem mem_values_iff {t : Table κ ν} {v : ν} : v ∈ t.values ↔ ∃ k, t.get? k = some v := by
  simp only [values, List.mem_map, Prod.exists, exists_eq_right, mem_entries_iff]

/-- A feature that tells the keys apart is a different one for each value. -/
theorem nodup_map_values {t : Table κ ν} {f : ν → μ}
    (h : ∀ {k k' v v'}, t.get? k = some v → t.get? k' = some v' → f v = f v' → k = k') :
    (t.values.map f).Nodup := by
  rw [values, List.map_map]
  refine List.pairwise_map.mpr ((List.pairwise_map.mp t.nodup_keys).imp_of_mem ?_)
  intro e e' he he' hne heq
  exact hne (h (mem_entries_iff.mp he) (mem_entries_iff.mp he') heq)

theorem mem_keys_iff {t : Table κ ν} {k : κ} : k ∈ t.keys ↔ ∃ v, t.get? k = some v := by
  simp only [keys, List.mem_map, Prod.exists, exists_and_right, exists_eq_right, mem_entries_iff]

@[simp]
theorem get?_empty (k : κ) : (∅ : Table κ ν).get? k = none := rfl

/-- A key has the value that was inserted for it. -/
@[simp]
theorem get?_insert_self (t : Table κ ν) (k : κ) (v : ν) : (t.insert k v).get? k = some v :=
  lookUp?_put_self k v t.entries

/-- Inserting for one key leaves the others alone. -/
theorem get?_insert_of_ne (t : Table κ ν) {k k' : κ} (h : k' ≠ k) (v : ν) :
    (t.insert k' v).get? k = t.get? k :=
  lookUp?_put_of_ne h v t.entries

/-- What every key has once a value was inserted for one. -/
theorem get?_insert (t : Table κ ν) (k k' : κ) (v : ν) :
    (t.insert k v).get? k' = if k = k' then some v else t.get? k' := by
  by_cases h : k = k'
  · subst h
    simp
  · rw [get?_insert_of_ne t h, if_neg h]

/-- Of two values inserted for one key the second stays. -/
@[simp]
theorem insert_insert (t : Table κ ν) (k : κ) (v v' : ν) :
    (t.insert k v).insert k v' = t.insert k v' := by
  simp only [insert, put_put]

/-- Inserting the value that a key has changes nothing. -/
theorem insert_of_get? {t : Table κ ν} {k : κ} {v : ν} (h : t.get? k = some v) :
    t.insert k v = t := by
  simp only [insert, put_of_lookUp? h]

/-- A filter looks at each key and its value. -/
theorem get?_filter (p : κ → ν → Bool) (t : Table κ ν) (k : κ) :
    (t.filter p).get? k = (t.get? k).filter (p k) := by
  refine Option.ext fun v => ?_
  rw [← mem_entries_iff, Option.filter_eq_some_iff, ← mem_entries_iff]
  simp [filter]

/-- A key has its changed value. -/
theorem get?_mapEntries (f : κ → ν → μ) (t : Table κ ν) (k : κ) :
    (t.mapEntries f).get? k = (t.get? k).map (f k) := by
  refine Option.ext fun v => ?_
  rw [← mem_entries_iff, Option.map_eq_some_iff]
  simp only [mapEntries, List.mem_map, Prod.mk.injEq, Prod.exists, mem_entries_iff]
  constructor
  · rintro ⟨key, value, hget, rfl, rfl⟩
    exact ⟨value, hget, rfl⟩
  · rintro ⟨value, hget, rfl⟩
    exact ⟨k, value, hget, rfl, rfl⟩

/-- Functions that agree on the entries of a table change them to the same. -/
theorem mapEntries_congr {f g : κ → ν → μ} {t : Table κ ν}
    (h : ∀ k v, t.get? k = some v → f k v = g k v) : t.mapEntries f = t.mapEntries g := by
  unfold mapEntries
  congr 1
  refine List.map_congr_left fun ⟨k, v⟩ hmem => ?_
  exact congrArg (Prod.mk k) (h k v (mem_entries_iff.mp hmem))

@[simp]
theorem get?_map (f : ν → μ) (t : Table κ ν) (k : κ) :
    (t.map f).get? k = (t.get? k).map f :=
  get?_mapEntries _ t k

/-- Erasing one key leaves the others alone. -/
theorem get?_erase (t : Table κ ν) (k k' : κ) :
    (t.erase k).get? k' = if k = k' then none else t.get? k' := by
  rw [erase, get?_filter]
  by_cases h : k = k'
  · subst h
    cases t.get? k <;> simp
  · have hne : k' ≠ k := fun heq => h heq.symm
    cases t.get? k' <;> simp [h, hne]

/-- A table is empty exactly if no key has a value. -/
theorem isEmpty_iff {t : Table κ ν} : t.isEmpty = true ↔ ∀ k, t.get? k = none := by
  rw [isEmpty, List.isEmpty_iff]
  constructor
  · intro h k
    simp [get?, h, lookUp?]
  · intro h
    refine List.eq_nil_iff_forall_not_mem.mpr fun e hmem => ?_
    have hget : t.get? e.1 = some e.2 := mem_entries_iff.mp hmem
    simp [h] at hget

/-- Filters that agree on the entries of a table leave the same. -/
theorem filter_congr {p q : κ → ν → Bool} {t : Table κ ν}
    (h : ∀ k v, t.get? k = some v → p k v = q k v) : t.filter p = t.filter q := by
  unfold filter
  congr 1
  exact List.filter_congr fun e he => h e.1 e.2 (mem_entries_iff.mp he)

/-- A filter that every entry passes changes nothing. -/
theorem filter_eq_self {p : κ → ν → Bool} {t : Table κ ν}
    (h : ∀ k v, t.get? k = some v → p k v = true) : t.filter p = t := by
  unfold filter
  congr 1
  exact List.filter_eq_self.mpr fun e he => h e.1 e.2 (mem_entries_iff.mp he)

/-- A change of every entry to itself changes nothing. -/
theorem mapEntries_eq_self {f : κ → ν → ν} {t : Table κ ν}
    (h : ∀ k v, t.get? k = some v → f k v = v) : t.mapEntries f = t := by
  unfold mapEntries
  congr 1
  refine (List.map_congr_left fun e he => ?_).trans (List.map_id t.entries)
  exact Prod.ext rfl (h e.1 e.2 (mem_entries_iff.mp he))

end Table

end LongPoll
