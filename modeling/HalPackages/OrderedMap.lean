/-!
# Maps in order of insertion

A map that remembers the order in which its keys were first inserted.  Inserting
a key again changes its value and leaves it in its place.
-/

namespace HalPackages

/-- Keys with their values, in order of first insertion. -/
structure OrderedMap (κ ν : Type) where
  entries : List (κ × ν)

namespace OrderedMap

variable {κ ν : Type}

/-- The map without keys. -/
def empty : OrderedMap κ ν := ⟨[]⟩

instance : EmptyCollection (OrderedMap κ ν) := ⟨empty⟩

instance : Inhabited (OrderedMap κ ν) := ⟨empty⟩

/-- The keys in order of first insertion. -/
def keys (map : OrderedMap κ ν) : List κ :=
  map.entries.map Prod.fst

/-- The number of keys. -/
def size (map : OrderedMap κ ν) : Nat :=
  map.entries.length

variable [DecidableEq κ]

/-- The value of a key among entries. -/
def lookup (key : κ) : List (κ × ν) → Option ν
  | [] => none
  | (other, value) :: entries => if other = key then some value else lookup key entries

/-- The value of a key. -/
def get? (map : OrderedMap κ ν) (key : κ) : Option ν :=
  lookup key map.entries

/-- Change the value of a key in its place, or add the key after all entries. -/
def place (key : κ) (value : ν) : List (κ × ν) → List (κ × ν)
  | [] => [(key, value)]
  | (other, old) :: entries =>
    if other = key then (key, value) :: entries else (other, old) :: place key value entries

/-- Give a key a value. -/
def insert (map : OrderedMap κ ν) (key : κ) (value : ν) : OrderedMap κ ν :=
  ⟨place key value map.entries⟩

@[simp]
theorem get?_insert_self (map : OrderedMap κ ν) (key : κ) (value : ν) :
    (map.insert key value).get? key = some value := by
  obtain ⟨entries⟩ := map
  simp only [get?, insert]
  induction entries with
  | nil => simp [place, lookup]
  | cons entry entries ih => by_cases h : entry.1 = key <;> simp [place, lookup, h, ih]

theorem get?_insert_of_ne (map : OrderedMap κ ν) {key other : κ} (value : ν) (h : key ≠ other) :
    (map.insert key value).get? other = map.get? other := by
  obtain ⟨entries⟩ := map
  simp only [get?, insert]
  induction entries with
  | nil => simp [place, lookup, h]
  | cons entry entries ih =>
    by_cases hkey : entry.1 = key
    · simp [place, lookup, hkey, h]
    · by_cases hother : entry.1 = other
      · simp [place, lookup, hother, h.symm]
      · simp [place, lookup, hkey, hother, ih]

theorem get?_insert (map : OrderedMap κ ν) (key other : κ) (value : ν) :
    (map.insert key value).get? other = if key = other then some value else map.get? other := by
  by_cases h : key = other
  · subst h
    simp
  · simp [h, get?_insert_of_ne]

/-- A key has a value when it is among the keys. -/
theorem mem_keys_iff {map : OrderedMap κ ν} {key : κ} :
    key ∈ map.keys ↔ ∃ value, map.get? key = some value := by
  obtain ⟨entries⟩ := map
  simp only [keys, get?]
  induction entries with
  | nil => simp [lookup]
  | cons entry entries ih =>
    by_cases h : entry.1 = key
    · simp [lookup, h]
    · simp only [List.map_cons, List.mem_cons, Ne.symm h, false_or, lookup, h, if_false]
      exact ih

theorem get?_eq_none_iff {map : OrderedMap κ ν} {key : κ} :
    map.get? key = none ↔ key ∉ map.keys := by
  rw [mem_keys_iff]
  cases map.get? key <;> simp

/-- The keys do not change when a key gets a new value. -/
theorem keys_insert_of_mem {map : OrderedMap κ ν} {key : κ} (value : ν) (h : key ∈ map.keys) :
    (map.insert key value).keys = map.keys := by
  obtain ⟨entries⟩ := map
  simp only [keys, insert] at h ⊢
  induction entries with
  | nil => simp at h
  | cons entry entries ih =>
    by_cases hkey : entry.1 = key
    · simp [place, hkey]
    · simp only [List.map_cons, List.mem_cons, Ne.symm hkey, false_or] at h
      simp [place, hkey, ih h]

/-- A new key comes after all others. -/
theorem keys_insert_of_not_mem {map : OrderedMap κ ν} {key : κ} (value : ν) (h : key ∉ map.keys) :
    (map.insert key value).keys = map.keys ++ [key] := by
  obtain ⟨entries⟩ := map
  simp only [keys, insert] at h ⊢
  induction entries with
  | nil => simp [place]
  | cons entry entries ih =>
    simp only [List.map_cons, List.mem_cons, not_or] at h
    simp [place, Ne.symm h.1, ih h.2]

theorem keys_isPrefix_insert (map : OrderedMap κ ν) (key : κ) (value : ν) :
    map.keys <+: (map.insert key value).keys := by
  by_cases h : key ∈ map.keys
  · exact ⟨[], by rw [List.append_nil, keys_insert_of_mem value h]⟩
  · exact ⟨[key], (keys_insert_of_not_mem value h).symm⟩

theorem nodup_keys_insert {map : OrderedMap κ ν} (h : map.keys.Nodup) (key : κ) (value : ν) :
    (map.insert key value).keys.Nodup := by
  by_cases hkey : key ∈ map.keys
  · rw [keys_insert_of_mem value hkey]
    exact h
  · rw [keys_insert_of_not_mem value hkey, List.nodup_append]
    refine ⟨h, List.pairwise_singleton _ _, ?_⟩
    intro other hother other' hother' heq
    rw [List.mem_singleton.1 hother'] at heq
    exact hkey (heq ▸ hother)

/-- If no key is listed twice, what is listed for a key is its value. -/
theorem mem_entries_iff {map : OrderedMap κ ν} (h : map.keys.Nodup) {key : κ} {value : ν} :
    (key, value) ∈ map.entries ↔ map.get? key = some value := by
  obtain ⟨entries⟩ := map
  simp only [keys, get?] at h ⊢
  induction entries with
  | nil => simp [lookup]
  | cons entry entries ih =>
    rw [List.map_cons, List.nodup_cons] at h
    obtain ⟨other, old⟩ := entry
    by_cases hkey : other = key
    · subst hkey
      have hnew : (other, value) ∉ entries := fun hmem =>
        h.1 (List.mem_map.2 ⟨(other, value), hmem, rfl⟩)
      simp [lookup, hnew, eq_comm]
    · simp [lookup, hkey, Ne.symm hkey, ih h.2]

theorem mem_keys_insert {map : OrderedMap κ ν} {key other : κ} {value : ν} :
    other ∈ (map.insert key value).keys ↔ key = other ∨ other ∈ map.keys := by
  simp only [mem_keys_iff, get?_insert]
  by_cases h : key = other <;> simp [h]

end OrderedMap

end HalPackages
