/-!
# Dictionaries

A finite map from keys to values.  A key keeps the place of its first
insertion, so that the order of the entries can be relied upon.
-/

namespace ToolBridge

/-- A finite map as a list of entries, at most one a key. -/
structure Dict (κ α : Type) where
  entries : List (κ × α) := []
  distinct : (entries.map Prod.fst).Nodup := by exact List.nodup_nil
  deriving DecidableEq, Repr

namespace Dict

variable {κ α : Type} [DecidableEq κ]

def empty : Dict κ α := {}

/-- The value that a list of entries has for a key. -/
def lookup (key : κ) : List (κ × α) → Option α
  | [] => none
  | entry :: rest => if entry.1 = key then some entry.2 else lookup key rest

def get? (dict : Dict κ α) (key : κ) : Option α :=
  lookup key dict.entries

/-- Put a value in the place of the key's entry, or at the end. -/
def put (key : κ) (value : α) : List (κ × α) → List (κ × α)
  | [] => [(key, value)]
  | entry :: rest =>
      if entry.1 = key then (key, value) :: rest else entry :: put key value rest

theorem mem_keys_put {entries : List (κ × α)} {key other : κ} {value : α} :
    other ∈ (put key value entries).map Prod.fst ↔
      other = key ∨ other ∈ entries.map Prod.fst := by
  induction entries with
  | nil => simp [put]
  | cons entry rest ih =>
      by_cases same : entry.1 = key
      · simp [put, same]
      · simp only [put, if_neg same, List.map_cons, List.mem_cons, ih]
        exact or_left_comm

theorem nodup_keys_put {entries : List (κ × α)} (key : κ) (value : α)
    (distinct : (entries.map Prod.fst).Nodup) :
    ((put key value entries).map Prod.fst).Nodup := by
  induction entries with
  | nil => simp [put]
  | cons entry rest ih =>
      obtain ⟨fresh, restDistinct⟩ := List.nodup_cons.mp distinct
      by_cases same : entry.1 = key
      · rw [put, if_pos same]
        exact List.nodup_cons.mpr ⟨same ▸ fresh, restDistinct⟩
      · rw [put, if_neg same]
        refine List.nodup_cons.mpr ⟨?_, ih restDistinct⟩
        rw [mem_keys_put]
        rintro (equal | member)
        · exact same equal
        · exact fresh member

def insert (dict : Dict κ α) (key : κ) (value : α) : Dict κ α :=
  ⟨put key value dict.entries, nodup_keys_put key value dict.distinct⟩

def erase (dict : Dict κ α) (key : κ) : Dict κ α :=
  ⟨dict.entries.filter fun entry => decide (entry.1 ≠ key),
    dict.distinct.sublist (List.filter_sublist.map Prod.fst)⟩

def mapValues (change : α → α) (dict : Dict κ α) : Dict κ α :=
  ⟨dict.entries.map fun entry => (entry.1, change entry.2), by
    simpa [List.map_map, Function.comp_def] using dict.distinct⟩

def contains (dict : Dict κ α) (key : κ) : Bool :=
  (dict.get? key).isSome

/-- The keys, in the order of their first insertion. -/
def keys (dict : Dict κ α) : List κ :=
  dict.entries.map Prod.fst

/-- The values, in the order of their keys. -/
def values (dict : Dict κ α) : List α :=
  dict.entries.map Prod.snd

theorem lookup_put (entries : List (κ × α)) (key other : κ) (value : α) :
    lookup other (put key value entries) =
      if key = other then some value else lookup other entries := by
  induction entries with
  | nil => simp [put, lookup]
  | cons entry rest ih =>
      by_cases same : entry.1 = key
      · by_cases equal : key = other <;> simp [put, lookup, same, equal]
      · by_cases here : entry.1 = other
        · have different : key ≠ other := fun equal =>
            same (here.trans equal.symm)
          simp only [put, if_neg same, lookup, if_pos here, if_neg different]
        · simp only [put, if_neg same, lookup, if_neg here, ih]

theorem lookup_filter_ne (entries : List (κ × α)) (key other : κ) :
    lookup other (entries.filter fun entry => decide (entry.1 ≠ key)) =
      if key = other then none else lookup other entries := by
  induction entries with
  | nil => simp [lookup]
  | cons entry rest ih =>
      by_cases same : entry.1 = key
      · rw [List.filter_cons_of_neg (by simp [same]), ih]
        by_cases equal : key = other
        · simp [equal]
        · have different : entry.1 ≠ other := fun found =>
            equal (same.symm.trans found)
          simp only [if_neg equal, lookup, if_neg different]
      · rw [List.filter_cons_of_pos (by simp [same])]
        by_cases here : entry.1 = other
        · have different : key ≠ other := fun equal =>
            same (here.trans equal.symm)
          simp only [lookup, if_pos here, if_neg different]
        · simp only [lookup, if_neg here, ih]

theorem lookup_map (change : α → α) (entries : List (κ × α)) (key : κ) :
    lookup key (entries.map fun entry => (entry.1, change entry.2)) =
      (lookup key entries).map change := by
  induction entries with
  | nil => rfl
  | cons entry rest ih =>
      by_cases here : entry.1 = key <;> simp [lookup, here, ih]

theorem lookup_eq_some_iff {entries : List (κ × α)} {key : κ} {value : α}
    (distinct : (entries.map Prod.fst).Nodup) :
    lookup key entries = some value ↔ (key, value) ∈ entries := by
  induction entries with
  | nil => simp [lookup]
  | cons entry rest ih =>
      obtain ⟨fresh, restDistinct⟩ := List.nodup_cons.mp distinct
      by_cases same : entry.1 = key
      · have absent : (key, value) ∉ rest := fun member =>
          fresh (same ▸ List.mem_map_of_mem member)
        subst same
        simp [lookup, absent, Prod.ext_iff, eq_comm]
      · have different : (key, value) ≠ entry := fun equal =>
          same (equal ▸ rfl)
        rw [lookup, if_neg same, ih restDistinct]
        simp [different]

theorem get?_eq_some_iff {dict : Dict κ α} {key : κ} {value : α} :
    dict.get? key = some value ↔ (key, value) ∈ dict.entries :=
  lookup_eq_some_iff dict.distinct

theorem mem_values_iff {dict : Dict κ α} {value : α} :
    value ∈ dict.values ↔ ∃ key, dict.get? key = some value := by
  simp [values, get?_eq_some_iff]

@[simp] theorem get?_empty (key : κ) : (empty : Dict κ α).get? key = none :=
  rfl

theorem get?_insert (dict : Dict κ α) (key other : κ) (value : α) :
    (dict.insert key value).get? other =
      if key = other then some value else dict.get? other :=
  lookup_put dict.entries key other value

@[simp] theorem get?_insert_self (dict : Dict κ α) (key : κ) (value : α) :
    (dict.insert key value).get? key = some value := by
  simp [get?_insert]

theorem get?_erase (dict : Dict κ α) (key other : κ) :
    (dict.erase key).get? other =
      if key = other then none else dict.get? other :=
  lookup_filter_ne dict.entries key other

@[simp] theorem get?_erase_self (dict : Dict κ α) (key : κ) :
    (dict.erase key).get? key = none := by
  simp [get?_erase]

theorem get?_mapValues (change : α → α) (dict : Dict κ α) (key : κ) :
    (dict.mapValues change).get? key = (dict.get? key).map change :=
  lookup_map change dict.entries key

end Dict

end ToolBridge
