import TorqueFinder.Lib.Table

/-! Dictionaries that list their entries in the order the keys were first set. -/

/-- A dictionary, whose keys are different. -/
structure Dict (κ ν : Type*) where
  entries : List (κ × ν)
  keys_nodup : (entries.map Prod.fst).Nodup

namespace Dict

variable {κ ν : Type*} [DecidableEq κ]

/-- A dictionary without entries. -/
def empty : Dict κ ν where
  entries := []
  keys_nodup := List.nodup_nil

/-- The keys in the order they were first set. -/
def keys (dict : Dict κ ν) : List κ := dict.entries.map Prod.fst

/-- The values in the order of their keys. -/
def values (dict : Dict κ ν) : List ν := dict.entries.map Prod.snd

/-- The value of a key, when it has one. -/
def get? (dict : Dict κ ν) (key : κ) : Option ν :=
  (dict.entries.find? fun entry => entry.1 = key).map Prod.snd

/-- Set the value of a key, which keeps its place when it was set before. -/
def set (dict : Dict κ ν) (key : κ) (value : ν) : Dict κ ν :=
  if known : key ∈ dict.keys then
    -- A known key keeps its place, as in the dictionaries of the language.
    { entries := dict.entries.map fun entry => if entry.1 = key then (key, value) else entry
      keys_nodup := by
        have kept : ∀ entry : κ × ν, (if entry.1 = key then (key, value) else entry).1 = entry.1 :=
          fun entry => by
            split
            · rename_i same
              exact same.symm
            · rfl
        simpa [Function.comp_def, kept] using dict.keys_nodup }
  else
    -- A new key goes to the end.
    { entries := dict.entries ++ [(key, value)]
      keys_nodup := Table.nodup_concat dict.keys_nodup fun entry member same =>
        known (List.mem_map.mpr ⟨entry, member, same⟩) }

/-- Set the value of a key unless it has one. -/
def setdefault (dict : Dict κ ν) (key : κ) (value : ν) : Dict κ ν :=
  if key ∈ dict.keys then dict else dict.set key value

variable {dict : Dict κ ν} {key other : κ} {value : ν}

/-- An entry of the dictionary is the value of its key. -/
theorem get?_eq_some : dict.get? key = some value ↔ (key, value) ∈ dict.entries := by
  -- The keys are different, so the entry of a key is the one that is found.
  rw [get?, Option.map_eq_some_iff]
  constructor
  · intro found
    obtain ⟨entry, search, rfl⟩ := found
    have same : entry.1 = key := by simpa using List.find?_some search
    exact same ▸ List.mem_of_find?_eq_some search
  · intro member
    have found := (Table.find?_key_iff dict.keys_nodup key
      fun entry passed => of_decide_eq_true passed).mpr ⟨member, decide_eq_true rfl⟩
    exact ⟨(key, value), found, rfl⟩

/-- A key without a value is not among the keys. -/
theorem get?_eq_none : dict.get? key = none ↔ key ∉ dict.keys := by
  -- A search finds nothing exactly when no entry has the key.
  rw [get?, Option.map_eq_none_iff, List.find?_eq_none, keys]
  constructor
  · intro missing member
    obtain ⟨entry, present, same⟩ := List.mem_map.mp member
    exact missing entry present (decide_eq_true same)
  · intro absent entry present passed
    exact absent (List.mem_map.mpr ⟨entry, present, of_decide_eq_true passed⟩)

/-- A key with a value is one of the keys. -/
theorem mem_keys (found : dict.get? key = some value) : key ∈ dict.keys :=
  List.mem_map.mpr ⟨(key, value), get?_eq_some.mp found, rfl⟩

/-- A key that was set before keeps its place. -/
theorem entries_set_of_mem (known : key ∈ dict.keys) (value : ν) :
    (dict.set key value).entries =
      dict.entries.map fun entry => if entry.1 = key then (key, value) else entry := by
  rw [set, dif_pos known]

/-- A new key comes last. -/
theorem entries_set_of_not_mem (fresh : key ∉ dict.keys) (value : ν) :
    (dict.set key value).entries = dict.entries ++ [(key, value)] := by
  rw [set, dif_neg fresh]

/-- Setting a known key adds no key. -/
theorem keys_set_of_mem (known : key ∈ dict.keys) (value : ν) :
    (dict.set key value).keys = dict.keys := by
  -- The replaced entry keeps its key.
  rw [keys, entries_set_of_mem known, List.map_map, keys]
  refine List.map_congr_left fun entry _ => ?_
  by_cases same : entry.1 = key <;> simp [same]

/-- Setting a new key adds it behind the others. -/
theorem keys_set_of_not_mem (fresh : key ∉ dict.keys) (value : ν) :
    (dict.set key value).keys = dict.keys ++ [key] := by
  rw [keys, entries_set_of_not_mem fresh, List.map_append]
  rfl

/-- After a key is set its value is what was set. -/
theorem get?_set (dict : Dict κ ν) (key : κ) (value : ν) :
    (dict.set key value).get? key = some value := by
  -- The new entry is found, wherever it stands.
  rw [get?_eq_some]
  by_cases known : key ∈ dict.keys
  · rw [entries_set_of_mem known]
    obtain ⟨entry, member, same⟩ := List.mem_map.mp known
    exact List.mem_map.mpr ⟨entry, member, if_pos same⟩
  · rw [entries_set_of_not_mem known]
    exact List.mem_append_right _ List.mem_cons_self

/-- After a key is set the other keys have the values they had. -/
theorem get?_set_ne (different : other ≠ key) (value : ν) :
    (dict.set key value).get? other = dict.get? other := by
  -- The entries of the other key are the same before and after.
  refine Option.ext fun found => ?_
  rw [get?_eq_some, get?_eq_some]
  by_cases known : key ∈ dict.keys
  · rw [entries_set_of_mem known, List.mem_map]
    constructor
    · intro present
      obtain ⟨entry, member, same⟩ := present
      split at same
      · exact absurd (Prod.mk.inj same).1.symm different
      · exact same ▸ member
    · intro member
      exact ⟨(other, found), member, if_neg different⟩
  · rw [entries_set_of_not_mem known, List.mem_append, List.mem_singleton, or_iff_left]
    intro same
    exact different (Prod.mk.inj same).1

/-- A key that has a value keeps it, and any other key is set. -/
theorem get?_setdefault (dict : Dict κ ν) (key : κ) (value : ν) :
    (dict.setdefault key value).get? key = some ((dict.get? key).getD value) := by
  -- A value that is there is kept, and a missing one is the given value afterwards.
  unfold setdefault
  split
  · rename_i known
    cases found : dict.get? key with
    | none => exact absurd known (get?_eq_none.mp found)
    | some old => rfl
  · rename_i fresh
    rw [get?_set, get?_eq_none.mpr fresh]
    rfl

/-- Setting the default of a key leaves the other keys. -/
theorem get?_setdefault_ne (different : other ≠ key) (value : ν) :
    (dict.setdefault key value).get? other = dict.get? other := by
  -- Either nothing was written, or something under another key.
  unfold setdefault
  split
  · rfl
  · exact get?_set_ne different value

end Dict
