import Mathlib.Algebra.BigOperators.Group.List.Basic
import Mathlib.Data.List.Induction
import Mathlib.Data.List.Nodup

/-! Tables that keep keys in insertion order and add up the weights given to each key. -/

namespace Tally

variable {κ ω : Type*} [DecidableEq κ] [AddCommMonoid ω]

/-- Add a weight to the entry of a key, opening a new entry at the end when there is none. -/
def bump (key : κ) (weight : ω) : List (κ × ω) → List (κ × ω)
  -- A missing key starts from zero.
  | [] => [(key, 0 + weight)]
  | (other, value) :: rest =>
    if other = key then (other, value + weight) :: rest
    else (other, value) :: bump key weight rest

/-- The table left after every weighted key has been added in turn. -/
def accumulate (entries : List (κ × ω)) : List (κ × ω) :=
  -- The keys keep the order in which they were first met.
  entries.foldl (fun table entry => bump entry.1 entry.2 table) []

/-- The sum of all weights given to one key. -/
def total (entries : List (κ × ω)) (key : κ) : ω :=
  ((entries.filter fun entry => entry.1 = key).map Prod.snd).sum

/-- Adding a weight changes the keys only by opening a missing entry. -/
theorem bump_keys (key : κ) (weight : ω) (table : List (κ × ω)) :
    (bump key weight table).map Prod.fst =
      if key ∈ table.map Prod.fst then table.map Prod.fst else table.map Prod.fst ++ [key] := by
  -- The induction follows the walk to the entry of the key.
  induction table with
  | nil => simp [bump]
  | cons entry rest ih =>
    by_cases same : entry.1 = key
    · simp [bump, same]
    · by_cases later : key ∈ rest.map Prod.fst
      · simp [bump, same, ih, later]
      · simp [bump, same, ih, later, Ne.symm same]

/-- Adding a weight never makes a key appear twice. -/
theorem bump_nodup {table : List (κ × ω)} (distinct : (table.map Prod.fst).Nodup) (key : κ)
    (weight : ω) : ((bump key weight table).map Prod.fst).Nodup := by
  -- The keys are unchanged, or they gain one that was absent.
  rw [bump_keys]
  split
  · exact distinct
  · rename_i absent
    exact List.nodup_append.mpr ⟨distinct, List.nodup_singleton _, by
      rintro first present second only rfl
      exact absent (List.mem_singleton.mp only ▸ present)⟩

/-- One more entry is added to the table of the entries before it. -/
theorem accumulate_concat (entries : List (κ × ω)) (entry : κ × ω) :
    accumulate (entries ++ [entry]) = bump entry.1 entry.2 (accumulate entries) := by
  simp [accumulate]

/-- The accumulated table holds each key once. -/
theorem accumulate_nodup (entries : List (κ × ω)) :
    ((accumulate entries).map Prod.fst).Nodup := by
  -- The induction is on the last entry, which is the one added last.
  induction entries using List.reverseRecOn with
  | nil => simp [accumulate]
  | append_singleton entries entry ih =>
    rw [accumulate_concat]
    exact bump_nodup ih _ _

/-- The keys of the table are the keys that were given a weight. -/
theorem mem_accumulate_keys {entries : List (κ × ω)} {key : κ} :
    key ∈ (accumulate entries).map Prod.fst ↔ key ∈ entries.map Prod.fst := by
  -- The last entry opens its key, or finds it open already.
  induction entries using List.reverseRecOn with
  | nil => simp [accumulate]
  | append_singleton entries entry ih =>
    rw [accumulate_concat, bump_keys, List.map_append, List.mem_append, ← ih]
    by_cases present : entry.1 ∈ (accumulate entries).map Prod.fst
    · rw [if_pos present]
      constructor
      · exact Or.inl
      · rintro (held | fresh)
        · exact held
        · simp only [List.map_cons, List.map_nil, List.mem_singleton] at fresh
          exact fresh ▸ present
    · rw [if_neg present, List.mem_append]
      simp

/-- The keys of the table stand in the order in which they were first given a weight. -/
theorem accumulate_keys_pairwise (entries : List (κ × ω)) :
    ((accumulate entries).map Prod.fst).Pairwise fun first second =>
      (entries.map Prod.fst).idxOf first < (entries.map Prod.fst).idxOf second := by
  induction entries using List.reverseRecOn with
  | nil => simp [accumulate]
  | append_singleton entries entry ih =>
    -- The keys met before are first met where they were, and a new key is met last.
    have kept : ∀ key ∈ (accumulate entries).map Prod.fst,
        ((entries ++ [entry]).map Prod.fst).idxOf key = (entries.map Prod.fst).idxOf key := by
      intro key member
      rw [List.map_append]
      exact List.idxOf_append_of_mem (mem_accumulate_keys.mp member)
    have before : ((accumulate entries).map Prod.fst).Pairwise fun first second =>
        ((entries ++ [entry]).map Prod.fst).idxOf first <
          ((entries ++ [entry]).map Prod.fst).idxOf second := by
      refine ih.imp_of_mem fun {first second} left right earlier => ?_
      rwa [kept first left, kept second right]
    rw [accumulate_concat, bump_keys]
    split
    · exact before
    · rename_i absent
      refine List.pairwise_append.mpr ⟨before, List.pairwise_singleton _ _, ?_⟩
      intro first left second only
      rw [List.mem_singleton] at only
      subst only
      have fresh : entry.1 ∉ entries.map Prod.fst := fun met => absent (mem_accumulate_keys.mpr met)
      rw [kept first left, List.map_append, List.idxOf_append_of_notMem fresh]
      have met := List.idxOf_lt_length_iff.mpr (mem_accumulate_keys.mp left)
      omega

/-- One more weight adds to its own key and leaves every other sum alone. -/
theorem total_concat (entries : List (κ × ω)) (entry : κ × ω) (key : κ) :
    total (entries ++ [entry]) key =
      if entry.1 = key then total entries key + entry.2 else total entries key := by
  -- The new entry passes the filter of its own key only.
  by_cases same : entry.1 = key <;> simp [total, List.filter_append, same]

/-- Joined entries sum up group by group. -/
theorem total_flatMap {α : Type*} (groups : List α) (entries : α → List (κ × ω)) (key : κ) :
    total (groups.flatMap entries) key =
      (groups.map fun group => total (entries group) key).sum := by
  -- The filter and the sum both pass through the joins.
  induction groups with
  | nil => simp [total]
  | cons group rest ih =>
    have joined : total (entries group ++ rest.flatMap entries) key =
        total (entries group) key + total (rest.flatMap entries) key := by
      simp [total, List.filter_append]
    rw [List.flatMap_cons, joined, ih, List.map_cons, List.sum_cons]

/-- A key that was never given a weight has nothing to sum. -/
theorem total_of_not_mem {entries : List (κ × ω)} {key : κ}
    (absent : key ∉ entries.map Prod.fst) : total entries key = 0 := by
  -- No entry is left to sum.
  have empty : entries.filter (fun entry => entry.1 = key) = [] := by
    rw [List.filter_eq_nil_iff]
    intro entry member
    simpa using fun same : entry.1 = key => absent (same ▸ List.mem_map_of_mem member)
  simp [total, empty]

/-- A key that was given a single weight sums to that weight. -/
theorem total_of_mem {entries : List (κ × ω)} (distinct : (entries.map Prod.fst).Nodup)
    {key : κ} {weight : ω} (member : (key, weight) ∈ entries) : total entries key = weight := by
  induction entries with
  | nil => simp at member
  | cons entry rest ih =>
    obtain ⟨fresh, distinctRest⟩ := List.nodup_cons.mp distinct
    rcases List.mem_cons.mp member with rfl | later
    · -- The rest holds other keys only.
      have nothing := total_of_not_mem fresh
      simp only [total] at nothing
      simp [total, nothing]
    · have other : entry.1 ≠ key := fun same => fresh (same ▸ List.mem_map_of_mem later)
      have remaining := ih distinctRest later
      simp only [total] at remaining
      simpa [total, other] using remaining

/-- Values change only at the key that was given the weight. -/
theorem mem_bump {table : List (κ × ω)} (distinct : (table.map Prod.fst).Nodup) {key other : κ}
    {weight value : ω} :
    (other, value) ∈ bump key weight table ↔
      (other ≠ key ∧ (other, value) ∈ table) ∨
        (other = key ∧ ((∃ old, (key, old) ∈ table ∧ value = old + weight) ∨
          (key ∉ table.map Prod.fst ∧ value = weight))) := by
  induction table with
  | nil => simp [bump]
  | cons entry rest ih =>
    obtain ⟨name, stored⟩ := entry
    obtain ⟨fresh, distinctRest⟩ := List.nodup_cons.mp distinct
    have notRest : ∀ weight, (name, weight) ∉ rest := fun weight member =>
      fresh (List.mem_map.mpr ⟨_, member, rfl⟩)
    by_cases same : name = key
    · -- The entry of the key is the head, so the rest holds other keys only.
      subst same
      by_cases asked : other = name
      · subst asked
        simp [bump, notRest]
      · simp [bump, asked]
    -- The entry of the key, if any, stands further back.
    · by_cases asked : other = key
      · subst asked
        simp [bump, same, Ne.symm same, ih distinctRest]
      · simp [bump, same, asked, ih distinctRest]

/-- The table holds each weighted key together with the sum of its weights. -/
theorem mem_accumulate {entries : List (κ × ω)} {key : κ} {value : ω} :
    (key, value) ∈ accumulate entries ↔
      key ∈ entries.map Prod.fst ∧ value = total entries key := by
  induction entries using List.reverseRecOn generalizing key value with
  | nil => simp [accumulate]
  | append_singleton entries entry ih =>
    rw [accumulate_concat, mem_bump (accumulate_nodup entries), total_concat,
      mem_accumulate_keys]
    by_cases same : entry.1 = key
    · subst same
      -- The key's own sum grows by the new weight, starting from zero when it is new.
      simp only [ne_eq, not_true_eq_false, false_and, false_or, true_and, ih, if_true,
        List.map_append, List.map_cons, List.map_nil, List.mem_append, List.mem_singleton,
        or_true]
      constructor
      · rintro (⟨old, ⟨_, rfl⟩, rfl⟩ | ⟨absent, rfl⟩)
        · rfl
        · rw [total_of_not_mem absent, zero_add]
      · rintro rfl
        by_cases present : entry.1 ∈ entries.map Prod.fst
        · exact Or.inl ⟨_, ⟨present, rfl⟩, rfl⟩
        · exact Or.inr ⟨present, by rw [total_of_not_mem present, zero_add]⟩
    · have asked : key ≠ entry.1 := fun h => same h.symm
      simp [asked, same, ih]

end Tally
