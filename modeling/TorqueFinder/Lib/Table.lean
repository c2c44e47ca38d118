import Mathlib.Data.List.Nodup

/-! Lists of rows kept duplicate-free under a key. -/

namespace Table

variable {ρ κ : Type*} {rows : List ρ} {row : ρ} {key : ρ → κ}

/-- A row with a new key can be added at the end. -/
theorem nodup_concat (distinct : (rows.map key).Nodup) (fresh : ∀ old ∈ rows, key old ≠ key row) :
    ((rows ++ [row]).map key).Nodup := by
  -- Only the new key could repeat, and it is fresh.
  rw [List.map_append, List.nodup_append]
  refine ⟨distinct, List.nodup_singleton _, ?_⟩
  rintro _ present _ new rfl
  obtain ⟨old, member, same⟩ := List.mem_map.mp present
  exact fresh old member (same.trans (List.mem_singleton.mp new))

/-- A property of all rows is kept by adding a row that has it. -/
theorem forall_concat {property : ρ → Prop} (all : ∀ old ∈ rows, property old)
    (last : property row) : ∀ member ∈ rows ++ [row], property member :=
  List.forall_mem_append.mpr ⟨all, List.forall_mem_singleton.mpr last⟩

/-- Dropping rows keeps the rest duplicate-free under the key. -/
theorem nodup_filter (distinct : (rows.map key).Nodup) (keep : ρ → Bool) :
    ((rows.filter keep).map key).Nodup :=
  distinct.sublist (List.filter_sublist.map key)

/-- Two rows with the same key are the same row. -/
theorem eq_of_key (distinct : (rows.map key).Nodup) {first second : ρ} (left : first ∈ rows)
    (right : second ∈ rows) (same : key first = key second) : first = second :=
  List.inj_on_of_nodup_map distinct left right same

/-- Lists of rows with the same keys in the same order are the same list. -/
theorem eq_of_keys (distinct : (rows.map key).Nodup) {left right : List ρ} (leftRows : left ⊆ rows)
    (rightRows : right ⊆ rows) (same : left.map key = right.map key) : left = right := by
  -- The heads agree by their keys, and so do the tails.
  induction left generalizing right with
  | nil => exact (List.map_eq_nil_iff.mp same.symm).symm
  | cons first rest ih =>
    obtain ⟨other, others, rfl, headSame, tailSame⟩ := List.map_eq_cons_iff.mp same.symm
    obtain ⟨firstRow, restRows⟩ := List.cons_subset.mp leftRows
    obtain ⟨otherRow, otherRows⟩ := List.cons_subset.mp rightRows
    rw [eq_of_key distinct firstRow otherRow headSame.symm, ih restRows otherRows tailSame.symm]

/-- A test that only rows with one key pass finds any row that passes it. -/
theorem find?_key_iff (distinct : (rows.map key).Nodup) (name : κ) {test : ρ → Bool}
    (tests : ∀ other, test other = true → key other = name) :
    rows.find? test = some row ↔ row ∈ rows ∧ test row = true := by
  constructor
  · intro found
    exact ⟨List.mem_of_find?_eq_some found, List.find?_some found⟩
  · intro passes
    obtain ⟨member, passed⟩ := passes
    -- Some row is found, and it has the same key.
    cases found : rows.find? test with
    | none => exact absurd passed (List.find?_eq_none.mp found row member)
    | some other =>
      have same := (tests other (List.find?_some found)).trans (tests row passed).symm
      rw [eq_of_key distinct (List.mem_of_find?_eq_some found) member same]

/-- What a test for one key finds does not depend on the order of the rows. -/
theorem find?_perm (distinct : (rows.map key).Nodup) {others : List ρ} (same : rows.Perm others)
    (name : κ) {test : ρ → Bool} (tests : ∀ other, test other = true → key other = name) :
    rows.find? test = others.find? test := by
  have distinctOthers : (others.map key).Nodup := (same.map key).nodup_iff.mp distinct
  refine Option.ext fun row => ?_
  -- Both find the one row that passes.
  rw [find?_key_iff distinct name tests, find?_key_iff distinctOthers name tests, same.mem_iff]

/-- Keeping the rows with the key of one row keeps that row only. -/
theorem filter_key [DecidableEq κ] (distinct : (rows.map key).Nodup) (member : row ∈ rows) :
    rows.filter (fun other => key other = key row) = [row] := by
  -- The kept keys are the copies of that key, and there is one.
  refine eq_of_keys distinct (List.filter_subset_self _) (by simpa using member) ?_
  have once : (rows.map key).count (key row) = 1 :=
    List.count_eq_one_of_mem distinct (List.mem_map_of_mem member)
  calc (rows.filter fun other => key other = key row).map key
      = (rows.map key).filter (fun name => name = key row) := by rw [List.filter_map]; rfl
    _ = List.replicate ((rows.map key).count (key row)) (key row) := List.filter_eq _
    _ = [row].map key := by rw [once]; rfl

/-- The last row that passes a test has no row behind it that does. -/
theorem find?_reverse_eq_some {test : ρ → Bool} :
    rows.reverse.find? test = some row ↔
      ∃ front back, rows = front ++ row :: back ∧ test row = true ∧
        ∀ later ∈ back, test later = false := by
  -- Backwards, the rows behind the last match come before it.
  rw [List.find?_eq_some_iff_append]
  constructor
  · intro found
    obtain ⟨passes, behind, before, split, fail⟩ := found
    refine ⟨before.reverse, behind.reverse, ?_, passes, fun later member => ?_⟩
    · rw [← List.reverse_reverse rows, split]
      simp
    · simpa using fail later (List.mem_reverse.mp member)
  · intro last
    obtain ⟨front, back, rfl, passes, fail⟩ := last
    refine ⟨passes, back.reverse, front.reverse, by simp, fun later member => ?_⟩
    simpa using fail later (List.mem_reverse.mp member)

/-- Behind any older rows, rows with distinct keys are each the last one with its key. -/
theorem find?_reverse_append_key [DecidableEq κ] (distinct : (rows.map key).Nodup)
    (member : row ∈ rows) (older : List ρ) :
    (older ++ rows).reverse.find? (fun other => key other = key row) = some row := by
  -- The row is split off, and no other one has its key.
  obtain ⟨front, back, rfl⟩ := List.append_of_mem member
  refine find?_reverse_eq_some.mpr ⟨older ++ front, back, by simp, by simp, fun later behind => ?_⟩
  rw [List.map_append, List.map_cons, List.nodup_middle, List.nodup_cons] at distinct
  have other : key later ≠ key row := by
    intro same
    exact distinct.1 (List.mem_append_right _ (same ▸ List.mem_map_of_mem behind))
  simpa using other

end Table
