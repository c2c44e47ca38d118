import Mathlib.Data.List.Perm.Basic
import Mathlib.Data.Set.Function
import TorqueFinder.Lib.Table

/-! Joins on unique keys, and rows that are numbered as they are inserted. -/

namespace Relational

variable {α β ρ τ κ : Type*}

/-- The pairs of a left and a right row that agree on their keys. -/
def join [DecidableEq κ] (leftKey : α → κ) (rightKey : β → κ) (left : List α) (right : List β) :
    List (α × β) :=
  -- Every row is paired with all partners that have its key.
  left.flatMap fun row =>
    (right.filter fun partner => rightKey partner = leftKey row).map fun partner => (row, partner)

/-- Rows built from selected ones, numbered from one in the order in which they come. -/
def insertSelect (make : Int → ρ → τ) (selected : List ρ) : List τ :=
  (selected.zipIdx 1).map fun (row, number) => make number row

/-- The number a key is given when keys are numbered from one in order. -/
def serial [DecidableEq κ] (keys : List κ) (key : κ) : Int := keys.idxOf key + 1

section Join

variable [DecidableEq κ] {leftKey : α → κ} {rightKey : β → κ} {left : List α} {right : List β}

/-- A pair is joined when both rows are there and their keys agree. -/
theorem mem_join {row : α} {partner : β} :
    (row, partner) ∈ join leftKey rightKey left right ↔
      row ∈ left ∧ partner ∈ right ∧ rightKey partner = leftKey row := by
  -- A pair is a row with a partner that passed the filter.
  simp [join]

/-- Joined to a table with unique keys that holds every key, each row is there exactly once. -/
theorem join_map_fst (unique : (right.map rightKey).Nodup)
    (referenced : ∀ row ∈ left, leftKey row ∈ right.map rightKey) :
    (join leftKey rightKey left right).map Prod.fst = left := by
  -- The induction is on the left table, whose rows have one partner each.
  induction left with
  | nil => rfl
  | cons row rest ih =>
    obtain ⟨partner, member, same⟩ := List.mem_map.mp (referenced row List.mem_cons_self)
    have later := ih fun other inside => referenced other (List.mem_cons_of_mem _ inside)
    have alone : right.filter (fun other => rightKey other = leftKey row) = [partner] := by
      rw [← same]
      exact Table.filter_key unique member
    rw [join, List.map_flatMap] at later
    rw [join, List.flatMap_cons, alone, List.map_append, List.map_flatMap, later]
    rfl

/-- Left rows that have no partner may be left out of a join. -/
theorem join_filter_left {keep : α → Bool}
    (alone : ∀ row ∈ left, keep row = false → ∀ partner ∈ right, rightKey partner ≠ leftKey row) :
    join leftKey rightKey (left.filter keep) right = join leftKey rightKey left right := by
  -- The induction is on the left table, whose dropped rows contribute nothing.
  induction left with
  | nil => rfl
  | cons row rest ih =>
    have later := ih fun other inside => alone other (List.mem_cons_of_mem _ inside)
    cases kept : keep row with
    | true =>
      rw [List.filter_cons_of_pos kept, join, join, List.flatMap_cons, List.flatMap_cons]
      exact congrArg (_ ++ ·) later
    | false =>
      have none : right.filter (fun partner => rightKey partner = leftKey row) = [] := by
        rw [List.filter_eq_nil_iff]
        intro partner member
        simpa using alone row List.mem_cons_self kept partner member
      rw [List.filter_cons_of_neg (by simp [kept]), later, join, join, List.flatMap_cons, none]
      rfl

end Join

/-- Numbering rows reads nothing but the selected ones. -/
theorem insertSelect_congr {make other : Int → ρ → τ} {selected : List ρ}
    (same : ∀ row ∈ selected, ∀ number, make number row = other number row) :
    insertSelect make selected = insertSelect other selected := by
  -- Only the numbered rows are made into rows of the table.
  refine List.map_congr_left fun pair member => ?_
  exact same pair.1 (List.fst_mem_of_mem_zipIdx member) _

section Serial

variable [DecidableEq κ]

/-- No two keys of a list are given the same number. -/
theorem serial_injOn (keys : List κ) : Set.InjOn (serial keys) {key | key ∈ keys} := by
  -- Equal numbers are equal first positions.
  intro first left second _ same
  have place : keys.idxOf first = keys.idxOf second := by
    simp only [serial] at same
    omega
  exact (List.idxOf_inj left).mp place

/-- Numbering rows with different keys is numbering their keys. -/
theorem insertSelect_eq_map {make : Int → ρ → τ} {selected : List ρ} {key : ρ → κ}
    (distinct : (selected.map key).Nodup) :
    insertSelect make selected =
      selected.map fun row => make (serial (selected.map key) (key row)) row := by
  -- The row at each place carries the key that stands there.
  refine List.ext_getElem (by simp [insertSelect]) fun place bound also => ?_
  have inside : place < (selected.map key).length := by simpa using also
  have here : (selected.map key).idxOf (selected.map key)[place] = place :=
    distinct.idxOf_getElem place inside
  rw [List.getElem_map] at here
  simp [insertSelect, serial, here, Int.add_comm]

end Serial

section Copies

variable {rows : List τ} {source : List ρ} {make : ρ → τ}

/-- A column of rearranged copies holds what the copied rows give. -/
theorem map_of_copies {μ : Type*} (column : τ → μ) (copied : rows.Perm (source.map make)) :
    (rows.map column).Perm (source.map fun row => column (make row)) := by
  -- The column of a copy is read off the row it was made of.
  have mapped := copied.map column
  rwa [List.map_map] at mapped

/-- Rearranged copies have different keys when the copied rows give different ones. -/
theorem nodup_of_copies {key : τ → κ} (copied : rows.Perm (source.map make))
    (distinct : (source.map fun row => key (make row)).Nodup) : (rows.map key).Nodup :=
  (map_of_copies key copied).nodup_iff.mpr distinct

/-- A key that is unique stays unique under a renaming that is injective on it. -/
theorem nodup_map_of_injOn {μ : Type*} {key : ρ → κ} {rename : κ → μ}
    (distinct : (source.map key).Nodup)
    (injective : Set.InjOn rename {name | name ∈ source.map key}) :
    (source.map fun row => rename (key row)).Nodup := by
  -- Different keys get different names.
  have renamed := distinct.map_on fun first left second right same => injective left right same
  rwa [List.map_map] at renamed

/-- Renaming the ids of copies again renames the keys of the copied rows injectively. -/
theorem injOn_comp_of_copies {μ : Type*} {id : τ → Int} {key : ρ → κ} {rename : κ → Int}
    {again : Int → μ} (copied : rows.Perm (source.map make))
    (numbered : ∀ row, id (make row) = rename (key row))
    (injective : Set.InjOn rename {name | name ∈ source.map key})
    (once : Set.InjOn again {name | name ∈ rows.map id}) :
    Set.InjOn (again ∘ rename) {name | name ∈ source.map key} := by
  refine once.comp injective fun name member => ?_
  -- The new name of a key is the id of its copy.
  obtain ⟨row, inside, rfl⟩ := List.mem_map.mp member
  rw [← numbered]
  exact List.mem_map_of_mem (copied.mem_iff.mpr (List.mem_map_of_mem inside))

/-- Copies refer to copies of what the copied rows refer to. -/
theorem owned_of_copies {μ γ σ : Type*} {parents : List γ} {parentCopies : List σ}
    {makeParent : γ → σ} {reference : ρ → κ} {parentKey : γ → κ} {rename : κ → μ}
    {copyReference : τ → μ} {copyKey : σ → μ} (copied : rows.Perm (source.map make))
    (parentsCopied : parentCopies.Perm (parents.map makeParent))
    (referenced : ∀ row ∈ source, reference row ∈ parents.map parentKey)
    (sameReference : ∀ row, copyReference (make row) = rename (reference row))
    (sameKey : ∀ parent, copyKey (makeParent parent) = rename (parentKey parent)) :
    ∀ row ∈ rows, copyReference row ∈ parentCopies.map copyKey := by
  intro row member
  -- The row is a copy, and the parent of what it copies has a copy as well.
  obtain ⟨origin, inside, rfl⟩ := List.mem_map.mp (copied.mem_iff.mp member)
  obtain ⟨parent, listed, owner⟩ := List.mem_map.mp (referenced origin inside)
  rw [sameReference, ← owner, ← sameKey]
  exact List.mem_map_of_mem (parentsCopied.mem_iff.mpr (List.mem_map_of_mem listed))

/-- Rearranged copies of different rows are in bijection with them. -/
theorem bijOn_of_copies (id : τ → Int) {key : ρ → κ} {number : κ → Int}
    (copied : rows.Perm (source.map make)) (distinct : (source.map key).Nodup)
    (injective : Set.InjOn number {name | name ∈ source.map key})
    (numbered : ∀ row, id (make row) = number (key row)) :
    Set.BijOn make {row | row ∈ source} {copy | copy ∈ rows} := by
  refine ⟨?_, ?_, ?_⟩
  · intro row member
    exact copied.mem_iff.mpr (List.mem_map_of_mem member)
  · -- Equal copies carry equal numbers, hence come from rows with equal keys.
    intro first left second right same
    have numbers : number (key first) = number (key second) := by
      rw [← numbered, ← numbered, same]
    exact Table.eq_of_key distinct left right
      (injective (List.mem_map_of_mem left) (List.mem_map_of_mem right) numbers)
  · intro copy member
    obtain ⟨row, inside, rfl⟩ := List.mem_map.mp (copied.mem_iff.mp member)
    exact ⟨row, inside, rfl⟩

end Copies

section Aggregates

variable {μ : Type*} [Max μ] [LE μ] [Std.IsLinearOrder μ] [Std.LawfulOrderMax μ]

/-- The largest value of a column does not depend on the order of the rows. -/
theorem max?_of_perm {values others : List μ} (same : values.Perm others) :
    values.max? = others.max? := by
  -- Both lists have the same members, hence the same greatest one.
  cases found : others.max? with
  | none =>
    rw [List.max?_eq_none_iff] at found ⊢
    rw [found] at same
    exact same.eq_nil
  | some greatest =>
    rw [List.max?_eq_some_iff] at found ⊢
    exact ⟨same.mem_iff.mpr found.1, fun value member => found.2 value (same.mem_iff.mp member)⟩

end Aggregates

section Chains

variable {π γ ν : Type*} [DecidableEq κ] [DecidableEq ν]

/-- Joined to their parents by id and on to the copies of these, children meet their own parents. -/
theorem join_through (make : Int → ρ → π) (copyNatural : π → ν) {parents : List ρ}
    {children : List γ} {copies : List π} {parentKey : ρ → κ} {natural : ρ → ν} {reference : γ → κ}
    {rename : κ → Int} (ids : (parents.map parentKey).Nodup)
    (naturals : (parents.map natural).Nodup)
    (referenced : ∀ child ∈ children, reference child ∈ parents.map parentKey)
    (kept : ∀ number parent, copyNatural (make number parent) = natural parent)
    (copied : copies.Perm (parents.map fun parent => make (rename (parentKey parent)) parent)) :
    ((join (fun pair : γ × ρ => natural pair.2) copyNatural
        (join reference parentKey children parents) copies).map fun row => row.1.1) = children ∧
      ∀ row ∈ join (fun pair : γ × ρ => natural pair.2) copyNatural
          (join reference parentKey children parents) copies,
        row.1.2 ∈ parents ∧ parentKey row.1.2 = reference row.1.1 ∧
          row.2 = make (rename (reference row.1.1)) row.1.2 := by
  -- Every copy goes back to a parent with the same natural key.
  have back : ∀ copy ∈ copies, ∃ parent ∈ parents,
      make (rename (parentKey parent)) parent = copy := by
    intro copy member
    obtain ⟨parent, inside, same⟩ := List.mem_map.mp (copied.mem_iff.mp member)
    exact ⟨parent, inside, same⟩
  have unique : (copies.map copyNatural).Nodup :=
    nodup_of_copies copied (by simpa only [kept] using naturals)
  have owners := join_map_fst ids referenced
  constructor
  · -- Each child has one parent, and each parent one copy.
    have held : ∀ pair ∈ join reference parentKey children parents,
        natural pair.2 ∈ copies.map copyNatural := by
      rintro ⟨child, parent⟩ member
      obtain ⟨_, inside, _⟩ := mem_join.mp member
      refine List.mem_map.mpr ⟨make (rename (parentKey parent)) parent, ?_, kept _ _⟩
      exact copied.mem_iff.mpr (List.mem_map_of_mem inside)
    have pairs := join_map_fst unique held
    calc (join _ copyNatural (join reference parentKey children parents) copies).map
          (fun row => row.1.1)
        = ((join _ copyNatural (join reference parentKey children parents) copies).map
            Prod.fst).map Prod.fst := by rw [List.map_map]; rfl
      _ = children := by rw [pairs, owners]
  · rintro ⟨⟨child, parent⟩, copy⟩ member
    obtain ⟨pair, listed, agrees⟩ := mem_join.mp member
    obtain ⟨_, inside, owner⟩ := mem_join.mp pair
    obtain ⟨origin, also, rfl⟩ := back copy listed
    rw [kept] at agrees
    -- The natural key tells the parents apart.
    obtain rfl : origin = parent := Table.eq_of_key naturals also inside agrees
    exact ⟨inside, owner, by rw [owner]⟩

/-- Rows inserted for children that are each visited once are numbered copies of the children. -/
theorem insertSelect_perm (make : Int → π → τ) (copy : Int → γ → τ) {visited joined : List π}
    {children : List γ} {first : π → γ} {key : γ → κ} (arranged : visited.Perm joined)
    (once : joined.map first = children) (distinct : (children.map key).Nodup)
    (same : ∀ row ∈ joined, ∀ number, make number row = copy number (first row)) :
    ∃ renumber : κ → Int, Set.InjOn renumber {name | name ∈ children.map key} ∧
      (insertSelect make visited).Perm
        (children.map fun child => copy (renumber (key child)) child) := by
  -- The rows are numbered in the order in which their children are visited.
  have order : (visited.map first).Perm children := once ▸ arranged.map first
  have keys : (visited.map fun row => key (first row)).Perm (children.map key) := by
    have mapped := order.map key
    rwa [List.map_map] at mapped
  refine ⟨serial (visited.map fun row => key (first row)), ?_, ?_⟩
  · have injective := serial_injOn (visited.map fun row => key (first row))
    refine injective.mono fun name member => ?_
    exact keys.mem_iff.mpr member
  · rw [insertSelect_eq_map (keys.nodup_iff.mpr distinct)]
    have copies : (visited.map fun row =>
        make (serial (visited.map fun row => key (first row)) (key (first row))) row) =
        (visited.map first).map fun child =>
          copy (serial (visited.map fun row => key (first row)) (key child)) child := by
      rw [List.map_map]
      exact List.map_congr_left fun row member => same row (arranged.mem_iff.mp member) _
    rw [copies]
    exact order.map _

end Chains

end Relational
