import Mathlib.Data.List.Chain
import Mathlib.Algebra.BigOperators.Group.List.Basic
import Mathlib.Algebra.GroupWithZero.Nat

/-! Cutting a list into batches, each filled until the next item no longer fits. -/

namespace Batching

/-- What limits a batch: the number of its items, and their weight altogether. -/
structure Limits (α : Type*) where
  weight : α → Nat
  maxCount : Nat
  maxWeight : Nat
  maxCount_pos : 0 < maxCount

variable {α : Type*} (limits : Limits α)

namespace Limits

/-- The weight of a batch. -/
def load (batch : List α) : Nat := (batch.map limits.weight).sum

/-- An item exceeds a limit behind a batch. -/
def Exceeds (batch : List α) (item : α) : Prop :=
  limits.maxCount ≤ batch.length ∨ limits.maxWeight < limits.load batch + limits.weight item

/-- A batch keeps the limits, and has an item. -/
structure Fits (batch : List α) : Prop where
  nonempty : batch ≠ []
  few : batch.length ≤ limits.maxCount
  light : limits.load batch ≤ limits.maxWeight

/-- The first item of one batch exceeds a limit behind another one. -/
def Unmergeable (first second : List α) : Prop := ∀ item ∈ second.head?, limits.Exceeds first item

/-- Whether an item exceeds a limit is decided by the two comparisons. -/
instance (batch : List α) (item : α) : Decidable (limits.Exceeds batch item) :=
  inferInstanceAs (Decidable (_ ∨ _))

/-- The batches of some items behind a batch that is begun. -/
def fill : List α → List α → List (List α)
  | batch, [] => if batch = [] then [] else [batch]
  | batch, item :: rest =>
    -- A batch is closed only by an item that it has no room for, and never while empty.
    if batch ≠ [] ∧ limits.Exceeds batch item then batch :: fill [item] rest
    else fill (batch ++ [item]) rest

variable {limits} {batch items : List α} {item : α}

/-- An empty batch has no weight. -/
@[simp] theorem load_nil : limits.load [] = 0 := rfl

/-- The last item adds its weight. -/
@[simp] theorem load_concat :
    limits.load (batch ++ [item]) = limits.load batch + limits.weight item := by
  simp [load]

/-- An item that is light enough is a batch of its own. -/
theorem fits_singleton (light : limits.weight item ≤ limits.maxWeight) : limits.Fits [item] :=
  -- A batch of one is within the count, which is never zero.
  { nonempty := List.cons_ne_nil _ _
    few := limits.maxCount_pos
    light := by simpa [load] using light }

/-- A batch still fits with an item that exceeds no limit behind it. -/
theorem fits_concat (room : ¬ limits.Exceeds batch item) : limits.Fits (batch ++ [item]) := by
  -- Both comparisons went the other way.
  obtain ⟨few, light⟩ := not_or.mp room
  exact
    { nonempty := List.append_ne_nil_of_right_ne_nil _ (List.cons_ne_nil _ _)
      few := by
        rw [List.length_append, List.length_singleton]
        exact not_le.mp few
      light := by
        rw [load_concat]
        exact not_lt.mp light }

variable (limits) in
/-- The batches hold the items in their order, and no other. -/
theorem flatten_fill (batch items : List α) :
    (limits.fill batch items).flatten = batch ++ items := by
  -- An item closes the batch in front of it or goes into it.
  induction items generalizing batch with
  | nil =>
    rw [fill]
    split
    · rename_i empty
      rw [empty]
      rfl
    · simp
  | cons item rest ih =>
    rw [fill]
    split
    · rw [List.flatten_cons, ih, List.singleton_append]
    · rw [ih, List.append_assoc, List.singleton_append]

/-- Items that are light enough on their own are put into batches that fit. -/
theorem fits_of_mem_fill (begun : batch = [] ∨ limits.Fits batch)
    (light : ∀ item ∈ items, limits.weight item ≤ limits.maxWeight) :
    ∀ filled ∈ limits.fill batch items, limits.Fits filled := by
  induction items generalizing batch with
  | nil =>
    intro filled member
    rw [fill] at member
    split at member
    · cases member
    · rename_i nonempty
      obtain rfl := List.mem_singleton.mp member
      exact begun.resolve_left nonempty
  | cons item rest ih =>
    intro filled member
    have lightRest := fun other later => light other (List.mem_cons_of_mem _ later)
    have alone := fits_singleton (light item List.mem_cons_self)
    rw [fill] at member
    split at member
    · rename_i full
      rcases List.mem_cons.mp member with rfl | later
      · exact begun.resolve_left full.1
      · exact ih (.inr alone) lightRest filled later
    · -- The item goes into the batch, which was empty or has room for it.
      rename_i room
      refine ih (.inr ?_) lightRest filled member
      by_cases empty : batch = []
      · rw [empty]
        exact alone
      · exact fits_concat fun exceeds => room ⟨empty, exceeds⟩

/-- The first batch starts with what was begun. -/
theorem head_fill (begun : batch ≠ []) :
    ∀ filled ∈ (limits.fill batch items).head?, batch <+: filled := by
  -- The batch that is begun is closed as it is or grows at its end.
  induction items generalizing batch with
  | nil =>
    intro filled member
    rw [fill, if_neg begun] at member
    obtain rfl := Option.some.inj member
    exact List.prefix_rfl
  | cons item rest ih =>
    intro filled member
    rw [fill] at member
    split at member
    · obtain rfl := Option.some.inj member
      exact List.prefix_rfl
    · have starts := ih (List.append_ne_nil_of_left_ne_nil begun _) filled member
      exact (List.prefix_append batch [item]).trans starts

/-- The first item of each batch exceeds a limit behind the batch before it. -/
theorem fill_unmergeable (batch items : List α) :
    (limits.fill batch items).IsChain limits.Unmergeable := by
  induction items generalizing batch with
  | nil =>
    rw [fill]
    split
    · exact .nil
    · exact .singleton _
  | cons item rest ih =>
    rw [fill]
    split
    · -- The batch behind starts with the item that did not fit.
      rename_i full
      refine List.isChain_cons.mpr ⟨fun filled member => ?_, ih [item]⟩
      obtain ⟨others, rfl⟩ := head_fill (List.cons_ne_nil _ _) filled member
      intro first head
      obtain rfl := Option.some.inj head
      exact full.2
    · exact ih _

end Limits

end Batching
