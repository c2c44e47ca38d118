import Mathlib.Data.List.FinRange
import Mathlib.Data.List.NodupEquivFin
import TorqueFinder.Lib.StableSort

/-! Where stable sorting puts each position of a list, also when elements repeat. -/

namespace Ranking

variable {α κ : Type*}

/-- A list rearranged into another: each position goes to one that holds the same element. -/
structure Rearrangement (list out : List α) where
  /-- Where a position goes, which no other position goes to. -/
  place : Fin list.length ≃ Fin out.length
  kept : ∀ position, out.get (place position) = list.get position

/-- A list is rearranged into itself by leaving every position in place. -/
def Rearrangement.refl (list : List α) : Rearrangement list list := ⟨Equiv.refl _, fun _ => rfl⟩

/-- In a duplicate-free list the elements stand in the order of their positions. -/
theorem precedes_get_iff {list : List α} (distinct : list.Nodup) {first second : Fin list.length} :
    Precedes list (list.get first) (list.get second) ↔ first < second := by
  -- Positions in order hold elements in order, and without repetitions not otherwise.
  have ahead : ∀ one two : Fin list.length, one < two →
      Precedes list (list.get one) (list.get two) := by
    intro one two before
    have pairwise : list.Pairwise (Precedes list) := pairwise_iff_precedes.mpr fun _ _ held => held
    exact List.pairwise_iff_get.mp pairwise one two before
  constructor
  · intro held
    by_contra behind
    rcases lt_or_eq_of_le (not_lt.mp behind) with before | same
    · exact held.asymm distinct (ahead second first before)
    · exact held.ne distinct (by rw [same])
  · exact ahead first second

/-- The positions themselves are listed in their order. -/
theorem precedes_finRange_iff {length : Nat} {first second : Fin length} :
    Precedes (List.finRange length) first second ↔ first < second := by
  -- The element at a position of this list is the position.
  have read : ∀ position : Fin length,
      (List.finRange length).get (Fin.cast List.length_finRange.symm position) = position := by
    intro position
    simp
  rw [← read first, ← read second, precedes_get_iff (List.nodup_finRange length), read, read]
  rfl

variable [LinearOrder κ]

/-- Sorting the images of a list sorts the list by the key of the images. -/
theorem sortDesc_map {β : Type*} (key : β → κ) (image : α → β) (list : List α) :
    sortDesc key (list.map image) = (sortDesc (key ∘ image) list).map image := by
  -- The images are compared by the key of what they are images of.
  rw [sortDesc, sortDesc]
  exact (List.map_insertionSort (fun a b => key (image b) ≤ key (image a))
    (fun a b => key b ≤ key a) image list fun _ _ _ _ => Iff.rfl).symm

/-- The positions of a list in descending order of their keys. -/
def sortedPositions (key : α → κ) (list : List α) : List (Fin list.length) :=
  sortDesc (key ∘ list.get) (List.finRange list.length)

/-- Reading the sorted positions gives the sorted list. -/
theorem sortedPositions_map (key : α → κ) (list : List α) :
    (sortedPositions key list).map list.get = sortDesc key list := by
  -- Reading off the positions of a list gives the list.
  rw [sortedPositions, ← sortDesc_map]
  congr 1
  exact List.map_get_finRange list

/-- Every position is sorted once. -/
theorem sortedPositions_nodup (key : α → κ) (list : List α) : (sortedPositions key list).Nodup :=
  sortDesc_nodup _ (List.nodup_finRange _)

/-- Where sorting puts each position. -/
def sortDescPlaces (key : α → κ) (list : List α) :
    Fin (sortedPositions key list).length ≃ Fin list.length :=
  -- Every position is sorted to one place, and every place comes from one.
  (sortedPositions_nodup key list).getEquivOfForallMemList _ fun position =>
    (mem_sortDesc _ _).mpr (List.mem_finRange position)

/-- Sorting rearranges the positions of a list. -/
def sortDescRearrangement (key : α → κ) (list : List α) :
    Rearrangement list (sortDesc key list) where
  place := (sortDescPlaces key list).symm.trans
    (finCongr (by rw [← sortedPositions_map, List.length_map]))
  kept := by
    intro position
    -- The place of a position holds the element at that position.
    have read : (sortedPositions key list).get ((sortDescPlaces key list).symm position) =
        position := (sortDescPlaces key list).apply_symm_apply position
    conv_rhs => rw [← read]
    simp [← sortedPositions_map]

/-- One position is sorted in front of another when its key is larger, or equal and it was there. -/
theorem sortDescRearrangement_lt_iff {key : α → κ} {list : List α}
    {first second : Fin list.length} :
    (sortDescRearrangement key list).place first < (sortDescRearrangement key list).place second ↔
      key (list.get second) < key (list.get first) ∨
        (key (list.get first) = key (list.get second) ∧ first < second) := by
  -- Places are positions of the sorted list of positions, whose order is known.
  have read : ∀ position, (sortedPositions key list).get
      ((sortDescPlaces key list).symm position) = position :=
    (sortDescPlaces key list).apply_symm_apply
  calc (sortDescRearrangement key list).place first < (sortDescRearrangement key list).place second
      ↔ (sortDescPlaces key list).symm first < (sortDescPlaces key list).symm second := Iff.rfl
    _ ↔ Precedes (sortedPositions key list) first second := by
        rw [← precedes_get_iff (sortedPositions_nodup key list), read, read]
    _ ↔ _ := by
        simp [sortedPositions, sortDesc_precedes_iff, precedes_finRange_iff]

section Adjusted

variable {μ : Type*} [AddCommGroup μ] [LinearOrder μ] {resorts : Prop} {score adjustment : α → μ}

/-- A list rearranged within a margin of its scores and along its adjustments. -/
structure BoundedMonotone (resorts : Prop) (margin : μ) (score adjustment : α → μ)
    {list out : List α} (moved : Rearrangement list out) : Prop where
  /-- A lead above the margin decides the order, wherever the two positions were. -/
  bounded : resorts → ∀ first second,
    margin < score (list.get first) - score (list.get second) →
      moved.place first < moved.place second
  /-- Two positions in score order stay in that order when the adjustments agree with it. -/
  monotone : list.Pairwise (fun first second => score second ≤ score first) →
    ∀ first second, first < second → adjustment (list.get second) ≤ adjustment (list.get first) →
      moved.place first < moved.place second

/-- Leaving a list as it is agrees with every adjustment. -/
theorem boundedMonotone_refl (margin : μ) (list : List α) (idle : ¬ resorts) :
    BoundedMonotone resorts margin score adjustment (Rearrangement.refl list) where
  -- A pass that does not sort leaves every element where it is.
  bounded sorts := absurd sorts idle
  monotone _ _ _ before _ := before

variable [IsOrderedAddMonoid μ]

/-- Sorting by score plus adjustment is bounded by the spread of the adjustments. -/
theorem boundedMonotone_sortDesc {low high : μ} (least : ∀ element, low ≤ adjustment element)
    (most : ∀ element, adjustment element ≤ high) (list : List α) :
    BoundedMonotone resorts (high - low) score adjustment
      (sortDescRearrangement (fun element => score element + adjustment element) list) where
  bounded := by
    intro _ first second lead
    rw [sortDescRearrangement_lt_iff]
    exact Or.inl (adjusted_lt_of_margin (least _) (most _) lead)
  monotone := by
    intro ordered first second before agrees
    have scores : score (list.get second) ≤ score (list.get first) :=
      List.pairwise_iff_get.mp ordered first second before
    rw [sortDescRearrangement_lt_iff]
    -- Positions whose keys are equal are left in their order by the sort.
    rcases lt_or_eq_of_le (add_le_add scores agrees) with larger | same
    · exact Or.inl larger
    · exact Or.inr ⟨same.symm, before⟩

end Adjusted

end Ranking
