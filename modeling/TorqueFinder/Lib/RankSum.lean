import Mathlib.Algebra.BigOperators.Group.List.Basic
import Mathlib.Algebra.Order.BigOperators.Group.List
import Mathlib.Data.List.Nodup
import Mathlib.Data.List.Infix
import Mathlib.Order.Monotone.Basic

/-! Sums of weights over the ranks at which a list holds chosen elements. -/

namespace Ranking

variable {α ω : Type*}

/-- The ranks, counted from the given one, at which the list holds a chosen element. -/
def ranksOf (chosen : α → Bool) (start : Nat) (list : List α) : List Nat :=
  ((list.zipIdx start).filter fun (element, _) => chosen element).map Prod.snd

/-- The list with the element at one position moved to another, the rest closing up. -/
def liftTo (list : List α) (source target : Nat) : List α :=
  match list[source]? with
  | none => list
  -- Taking the element out first keeps the order of the others.
  | some element => (list.eraseIdx source).insertIdx target element

/-- Inserting where the first of two joined lists ends puts the element between them. -/
private theorem insertIdx_length_append (front back : List α) (element : α) :
    (front ++ back).insertIdx front.length element = front ++ element :: back := by
  -- The position is reached when the front has been passed.
  induction front with
  | nil => simp
  | cons head tail ih => simpa using ih

/-- An element moved to an earlier position passes the elements in between, and only those. -/
theorem liftTo_eq {list : List α} {source target : Nat} {element : α} (earlier : target < source)
    (located : list[source]? = some element) :
    ∃ front between back, list = front ++ (between ++ [element]) ++ back ∧
      liftTo list source target = front ++ (element :: between) ++ back := by
  obtain ⟨inside, held⟩ := List.getElem?_eq_some_iff.mp located
  -- The cuts are at the target and right behind the source.
  have ahead : list.take target ++ (list.take source).drop target = list.take source := by
    have cut := List.take_append_drop target (list.take source)
    rwa [List.take_take, Nat.min_eq_left earlier.le] at cut
  refine ⟨list.take target, (list.take source).drop target, list.drop (source + 1), ?_, ?_⟩
  · rw [← List.append_assoc, ahead, List.append_assoc, List.singleton_append, ← held,
      List.getElem_cons_drop, List.take_append_drop]
  · -- What is left without the element is joined from the three cuts.
    have erased : list.eraseIdx source =
        list.take target ++ ((list.take source).drop target ++ list.drop (source + 1)) := by
      rw [← List.append_assoc, ahead, List.eraseIdx_eq_take_drop_succ]
    have bound : (list.take target).length = target := by
      rw [List.length_take]
      omega
    have placed := insertIdx_length_append (list.take target)
      ((list.take source).drop target ++ list.drop (source + 1)) element
    rw [bound] at placed
    simpa only [liftTo, located, erased, List.append_assoc, List.cons_append] using placed

section Ranks

variable (chosen : α → Bool)

/-- An empty list has no chosen ranks. -/
@[simp] theorem ranksOf_nil (start : Nat) : ranksOf chosen start [] = [] := rfl

/-- The head holds the first rank, and the tail is ranked from the next one. -/
theorem ranksOf_cons (start : Nat) (head : α) (tail : List α) :
    ranksOf chosen start (head :: tail) =
      (if chosen head then [start] else []) ++ ranksOf chosen (start + 1) tail := by
  -- The head passes the filter exactly when it is chosen.
  by_cases picked : chosen head <;> simp [ranksOf, List.zipIdx_cons, picked]

/-- The second of two joined lists is ranked from where the first one ends. -/
theorem ranksOf_append (start : Nat) (front back : List α) :
    ranksOf chosen start (front ++ back) =
      ranksOf chosen start front ++ ranksOf chosen (start + front.length) back := by
  -- The ranks of the back begin behind the front.
  simp [ranksOf, List.zipIdx_append]

/-- A rank is chosen when the element standing there is. -/
theorem mem_ranksOf {start rank : Nat} {list : List α} :
    rank ∈ ranksOf chosen start list ↔
      start ≤ rank ∧ ∃ element, list[rank - start]? = some element ∧ chosen element := by
  -- A ranked element stands at the index its rank gives.
  simp [ranksOf, List.mk_mem_zipIdx_iff_le_and_getElem?_sub, and_assoc]

/-- When every element is chosen, the ranks are consecutive. -/
theorem ranksOf_of_all {start : Nat} {list : List α} (all : ∀ element ∈ list, chosen element) :
    ranksOf chosen start list = List.range' start list.length := by
  -- The filter drops nothing.
  have kept : (list.zipIdx start).filter (fun (element, _) => chosen element) =
      list.zipIdx start := by
    rw [List.filter_eq_self]
    intro ranked member
    exact all ranked.1 (List.fst_mem_of_mem_zipIdx member)
  rw [ranksOf, kept, List.zipIdx_map_snd]

/-- When no element is chosen, there are no ranks. -/
theorem ranksOf_of_none {start : Nat} {list : List α}
    (none : ∀ element ∈ list, chosen element = false) : ranksOf chosen start list = [] := by
  -- The filter drops everything.
  rw [ranksOf, List.map_eq_nil_iff, List.filter_eq_nil_iff]
  intro ranked member
  simp [none ranked.1 (List.fst_mem_of_mem_zipIdx member)]

/-- There are ranks as soon as some element is chosen. -/
theorem ranksOf_ne_nil {start : Nat} {list : List α} :
    ranksOf chosen start list ≠ [] ↔ ∃ element ∈ list, chosen element := by
  -- Some rank is chosen exactly when some element is.
  constructor
  · intro ranked
    by_contra absent
    refine ranked (ranksOf_of_none chosen fun element member => ?_)
    simpa using fun picked => absent ⟨element, member, picked⟩
  · intro present empty
    obtain ⟨element, member, picked⟩ := present
    obtain ⟨index, bound, rfl⟩ := List.getElem_of_mem member
    have ranked : start + index ∈ ranksOf chosen start list :=
      (mem_ranksOf chosen).mpr ⟨by omega, list[index], by simp [bound], picked⟩
    simp [empty] at ranked

end Ranks

section Sums

variable [AddCommMonoid ω] (weight : Nat → ω) (chosen : α → Bool)

/-- The sum of the weights of the ranks at which the list holds a chosen element. -/
def rankSum (start : Nat) (list : List α) : ω := ((ranksOf chosen start list).map weight).sum

/-- An empty list has nothing to sum. -/
@[simp] theorem rankSum_nil (start : Nat) : rankSum weight chosen start [] = 0 := rfl

/-- The head adds the weight of the first rank when it is chosen. -/
theorem rankSum_cons (start : Nat) (head : α) (tail : List α) :
    rankSum weight chosen start (head :: tail) =
      (if chosen head then weight start else 0) + rankSum weight chosen (start + 1) tail := by
  -- The first element counts with its weight, or not at all.
  by_cases picked : chosen head <;> simp [rankSum, ranksOf_cons, picked]

/-- The second of two joined lists is summed from where the first one ends. -/
theorem rankSum_append (start : Nat) (front back : List α) :
    rankSum weight chosen start (front ++ back) =
      rankSum weight chosen start front + rankSum weight chosen (start + front.length) back := by
  -- The ranks of a list are those of its parts.
  simp [rankSum, ranksOf_append]

end Sums

section Antitone

variable [AddCommMonoid ω] [PartialOrder ω] [IsOrderedAddMonoid ω] {weight : Nat → ω}
  {chosen : α → Bool}

/-- Pushing every element one rank back never raises the sum. -/
theorem rankSum_succ_le (falling : Antitone weight) (start : Nat) (list : List α) :
    rankSum weight chosen (start + 1) list ≤ rankSum weight chosen start list := by
  -- The induction follows the list, whose elements all move by the same one rank.
  induction list generalizing start with
  | nil => simp
  | cons head tail ih =>
    rw [rankSum_cons, rankSum_cons]
    refine add_le_add ?_ (ih (start + 1))
    split
    · exact falling (Nat.le_succ start)
    · exact le_rfl

/-- Moving a chosen element to the front never lowers the sum. -/
theorem rankSum_le_lift (falling : Antitone weight) {element : α} (picked : chosen element)
    (start : Nat) (between : List α) :
    rankSum weight chosen start (between ++ [element]) ≤
      rankSum weight chosen start (element :: between) := by
  -- The element passes the others one at a time, so the induction is on what it passes.
  induction between generalizing start with
  | nil => simp
  | cons head tail ih =>
    -- Past the tail the element stands second, and it only has the head left to pass.
    have passed : rankSum weight chosen start (head :: tail ++ [element]) ≤
        (if chosen head then weight start else 0) +
          (weight (start + 1) + rankSum weight chosen (start + 1 + 1) tail) := by
      rw [List.cons_append, rankSum_cons]
      have moved := ih (start + 1)
      rw [rankSum_cons, if_pos picked] at moved
      exact add_le_add le_rfl moved
    refine passed.trans ?_
    rw [rankSum_cons, if_pos picked, rankSum_cons, ← add_assoc, ← add_assoc]
    refine add_le_add ?_ le_rfl
    -- A chosen head exchanges ranks with the element, and any other head gives its place away.
    split
    · exact le_rfl
    · rw [zero_add, add_zero]
      exact falling (Nat.le_succ start)

/-- Moving an element that is not chosen to the front never raises the sum. -/
theorem rankSum_lift_le (falling : Antitone weight) {element : α} (passed : chosen element = false)
    (start : Nat) (between : List α) :
    rankSum weight chosen start (element :: between) ≤
      rankSum weight chosen start (between ++ [element]) := by
  -- The chosen elements are all pushed one rank back.
  have back : rankSum weight chosen start (between ++ [element]) =
      rankSum weight chosen start between := by
    simp [rankSum_append, rankSum_cons, passed]
  rw [back, rankSum_cons, passed]
  simpa using rankSum_succ_le falling start between

end Antitone

section Bounds

variable [AddCommMonoid ω] [PartialOrder ω] [IsOrderedAddMonoid ω] {weight : Nat → ω}
  {chosen : α → Bool} {start : Nat} {list : List α}

/-- When every weight is bounded, the sum is at most as many times the bound as there are ranks. -/
theorem rankSum_le_nsmul {bound : ω}
    (bounded : ∀ rank ∈ ranksOf chosen start list, weight rank ≤ bound) :
    rankSum weight chosen start list ≤ (ranksOf chosen start list).length • bound := by
  -- Each term of the sum is at most the bound.
  have each := List.sum_le_card_nsmul ((ranksOf chosen start list).map weight) bound (by
    intro value member
    obtain ⟨rank, held, rfl⟩ := List.mem_map.mp member
    exact bounded rank held)
  simpa [rankSum] using each

/-- Some different chosen ranks weigh together at most as much as all chosen ranks. -/
theorem sum_le_rankSum (positive : ∀ rank, 0 ≤ weight rank) {ranks : List Nat}
    (distinct : ranks.Nodup) (held : ranks ⊆ ranksOf chosen start list) :
    (ranks.map weight).sum ≤ rankSum weight chosen start list := by
  -- Different ranks that are all chosen form a rearranged part of the chosen ranks.
  obtain ⟨part, same, within⟩ := List.subperm_of_subset distinct held
  rw [← (same.map weight).sum_eq]
  refine List.Sublist.sum_le_sum (within.map weight) ?_
  intro value member
  obtain ⟨rank, _, rfl⟩ := List.mem_map.mp member
  exact positive rank

end Bounds

end Ranking
