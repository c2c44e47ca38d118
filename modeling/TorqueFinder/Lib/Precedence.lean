import Mathlib.Data.List.Nodup
import Mathlib.Data.List.Perm.Basic

/-! The order in which a list holds two of its elements. -/

namespace Ranking

variable {α β : Type*}

/-- The list holds the first element somewhere before the second. -/
def Precedes (list : List α) (first second : α) : Prop :=
  -- A two-element sublist fixes the order and leaves the distance open.
  [first, second].Sublist list

/-- The order of two elements can be checked by running through the list. -/
instance [DecidableEq α] (list : List α) (first second : α) :
    Decidable (Precedes list first second) :=
  inferInstanceAs (Decidable ([first, second].Sublist list))

/-- Nothing precedes anything in an empty list. -/
@[simp] theorem not_precedes_nil (first second : α) : ¬ Precedes [] first second := by
  simp [Precedes]

/-- In a list with a head, either the head comes first or the tail already decides. -/
theorem precedes_cons {head first second : α} {tail : List α} :
    Precedes (head :: tail) first second ↔
      (first = head ∧ second ∈ tail) ∨ Precedes tail first second := by
  -- A two-element sublist uses the head for its first element, or skips the head.
  unfold Precedes
  constructor
  · intro held
    rcases held with _ | held | held
    · exact Or.inr ‹_›
    · exact Or.inl ⟨rfl, List.singleton_sublist.mp ‹_›⟩
  · rintro (⟨rfl, member⟩ | held)
    · exact List.Sublist.cons_cons _ (List.singleton_sublist.mpr member)
    · exact held.cons _

/-- The earlier of two ordered elements is in the list. -/
theorem Precedes.left_mem {list : List α} {first second : α}
    (held : Precedes list first second) : first ∈ list :=
  List.Sublist.subset held (by simp)

/-- The later of two ordered elements is in the list. -/
theorem Precedes.right_mem {list : List α} {first second : α}
    (held : Precedes list first second) : second ∈ list :=
  List.Sublist.subset held (by simp)

/-- A longer list keeps the order of a list it contains. -/
theorem Precedes.of_sublist {short long : List α} {first second : α}
    (held : Precedes short first second) (within : short.Sublist long) :
    Precedes long first second :=
  -- Two elements in their order are a part of a part.
  List.Sublist.trans held within

/-- Two elements of a duplicate-free list are held in one order only. -/
theorem Precedes.asymm {list : List α} {first second : α} (distinct : list.Nodup)
    (held : Precedes list first second) : ¬ Precedes list second first := by
  -- Removing the head leaves a duplicate-free tail, which decides every other case.
  induction list with
  | nil => simp
  | cons head tail ih =>
    obtain ⟨fresh, rest⟩ := List.nodup_cons.mp distinct
    intro reversed
    rcases precedes_cons.mp held with ⟨rfl, member⟩ | inner
    · rcases precedes_cons.mp reversed with ⟨rfl, again⟩ | inner
      · exact fresh again
      · exact fresh inner.right_mem
    · rcases precedes_cons.mp reversed with ⟨rfl, again⟩ | other
      · exact fresh inner.right_mem
      · exact ih rest inner other

/-- An element of a duplicate-free list does not precede itself. -/
theorem Precedes.ne {list : List α} {first second : α} (distinct : list.Nodup)
    (held : Precedes list first second) : first ≠ second := by
  -- An element that preceded itself would be in the list twice.
  rintro rfl
  exact held.asymm distinct held

/-- Two different elements of a list are held in some order. -/
theorem precedes_total {list : List α} {first second : α} (left : first ∈ list)
    (right : second ∈ list) (different : first ≠ second) :
    Precedes list first second ∨ Precedes list second first := by
  -- Whichever of the two is met first decides the order.
  induction list with
  | nil => simp at left
  | cons head tail ih =>
    simp only [precedes_cons]
    rcases List.mem_cons.mp left with rfl | leftLater
    · rcases List.mem_cons.mp right with rfl | rightLater
      · exact absurd rfl different
      · exact Or.inl (Or.inl ⟨rfl, rightLater⟩)
    · rcases List.mem_cons.mp right with rfl | rightLater
      · exact Or.inr (Or.inl ⟨rfl, leftLater⟩)
      · exact (ih leftLater rightLater).imp Or.inr Or.inr

/-- An appended element is preceded by everything before it, and precedes nothing. -/
theorem precedes_concat {list : List α} {last first second : α} :
    Precedes (list ++ [last]) first second ↔
      Precedes list first second ∨ (first ∈ list ∧ second = last) := by
  -- The head either is the earlier element or leaves the question to the tail.
  induction list with
  | nil => simp [precedes_cons]
  | cons head tail ih =>
    rw [List.cons_append, precedes_cons, precedes_cons, ih, List.mem_append, List.mem_singleton,
      List.mem_cons]
    tauto

/-- An order in a joined list is decided in front when the later element is not at the back. -/
theorem Precedes.of_append {front back : List α} {first second : α}
    (held : Precedes (front ++ back) first second) (absent : second ∉ back) :
    Precedes front first second := by
  -- The part of the pair taken from the back would contain the later element.
  obtain ⟨ahead, behind, joined, aheadSub, behindSub⟩ := List.sublist_append_iff.mp held
  rcases List.eq_nil_or_concat behind with rfl | ⟨init, last, rfl⟩
  · rw [List.append_nil] at joined
    rw [Precedes, joined]
    exact aheadSub
  · have ending : last = second := by
      have ends := congrArg List.getLast? joined
      simpa [← List.append_assoc, eq_comm] using ends
    exact absurd (behindSub.subset (by simp [ending])) absent

/-- In a duplicate-free list, whatever precedes an element of a prefix lies in that prefix. -/
theorem Precedes.in_prefix {front back : List α} {first second : α}
    (distinct : (front ++ back).Nodup) (held : Precedes (front ++ back) first second)
    (kept : second ∈ front) : Precedes front first second :=
  -- The second element is in the front only, so the first one is too.
  held.of_append fun again => (List.nodup_append.mp distinct).2.2 second kept second again rfl

/-- Cutting a duplicate-free list keeps the order of an element and everything before it. -/
theorem Precedes.take {list : List α} {first second : α} {count : Nat} (distinct : list.Nodup)
    (held : Precedes list first second) (kept : second ∈ list.take count) :
    Precedes (list.take count) first second := by
  -- The list is the cut followed by what the cut leaves out.
  rw [← List.take_append_drop count list] at held distinct
  exact held.in_prefix distinct kept

/-- Filtering keeps the order of two elements that pass. -/
theorem Precedes.filter {list : List α} {first second : α} {keep : α → Bool}
    (held : Precedes list first second) (left : keep first) (right : keep second) :
    Precedes (list.filter keep) first second := by
  -- Neither of the two is dropped from the pair.
  have passed := List.Sublist.filter keep held
  simpa [Precedes, List.filter_cons, left, right] using passed

/-- Mapping keeps the order of two elements. -/
theorem Precedes.map {list : List α} {first second : α} (image : α → β)
    (held : Precedes list first second) : Precedes (list.map image) (image first) (image second) :=
  List.Sublist.map image held

/-- Projecting keeps the order of two elements that both project. -/
theorem Precedes.filterMap {list : List α} {first second : α} {image : α → Option β}
    {left right : β} (held : Precedes list first second) (leftImage : image first = some left)
    (rightImage : image second = some right) : Precedes (list.filterMap image) left right := by
  -- The pair projects to the pair of the images.
  have projected := List.Sublist.filterMap image held
  simpa [Precedes, List.filterMap_cons, leftImage, rightImage] using projected

/-- An order between images comes from an order between elements having those images. -/
theorem precedes_map {list : List α} {image : α → β} {left right : β} :
    Precedes (list.map image) left right ↔
      ∃ first second, Precedes list first second ∧ image first = left ∧ image second = right := by
  -- A sublist of the images is the image of a sublist.
  constructor
  · intro held
    obtain ⟨pair, within, shape⟩ := List.sublist_map_iff.mp held
    rcases pair with _ | ⟨first, _ | ⟨second, _ | _⟩⟩ <;> simp at shape
    exact ⟨first, second, within, shape.1.symm, shape.2.symm⟩
  · intro preceding
    obtain ⟨first, second, held, rfl, rfl⟩ := preceding
    exact held.map image

/-- A relation that holds pairwise holds of any two elements in list order. -/
theorem pairwise_iff_precedes {list : List α} {relation : α → α → Prop} :
    list.Pairwise relation ↔
      ∀ first second, Precedes list first second → relation first second := by
  -- Both speak of the sublists of two elements.
  rw [List.pairwise_iff_forall_sublist]
  rfl

end Ranking
