import Mathlib.Data.List.MinMax
import Mathlib.Data.List.Sort
import Mathlib.Algebra.Order.Group.Defs
import Mathlib.Tactic.Linarith
import TorqueFinder.Lib.Precedence

/-! Stable sorting by a key, and what a key decides about the order of the result. -/

namespace Ranking

variable {α κ : Type*} [LinearOrder κ]

/-- The list in descending key order, with equal keys left in their original order. -/
def sortDesc (key : α → κ) (list : List α) : List α :=
  -- Inserting each element before the first one that does not outrank it keeps ties in order.
  list.insertionSort fun first second => key second ≤ key first

/-- The list in ascending key order, with equal keys left in their original order. -/
def sortAsc (key : α → κ) (list : List α) : List α :=
  list.insertionSort fun first second => key first ≤ key second

/-- The first of the elements with the least key. -/
def leastBy (key : α → κ) (list : List α) : Option α := list.argmin key

/-- Comparing keys downwards is total. -/
private instance descTotal (key : α → κ) :
    Std.Total fun first second : α => key second ≤ key first :=
  ⟨fun first second => le_total (key second) (key first)⟩

/-- Comparing keys downwards is transitive. -/
private instance descTrans (key : α → κ) :
    IsTrans α fun first second : α => key second ≤ key first :=
  ⟨fun _ _ _ upper lower => le_trans lower upper⟩

/-- Comparing keys upwards is total. -/
private instance ascTotal (key : α → κ) :
    Std.Total fun first second : α => key first ≤ key second :=
  ⟨fun first second => le_total (key first) (key second)⟩

/-- Comparing keys upwards is transitive. -/
private instance ascTrans (key : α → κ) :
    IsTrans α fun first second : α => key first ≤ key second :=
  ⟨fun _ _ _ lower upper => le_trans lower upper⟩

section Members

variable (key : α → κ) (list : List α)

/-- Sorting rearranges the list without adding or losing an element. -/
theorem sortDesc_perm : (sortDesc key list).Perm list := List.perm_insertionSort _ list

/-- Ascending sorting rearranges the list without adding or losing an element. -/
theorem sortAsc_perm : (sortAsc key list).Perm list := List.perm_insertionSort _ list

/-- Sorting keeps exactly the elements of the list. -/
@[simp] theorem mem_sortDesc {element : α} : element ∈ sortDesc key list ↔ element ∈ list :=
  (sortDesc_perm key list).mem_iff

/-- A duplicate-free list stays duplicate-free. -/
theorem sortDesc_nodup {list : List α} (distinct : list.Nodup) : (sortDesc key list).Nodup :=
  (sortDesc_perm key list).nodup_iff.mpr distinct

/-- Ascending sorting keeps exactly the elements of the list. -/
@[simp] theorem mem_sortAsc {element : α} : element ∈ sortAsc key list ↔ element ∈ list :=
  (sortAsc_perm key list).mem_iff

/-- Ascending sorting leaves a list that is already in key order. -/
theorem sortAsc_eq_self {list : List α}
    (ordered : list.Pairwise fun first second => key first ≤ key second) :
    sortAsc key list = list := ordered.insertionSort_eq

/-- Keys never decrease along the list sorted upwards. -/
theorem sortAsc_pairwise :
    (sortAsc key list).Pairwise fun first second => key first ≤ key second :=
  List.pairwise_insertionSort _ list

/-- Sorting by a key that tells the elements apart does not see the order they come in. -/
theorem sortAsc_of_perm {first second : List α} (same : first.Perm second)
    (injective : Set.InjOn key {element | element ∈ first}) :
    sortAsc key first = sortAsc key second := by
  have sorted : (sortAsc key first).Perm (sortAsc key second) :=
    (sortAsc_perm key first).trans (same.trans (sortAsc_perm key second).symm)
  -- Two sorted lists of the same elements differ at most between equal keys.
  refine sorted.eq_of_pairwise (fun left right inside also below above => ?_)
    (sortAsc_pairwise key first) (sortAsc_pairwise key second)
  have member : left ∈ first := (mem_sortAsc key first).mp inside
  have partner : right ∈ first := same.mem_iff.mpr ((mem_sortAsc key second).mp also)
  exact injective member partner (le_antisymm below above)

/-- Keys never increase along the sorted list. -/
theorem sortDesc_pairwise :
    (sortDesc key list).Pairwise fun first second => key second ≤ key first :=
  List.pairwise_insertionSort _ list

/-- The list sorted upwards begins with an element of least key. -/
theorem head_sortAsc_le {list : List α} {least : α}
    (first : (sortAsc key list).head? = some least) :
    least ∈ list ∧ ∀ element ∈ list, key least ≤ key element := by
  -- Everything behind the head has at least its key.
  obtain ⟨rest, shape⟩ := List.head?_eq_some_iff.mp first
  have ordered := sortAsc_pairwise key list
  rw [shape, List.pairwise_cons] at ordered
  have members : ∀ element, element ∈ list ↔ element ∈ least :: rest := fun element => by
    rw [← shape, mem_sortAsc]
  refine ⟨(members least).mpr (by simp), fun element member => ?_⟩
  rcases List.mem_cons.mp ((members element).mp member) with rfl | behind
  · exact le_rfl
  · exact ordered.1 element behind

end Members

section Order

variable {key : α → κ} {list : List α} {first second : α}

/-- A later element of the sorted list never has the larger key. -/
theorem Precedes.key_le (held : Precedes (sortDesc key list) first second) :
    key second ≤ key first :=
  pairwise_iff_precedes.mp (sortDesc_pairwise key list) first second held

/-- The larger key comes first, wherever the two elements stood before. -/
theorem sortDesc_precedes_of_lt (left : first ∈ list) (right : second ∈ list)
    (larger : key second < key first) : Precedes (sortDesc key list) first second := by
  -- The reversed order would make the keys decrease the wrong way.
  have different : first ≠ second := by rintro rfl; exact lt_irrefl _ larger
  rcases precedes_total ((mem_sortDesc key list).mpr left) ((mem_sortDesc key list).mpr right)
    different with held | reversed
  · exact held
  · exact absurd larger (not_lt.mpr reversed.key_le)

/-- Two elements already in key order stay in that order. -/
theorem sortDesc_precedes_of_le (held : Precedes list first second)
    (ordered : key second ≤ key first) : Precedes (sortDesc key list) first second :=
  List.pair_sublist_insertionSort (r := fun a b => key b ≤ key a) ordered held

/-- Sorting a list that is already in key order changes nothing. -/
theorem sortDesc_eq_self_iff :
    sortDesc key list = list ↔ list.Pairwise fun first second => key second ≤ key first := by
  constructor
  · intro same
    -- The sorted list is in key order, whatever list it came from.
    rw [← same]
    exact sortDesc_pairwise key list
  · intro ordered
    exact ordered.insertionSort_eq

end Order

section Passes

variable {key : α → κ}

/-- Only the comparisons between members of the list decide the sorted order. -/
theorem sortDesc_congr {μ : Type*} [LinearOrder μ] {other : α → μ} {list : List α}
    (same : ∀ first ∈ list, ∀ second ∈ list, key second ≤ key first ↔ other second ≤ other first) :
    sortDesc key list = sortDesc other list := by
  -- The identity map carries one comparison to the other.
  have mapped := List.map_insertionSort (fun a b => key b ≤ key a) (fun a b => other b ≤ other a)
    id list same
  simpa [sortDesc] using mapped

/-- Sorting inserts the head into the sorted tail, in front of everything it is not below. -/
theorem sortDesc_cons (head : α) (tail : List α) :
    sortDesc key (head :: tail) =
      (sortDesc key tail).orderedInsert (fun a b => key b ≤ key a) head := rfl

/-- Inserting into a filtered sorted list and filtering afterwards give the same list. -/
private theorem filter_orderedInsert (keep : α → Bool) (element : α) (sorted : List α)
    (ordered : sorted.Pairwise fun first second => key second ≤ key first) :
    (sorted.orderedInsert (fun a b => key b ≤ key a) element).filter keep =
      if keep element then
        (sorted.filter keep).orderedInsert (fun a b => key b ≤ key a) element
      else sorted.filter keep := by
  -- The induction follows the walk to the place of the element.
  induction sorted with
  | nil => by_cases kept : keep element <;> simp [kept]
  | cons head tail ih =>
    obtain ⟨bounded, rest⟩ := List.pairwise_cons.mp ordered
    by_cases before : key head ≤ key element
    · by_cases kept : keep element
      · by_cases headKept : keep head
        · simp [before, kept, headKept]
        · -- The dropped head bounds the rest, so the element goes in front of what is left.
          have front : ∀ other ∈ tail.filter keep, key other ≤ key element := fun other member =>
            le_trans (bounded other (List.mem_of_mem_filter member)) before
          have placed : (tail.filter keep).orderedInsert (fun a b => key b ≤ key a) element
              = element :: tail.filter keep := by
            cases shape : tail.filter keep with
            | nil => rfl
            | cons next more => simp [front next (by simp [shape])]
          simp [before, kept, headKept, placed]
      -- An element that is dropped leaves the filtered list as it was.
      · simp [before, kept]
    · by_cases headKept : keep head
      · by_cases kept : keep element <;> simp [before, kept, headKept, ih rest]
      · simp [before, headKept, ih rest]

/-- Stable sorting commutes with filtering. -/
theorem filter_sortDesc (keep : α → Bool) (list : List α) :
    (sortDesc key list).filter keep = sortDesc key (list.filter keep) := by
  -- Each element is inserted into a sorted tail, where insertion commutes with the filter.
  induction list with
  | nil => rfl
  | cons head tail ih =>
    rw [sortDesc_cons, filter_orderedInsert keep head _ (sortDesc_pairwise key tail), ih]
    by_cases kept : keep head <;> simp [kept, sortDesc_cons]

/-- Two elements change their order exactly when the later one has the larger key. -/
theorem sortDesc_precedes_iff {list : List α} {first second : α} :
    Precedes (sortDesc key list) first second ↔
      (first ∈ list ∧ second ∈ list ∧ key second < key first) ∨
        (key first = key second ∧ Precedes list first second) := by
  constructor
  · intro held
    have left := (mem_sortDesc key list).mp held.left_mem
    have right := (mem_sortDesc key list).mp held.right_mem
    rcases lt_or_eq_of_le held.key_le with smaller | same
    · exact Or.inl ⟨left, right, smaller⟩
    · refine Or.inr ⟨same.symm, ?_⟩
      -- Among elements of that one key the sort keeps the order of the list.
      let equal : α → Bool := fun element => key element = key first
      have part : (sortDesc key list).filter equal = list.filter equal := by
        rw [filter_sortDesc, sortDesc_eq_self_iff, List.pairwise_filter]
        refine List.pairwise_of_forall fun one two oneKey twoKey => ?_
        exact ((of_decide_eq_true twoKey).trans (of_decide_eq_true oneKey).symm).le
      have kept : Precedes ((sortDesc key list).filter equal) first second :=
        held.filter (by simp [equal]) (by simp [equal, same])
      rw [part] at kept
      exact kept.of_sublist List.filter_sublist
  · intro cases
    -- A larger key jumps ahead, and an equal key keeps its place.
    rcases cases with ⟨left, right, smaller⟩ | ⟨same, held⟩
    · exact sortDesc_precedes_of_lt left right smaller
    · exact sortDesc_precedes_of_le held same.ge

/-- Inserting keeps a relation exactly when it holds against each element on its side. -/
private theorem pairwise_orderedInsert_iff {relation : α → α → Prop} (element : α)
    (sorted : List α) (ordered : sorted.Pairwise fun first second => key second ≤ key first) :
    (sorted.orderedInsert (fun a b => key b ≤ key a) element).Pairwise relation ↔
      (∀ other ∈ sorted,
        if key element < key other then relation other element else relation element other) ∧
      sorted.Pairwise relation := by
  -- The element passes every head that outranks it, and stops at the first that does not.
  induction sorted with
  | nil => simp
  | cons head tail ih =>
    obtain ⟨bounded, rest⟩ := List.pairwise_cons.mp ordered
    by_cases before : key head ≤ key element
    · -- Everything from here on is at or below the element, which stands in front of it.
      have below : ∀ other ∈ head :: tail, ¬ key element < key other := by
        intro other member
        rcases List.mem_cons.mp member with rfl | later
        · exact not_lt.mpr before
        · exact not_lt.mpr (le_trans (bounded other later) before)
      rw [List.orderedInsert_cons, if_pos before, List.pairwise_cons]
      refine and_congr_left fun _ => forall₂_congr fun other member => ?_
      rw [if_neg (below other member)]
    · -- The head stays in front, and the tail decides where the element goes.
      have above : key element < key head := not_le.mp before
      rw [List.orderedInsert_cons, if_neg before, List.pairwise_cons, ih rest,
        List.pairwise_cons, List.forall_mem_cons, if_pos above]
      simp only [List.mem_orderedInsert, forall_eq_or_imp]
      tauto

/-- A relation holds along the sorted list when it holds of the pairs the keys leave or swap. -/
theorem pairwise_sortDesc_iff {list : List α} {relation : α → α → Prop} :
    (sortDesc key list).Pairwise relation ↔
      list.Pairwise fun first second =>
        if key first < key second then relation second first else relation first second := by
  -- The head is inserted into the sorted tail, where it lands behind what outranks it.
  induction list with
  | nil => simp [sortDesc]
  | cons head tail ih =>
    rw [sortDesc_cons, pairwise_orderedInsert_iff head _ (sortDesc_pairwise key tail), ih,
      List.pairwise_cons]
    simp only [mem_sortDesc]

/-- Sorting leaves a prefix in place exactly when nothing behind a prefix element outranks it. -/
theorem take_sortDesc_iff {list : List α} (distinct : list.Nodup) (count : Nat) :
    (sortDesc key list).take count = list.take count ↔
      ∀ first ∈ list.take count, ∀ second, Precedes list first second →
        key second ≤ key first := by
  constructor
  · intro same first kept second held
    by_contra outranked
    -- An outranking element would be sorted in front, hence stand earlier in the list as well.
    have swapped : Precedes (sortDesc key list) second first :=
      sortDesc_precedes_of_lt held.right_mem held.left_mem (not_le.mp outranked)
    have front := swapped.take (sortDesc_nodup key distinct) (same ▸ kept)
    rw [same] at front
    exact held.asymm distinct (front.of_sublist (List.take_sublist _ _))
  · intro bounded
    induction list generalizing count with
    | nil => simp [sortDesc]
    | cons head tail ih =>
      cases count with
      | zero => simp
      | succ count =>
        obtain ⟨fresh, rest⟩ := List.nodup_cons.mp distinct
        -- The head outranks the whole tail, so sorting the tail alone decides the rest.
        have top : ∀ other ∈ sortDesc key tail, key other ≤ key head := fun other member =>
          bounded head (by simp) other (precedes_cons.mpr (Or.inl ⟨rfl, by simpa using member⟩))
        -- So the head is inserted in front of the sorted tail.
        have placed : sortDesc key (head :: tail) = head :: sortDesc key tail := by
          rw [sortDesc_cons]
          cases shape : sortDesc key tail with
          | nil => rfl
          | cons next more => rw [List.orderedInsert_cons, if_pos (top next (by simp [shape]))]
        rw [placed, List.take_succ_cons, List.take_succ_cons, ih rest count]
        intro first kept second held
        exact bounded first (by simp [kept]) second (precedes_cons.mpr (Or.inr held))

end Passes

section Places

variable [DecidableEq α] (key : α → κ)

/-- How many elements of the list sort ahead of the given one. -/
def placeOf (list : List α) (element : α) : Nat :=
  -- A larger key goes ahead, and an equal key goes ahead when it already stood ahead.
  list.countP fun other =>
    key element < key other ∨ (key other = key element ∧ Precedes list other element)

/-- In a duplicate-free list, an element stands behind as many elements as precede it. -/
private theorem idxOf_eq_countP {list : List α} {element : α} (distinct : list.Nodup)
    (member : element ∈ list) :
    list.idxOf element = list.countP fun other => Precedes list other element := by
  -- Nothing precedes the head, and everything in the tail has the head in front of it.
  induction list with
  | nil => simp at member
  | cons head tail ih =>
    obtain ⟨fresh, rest⟩ := List.nodup_cons.mp distinct
    by_cases same : head = element
    · subst same
      have alone : ∀ other ∈ head :: tail, ¬ Precedes (head :: tail) other head := by
        intro other _ held
        rcases precedes_cons.mp held with ⟨_, again⟩ | inner
        · exact fresh again
        · exact fresh inner.right_mem
      have none : tail.countP (fun other => Precedes (head :: tail) other head) = 0 :=
        List.countP_eq_zero.mpr fun other inside => by
          simpa using alone other (List.mem_cons_of_mem _ inside)
      have self : ¬ Precedes (head :: tail) head head := alone head List.mem_cons_self
      simp [none, self]
    -- One more element stands in front than in the tail, which is the head.
    · have later : element ∈ tail := by simpa [Ne.symm same] using member
      -- The head is another element, so it decides nothing about the tail.
      have tailOnly : ∀ other ∈ tail,
          (Precedes (head :: tail) other element ↔ Precedes tail other element) := by
        intro other inside
        rw [precedes_cons]
        have different : other ≠ head := by rintro rfl; exact fresh inside
        simp [different]
      rw [List.idxOf_cons_ne _ same, ih rest later, List.countP_cons_of_pos]
      · refine congrArg (· + 1) (List.countP_congr fun other inside => ?_)
        simpa using (tailOnly other inside).symm
      · simpa using precedes_cons.mpr (Or.inl ⟨rfl, later⟩)

/-- An element survives a cut of the sorted list when few enough elements sort ahead of it. -/
theorem mem_take_sortDesc_iff {list : List α} {element : α} (distinct : list.Nodup)
    (member : element ∈ list) (count : Nat) :
    element ∈ (sortDesc key list).take count ↔ placeOf key list element < count := by
  have sorted := sortDesc_nodup key distinct
  have inside : element ∈ sortDesc key list := by simpa using member
  -- The place of an element is the number of elements sorted in front of it.
  have place : (sortDesc key list).idxOf element = placeOf key list element := by
    rw [idxOf_eq_countP sorted inside, placeOf, (sortDesc_perm key list).countP_eq]
    refine List.countP_congr fun other present => ?_
    simp [sortDesc_precedes_iff, present, member]
  -- Being cut off is a matter of the place alone.
  rw [← place]
  constructor
  · intro kept
    obtain ⟨index, bound, found⟩ := List.mem_take_iff_getElem.mp kept
    have located : (sortDesc key list).idxOf element = index := by
      rw [← found]
      exact sorted.idxOf_getElem index (by omega)
    omega
  · intro below
    rw [List.mem_take_iff_getElem]
    have bound := List.idxOf_lt_length_iff.mpr inside
    exact ⟨_, by omega, List.getElem_idxOf bound⟩

end Places

section Margins

variable {κ : Type*} [AddCommGroup κ] [LinearOrder κ] [IsOrderedAddMonoid κ]
  {list : List α} {score adjustment : α → κ} {low high : κ}

/-- A lead by more than the range of the adjustments stays a lead. -/
theorem adjusted_lt_of_margin {first second : α} (least : low ≤ adjustment first)
    (most : adjustment second ≤ high) (margin : high - low < score first - score second) :
    score second + adjustment second < score first + adjustment first := by
  -- Even the worst adjustment of the leader and the best of the other leave the lead positive.
  have spread : adjustment second - adjustment first ≤ high - low := sub_le_sub most least
  have lead := lt_of_le_of_lt spread margin
  rw [sub_lt_sub_iff] at lead
  simpa [add_comm] using lead

/-- Bounded adjustments cannot bring an element past one that leads by more than their range. -/
theorem sortDesc_precedes_of_margin {first second : α} (left : first ∈ list)
    (right : second ∈ list) (least : low ≤ adjustment first) (most : adjustment second ≤ high)
    (margin : high - low < score first - score second) :
    Precedes (sortDesc (fun element => score element + adjustment element) list) first second :=
  -- The adjustments are too close together to make up for the margin.
  sortDesc_precedes_of_lt left right (adjusted_lt_of_margin least most margin)

/-- A part of equal adjustments is sorted by the bare scores. -/
theorem filter_sortDesc_add {keep : α → Bool}
    (constant : ∀ first ∈ list.filter keep, ∀ second ∈ list.filter keep,
      adjustment first = adjustment second) :
    (sortDesc (fun element => score element + adjustment element) list).filter keep =
      sortDesc score (list.filter keep) := by
  -- Within the part the key is the score up to a constant.
  rw [filter_sortDesc]
  refine sortDesc_congr fun first left second right => ?_
  rw [constant first left second right, add_le_add_iff_right]

/-- A part of equal adjustments that already descends keeps its order. -/
theorem filter_sortDesc_of_constant {keep : α → Bool}
    (ordered : (list.filter keep).Pairwise fun first second => score second ≤ score first)
    (constant : ∀ first ∈ list.filter keep, ∀ second ∈ list.filter keep,
      adjustment first = adjustment second) :
    (sortDesc (fun element => score element + adjustment element) list).filter keep =
      list.filter keep := by
  -- An equal adjustment keeps the order of the scores, which the list has already.
  rw [filter_sortDesc_add constant, sortDesc_eq_self_iff]
  exact ordered

end Margins

end Ranking
