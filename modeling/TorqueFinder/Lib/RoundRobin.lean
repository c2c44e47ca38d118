import Mathlib.Data.Prod.Lex
import TorqueFinder.Lib.StableSort
import TorqueFinder.Lib.Table

/-! Sharing a limited number of places among owners, one element of each owner at a time. -/

namespace RoundRobin

open Ranking

variable {α κ μ : Type*} [LinearOrder κ] [LinearOrder μ] (owner : α → κ) (place : α → μ)

/-- No two elements of one owner have the same place. -/
def Placed (items : List α) : Prop :=
  (items.map fun element => (owner element, place element)).Nodup

/-- The elements of an owner that stand before a given place. -/
def before (items : List α) (element : α) : List α :=
  items.filter fun other => owner other = owner element ∧ place other < place element

/-- The number of an element among those of its owner, from one on. -/
def rowNumber (items : List α) (element : α) : Nat := (before owner place items element).length + 1

/-- The elements by their numbers, and those of one number by their owners. -/
def turn (items : List α) (element : α) : Nat ×ₗ κ :=
  toLex (rowNumber owner place items element, owner element)

/-- The elements that get a place when no owner gets more than a number of them. -/
def roundRobin (perOwner limit : Nat) (items : List α) : List α :=
  -- An owner has no more eligible elements than its share, and all take turns.
  let eligible := items.filter fun element => rowNumber owner place items element ≤ perOwner
  (sortAsc (turn owner place items) eligible).take limit

/-- How many of the elements belong to an owner. -/
def share (chosen : List α) (name : κ) : Nat :=
  (chosen.filter fun element => owner element = name).length

/-- The places are shared fairly among the owners. -/
structure FairShare (perOwner limit : Nat) (items chosen : List α) : Prop where
  chosen_once : chosen.Nodup ∧ chosen ⊆ items
  /-- An owner's elements come in the order of their places, and none is passed over. -/
  lowest_first : ∀ later ∈ chosen, ∀ earlier ∈ items, owner earlier = owner later →
    place earlier < place later → Precedes chosen earlier later
  per_owner : ∀ name, share owner chosen name ≤ perOwner
  within_limit : chosen.length ≤ limit
  /-- An owner of a missed element has its full share, or no other owner has two elements more. -/
  fair : ∀ missed ∈ items, missed ∉ chosen → share owner chosen (owner missed) = perOwner ∨
    chosen.length = limit ∧ ∀ name, share owner chosen name ≤ share owner chosen (owner missed) + 1

variable {owner place} {items others chosen : List α} {element other : α} {perOwner limit : Nat}
  {name : κ}

/-- What stands before an element. -/
theorem mem_before : other ∈ before owner place items element ↔
    other ∈ items ∧ owner other = owner element ∧ place other < place element := by
  rw [before, List.mem_filter, decide_eq_true_iff]

/-- An owner is named by the elements that are chosen of it. -/
theorem mem_of_owner : other ∈ chosen.filter (fun element => owner element = name) ↔
    other ∈ chosen ∧ owner other = name := by
  rw [List.mem_filter, decide_eq_true_iff]

/-- Elements of one owner are numbered in the order of their places. -/
theorem rowNumber_lt (distinct : items.Nodup) (member : other ∈ items)
    (same : owner other = owner element) (earlier : place other < place element) :
    rowNumber owner place items other < rowNumber owner place items element := by
  -- What stands before the earlier element stands before the later one, and so does itself.
  have fresh : other ∉ before owner place items other := fun inside =>
    lt_irrefl _ (mem_before.mp inside).2.2
  have once : (other :: before owner place items other).Nodup :=
    List.nodup_cons.mpr ⟨fresh, distinct.filter _⟩
  have inside : other :: before owner place items other ⊆ before owner place items element := by
    refine List.cons_subset.mpr ⟨mem_before.mpr ⟨member, same, earlier⟩, fun third ahead => ?_⟩
    obtain ⟨listed, owned, lower⟩ := mem_before.mp ahead
    exact mem_before.mpr ⟨listed, owned.trans same, lower.trans earlier⟩
  exact Nat.succ_lt_succ (List.subperm_of_subset once inside).length_le

/-- No two elements have the same turn. -/
theorem turn_injOn (placed : Placed owner place items) :
    Set.InjOn (turn owner place items) {element | element ∈ items} := by
  intro first left second right same
  have numbers : rowNumber owner place items first = rowNumber owner place items second :=
    congrArg (fun turn => (ofLex turn).1) same
  have owners : owner first = owner second := congrArg (fun turn => (ofLex turn).2) same
  -- Of two elements of one owner the one with the lower place has the lower number.
  rcases lt_trichotomy (place first) (place second) with lower | level | higher
  · exact absurd numbers (rowNumber_lt placed.of_map left owners lower).ne
  · exact Table.eq_of_key placed left right (Prod.ext owners level)
  · exact absurd numbers (rowNumber_lt placed.of_map right owners.symm higher).ne'

/-- The shares do not depend on the order in which the elements are listed. -/
theorem roundRobin_perm (same : items.Perm others)
    (placed : Placed owner place items) :
    roundRobin owner place perOwner limit items = roundRobin owner place perOwner limit others := by
  -- Neither the numbers nor the turns depend on the order, and no two turns are equal.
  have numbers : rowNumber owner place items = rowNumber owner place others := by
    funext element
    exact congrArg (· + 1) (same.filter _).length_eq
  have turns : turn owner place items = turn owner place others := by
    funext element
    rw [turn, turn, numbers]
  simp only [roundRobin, numbers, turns]
  congr 1
  refine sortAsc_of_perm _ (same.filter _) fun first left second right equal => ?_
  rw [← turns] at equal
  have eligible : ∀ element ∈ items.filter fun element =>
      rowNumber owner place others element ≤ perOwner, element ∈ items :=
    fun element member => List.mem_of_mem_filter member
  exact turn_injOn placed (eligible first left) (eligible second right) equal

/-- What is cut off a sorted list stands behind all that is kept, which are as many as allowed. -/
theorem of_not_mem_take {key : α → μ} {list : List α} (member : element ∈ list)
    (cut : element ∉ (sortAsc key list).take limit) :
    ((sortAsc key list).take limit).length = limit ∧
      ∀ kept ∈ (sortAsc key list).take limit, key kept ≤ key element := by
  -- What was cut off stands behind everything that was kept.
  have ordered := sortAsc_pairwise key list
  have sorted : element ∈ sortAsc key list := (mem_sortAsc key list).mpr member
  rw [← List.take_append_drop limit (sortAsc key list)] at ordered sorted
  have dropped : element ∈ (sortAsc key list).drop limit :=
    (List.mem_append.mp sorted).resolve_left cut
  have longer := List.length_pos_of_mem dropped
  rw [List.length_drop] at longer
  refine ⟨?_, fun kept inside => (List.pairwise_append.mp ordered).2.2 kept inside element dropped⟩
  rw [List.length_take]
  omega

/-- The element with the smaller key comes first in the list sorted upwards. -/
theorem sortAsc_precedes_of_lt {key : α → μ} {list : List α} (left : element ∈ list)
    (right : other ∈ list) (smaller : key element < key other) :
    Precedes (sortAsc key list) element other := by
  -- Sorted the other way round, the greater key would come first.
  have different : element ≠ other := fun same => lt_irrefl _ (same ▸ smaller)
  rcases precedes_total ((mem_sortAsc key list).mpr left) ((mem_sortAsc key list).mpr right)
    different with held | reversed
  · exact held
  · exact absurd (pairwise_iff_precedes.mp (sortAsc_pairwise key list) _ _ reversed)
      (not_le.mpr smaller)

/-- Everything before a chosen element of its owner is chosen, and comes before it. -/
theorem precedes_of_chosen (placed : Placed owner place items)
    (later : element ∈ roundRobin owner place perOwner limit items)
    (earlier : other ∈ before owner place items element) :
    Precedes (roundRobin owner place perOwner limit items) other element := by
  -- An earlier element of the same owner has the smaller number, and so the earlier turn.
  obtain ⟨member, same, lower⟩ := mem_before.mp earlier
  have kept := List.mem_of_mem_take later
  rw [mem_sortAsc, List.mem_filter, decide_eq_true_iff] at kept
  have number := rowNumber_lt placed.of_map member same lower
  have eligible : other ∈ items.filter fun element =>
      rowNumber owner place items element ≤ perOwner :=
    List.mem_filter.mpr ⟨member, decide_eq_true (number.le.trans kept.2)⟩
  have ahead : Precedes (sortAsc (turn owner place items) (items.filter fun element =>
      rowNumber owner place items element ≤ perOwner)) other element := by
    refine sortAsc_precedes_of_lt eligible (List.mem_filter.mpr ⟨kept.1, decide_eq_true kept.2⟩) ?_
    exact Prod.Lex.toLex_lt_toLex.mpr (.inl number)
  exact ahead.take ((sortAsc_perm _ _).nodup_iff.mpr (placed.of_map.filter _)) later

/-- Only listed elements with a number that is not too large are chosen. -/
theorem of_chosen (member : element ∈ roundRobin owner place perOwner limit items) :
    element ∈ items ∧ rowNumber owner place items element ≤ perOwner := by
  -- Being among the first keeps what made the element eligible.
  have kept := List.mem_of_mem_take member
  rwa [mem_sortAsc, List.mem_filter, decide_eq_true_iff] at kept

/-- No element is chosen twice. -/
theorem roundRobin_nodup (placed : Placed owner place items) :
    (roundRobin owner place perOwner limit items).Nodup :=
  ((sortAsc_perm _ _).nodup_iff.mpr (placed.of_map.filter _)).sublist (List.take_sublist _ _)

/-- An element that is not chosen has more elements before it than its owner has chosen ones. -/
theorem share_lt_rowNumber (placed : Placed owner place items) (member : element ∈ items)
    (missed : element ∉ roundRobin owner place perOwner limit items) :
    share owner (roundRobin owner place perOwner limit items) (owner element) <
      rowNumber owner place items element := by
  refine Nat.lt_succ_of_le ?_
  have once : ((roundRobin owner place perOwner limit items).filter
      fun other => owner other = owner element).Nodup := (roundRobin_nodup placed).filter _
  refine (List.subperm_of_subset once fun other inside => ?_).length_le
  obtain ⟨chosen, same⟩ := mem_of_owner.mp inside
  refine mem_before.mpr ⟨(of_chosen chosen).1, same, ?_⟩
  -- A chosen element at a later place would have brought the missed one with it.
  by_contra behind
  rcases (not_lt.mp behind).lt_or_eq with earlier | level
  · have brought := precedes_of_chosen placed chosen (mem_before.mpr ⟨member, same.symm, earlier⟩)
    exact missed brought.left_mem
  · have one := Table.eq_of_key placed member (of_chosen chosen).1 (Prod.ext same.symm level)
    exact missed (one ▸ chosen)

/-- An owner with a share has a chosen element whose number is at least that share. -/
theorem share_le_rowNumber (placed : Placed owner place items)
    (some : 0 < share owner (roundRobin owner place perOwner limit items) name) :
    ∃ last ∈ roundRobin owner place perOwner limit items, owner last = name ∧
      share owner (roundRobin owner place perOwner limit items) name ≤
        rowNumber owner place items last := by
  -- The last of its chosen elements has all the others before it.
  let mine := (roundRobin owner place perOwner limit items).filter fun element =>
    owner element = name
  obtain ⟨last, most⟩ : ∃ last, last ∈ mine.argmax place := by
    refine Option.ne_none_iff_exists'.mp fun none => ?_
    rw [List.argmax_eq_none] at none
    exact some.ne' (congrArg List.length none)
  obtain ⟨chosen, named⟩ := mem_of_owner.mp (List.argmax_mem most)
  refine ⟨last, chosen, named, ?_⟩
  have once : mine.Nodup := (roundRobin_nodup placed).filter _
  have inside : mine ⊆ last :: before owner place items last := by
    intro other member
    obtain ⟨alsoChosen, alsoNamed⟩ := mem_of_owner.mp member
    have same : owner other = owner last := alsoNamed.trans named.symm
    rcases (List.le_of_mem_argmax member most).lt_or_eq with lower | level
    · exact .tail _ (mem_before.mpr ⟨(of_chosen alsoChosen).1, same, lower⟩)
    · exact Table.eq_of_key placed (of_chosen alsoChosen).1 (of_chosen chosen).1
        (Prod.ext same level) ▸ .head _
  exact (List.subperm_of_subset once inside).length_le

/-- No owner gets more than its share. -/
theorem share_le (placed : Placed owner place items) (name : κ) :
    share owner (roundRobin owner place perOwner limit items) name ≤ perOwner := by
  -- The last chosen element of an owner counts its share.
  rcases Nat.eq_zero_or_pos (share owner (roundRobin owner place perOwner limit items) name)
    with none | some
  · omega
  · obtain ⟨last, chosen, -, bound⟩ := share_le_rowNumber placed some
    exact bound.trans (of_chosen chosen).2

/-- The first missed element of an owner comes right behind the chosen ones. -/
theorem exists_first_missed (placed : Placed owner place items) (member : element ∈ items)
    (missed : element ∉ roundRobin owner place perOwner limit items) :
    ∃ first ∈ items, first ∉ roundRobin owner place perOwner limit items ∧
      rowNumber owner place items first =
        share owner (roundRobin owner place perOwner limit items) (owner element) + 1 := by
  classical
  let others := items.filter fun other =>
    owner other = owner element ∧ other ∉ roundRobin owner place perOwner limit items
  have listed : ∀ {other}, other ∈ others ↔ other ∈ items ∧ owner other = owner element ∧
      other ∉ roundRobin owner place perOwner limit items := by
    intro other
    rw [List.mem_filter, decide_eq_true_iff]
  -- Of the missed elements of the owner, the one with the least place.
  obtain ⟨first, least⟩ : ∃ first, first ∈ others.argmin place := by
    refine Option.ne_none_iff_exists'.mp fun none => ?_
    rw [List.argmin_eq_none] at none
    exact List.not_mem_nil (none ▸ listed.mpr ⟨member, rfl, missed⟩)
  obtain ⟨inside, same, alsoMissed⟩ := listed.mp (List.argmin_mem least)
  refine ⟨first, inside, alsoMissed, ?_⟩
  have above := share_lt_rowNumber placed inside alsoMissed
  rw [same] at above
  -- Whatever stands before it is chosen, since it is the first that is not.
  have chosen : before owner place items first ⊆
      (roundRobin owner place perOwner limit items).filter fun other =>
        owner other = owner element := by
    intro other ahead
    obtain ⟨there, owned, lower⟩ := mem_before.mp ahead
    refine mem_of_owner.mpr ⟨?_, owned.trans same⟩
    by_contra cut
    have later := List.le_of_mem_argmin (listed.mpr ⟨there, owned.trans same, cut⟩) least
    exact absurd lower (not_lt.mpr later)
  have once : (before owner place items first).Nodup := placed.of_map.filter _
  have below := (List.subperm_of_subset once chosen).length_le
  rw [rowNumber] at above ⊢
  exact le_antisymm (Nat.succ_le_succ below) above

/-- Going round among the owners shares the places fairly. -/
theorem roundRobin_fair (placed : Placed owner place items) (perOwner limit : Nat) :
    FairShare owner place perOwner limit items (roundRobin owner place perOwner limit items) where
  chosen_once := ⟨roundRobin_nodup placed, fun element member => (of_chosen member).1⟩
  lowest_first later chosen earlier member same lower :=
    precedes_of_chosen placed chosen (mem_before.mpr ⟨member, same, lower⟩)
  per_owner := share_le placed
  within_limit := List.length_take_le _ _
  fair missed member cut := by
    obtain ⟨first, inside, alsoCut, number⟩ := exists_first_missed placed member cut
    by_cases eligible : rowNumber owner place items first ≤ perOwner
    · -- Its number would have been small enough, so the limit cut it off.
      have listed : first ∈ items.filter fun element =>
          rowNumber owner place items element ≤ perOwner :=
        List.mem_filter.mpr ⟨inside, decide_eq_true eligible⟩
      obtain ⟨full, ahead⟩ := of_not_mem_take listed alsoCut
      refine .inr ⟨full, fun name => ?_⟩
      rcases Nat.eq_zero_or_pos (share owner (roundRobin owner place perOwner limit items) name)
        with none | some
      · omega
      · obtain ⟨last, chosen, -, bound⟩ := share_le_rowNumber placed some
        have turns : rowNumber owner place items last ≤ rowNumber owner place items first :=
          Prod.Lex.monotone_fst _ _ (ahead last chosen)
        omega
    · have bound : share owner (roundRobin owner place perOwner limit items) (owner missed) ≤
          perOwner := share_le placed _
      exact .inl (by omega)

end RoundRobin
