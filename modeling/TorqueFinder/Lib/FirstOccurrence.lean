import Mathlib.Data.List.Chain
import Mathlib.Data.List.Infix
import Mathlib.Data.List.Nodup

/-! Lists without their repetitions, and what the order of the first occurrences is. -/

namespace FirstOccurrence

variable {α : Type*} [DecidableEq α] {list : List α} {first second : α}

/-- The second element is the first one that is new to the list behind the first element. -/
def NextNew (list : List α) (first second : α) : Prop :=
  -- What stands between the two first occurrences has all been seen before.
  ∃ front between back, list = front ++ first :: between ++ second :: back ∧
    first ∉ front ∧ second ∉ front ++ first :: between ∧
      ∀ element ∈ between, element ∈ front ++ [first]

/-- Appending an element adds it behind the distinct ones when it is new. -/
theorem eraseDups_concat (list : List α) (last : α) :
    (list ++ [last]).eraseDups = list.eraseDups ++ if last ∈ list then [] else [last] := by
  -- Only the distinct elements of the front decide whether the last one is new.
  rw [List.eraseDups_append]
  by_cases old : last ∈ list <;> simp [List.removeAll, List.eraseDups_cons, old]

/-- Elements that are all old add nothing. -/
theorem eraseDups_append_of_subset {old : List α} (known : ∀ element ∈ old, element ∈ list) :
    (list ++ old).eraseDups = list.eraseDups := by
  have nothing : old.removeAll list = [] := by
    simpa [List.removeAll, List.filter_eq_nil_iff] using known
  rw [List.eraseDups_append, nothing, List.eraseDups_nil, List.append_nil]

/-- Repetitions in what is appended add nothing. -/
theorem eraseDups_append_eraseDups (list more : List α) :
    (list ++ more.eraseDups).eraseDups = (list ++ more).eraseDups := by
  -- The last element is dropped or kept in the same way on both sides.
  induction more using List.reverseRecOn with
  | nil => rfl
  | append_singleton front last ih =>
    rw [eraseDups_concat]
    split
    · rename_i old
      rw [List.append_nil, ih, ← List.append_assoc, eraseDups_concat,
        if_pos (List.mem_append_right _ old), List.append_nil]
    · rw [← List.append_assoc, ← List.append_assoc, eraseDups_concat, eraseDups_concat, ih]
      simp [List.mem_eraseDups]

/-- The distinct elements are pairwise different. -/
theorem eraseDups_nodup (list : List α) : list.eraseDups.Nodup := by
  -- The last element is kept only when it is new.
  induction list using List.reverseRecOn with
  | nil => simp
  | append_singleton front last ih =>
    rw [eraseDups_concat]
    split
    · simpa using ih
    · rename_i fresh
      refine List.nodup_append.mpr ⟨ih, by simp, ?_⟩
      intro element member other same
      obtain rfl := List.mem_singleton.mp same
      rintro rfl
      exact fresh (List.mem_eraseDups.mp member)

/-- Behind the first occurrence of the last distinct element nothing is new. -/
theorem last_eraseDups {front : List α} (split : list.eraseDups = front ++ [first]) :
    ∃ before behind, list = before ++ first :: behind ∧ first ∉ before ∧
      ∀ element ∈ behind, element ∈ before ++ [first] := by
  induction list using List.reverseRecOn with
  | nil => simp at split
  | append_singleton rest last ih =>
    rw [eraseDups_concat] at split
    by_cases old : last ∈ rest
    · -- An old element at the end joins those behind.
      rw [if_pos old, List.append_nil] at split
      obtain ⟨before, behind, rfl, fresh, known⟩ := ih split
      refine ⟨before, behind ++ [last], by simp, fresh, ?_⟩
      intro element member
      rcases List.mem_append.mp member with inside | same
      · exact known element inside
      · obtain rfl := List.mem_singleton.mp same
        rcases List.mem_append.mp old with early | late
        · exact List.mem_append_left _ early
        · rcases List.mem_cons.mp late with rfl | inside
          · simp
          · exact known _ inside
    · rw [if_neg old] at split
      obtain ⟨_, same⟩ := List.append_inj' split rfl
      obtain rfl := (List.cons.inj same).1
      exact ⟨rest, [], by simp, old, by simp⟩

/-- Two elements stand next to each other without repetitions when nothing new is in between. -/
theorem infix_eraseDups_iff : [first, second] <:+: list.eraseDups ↔ NextNew list first second := by
  constructor
  · intro adjacent
    induction list using List.reverseRecOn with
    | nil => simp at adjacent
    | append_singleton rest last ih =>
      rw [eraseDups_concat] at adjacent
      have extend : NextNew rest first second → NextNew (rest ++ [last]) first second := by
        intro held
        obtain ⟨front, between, back, rfl, fresh, new, known⟩ := held
        exact ⟨front, between, back ++ [last], by simp, fresh, new, known⟩
      -- An element that was there before adds nothing.
      by_cases old : last ∈ rest
      · rw [if_pos old, List.append_nil] at adjacent
        exact extend (ih adjacent)
      · rw [if_neg old] at adjacent
        obtain ⟨ahead, behind, split⟩ := adjacent
        rcases List.eq_nil_or_concat' behind with rfl | ⟨behind, final, rfl⟩
        · -- The pair ends the distinct elements, so the new element is the second one.
          rw [List.append_nil, ← List.singleton_append (x := first), ← List.append_assoc] at split
          obtain ⟨ends, same⟩ := List.append_inj' split rfl
          obtain rfl := (List.cons.inj same).1
          obtain ⟨before, between, rfl, fresh, known⟩ := last_eraseDups ends.symm
          exact ⟨before, between, [], by simp, fresh, old, known⟩
        · rw [← List.append_assoc] at split
          obtain ⟨inner, _⟩ := List.append_inj' split rfl
          exact extend (ih ⟨ahead, behind, inner⟩)
  · intro held
    obtain ⟨front, between, back, rfl, fresh, new, known⟩ := held
    -- The elements in between are dropped, and what follows comes behind the pair.
    have pair : (front ++ first :: between ++ [second]).eraseDups =
        front.eraseDups ++ [first, second] := by
      rw [eraseDups_concat, if_neg new, ← List.singleton_append (x := first), ← List.append_assoc,
        eraseDups_append_of_subset known, eraseDups_concat, if_neg fresh]
      simp
    refine ⟨front.eraseDups, (back.removeAll (front ++ first :: between ++ [second])).eraseDups, ?_⟩
    have whole : front ++ first :: between ++ second :: back =
        (front ++ first :: between ++ [second]) ++ back := by simp
    rw [whole, List.eraseDups_append, pair]

omit [DecidableEq α] in
/-- In a list without repetitions, a stretch is a chain of neighbours. -/
theorem infix_iff_isChain {stretch : List α} (distinct : list.Nodup)
    (among : ∀ element ∈ stretch, element ∈ list) :
    stretch <:+: list ↔ stretch.IsChain fun first second => [first, second] <:+: list := by
  induction stretch with
  | nil => simp
  | cons head tail ih =>
    cases tail with
    | nil => simpa [List.singleton_infix_iff] using among head
    | cons next rest =>
      have later := ih fun element member => among element (List.mem_cons_of_mem _ member)
      rw [List.isChain_cons_cons, ← later]
      constructor
      · intro stretched
        refine ⟨List.IsInfix.trans ?_ stretched, List.IsInfix.trans ?_ stretched⟩
        · exact (List.prefix_append [head, next] rest).isInfix
        · exact (List.suffix_cons head (next :: rest)).isInfix
      · intro chained
        obtain ⟨⟨ahead, behind, pair⟩, ⟨front, back, stretched⟩⟩ := chained
        -- The second element stands in one place only, so both splits agree in front of it.
        have split : ahead ++ [head] ++ next :: behind = list := by simpa using pair
        have alone : next ∉ ahead ++ [head] ++ behind :=
          (List.nodup_cons.mp (List.nodup_middle.mp (split ▸ distinct))).1
        rw [List.mem_append, not_or] at alone
        have same : ahead ++ [head] ++ next :: behind = front ++ next :: (rest ++ back) := by
          rw [split, ← stretched]
          simp
        obtain ⟨rfl, _, _⟩ := (List.append_cons_inj_of_notMem alone.1 alone.2).mp same
        exact ⟨ahead, back, by rw [← stretched]; simp⟩

end FirstOccurrence
