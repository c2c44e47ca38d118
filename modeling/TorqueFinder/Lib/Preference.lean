import TorqueFinder.Lib.FirstOccurrence
import TorqueFinder.Lib.Table

/-! One item for each key: the first preferred one, or the first one when none is preferred. -/

namespace Preference

open FirstOccurrence

section Definitions

variable {α κ : Type*} [DecidableEq κ] (key : α → κ) (good : α → Prop) [DecidablePred good]

/-- The first preferred item with a key, or else the first item with it. -/
def choice (items : List α) (name : κ) : Option α :=
  -- The first good item with the name, or else the first item with it.
  (items.find? fun item => key item = name ∧ good item).or
    (items.find? fun item => key item = name)

/-- Note an item: the one with its key stays unless only the new one is preferred. -/
def note (noted : List α) (item : α) : List α :=
  if key item ∈ noted.map key then
    -- A good item takes the place of one that is not, and keeps its position.
    noted.map fun old => if key old = key item ∧ good item ∧ ¬ good old then item else old
  else noted ++ [item]

/-- Note items one after the other. -/
def merge (items : List α) : List α := items.foldl (note key good) []

end Definitions

variable {α κ : Type*} [DecidableEq κ] {key : α → κ} {good : α → Prop} [DecidablePred good]
  {items : List α} {item : α} {name : κ}

/-- A chosen item is one of the items, and has the key. -/
theorem of_choice (chosen : choice key good items name = some item) :
    item ∈ items ∧ key item = name := by
  -- Either search only returns an item that passed it.
  rcases Option.or_eq_some_iff.mp chosen with found | ⟨_, found⟩
  · have passed : key item = name ∧ good item := by simpa using List.find?_some found
    exact ⟨List.mem_of_find?_eq_some found, passed.1⟩
  · exact ⟨List.mem_of_find?_eq_some found, by simpa using List.find?_some found⟩

/-- Nothing is chosen for a key that no item has. -/
theorem choice_eq_none : choice key good items name = none ↔ name ∉ items.map key := by
  -- Whatever is chosen is one of the items and has the key.
  constructor
  · intro nothing member
    obtain ⟨item, present, same⟩ := List.mem_map.mp member
    have missing := List.find?_eq_none.mp (Option.or_eq_none_iff.mp nothing).2 item present
    simp [same] at missing
  · intro absent
    cases chosen : choice key good items name with
    | none => rfl
    | some item =>
      obtain ⟨member, same⟩ := of_choice chosen
      exact absurd (List.mem_map.mpr ⟨item, member, same⟩) absent

/-- Something is chosen for every key that an item has. -/
theorem exists_choice (good : α → Prop) [DecidablePred good] (member : name ∈ items.map key) :
    ∃ item, choice key good items name = some item := by
  -- No choice would mean that no item has the name.
  refine Option.ne_none_iff_exists'.mp fun nothing => ?_
  exact choice_eq_none.mp nothing member

/-- The choices for some keys have these keys. -/
theorem keys_choices {names : List κ} (known : ∀ name ∈ names, name ∈ items.map key) :
    (names.filterMap (choice key good items)).map key = names := by
  -- Each name is that of its own choice.
  rw [List.map_filterMap]
  refine (List.filterMap_congr fun name member => ?_).trans List.filterMap_some
  obtain ⟨item, chosen⟩ := exists_choice good (known name member)
  rw [chosen, Option.map_some, (of_choice chosen).2]

/-- A chosen item is preferred when some item with its key is. -/
theorem good_of_choice (chosen : choice key good items name = some item) :
    good item ↔ ∃ other ∈ items, key other = name ∧ good other := by
  -- A preferred item with the key is found before any other one.
  obtain ⟨member, same⟩ := of_choice chosen
  constructor
  · intro preferred
    exact ⟨item, member, same, preferred⟩
  · intro preferred
    obtain ⟨other, otherMember, passed⟩ := preferred
    rcases Option.or_eq_some_iff.mp chosen with found | ⟨nothing, _⟩
    · have both : key item = name ∧ good item := by simpa using List.find?_some found
      exact both.2
    · have fails := List.find?_eq_none.mp nothing other otherMember
      simp [passed] at fails

/-- One more item is chosen when it is the first with its key, or the first preferred one. -/
theorem choice_concat (items : List α) (item : α) (name : κ) :
    choice key good (items ++ [item]) name =
      if key item = name then
        some (match choice key good items name with
          | none => item
          | some old => if good item ∧ ¬ good old then item else old)
      else choice key good items name := by
  unfold choice
  rw [List.find?_append, List.find?_append]
  by_cases same : key item = name
  · rw [if_pos same]
    cases preferred : items.find? fun item => key item = name ∧ good item with
    | some old =>
      have passed : key old = name ∧ good old := by simpa using List.find?_some preferred
      simp [passed.2]
    | none =>
      cases first : items.find? fun item => key item = name with
      | none => by_cases better : good item <;> simp [same, better]
      | some old =>
        -- An older item with the key is not preferred, or it would have been found.
        have plain : ¬ good old := by
          intro better
          have named : key old = name := by simpa using List.find?_some first
          have fails := List.find?_eq_none.mp preferred old (List.mem_of_find?_eq_some first)
          simp [named, better] at fails
        by_cases better : good item <;> simp [same, better, plain]
  · simp [same]

/-- Noting items keeps the choice for each key, in the order of their first occurrences. -/
theorem merge_eq (items : List α) :
    merge key good items = (items.map key).eraseDups.filterMap (choice key good items) := by
  induction items using List.reverseRecOn with
  | nil => rfl
  | append_singleton front last ih =>
    have known : ∀ name ∈ (front.map key).eraseDups, name ∈ front.map key :=
      fun name member => List.mem_eraseDups.mp member
    rw [merge, List.foldl_concat, ← merge, ih, note, keys_choices known, List.map_append,
      List.map_singleton, eraseDups_concat]
    simp only [List.mem_eraseDups]
    split
    · -- The last item may replace the choice for its key, and no other.
      rw [List.append_nil, List.map_filterMap]
      refine List.filterMap_congr fun name member => ?_
      obtain ⟨old, chosen⟩ := exists_choice good (known name member)
      have named := (of_choice chosen).2
      rw [choice_concat, chosen, Option.map_some, named]
      -- Only the choice for the key of the last item may change.
      by_cases same : key last = name
      · simp [same]
      · simp [same, Ne.symm same]
    · -- The last item is the first one with its key.
      rename_i fresh
      rw [List.filterMap_append]
      congr 1
      · refine List.filterMap_congr fun name member => ?_
        have other : key last ≠ name := by
          rintro rfl
          exact fresh (known _ member)
        rw [choice_concat, if_neg other]
      · have nothing : choice key good front (key last) = none := choice_eq_none.mpr fresh
        simp [choice_concat, nothing]

/-- Exactly the choices for the keys are kept. -/
theorem mem_merge : item ∈ merge key good items ↔ choice key good items (key item) = some item := by
  -- The merged items are the choices for the keys of the items.
  rw [merge_eq, List.mem_filterMap]
  constructor
  · intro kept
    obtain ⟨name, _, chosen⟩ := kept
    rw [(of_choice chosen).2]
    exact chosen
  · intro chosen
    refine ⟨key item, List.mem_eraseDups.mpr ?_, chosen⟩
    exact List.mem_map_of_mem (of_choice chosen).1

/-- The kept items have the distinct keys in the order of their first occurrences. -/
theorem keys_merge (items : List α) :
    (merge key good items).map key = (items.map key).eraseDups := by
  -- The items that are kept stand in the order of their names.
  rw [merge_eq]
  exact keys_choices fun name member => List.mem_eraseDups.mp member

/-- No two of the kept items have the same key. -/
theorem merge_nodup (items : List α) : ((merge key good items).map key).Nodup := by
  rw [keys_merge]
  exact eraseDups_nodup _

/-- The kept item with a key is the choice for it. -/
theorem find?_merge (items : List α) (name : κ) :
    (merge key good items).find? (fun item => key item = name) = choice key good items name := by
  -- The merged items have different keys.
  refine Option.ext fun item => ?_
  rw [Table.find?_key_iff (merge_nodup items) name fun other passed => of_decide_eq_true passed,
    mem_merge, decide_eq_true_eq]
  constructor
  · intro kept
    obtain ⟨chosen, rfl⟩ := kept
    exact chosen
  · intro chosen
    obtain rfl := (of_choice chosen).2
    exact ⟨chosen, rfl⟩

/-- The preferred items that are kept are the first preferred ones. -/
theorem find?_good_merge (items : List α) (name : κ) :
    (merge key good items).find? (fun item => key item = name ∧ good item) =
      items.find? (fun item => key item = name ∧ good item) := by
  refine Option.ext fun item => ?_
  rw [Table.find?_key_iff (merge_nodup items) name
    fun other passed => (of_decide_eq_true passed).1, mem_merge, decide_eq_true_eq]
  constructor
  · intro kept
    obtain ⟨chosen, rfl, preferred⟩ := kept
    -- The choice is preferred, so some preferred item is found first.
    rcases Option.or_eq_some_iff.mp chosen with found | ⟨nothing, found⟩
    · exact found
    · have fails := List.find?_eq_none.mp nothing item (List.mem_of_find?_eq_some found)
      simp [preferred] at fails
  · intro found
    have passed : key item = name ∧ good item := by simpa using List.find?_some found
    refine ⟨?_, passed⟩
    rw [passed.1]
    exact Option.or_eq_some_iff.mpr (.inl found)

/-- Items may be merged before they are noted behind others. -/
theorem merge_append_merge (first second : List α) :
    merge key good (first ++ merge key good second) = merge key good (first ++ second) := by
  -- The keys occur in the same order, and the same item is chosen for each.
  have keys : ((first ++ merge key good second).map key).eraseDups =
      ((first ++ second).map key).eraseDups := by
    rw [List.map_append, keys_merge, eraseDups_append_eraseDups, ← List.map_append]
  have choices : choice key good (first ++ merge key good second) =
      choice key good (first ++ second) := by
    funext name
    rw [choice, choice, List.find?_append, List.find?_append, List.find?_append, List.find?_append,
      find?_good_merge, find?_merge, choice]
    cases first.find? fun item => key item = name ∧ good item with
    | some item => rfl
    | none =>
      cases second.find? fun item => key item = name ∧ good item with
      | some item => rfl
      | none => rfl
  rw [merge_eq (first ++ merge key good second), merge_eq (first ++ second), keys, choices]

variable (key good) in
/-- Noting lists of items one list after the other, each merged first, merges them all. -/
theorem foldl_merge (lists : List (List α)) :
    lists.foldl (fun noted list => (merge key good list).foldl (note key good) noted) [] =
      merge key good lists.flatten := by
  -- A merged list noted behind others is noted as the list itself would be.
  induction lists using List.reverseRecOn with
  | nil => rfl
  | append_singleton front last ih =>
    have joined : (merge key good last).foldl (note key good) (merge key good front.flatten) =
        merge key good (front.flatten ++ merge key good last) := by
      rw [merge, merge, merge, List.foldl_append]
    rw [List.foldl_concat, ih, joined, merge_append_merge, List.flatten_concat]

end Preference
