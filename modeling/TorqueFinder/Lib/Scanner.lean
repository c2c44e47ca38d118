import Mathlib.Data.List.Infix

/-! Scanning a text from the left for matches, each of which begins behind the one before. -/

namespace Scanner

variable {α β : Type*}

/-- The matches of a text in order, given how much of it belongs to the match before. -/
def findFrom (matchAt : List α → Option (β × Nat)) : Nat → List α → List β
  | _, [] => []
  | skipped + 1, _ :: rest => findFrom matchAt skipped rest
  | 0, head :: rest =>
    match matchAt (head :: rest) with
    | none => findFrom matchAt 0 rest
    -- The search goes on behind the match.
    | some (value, taken) => value :: findFrom matchAt (taken - 1) rest

/-- All matches of a text. -/
def findAll (matchAt : List α → Option (β × Nat)) (text : List α) : List β :=
  findFrom matchAt 0 text

variable {matchAt : List α → Option (β × Nat)} {front gap rest : List α} {value : β}

/-- Behind what belongs to a match the search starts anew. -/
theorem findFrom_skip (front rest : List α) :
    findFrom matchAt front.length (front ++ rest) = findAll matchAt rest := by
  -- The characters of the match are passed over one by one.
  induction front with
  | nil => rfl
  | cons _ others ih => exact ih

/-- A match at the front is the first one that is found. -/
theorem findAll_of_match (found : matchAt (front ++ rest) = some (value, front.length))
    (filled : front ≠ []) : findAll matchAt (front ++ rest) = value :: findAll matchAt rest := by
  -- A match that is not empty is found, and the scan goes on behind it.
  cases front with
  | nil => exact absurd rfl filled
  | cons head others =>
    rw [List.cons_append] at found
    rw [findAll, List.cons_append, findFrom, found]
    exact congrArg (value :: ·) (findFrom_skip others rest)

/-- A stretch in which no match begins is passed over. -/
theorem findAll_of_gap
    (plain : ∀ tail, tail <:+ gap → tail ≠ [] → matchAt (tail ++ rest) = none) :
    findAll matchAt (gap ++ rest) = findAll matchAt rest := by
  -- The search moves on by one element at a time.
  induction gap with
  | nil => rfl
  | cons head others ih =>
    have none : matchAt (head :: (others ++ rest)) = none :=
      plain (head :: others) (List.suffix_refl _) (List.cons_ne_nil _ _)
    rw [findAll, List.cons_append, findFrom, none]
    exact ih fun tail suffix => plain tail (suffix.trans (List.suffix_cons head others))

/-- Where no match begins nothing is found. -/
theorem findAll_eq_nil (plain : ∀ tail, tail <:+ gap → tail ≠ [] → matchAt tail = none) :
    findAll matchAt gap = [] := by
  -- The whole text is a gap in front of nothing.
  have passed : findAll matchAt (gap ++ []) = findAll matchAt [] := findAll_of_gap
    fun tail suffix some => (List.append_nil tail).symm ▸ plain tail suffix some
  rwa [List.append_nil] at passed

end Scanner
