import TorqueFinder.Discovery.ModelPage
import TorqueFinder.Lib.ExceptFlow

/-! The links of pages that are joined with a separator between them. -/

namespace TorqueFinder

/-- No link in front of the separator depends on what follows, and none begins inside it. -/
structure Unspannable (separator : String) : Prop where
  in_front : ∀ left right, linkAt (left ++ (separator.toList ++ right)) = linkAt left
  inside : ∀ tail right, tail <:+ separator.toList → tail ≠ [] → linkAt (tail ++ right) = none

/-- A character that a link may have. -/
def isLinkChar (char : Char) : Bool :=
  isAsciiAlphanumeric char || char == ':' || char == '/' || char == '.' || char == '-'

variable {text left right rest run : List Char} {literal separator : String} {char : Char}
  {accept : Char → Bool} {ref : PublicationRef} {taken : Nat}

/-- A literal is read off the front of a text. -/
theorem afterLiteral_eq_some :
    afterLiteral literal text = some rest ↔ text = literal.toList ++ rest := by
  -- The literal is dropped from a text that starts with it.
  unfold afterLiteral
  split
  · rename_i starts
    obtain ⟨behind, rfl⟩ := List.isPrefixOf_iff_prefix.mp starts
    rw [← String.length_toList, List.drop_left, Option.some.injEq, List.append_cancel_left_eq]
  · rename_i differs
    constructor
    · intro never
      cases never
    · rintro rfl
      exact absurd (List.isPrefixOf_iff_prefix.mpr (List.prefix_append _ _)) differs

/-- A run is read off the front of a text. -/
theorem append_of_takeRun (taken : takeRun accept text = some (run, rest)) :
    text = run ++ rest := by
  -- The run is the longest prefix of accepted characters.
  unfold takeRun at taken
  dsimp only at taken
  split at taken
  · cases taken
  · cases taken
    exact (List.prefix_iff_eq_append.mp (List.takeWhile_prefix _)).symm

/-- A type takes no more than the text it stands in. -/
theorem typeSuffix_le (text : List Char) : (typeSuffix text).2 ≤ text.length := by
  -- The suffix is read off the front of the text.
  unfold typeSuffix
  split
  · split <;> simp
  · exact Nat.zero_le _

/-- A link takes no more than the text it stands in. -/
theorem linkAt_le (found : linkAt text = some (ref, taken)) : taken ≤ text.length := by
  -- Each part is read behind the one before it, and the type behind the last one.
  unfold linkAt at found
  simp only [Option.bind_eq_bind, Option.bind_eq_some_iff, Option.pure_def] at found
  obtain ⟨scheme, http, path, host, locale, atLocale, tail, publications, pubId, atId, same⟩ :=
    found
  obtain ⟨_, rfl⟩ := Prod.mk.inj (Option.some.inj same)
  have letter : (if scheme.head? = some 's' then scheme.tail else scheme).length ≤
      scheme.length := by
    split <;> simp
  have lengths := congrArg List.length (afterLiteral_eq_some.mp http)
  have hostLength := congrArg List.length (afterLiteral_eq_some.mp host)
  have localeLength := congrArg List.length (append_of_takeRun atLocale)
  have tailLength := congrArg List.length (afterLiteral_eq_some.mp publications)
  have idLength := congrArg List.length (append_of_takeRun atId)
  simp only [List.length_append] at lengths hostLength localeLength tailLength idLength
  have suffix := typeSuffix_le pubId.2
  omega

/-- A literal without the character is read in front of it as if nothing followed. -/
theorem afterLiteral_append (foreign : char ∉ literal.toList) (left rest : List Char) :
    afterLiteral literal (left ++ char :: rest) =
      (afterLiteral literal left).map (· ++ char :: rest) := by
  refine Option.ext fun behind => ?_
  rw [afterLiteral_eq_some, Option.map_eq_some_iff]
  constructor
  · intro starts
    -- A literal that reaches behind the text in front has the character.
    rcases List.append_eq_append_iff.mp starts with ⟨more, longer, tail⟩ | ⟨more, rfl, tail⟩
    · cases more with
      | nil =>
        rw [List.append_nil] at longer
        exact ⟨[], afterLiteral_eq_some.mpr (by simp [longer]), tail⟩
      | cons first others =>
        obtain ⟨rfl, _⟩ := List.cons.inj tail
        exact absurd (longer ▸ by simp) foreign
    · exact ⟨more, afterLiteral_eq_some.mpr rfl, tail.symm⟩
  · intro starts
    obtain ⟨more, read, rfl⟩ := starts
    rw [afterLiteral_eq_some.mp read, List.append_assoc]

/-- A run ends in front of a character that it does not accept. -/
theorem takeRun_append (stops : accept char = false) (left rest : List Char) :
    takeRun accept (left ++ char :: rest) =
      (takeRun accept left).map fun taken => (taken.1, taken.2 ++ char :: rest) := by
  -- The run of the whole text is the run of its front.
  have same : (left ++ char :: rest).takeWhile accept = left.takeWhile accept := by
    induction left with
    | nil => simp [stops]
    | cons first others ih => simp [List.takeWhile_cons, ih]
  have fits : (left.takeWhile accept).length ≤ left.length :=
    (List.takeWhile_prefix accept).length_le
  rw [takeRun, takeRun, same]
  split
  · rfl
  · rw [List.drop_append_of_le_length fits]
    rfl

/-- A type ends in front of a character that is neither a slash nor a capital. -/
theorem typeSuffix_append (stops : isLinkChar char = false) (left rest : List Char) :
    typeSuffix (left ++ char :: rest) = typeSuffix left := by
  -- A type has at most three characters, and the new one is none of them.
  have slash : char ≠ '/' := by
    rintro rfl
    exact absurd stops (by decide)
  have letter : isAsciiCapital char = false := by
    simp only [isLinkChar, isAsciiAlphanumeric, isAsciiLetter, Bool.or_eq_false_iff] at stops
    exact stops.1.1.1.1.1.1
  match left with
  | [] => simp [typeSuffix, slash]
  | [first] =>
    by_cases begins : first = '/'
    · cases rest <;> simp [typeSuffix, begins, letter]
    · simp [typeSuffix, begins]
  | [first, second] =>
    by_cases begins : first = '/'
    · simp [typeSuffix, begins, letter]
    · simp [typeSuffix, begins]
  | first :: second :: third :: others =>
    by_cases begins : first = '/'
    · simp [typeSuffix, begins]
    · simp [typeSuffix, begins]

/-- A scheme may have one more letter, which is dropped in front of any other character. -/
theorem dropLetter_append (other : char ≠ 's') (left rest : List Char) :
    (if (left ++ char :: rest).head? = some 's' then (left ++ char :: rest).tail
      else left ++ char :: rest) =
    (if left.head? = some 's' then left.tail else left) ++ char :: rest := by
  -- The letter can only be the first one, and the separator is another one.
  cases left with
  | nil => simp [other]
  | cons first others => by_cases same : first = 's' <;> simp [same]

/-- A literal of characters that links have does not have a foreign one. -/
theorem not_mem_of_foreign (foreign : isLinkChar char = false)
    (own : literal.toList.all isLinkChar = true) : char ∉ literal.toList := by
  -- The literal has characters of links only.
  intro member
  have linkChar := List.all_eq_true.mp own char member
  rw [foreign] at linkChar
  cases linkChar

/-- A foreign character stands in no locale and in no id. -/
theorem stops_of_foreign (foreign : isLinkChar char = false) :
    (isAsciiLetter char || char == '-') = false ∧ isAsciiAlphanumeric char = false := by
  -- A character that belongs to no link ends every run of a link.
  simp only [isLinkChar, isAsciiAlphanumeric, Bool.or_eq_false_iff] at foreign ⊢
  exact ⟨⟨foreign.1.1.1.1.1, foreign.2⟩, foreign.1.1.1.1⟩

/-- A link ends in front of a character that no link has. -/
theorem linkAt_append (foreign : isLinkChar char = false) (left rest : List Char) :
    linkAt (left ++ char :: rest) = linkAt left := by
  obtain ⟨localeStops, idStops⟩ := stops_of_foreign foreign
  have letter : char ≠ 's' := by
    rintro rfl
    exact absurd foreign (by decide)
  -- Each part of the link is read as if nothing followed, and leaves what follows.
  unfold linkAt
  rw [afterLiteral_append (not_mem_of_foreign foreign (by decide))]
  cases afterLiteral "http" left with
  | none => rfl
  | some front =>
    simp only [Option.map_some, Option.bind_eq_bind, Option.bind_some, dropLetter_append letter]
    rw [afterLiteral_append (not_mem_of_foreign foreign (by decide))]
    cases afterLiteral "://docs.sram.com/" (if front.head? = some 's' then front.tail else front)
    · rfl
    rename_i path
    simp only [Option.map_some, Option.bind_some]
    -- The locale ends at the foreign character at the latest.
    rw [takeRun_append localeStops]
    cases takeRun (fun char => isAsciiLetter char || char == '-') path
    · rfl
    rename_i locale
    simp only [Option.map_some, Option.bind_some]
    rw [afterLiteral_append (not_mem_of_foreign foreign (by decide))]
    cases afterLiteral "/publications/" locale.2
    · rfl
    rename_i tail
    simp only [Option.map_some, Option.bind_some]
    -- So does the id.
    rw [takeRun_append idStops]
    cases takeRun isAsciiAlphanumeric tail
    · rfl
    rename_i pubId
    simp only [Option.map_some, Option.bind_some, typeSuffix_append foreign, List.length_append,
      Nat.add_sub_add_right]

/-- A separator of characters that no link has can be spanned by none. -/
theorem unspannable_of_foreign (nonempty : separator ≠ "")
    (foreign : ∀ char ∈ separator.toList, isLinkChar char = false) : Unspannable separator := by
  constructor
  · intro left right
    cases spelled : separator.toList with
    | nil => exact absurd (String.toList_eq_nil_iff.mp spelled) nonempty
    | cons char rest =>
      exact linkAt_append (foreign char (spelled ▸ List.mem_cons_self)) left (rest ++ right)
  · intro tail right suffix begun
    -- A link that begins in the separator would begin with a character that it does not have.
    cases tail with
    | nil => exact absurd rfl begun
    | cons char rest =>
      have member : char ∈ separator.toList := suffix.subset List.mem_cons_self
      exact linkAt_append (foreign char member) [] (rest ++ right)

/-- No link begins in a separator, so the search goes on behind it. -/
theorem linksFrom_separator (unspannable : Unspannable separator) {tail : List Char}
    (suffix : tail <:+ separator.toList) (right : List Char) :
    linksFrom 0 (tail ++ right) = linksFrom 0 right := by
  -- No link begins at any place of the separator.
  induction tail with
  | nil => rfl
  | cons char rest ih =>
    have none := unspannable.inside (char :: rest) right suffix (List.cons_ne_nil _ _)
    rw [List.cons_append] at none ⊢
    rw [linksFrom, none]
    exact ih ((List.suffix_cons char rest).trans suffix)

/-- The links of two texts with a separator in between are those of each of them. -/
theorem linksFrom_append (unspannable : Unspannable separator) {skipped : Nat}
    (left right : List Char) (within : skipped ≤ left.length) :
    linksFrom skipped (left ++ (separator.toList ++ right)) =
      linksFrom skipped left ++ linksFrom 0 right := by
  induction left generalizing skipped with
  | nil =>
    obtain rfl := Nat.le_zero.mp within
    exact linksFrom_separator unspannable List.suffix_rfl right
  | cons char rest ih =>
    rw [List.cons_append]
    cases skipped with
    | succ skipped => exact ih (Nat.le_of_succ_le_succ within)
    | zero =>
      -- Whether a link begins here is decided in front of the separator.
      have same := unspannable.in_front (char :: rest) right
      rw [List.cons_append] at same
      rw [linksFrom, linksFrom, same]
      cases found : linkAt (char :: rest) with
      | none => exact ih (Nat.zero_le _)
      | some link =>
        have fits := linkAt_le found
        rw [List.length_cons] at fits
        exact congrArg (link.1 :: ·) (ih (by omega))

/-- The links of joined pages are those of the pages, one page after the other. -/
theorem publicationLinks_join (unspannable : Unspannable separator) (pages : List String) :
    publicationLinks (separator.intercalate pages) = pages.flatMap publicationLinks := by
  -- The separator stands between the first page and the join of the others.
  induction pages with
  | nil => rfl
  | cons page rest ih =>
    cases rest with
    | nil => simp
    | cons next others =>
      rw [String.intercalate_cons_cons, List.flatMap_cons, ← ih, publicationLinks,
        String.toList_append, String.toList_append, List.append_assoc]
      exact linksFrom_append unspannable _ _ (Nat.zero_le _)

end TorqueFinder
