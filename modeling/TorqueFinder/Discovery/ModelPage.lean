import TorqueFinder.Discovery.PublicationProbe
import TorqueFinder.Lib.Table

/-! The publication links of a model page, one for each publication and a typed one if there is. -/

namespace TorqueFinder

/-- The text behind a literal it starts with. -/
def afterLiteral (literal : String) (text : List Char) : Option (List Char) :=
  if literal.toList.isPrefixOf text then some (text.drop literal.length) else none

/-- The nonempty run of accepted characters at the front, and the text behind it. -/
def takeRun (accept : Char → Bool) (text : List Char) : Option (List Char × List Char) :=
  -- One character at least has to be accepted.
  let run := text.takeWhile accept
  if run.isEmpty then none else some (run, text.drop run.length)

/-- An ASCII letter. -/
def isAsciiLetter (char : Char) : Bool :=
  ('A' ≤ char && char ≤ 'Z') || ('a' ≤ char && char ≤ 'z')

/-- An ASCII capital. -/
def isAsciiCapital (char : Char) : Bool := 'A' ≤ char && char ≤ 'Z'

/-- An ASCII letter or digit. -/
def isAsciiAlphanumeric (char : Char) : Bool :=
  isAsciiLetter char || ('0' ≤ char && char ≤ '9')

/-- The optional type behind a publication id, and how much text it takes. -/
def typeSuffix : List Char → String × Nat
  | '/' :: first :: second :: _ =>
    -- The suffix is a slash with two capitals, and whatever comes behind them.
    if isAsciiCapital first && isAsciiCapital second then (String.ofList [first, second], 3)
    else ("", 0)
  | _ => ("", 0)

/-- The publication link at the front of a text, and how much text it takes. -/
def linkAt (text : List Char) : Option (PublicationRef × Nat) := do
  let scheme ← afterLiteral "http" text
  -- No literal behind the scheme starts with the optional letter, so it is never given back.
  let scheme := if scheme.head? = some 's' then scheme.tail else scheme
  let path ← afterLiteral "://docs.sram.com/" scheme
  let (locale, path) ← takeRun (fun char => isAsciiLetter char || char == '-') path
  let path ← afterLiteral "/publications/" path
  let (pubId, rest) ← takeRun isAsciiAlphanumeric path
  let (pubType, taken) := typeSuffix rest
  let pubId := String.ofList pubId
  return ({ pubId, pubType
            sourceUrl := "https://docs.sram.com/" ++ String.ofList locale ++ "/publications/" ++
              pubId }, text.length - rest.length + taken)

/-- The links of a text in order, given how much of it belongs to the link before. -/
def linksFrom : Nat → List Char → List PublicationRef
  | _, [] => []
  | skipped + 1, _ :: rest => linksFrom skipped rest
  | 0, char :: rest =>
    match linkAt (char :: rest) with
    | none => linksFrom 0 rest
    -- The search goes on behind the link.
    | some (ref, taken) => ref :: linksFrom (taken - 1) rest

/-- All publication links of a page, as `_PUB_RE.finditer` finds them. -/
def publicationLinks (html : String) : List PublicationRef := linksFrom 0 html.toList

/-- Note a link: the first one of a publication stays unless only the new one has a type. -/
def noteRef (refs : List PublicationRef) (ref : PublicationRef) : List PublicationRef :=
  if ref.pubId ∈ refs.map PublicationRef.pubId then
    -- Upgrade a bare ref to a typed one.
    refs.map fun old =>
      if old.pubId = ref.pubId ∧ ref.pubType ≠ "" ∧ old.pubType = "" then ref else old
  else refs ++ [ref]

/-- The publication references of a model page, in the order the publications first appear. -/
def parsePublicationRefs (html : String) : List PublicationRef :=
  (publicationLinks html).foldl noteRef []

/-- Some reference to the publication has a type. -/
def TypedIn (pubId : String) (refs : List PublicationRef) : Prop :=
  ∃ ref ∈ refs, ref.pubId = pubId ∧ ref.pubType ≠ ""

/-- The references are listed. -/
instance (pubId : String) (refs : List PublicationRef) : Decidable (TypedIn pubId refs) :=
  inferInstanceAs (Decidable (∃ ref ∈ refs, _))

section Laws

variable {refs links : List PublicationRef} {ref : PublicationRef} {pubId : String}

/-- Noting a link keeps one reference for each publication. -/
theorem noteRef_nodup (distinct : (refs.map PublicationRef.pubId).Nodup) :
    ((noteRef refs ref).map PublicationRef.pubId).Nodup := by
  unfold noteRef
  split
  · -- A replaced reference has the id of the one it replaces.
    have ids : (refs.map fun old =>
        if old.pubId = ref.pubId ∧ ref.pubType ≠ "" ∧ old.pubType = "" then ref else old).map
          PublicationRef.pubId = refs.map PublicationRef.pubId := by
      rw [List.map_map]
      refine List.map_congr_left fun old _ => ?_
      simp only [Function.comp_apply]
      split
      · rename_i upgraded
        exact upgraded.1.symm
      · rfl
    rw [ids]
    exact distinct
  · rename_i fresh
    refine Table.nodup_concat distinct fun old member same => fresh ?_
    exact List.mem_map.mpr ⟨old, member, same⟩

/-- A noted link makes its publication typed if it has a type, and forgets no type. -/
theorem typedIn_noteRef :
    TypedIn pubId (noteRef refs ref) ↔
      TypedIn pubId refs ∨ (ref.pubId = pubId ∧ ref.pubType ≠ "") := by
  unfold noteRef
  split
  · rename_i known
    constructor
    · -- A reference of the list was there, or it is the new one.
      intro noted
      obtain ⟨_, member, named, typed⟩ := noted
      obtain ⟨old, oldMember, rfl⟩ := List.mem_map.mp member
      split at named
      · rename_i upgraded
        exact Or.inr ⟨named, upgraded.2.1⟩
      · rename_i kept
        rw [if_neg kept] at typed
        exact Or.inl ⟨old, oldMember, named, typed⟩
    · intro known
      rcases known with ⟨old, member, named, typed⟩ | ⟨named, typed⟩
      · -- A typed reference is never replaced.
        have kept : ¬ (old.pubId = ref.pubId ∧ ref.pubType ≠ "" ∧ old.pubType = "") :=
          fun upgraded => typed upgraded.2.2
        exact ⟨old, List.mem_map.mpr ⟨old, member, if_neg kept⟩, named, typed⟩
      · obtain ⟨old, member, same⟩ := List.mem_map.mp known
        -- An untyped one is replaced, and a typed one stays.
        by_cases bare : old.pubType = ""
        · exact ⟨ref, List.mem_map.mpr ⟨old, member, if_pos ⟨same, typed, bare⟩⟩, named, typed⟩
        · have kept : ¬ (old.pubId = ref.pubId ∧ ref.pubType ≠ "" ∧ old.pubType = "") :=
            fun upgraded => bare upgraded.2.2
          exact ⟨old, List.mem_map.mpr ⟨old, member, if_neg kept⟩, same.trans named, bare⟩
  · simp only [TypedIn, List.mem_append, List.mem_singleton, or_and_right, exists_or,
      exists_eq_left]

/-- Noting links one after the other keeps one reference for each publication. -/
theorem foldl_noteRef_nodup (distinct : (refs.map PublicationRef.pubId).Nodup) :
    ((links.foldl noteRef refs).map PublicationRef.pubId).Nodup := by
  -- Each link is noted in a list that has no id twice.
  induction links generalizing refs with
  | nil => exact distinct
  | cons link rest ih => exact ih (noteRef_nodup distinct)

/-- After some links are noted a publication is typed if it was or if a link gave it a type. -/
theorem typedIn_foldl_noteRef :
    TypedIn pubId (links.foldl noteRef refs) ↔ TypedIn pubId refs ∨ TypedIn pubId links := by
  -- The links are noted from the front.
  induction links generalizing refs with
  | nil => simp [TypedIn]
  | cons link rest ih =>
    rw [List.foldl_cons, ih, typedIn_noteRef, or_assoc]
    simp only [TypedIn, List.mem_cons, or_and_right, exists_or, exists_eq_left]

/-- A model page gives one reference for each publication. -/
theorem parsePublicationRefs_nodup (html : String) :
    ((parsePublicationRefs html).map PublicationRef.pubId).Nodup :=
  foldl_noteRef_nodup List.nodup_nil

/-- The reference to a publication has a type when some link of the page does. -/
theorem typedIn_parsePublicationRefs {html : String} :
    TypedIn pubId (parsePublicationRefs html) ↔ TypedIn pubId (publicationLinks html) := by
  -- Nothing was noted before the first link.
  rw [parsePublicationRefs, typedIn_foldl_noteRef]
  simp [TypedIn]

/-- A bare link and a later typed one become one typed reference. -/
example : parsePublicationRefs
    "https://docs.sram.com/en-US/publications/AB1 http://docs.sram.com/de/publications/AB1/UMx" =
      [{ pubId := "AB1", pubType := "UM"
         sourceUrl := "https://docs.sram.com/de/publications/AB1" }] := by
  decide +kernel

end Laws

end TorqueFinder
