import TorqueFinder.Domain.Errors
import TorqueFinder.Lib.ExceptFlow
import TorqueFinder.Lib.Json

/-! What discovery reads from the page of a publication. -/

namespace TorqueFinder

open PyText PyJson ExceptFlow

/-- The library functions a page reader calls beside those on JSON. -/
structure PageLibrary extends Interpreter where
  /-- The hexadecimal SHA-256 digest of a text in UTF-8. -/
  sha256Hex : String → String
  /-- `html.unescape`. -/
  unescape : String → String
  /-- `repr` of a text. -/
  repr : String → String

/-- A publication link found on a model page. -/
structure PublicationRef where
  pubId : String
  pubType : String := ""
  sourceUrl : String
  deriving DecidableEq

/-- Metadata for one publication, parsed from its embedded data. -/
structure DiscoveredPublication where
  pubId : String
  pubType : String := ""
  title : String := ""
  locale : String := ""
  sourceUrl : String
  series : List String := []
  models : List String := []
  procedures : List String := []
  contentHash : String
  deriving DecidableEq

/-- The letter a character stands for when an ASCII pattern ignores the case. -/
def foldCase (char : Char) : Char :=
  if 'A' ≤ char ∧ char ≤ 'Z' then Char.ofNat (char.toNat + 32)
  -- The long s, the dotted and dotless I and the Kelvin sign also match an ASCII letter.
  else if char.toNat = 0x17F then 's'
  else if char.toNat = 0x130 ∨ char.toNat = 0x131 then 'i'
  else if char.toNat = 0x212A then 'k'
  else char

/-- The text starts with a pattern, whatever its case. -/
def startsWithFolded : List Char → List Char → Bool
  | [], _ => true
  | _ :: _, [] => false
  -- The pattern is in lower case already, so only the text is folded.
  | letter :: pattern, char :: text => foldCase char = letter && startsWithFolded pattern text

/-- The text in front of the first occurrence of a pattern, whatever its case. -/
def beforeFolded (pattern : List Char) : List Char → Option (List Char)
  | [] => if pattern.isEmpty then some [] else none
  | char :: rest =>
    -- The lazy group ends where the pattern is met first.
    if startsWithFolded pattern (char :: rest) then some []
    else (beforeFolded pattern rest).map fun front => char :: front

/-- The group of `<script[^>]*id="manual-data"[^>]*>(.*?)</script>` matched at the front. -/
def manualDataAt (text : List Char) : Option (List Char) :=
  let opening := "<script".toList
  if startsWithFolded opening text then
    let tag := text.drop opening.length
    -- No attribute text crosses a closing bracket, so the tag ends at the first one.
    let attributes := tag.takeWhile (· ≠ '>')
    if (beforeFolded "id=\"manual-data\"".toList attributes).isSome then
      match tag.drop attributes.length with
      | _ :: content => beforeFolded "</script>".toList content
      | [] => none
    else none
  else none

/-- The group of the leftmost match in a text. -/
def searchManualData : List Char → Option (List Char)
  | [] => none
  | char :: rest =>
    -- The leftmost position that opens a match wins.
    match manualDataAt (char :: rest) with
    | some group => some group
    | none => searchManualData rest

/-- The raw JSON text of the data block of a page. -/
def extractManualDataJson (html : String) : Except DiscoveryError String :=
  match searchManualData html.toList with
  -- The white space around the data is dropped.
  | some group => .ok (strip (String.ofList group))
  | none => .error ⟨"publication HTML has no <script id='manual-data'> block"⟩

/-- The values of the options that have one. -/
def optionValues : List Json → Except PyException (List Json)
  | [] => .ok []
  | option :: rest => do
    -- An option without a value is left out.
    let present ← option.contains "value"
    let front ← if present then (fun value => [value]) <$> option.subscript "value" else .ok []
    return front ++ (← optionValues rest)

/-- The option values of the first filter with a key. -/
def filterValuesIn (key : String) : List Json → Except PyException (List Json)
  | [] => .ok []
  | entry :: rest => do
    match ← entry.field "key" with
    | .str name =>
      -- Filters behind the first one with the key are not looked at.
      if name = key then optionValues (← iterate (← entry.fieldOr "options" (.arr [])))
      else filterValuesIn key rest
    | _ => filterValuesIn key rest

/-- The option values of a filter of the data. -/
def filterValues (data : Json) (key : String) : Except PyException (List Json) := do
  filterValuesIn key (← iterate (← data.fieldOr "filters" (.arr [])))

/-- Texts as the metadata accepts them: no other value is converted. -/
def textValues : List Json → Except PyException (List String)
  | [] => .ok []
  | .str text :: rest => (fun texts => text :: texts) <$> textValues rest
  -- The record has lists of texts, and the validation refuses anything else.
  | _ :: _ => .error .valueError

/-- How the page of a publication fails to give metadata. -/
inductive ProbeFailure where
  /-- The domain error the crawler knows. -/
  | discovery (error : DiscoveryError)
  /-- Any other exception. -/
  | uncaught (exception : PyException)
  deriving DecidableEq

/-- The metadata a page carries about itself. -/
structure ManualData where
  title : String
  locale : String
  series : List String
  models : List String
  procedures : List String
  deriving DecidableEq

/-- The metadata in loaded data. -/
def manualData (library : PageLibrary) (data : Json) : Except PyException ManualData := do
  let title ← library.str (← data.fieldOr "title" (.str ""))
  let locale ← library.str (← data.fieldOr "locale" (.str ""))
  let series ← filterValues data "series"
  let models ← filterValues data "models"
  let procedures ← filterValues data "procedure"
  -- The metadata is validated only after all of it was read.
  return { title := strip title, locale, series := ← textValues series
           models := ← textValues models, procedures := ← textValues procedures }

/-- What discovery records of a page: its link, its metadata and the hash of its raw data. -/
def discovered (library : PageLibrary) (ref : PublicationRef) (raw : String) (data : ManualData) :
    DiscoveredPublication where
  pubId := ref.pubId
  pubType := ref.pubType
  title := data.title
  locale := data.locale
  sourceUrl := ref.sourceUrl
  series := data.series
  models := data.models
  procedures := data.procedures
  -- The hash is over the raw data, not over what was read of it.
  contentHash := library.sha256Hex raw

/-- Parse the page of a publication into metadata. -/
def buildPublication (library : PageLibrary) (html : String) (ref : PublicationRef) :
    Except ProbeFailure DiscoveredPublication := do
  let raw ← (extractManualDataJson html).mapError .discovery
  match library.loads raw with
  | .ok data => discovered library ref raw <$> (manualData library data).mapError .uncaught
  -- Only malformed JSON becomes a domain error.
  | .error .jsonDecodeError =>
    .error (.discovery ⟨"manual-data JSON for " ++ ref.pubId ++ " is invalid"⟩)
  | .error exception => .error (.uncaught exception)

/-- What a page gives is made of its link and its raw data block. -/
theorem buildPublication_eq_ok {library : PageLibrary} {html : String} {ref : PublicationRef}
    {pub : DiscoveredPublication} (built : buildPublication library html ref = .ok pub) :
    ∃ raw data, extractManualDataJson html = .ok raw ∧ pub = discovered library ref raw data := by
  -- Every other outcome of the reading is an error.
  obtain ⟨raw, extracted, built⟩ := bind_eq_ok.mp built
  rw [mapError_eq_ok] at extracted
  split at built
  · obtain ⟨data, _, rfl⟩ := map_eq_ok.mp built
    exact ⟨raw, data, extracted, rfl⟩
  · cases built
  · cases built

end TorqueFinder
