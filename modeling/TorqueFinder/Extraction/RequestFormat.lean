import Mathlib
import TorqueFinder.Extraction.ReplyLaws

/-! The message sent to the model can be read back: no text of a source hides where it ends. -/

namespace TorqueFinder

open ExceptFlow

/-- A source as the message shows it. -/
inductive ShownSource where
  /-- The image of a page. -/
  | page (index : Int) (label : String) (png : List UInt8)
  /-- The text of a module. -/
  | passage (index : Int) (label text : String)
  deriving DecidableEq

/-- What of a candidate the message shows. -/
def ExtractionCandidate.shown (candidate : ExtractionCandidate) : Option ShownSource :=
  -- A page shows its image and a passage its text.
  match candidate.sourceType with
  | .pdf => candidate.pngBytes.map (.page candidate.index candidate.label)
  | .html => candidate.text.map (.passage candidate.index candidate.label)

/-- What stands behind an opening. -/
def readBehind (opening : String) (text : List Char) : Option (List Char) :=
  if opening.toList <+: text then some (text.drop opening.toList.length) else none

/-- The number in front of a colon, and what stands behind the colon and a blank. -/
def readNumber (text : List Char) : Option (Int × List Char) := do
  -- A colon and a blank follow the number.
  let number ← (String.ofList (text.takeWhile (· ≠ ':'))).toInt?
  return (number, (text.dropWhile (· ≠ ':')).drop 2)

/-- The number and the label in the text below an image. -/
def readMarker (text : String) : Option (Int × String) := do
  -- The sentence ends with a full stop that is no part of the label.
  let rest ← readBehind "Above is source " text.toList
  let (index, rest) ← readNumber rest
  return (index, String.ofList rest.dropLast)

/-- The source in a text that shows one. -/
def readPassage (text : String) : Option ShownSource := do
  let rest ← readBehind "Source " text.toList
  let (index, rest) ← readNumber rest
  -- The label is a line of its own, and a line of dashes stands before and behind the text.
  let framed := (rest.dropWhile (· ≠ '\n')).drop "\n---\n".toList.length
  let shown := framed.take (framed.length - "\n---".toList.length)
  return .passage index (String.ofList (rest.takeWhile (· ≠ '\n'))) (String.ofList shown)

/-- What the question is followed by. -/
def instructions : String :=
  -- The client writes the same text behind every question.
  "\n\n" ++ "Answer the question using only these sources. First " ++
    "identify the asked fastener, then its torque, then every " ++
    "tool/driver whose size is explicitly stated for it — put " ++
    "any stated tool size in the tool_size field (leave it null " ++
    "only if no size is stated). " ++
    "Reply ONLY with JSON matching the schema."

/-- The question in the last text. -/
def readQuestion (text : String) : Option String := do
  -- The length of the instructions tells where the question ends.
  let rest ← readBehind "Question: " text.toList
  return String.ofList (rest.take (rest.length - instructions.toList.length))

/-- The sources and the question of a message. -/
def readRequest : List UserBlock → Option (List ShownSource × String)
  | [.text text] => do
    let query ← readQuestion text
    return ([], query)
  -- An image belongs to the marker that follows it.
  | .image _ data :: .text text :: rest => do
    let png ← Base64.decode data
    let (index, label) ← readMarker text
    let (sources, query) ← readRequest rest
    return (.page index label png :: sources, query)
  | .text text :: rest => do
    let source ← readPassage text
    let (sources, query) ← readRequest rest
    return (source :: sources, query)
  | _ => none

/-- The label of a passage is a single line, which is what marks its end. -/
def ExtractionCandidate.Plain (candidate : ExtractionCandidate) : Prop :=
  candidate.sourceType = .html → '\n' ∉ candidate.label.toList

variable {candidate : ExtractionCandidate} {candidates : List ExtractionCandidate} {query : String}
  {blocks : List UserBlock}

/-- What stands behind an opening is read. -/
theorem readBehind_append (opening : String) (rest : List Char) :
    readBehind opening (opening.toList ++ rest) = some rest := by
  rw [readBehind, if_pos (List.prefix_append _ _), List.drop_left]

/-- What stands in front of a separator and behind it is told apart by its first occurrence. -/
theorem takeWhile_separator {separator : Char} {front : List Char} (absent : separator ∉ front)
    (rest : List Char) :
    (front ++ separator :: rest).takeWhile (· ≠ separator) = front ∧
      (front ++ separator :: rest).dropWhile (· ≠ separator) = separator :: rest := by
  -- The first separator is the one behind the front.
  have passes : ∀ char ∈ front, decide (char ≠ separator) = true := fun char member =>
    decide_eq_true fun same => absent (same ▸ member)
  rw [List.takeWhile_append_of_pos passes, List.dropWhile_append_of_pos passes]
  simp

/-- A number holds no colon. -/
theorem colon_not_mem_toString (number : Int) : ':' ∉ (toString number).toList := by
  -- A natural number is written in digits.
  have digits : ∀ value : Nat, ':' ∉ value.repr.toList := by
    intro value member
    rw [Nat.toList_repr] at member
    have digit := Nat.isDigit_of_mem_toDigits (by decide) (by decide) member
    exact absurd digit (by decide)
  show ':' ∉ number.repr.toList
  rw [Int.repr_eq_if]
  -- A negative number has a sign in front.
  split
  · exact digits _
  · rw [String.toList_append, List.mem_append, not_or]
    exact ⟨by decide, digits _⟩

/-- A number in front of a colon is read. -/
theorem readNumber_append (number : Int) (rest : List Char) :
    readNumber ((toString number).toList ++ (": ".toList ++ rest)) = some (number, rest) := by
  -- The number holds no colon, so the first colon ends it.
  obtain ⟨front, back⟩ := takeWhile_separator (colon_not_mem_toString number) (' ' :: rest)
  have read : (toString number).toInt? = some number := Int.toInt?_repr number
  show readNumber ((toString number).toList ++ ':' :: ' ' :: rest) = some (number, rest)
  rw [readNumber, front, back, String.ofList_toList, read]
  rfl

/-- The text below an image is read back. -/
theorem readMarker_pageMarker (candidate : ExtractionCandidate) :
    readMarker (pageMarker candidate) = some (candidate.index, candidate.label) := by
  -- The marker is bracketed in the order in which it is read.
  have shape : (pageMarker candidate).toList = "Above is source ".toList ++
      ((toString candidate.index).toList ++ (": ".toList ++
        (candidate.label.toList ++ ".".toList))) := by
    unfold pageMarker
    rw [String.toList_append, String.toList_append, String.toList_append, String.toList_append,
      List.append_assoc, List.append_assoc, List.append_assoc]
  have ending : (candidate.label.toList ++ ".".toList).dropLast = candidate.label.toList :=
    List.dropLast_concat
  rw [readMarker, shape, readBehind_append]
  simp only [Option.bind_eq_bind, Option.bind_some, readNumber_append, ending,
    String.ofList_toList]
  rfl

/-- The text that shows a module is read back. -/
theorem readPassage_sectionText {text : String} (single : '\n' ∉ candidate.label.toList) :
    readPassage (sectionText candidate text) =
      some (.passage candidate.index candidate.label text) := by
  have shape : (sectionText candidate text).toList = "Source ".toList ++
      ((toString candidate.index).toList ++ (": ".toList ++ (candidate.label.toList ++
        ("\n---\n".toList ++ (text.toList ++ "\n---".toList))))) := by
    simp only [sectionText, String.toList_append, List.append_assoc]
  -- The first line break is the one behind the label.
  have ends : "\n---\n".toList ++ (text.toList ++ "\n---".toList) =
      '\n' :: ("---\n".toList ++ (text.toList ++ "\n---".toList)) := rfl
  obtain ⟨front, back⟩ := takeWhile_separator single
    ("---\n".toList ++ (text.toList ++ "\n---".toList))
  rw [← ends] at front back
  have framed : (text.toList ++ "\n---".toList).length - "\n---".toList.length =
      text.toList.length := by
    rw [List.length_append, Nat.add_sub_cancel]
  rw [readPassage, shape, readBehind_append]
  simp only [Option.bind_eq_bind, Option.bind_some, readNumber_append, front, back,
    List.drop_left, framed, List.take_left, String.ofList_toList]
  rfl

/-- The question is read back. -/
theorem readQuestion_questionBlock (query : String) :
    ∃ text, questionBlock query = .text text ∧ readQuestion text = some query := by
  refine ⟨"Question: " ++ (query ++ instructions), ?_, ?_⟩
  · simp only [questionBlock, instructions, String.append_assoc]
  · have shape : ("Question: " ++ (query ++ instructions)).toList =
        "Question: ".toList ++ (query.toList ++ instructions.toList) := by
      simp only [String.toList_append]
    -- Taking off the instructions leaves the question.
    have enough : (query.toList ++ instructions.toList).length - instructions.toList.length =
        query.toList.length := by
      rw [List.length_append, Nat.add_sub_cancel]
    rw [readQuestion, shape, readBehind_append]
    simp only [Option.bind_eq_bind, Option.bind_some, enough, List.take_left, String.ofList_toList]
    rfl

/-- The blocks of a candidate are read back, with whatever blocks stand behind them. -/
theorem readRequest_candidateBlocks {shown rest : List UserBlock} {sources : List ShownSource}
    (plain : candidate.Plain) (presented : candidateBlocks candidate = .ok shown)
    (others : readRequest rest = some (sources, query)) :
    ∃ source, candidate.shown = some source ∧
      readRequest (shown ++ rest) = some (source :: sources, query) := by
  unfold candidateBlocks at presented
  split at presented
  · rename_i kind
    split at presented
    · cases presented
    · -- The image is decoded, and the marker tells which source it shows.
      rename_i png image
      cases presented
      have seen : candidate.shown = some (.page candidate.index candidate.label png) := by
        simp only [ExtractionCandidate.shown, kind, image, Option.map_some]
      refine ⟨_, seen, ?_⟩
      show readRequest (.image _ _ :: .text _ :: rest) = _
      simp only [readRequest, Base64.decode_encode, readMarker_pageMarker, others]
      rfl
  · rename_i kind
    split at presented
    · cases presented
    · rename_i text written
      cases presented
      have seen : candidate.shown = some (.passage candidate.index candidate.label text) := by
        simp only [ExtractionCandidate.shown, kind, written, Option.map_some]
      refine ⟨_, seen, ?_⟩
      -- Something stands behind the passage, so it is not taken for the question.
      cases rest with
      | nil => cases others
      | cons next more =>
        show readRequest (.text _ :: next :: more) = _
        simp only [readRequest, readPassage_sectionText (plain kind), others]
        rfl

/-- What a message shows is read back: every source in order, and the question. -/
theorem readRequest_buildUserBlocks (plain : ∀ candidate ∈ candidates, candidate.Plain)
    (built : buildUserBlocks query candidates = .ok blocks) :
    ∃ sources, readRequest blocks = some (sources, query) ∧
      List.Forall₂ (fun candidate source => candidate.shown = some source) candidates sources := by
  obtain ⟨groups, presented, same⟩ := bind_eq_ok.mp built
  obtain rfl := pure_eq_ok.mp same
  clear built same
  -- The question is read first, and then each candidate in front of what was read.
  induction candidates generalizing groups with
  | nil =>
    obtain rfl := pure_eq_ok.mp presented
    obtain ⟨text, asked, read⟩ := readQuestion_questionBlock query
    refine ⟨[], ?_, .nil⟩
    rw [asked]
    simp [readRequest, read]
  | cons candidate rest ih =>
    rw [List.mapM_cons] at presented
    obtain ⟨shown, first, presented⟩ := bind_eq_ok.mp presented
    obtain ⟨others, later, same⟩ := bind_eq_ok.mp presented
    obtain rfl := pure_eq_ok.mp same
    obtain ⟨single, plainRest⟩ := List.forall_mem_cons.mp plain
    obtain ⟨sources, read, collected⟩ := ih plainRest others later
    obtain ⟨source, seen, readAll⟩ := readRequest_candidateBlocks single first read
    refine ⟨source :: sources, ?_, .cons seen collected⟩
    rw [List.flatten_cons, List.append_assoc]
    exact readAll

end TorqueFinder
