import Mathlib.Data.String.Basic

/-! Files written and read as text in UTF-8, where reading translates the ends of lines. -/

namespace TextFile

/-- The text with one line feed for each end of a line, given whether a return came just before. -/
def newlinesFrom : Bool → List Char → List Char
  | _, [] => []
  | returned, char :: rest =>
    if char = '\r' then '\n' :: newlinesFrom true rest
    -- The feed of a pair was written for its return already.
    else if returned && char = '\n' then newlinesFrom false rest
    else char :: newlinesFrom false rest

/-- The text as a reader with universal newlines gives it. -/
def universalNewlines (text : String) : String := String.ofList (newlinesFrom false text.toList)

/-- The bytes of a file that a text is written to, where no line ending is translated. -/
def writeText (text : String) : ByteArray := text.toUTF8

/-- The text read from the bytes of a file, or none when they are not UTF-8. -/
def readText (bytes : ByteArray) : Option String :=
  (String.fromUTF8? bytes).map universalNewlines

/-- No return is left in a translated text. -/
theorem not_mem_newlinesFrom (returned : Bool) (text : List Char) :
    '\r' ∉ newlinesFrom returned text := by
  -- A return becomes a feed, and every other character is no return.
  induction text generalizing returned with
  | nil => exact List.not_mem_nil
  | cons char rest ih =>
    unfold newlinesFrom
    split
    · exact List.not_mem_cons_of_ne_of_not_mem (by decide) (ih true)
    · rename_i other
      split
      · exact ih false
      · exact List.not_mem_cons_of_ne_of_not_mem (Ne.symm other) (ih false)

/-- A text without returns is left as it is. -/
theorem newlinesFrom_eq_self {text : List Char} (bare : '\r' ∉ text) :
    newlinesFrom false text = text := by
  -- No character is a return, so each one is kept.
  induction text with
  | nil => rfl
  | cons char rest ih =>
    obtain ⟨other, later⟩ := List.ne_and_not_mem_of_not_mem_cons bare
    rw [newlinesFrom, if_neg (Ne.symm other), ih later]
    rfl

/-- Translation changes exactly the texts with a return. -/
theorem universalNewlines_eq_self_iff {text : String} :
    universalNewlines text = text ↔ '\r' ∉ text.toList := by
  -- A translated text has no return, and a text without returns is kept.
  constructor
  · intro same
    have left := not_mem_newlinesFrom false text.toList
    rwa [← String.toList_ofList (l := newlinesFrom false text.toList), ← universalNewlines,
      same] at left
  · intro bare
    rw [universalNewlines, newlinesFrom_eq_self bare, String.ofList_toList]

/-- What was written reads back translated. -/
theorem readText_writeText (text : String) :
    readText (writeText text) = some (universalNewlines text) := by
  -- What was written is UTF-8 and stands for the text itself.
  have decoded : String.fromUTF8? text.toByteArray = some text := dif_pos text.isValidUTF8
  rw [readText, writeText, String.toUTF8_eq_toByteArray, decoded]
  rfl

end TextFile
