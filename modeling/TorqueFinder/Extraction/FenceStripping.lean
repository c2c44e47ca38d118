import TorqueFinder.Extraction.ClaudeClient
import TorqueFinder.Lib.PyTextLaws

/-! Stripping the fence off a fenced reply gives back the reply. -/

namespace TorqueFinder

open PyText

variable {info payload : String}

/-- What stands behind a first line is what the first line feed is followed by. -/
theorem afterFirstNewline_line {line : List Char} (oneLine : '\n' ∉ line) (rest : List Char) :
    afterFirstNewline (line ++ '\n' :: rest) = rest := by
  -- The newline ends the line, because the line itself holds none.
  have kept : ∀ char ∈ line, (decide (char ≠ '\n')) = true := by
    intro char member
    simpa using ne_of_mem_of_not_mem member oneLine
  rw [afterFirstNewline, if_pos (by simp), List.dropWhile_append_of_pos kept]
  simp

/-- A payload put behind a fence line and in front of a closing fence. -/
def fenced (info payload : String) : String := "```" ++ info ++ "\n" ++ payload ++ "\n```"

/-- The characters of a fenced payload, line by line. -/
theorem toList_fenced (info payload : String) :
    (fenced info payload).toList =
      ("```".toList ++ info.toList) ++ '\n' :: ((payload.toList ++ ['\n']) ++ "```".toList) := by
  -- The parts are bracketed as the proofs below take them off.
  simp [fenced]

/-- A fenced payload neither starts nor ends with white space. -/
theorem strip_fenced (info payload : String) :
    strip (fenced info payload) = fenced info payload := by
  -- The first character and the last one are backticks.
  rw [strip_eq_self_iff, toList_fenced]
  constructor
  · intro char first
    obtain rfl : '`' = char := by simpa using first
    decide
  · intro char last
    rw [← List.cons_append, ← List.append_assoc,
      List.getLast?_append_of_ne_nil _ (by decide)] at last
    obtain rfl : '`' = char := by simpa using last
    decide

/-- The payload of a fence comes out with the line feed in front of the closing fence. -/
theorem stripJsonFences_fenced (oneLine : '\n' ∉ info.toList) :
    stripJsonFences (fenced info payload) = strip (payload ++ "\n") := by
  have openLine : '\n' ∉ "```".toList ++ info.toList := by
    simpa using oneLine
  have opens : "```".toList.isPrefixOf (fenced info payload).toList = true := by
    rw [List.isPrefixOf_iff_prefix, toList_fenced, List.append_assoc]
    exact List.prefix_append _ _
  have closes : "```".toList.isSuffixOf ((payload.toList ++ ['\n']) ++ "```".toList) = true := by
    rw [List.isSuffixOf_iff_suffix]
    exact List.suffix_append _ _
  have behind : afterFirstNewline (fenced info payload).toList =
      (payload.toList ++ ['\n']) ++ "```".toList := by
    rw [toList_fenced]
    exact afterFirstNewline_line openLine _
  rw [stripJsonFences, strip_fenced]
  dsimp only
  -- Only the last three characters are cut, whatever the payload holds in front of them.
  rw [if_pos opens, behind, if_pos closes, List.length_append, Nat.add_sub_cancel,
    List.take_left' rfl]
  congr 1
  rw [← String.toList_inj]
  simp

/-- Stripping the fences of a text only reads the stripped text. -/
theorem stripJsonFences_strip (text : String) :
    stripJsonFences (strip text) = stripJsonFences text := by
  rw [stripJsonFences, strip_strip, stripJsonFences]

/-- A stripped payload comes out of a text around it, with a fence and without one. -/
theorem stripJsonFences_surrounded {front back : String} (before : IsBlank front)
    (after : IsBlank back) (stripped : strip payload = payload)
    (unfenced : ¬ "```".toList <+: payload.toList) (oneLine : '\n' ∉ info.toList) :
    stripJsonFences (front ++ payload ++ back) = payload ∧
      stripJsonFences (front ++ ("```" ++ info ++ "\n" ++ payload ++ "\n```") ++ back) =
        payload := by
  constructor
  · have closed : ¬ "```".toList.isPrefixOf payload.toList = true := by
      rwa [List.isPrefixOf_iff_prefix]
    rw [← stripJsonFences_strip, strip_surrounded before after, stripped, stripJsonFences, stripped]
    dsimp only
    rw [if_neg closed, String.ofList_toList, stripped]
  · have lineFeed : IsBlank "\n" := by
      intro char member
      obtain rfl : char = '\n' := by simpa using member
      decide
    have nothing : IsBlank "" := by simp [IsBlank]
    have trimmed : strip (payload ++ "\n") = strip payload := by
      simpa using strip_surrounded nothing lineFeed payload
    rw [← stripJsonFences_strip, strip_surrounded before after, stripJsonFences_strip]
    -- The two trimmings meet at the line feed the fence put behind the payload.
    calc stripJsonFences (fenced info payload)
        = strip (payload ++ "\n") := stripJsonFences_fenced oneLine
      _ = strip payload := trimmed
      _ = payload := stripped

/-- A payload that ends in a fence of its own comes out whole. -/
theorem stripJsonFences_nested :
    stripJsonFences (" \n" ++ "[1,\n```2\n```" ++ "\n\n") = "[1,\n```2\n```" ∧
      stripJsonFences (" \n" ++ ("```" ++ "json" ++ "\n" ++ "[1,\n```2\n```" ++ "\n```") ++
        "\n\n") = "[1,\n```2\n```" := by
  -- Blanks around, and a fence inside the payload that has to stay.
  have before : IsBlank " \n" := by
    intro char member
    have either : char = ' ' ∨ char = '\n' := by simpa using member
    obtain rfl | rfl := either <;> decide
  have after : IsBlank "\n\n" := by
    intro char member
    obtain rfl : char = '\n' := by simpa using member
    decide
  exact stripJsonFences_surrounded before after (by decide) (by decide) (by decide)

end TorqueFinder
