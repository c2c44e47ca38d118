import Mathlib.Algebra.Order.Field.Rat
import Mathlib.Tactic.Positivity
import Mathlib.Tactic.Ring
import TorqueFinder.Lib.PyTextLaws

/-! Decimal numbers as they are written, and what they are worth. -/

namespace TorqueFinder

open PyText

/-- The value a run of decimal digits writes. -/
def digitsValue (digits : List Char) : Nat :=
  digits.foldl (fun value char => 10 * value + (decimalValue char).getD 0) 0

/-- A decimal number as it is written: digits with an optional fractional part. -/
structure Figure where
  whole : List Char
  fraction : Option (List Char)
  /-- The whole part is digits. -/
  whole_digits : ∀ char ∈ whole, isDecimal char = true
  /-- The fractional part is digits. -/
  fraction_digits : ∀ digits ∈ fraction, ∀ char ∈ digits, isDecimal char = true
  /-- There is a whole part. -/
  whole_ne_nil : whole ≠ []
  /-- A decimal point has digits behind it. -/
  fraction_ne_nil : fraction ≠ some []

namespace Figure

/-- The figure as it is written. -/
def text (figure : Figure) : List Char :=
  figure.whole ++ (figure.fraction.map fun digits => '.' :: digits).getD []

/-- The number the figure stands for. -/
def value (figure : Figure) : ℚ :=
  let digits := figure.fraction.getD []
  -- The digits are read as one number and then moved by the length of the fraction.
  digitsValue (figure.whole ++ digits) / 10 ^ digits.length

end Figure

/-- The characters of a decimal number. -/
def isFigureChar (char : Char) : Bool := isDecimal char || char == '.'

/-- A figure is written in digits and decimal points. -/
theorem Figure.isFigureChar_of_mem {figure : Figure} {char : Char} (member : char ∈ figure.text) :
    isFigureChar char = true := by
  -- Both parts are digits, and only the point stands between them.
  rcases List.mem_append.mp member with whole | behind
  · simp [isFigureChar, figure.whole_digits char whole]
  · cases fraction : figure.fraction with
    | none => simp [fraction] at behind
    | some digits =>
      rw [fraction] at behind
      rcases List.mem_cons.mp behind with rfl | inside
      · rfl
      · simp [isFigureChar, figure.fraction_digits digits fraction char inside]

/-- A character of a number is no white space. -/
theorem isSpace_of_isFigureChar {char : Char} (inside : isFigureChar char = true) :
    isSpace char = false := by
  obtain digit | rfl : isDecimal char = true ∨ char = '.' := by simpa [isFigureChar] using inside
  · exact isSpace_of_isDecimal digit
  · rfl

/-- A figure starts with a digit. -/
theorem Figure.exists_digit (figure : Figure) :
    ∃ digit rest, figure.text = digit :: rest ∧ isDecimal digit = true := by
  -- The whole part is never empty, so its first digit begins the text.
  obtain ⟨digit, more, shape⟩ := List.exists_cons_of_ne_nil figure.whole_ne_nil
  have isDigit := figure.whole_digits digit (by simp [shape])
  exact ⟨digit, _, by rw [Figure.text, shape, List.cons_append], isDigit⟩

/-- Where a figure ends, the characters of a number end. -/
theorem Figure.takeWhile_text (figure : Figure) {rest : List Char}
    (stop : ∀ char ∈ rest.head?, isFigureChar char = false) :
    (figure.text ++ rest).takeWhile isFigureChar = figure.text := by
  -- Every character of a figure may stand in one, and the next one may not.
  rw [List.takeWhile_append_of_pos fun _ => Figure.isFigureChar_of_mem]
  cases rest with
  | nil => simp
  | cons char rest => simp [stop char rfl]

/-- The whole part of a figure is the digits it starts with. -/
private theorem takeWhile_isDecimal (figure : Figure) :
    figure.text.takeWhile isDecimal = figure.whole := by
  rw [Figure.text, List.takeWhile_append_of_pos figure.whole_digits]
  -- The point ends the run of digits, and so does the end of the figure.
  have point : isDecimal '.' = false := rfl
  cases figure.fraction <;> simp [point]

/-- What is written the same is worth the same. -/
theorem Figure.value_congr {first second : Figure} (same : first.text = second.text) :
    first.value = second.value := by
  -- The digits a text starts with are its whole part, so the two agree part by part.
  have whole : first.whole = second.whole := by
    rw [← takeWhile_isDecimal first, same, takeWhile_isDecimal second]
  have behind : (first.fraction.map fun digits => '.' :: digits).getD [] =
      (second.fraction.map fun digits => '.' :: digits).getD [] := by
    rw [Figure.text, Figure.text, whole] at same
    exact List.append_cancel_left same
  have fraction : first.fraction.getD [] = second.fraction.getD [] := by
    have digits := congrArg List.tail behind
    cases one : first.fraction <;> cases other : second.fraction <;> simp_all
  rw [Figure.value, Figure.value, whole, fraction]

/-- Digits behind a number push it up by powers of ten. -/
private theorem foldl_digits (value : Nat) (digits : List Char) :
    digits.foldl (fun value char => 10 * value + (decimalValue char).getD 0) value =
      value * 10 ^ digits.length + digitsValue digits := by
  -- Induction from the last digit, which is the one that is added last.
  induction digits using List.reverseRecOn with
  | nil => simp [digitsValue]
  | append_singleton digits digit ih =>
    rw [digitsValue, List.foldl_append, List.foldl_append, ih, digitsValue]
    simp only [List.foldl_cons, List.foldl_nil, List.length_append, List.length_singleton, pow_succ]
    ring

/-- The figure with another digit written in front of it. -/
def Figure.behindDigit (figure : Figure) (digit : Char) (isDigit : isDecimal digit = true) :
    Figure where
  -- Only the whole part becomes longer: 1 in front of 6.5 is 16.5.
  whole := digit :: figure.whole
  fraction := figure.fraction
  whole_digits := by
    intro char member
    rcases List.mem_cons.mp member with rfl | inside
    · exact isDigit
    · exact figure.whole_digits char inside
  fraction_digits := figure.fraction_digits
  whole_ne_nil := List.cons_ne_nil _ _
  fraction_ne_nil := figure.fraction_ne_nil

/-- A digit other than zero in front of a figure changes its value. -/
theorem Figure.value_lt_behindDigit (figure : Figure) {digit : Char} {worth : Nat}
    (isDigit : isDecimal digit = true) (stands : decimalValue digit = some (worth + 1)) :
    figure.value < (figure.behindDigit digit isDigit).value := by
  -- The new digit adds its worth at a place above all the others.
  have more : digitsValue (digit :: (figure.whole ++ figure.fraction.getD [])) =
      (worth + 1) * 10 ^ (figure.whole ++ figure.fraction.getD []).length +
        digitsValue (figure.whole ++ figure.fraction.getD []) := by
    rw [digitsValue, List.foldl_cons, foldl_digits, stands]
    simp
  have larger : digitsValue (figure.whole ++ figure.fraction.getD []) <
      digitsValue (digit :: (figure.whole ++ figure.fraction.getD [])) := by
    rw [more]
    exact Nat.lt_add_of_pos_left (by positivity)
  have cast : (digitsValue (figure.whole ++ figure.fraction.getD []) : ℚ) <
      digitsValue (digit :: (figure.whole ++ figure.fraction.getD [])) := by
    exact_mod_cast larger
  rw [Figure.value, Figure.value]
  exact div_lt_div_of_pos_right cast (by positivity)

end TorqueFinder
