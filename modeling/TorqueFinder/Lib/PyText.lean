import Mathlib.Data.List.Infix

/-! The text operations of the Python standard library, on Unicode strings. -/

namespace PyText

/--
Lower-casing of one character, as far as an ASCII pattern can see it.

Outside ASCII only the capital dotted I and the Kelvin sign lower-case to something with ASCII.
Every other character outside ASCII lower-cases to characters outside ASCII and is left alone.
-/
def lowerChar (char : Char) : List Char :=
  if 'A' ≤ char ∧ char ≤ 'Z' then [Char.ofNat (char.toNat + 32)]
  -- The dotted capital becomes an i with a dot above it.
  else if char.toNat = 0x130 then ['i', Char.ofNat 0x307]
  else if char.toNat = 0x212A then ['k']
  else [char]

/-- `text.lower()`, as far as an ASCII pattern can see it. -/
def lower (text : String) : String := String.ofList (text.toList.flatMap lowerChar)

/-- Put a run in front of the others unless it is empty. -/
def addRun (run : List Char) (runs : List (List Char)) : List (List Char) :=
  if run.isEmpty then runs else run :: runs

/-- The run of kept characters at the front, and the maximal runs after it. -/
def splitRuns (keep : Char → Bool) : List Char → List Char × List (List Char)
  | [] => ([], [])
  | char :: rest =>
    let (front, runs) := splitRuns keep rest
    -- A kept character extends the run it stands in front of, any other one closes that run.
    if keep char then (char :: front, runs) else ([], addRun front runs)

/-- `re.findall` of one or more kept characters: the maximal runs, in text order. -/
def findRuns (keep : Char → Bool) (text : String) : List String :=
  -- An empty run at the front is no run.
  let (front, runs) := splitRuns keep text.toList
  (addRun front runs).map String.ofList

/-- The characters matched by `[a-z0-9]`. -/
def isWordChar (char : Char) : Bool :=
  ('a' ≤ char && char ≤ 'z') || ('0' ≤ char && char ≤ '9')

/-- `needle in text`: the characters of the needle stand somewhere in the text without a gap. -/
def OccursIn (needle text : String) : Prop := needle.toList <:+: text.toList

/-- Containment can be checked position by position. -/
instance (needle text : String) : Decidable (OccursIn needle text) :=
  inferInstanceAs (Decidable (needle.toList <:+: text.toList))

/-- The code points `str.isspace()` accepts, which are also those matched by `\s`. -/
def spaceCodes : List Nat :=
  [0x9, 0xA, 0xB, 0xC, 0xD, 0x1C, 0x1D, 0x1E, 0x1F, 0x20, 0x85, 0xA0, 0x1680, 0x2000, 0x2001,
    0x2002, 0x2003, 0x2004, 0x2005, 0x2006, 0x2007, 0x2008, 0x2009, 0x200A, 0x2028, 0x2029,
    0x202F, 0x205F, 0x3000]

/-- White space in the sense of `str.isspace()`. -/
def isSpace (char : Char) : Bool := spaceCodes.contains char.toNat

/-- The code points that end a line for `str.splitlines()`. -/
def lineBreakCodes : List Nat := [0xA, 0xB, 0xC, 0xD, 0x1C, 0x1D, 0x1E, 0x85, 0x2028, 0x2029]

/-- The lines of the characters that are left, behind the reversed start of the first one. -/
def splitLinesFrom : List Char → List Char → List (List Char)
  -- Nothing stands behind the last line break.
  | [], [] => []
  | read, [] => [read.reverse]
  | read, '\r' :: '\n' :: rest => read.reverse :: splitLinesFrom [] rest
  | read, char :: rest =>
    if lineBreakCodes.contains char.toNat then read.reverse :: splitLinesFrom [] rest
    else splitLinesFrom (char :: read) rest

/-- `text.splitlines()`. -/
def splitLines (text : String) : List String :=
  (splitLinesFrom [] text.toList).map String.ofList

/-- Remove the leading and trailing characters that satisfy a test. -/
def stripBy (drop : Char → Bool) (text : String) : String :=
  -- The back is trimmed as the front of the reversed text.
  String.ofList ((text.toList.dropWhile drop).reverse.dropWhile drop).reverse

/-- `text.strip()`. -/
def strip (text : String) : String := stripBy isSpace text

/-- `text.lstrip(char)`. -/
def lstripChar (char : Char) (text : String) : String :=
  String.ofList (text.toList.dropWhile (· == char))

/-- `text.rstrip(char)`. -/
def rstripChar (char : Char) (text : String) : String :=
  String.ofList (text.toList.reverse.dropWhile (· == char)).reverse

/-- The zero of every run of ten Unicode decimal digits. -/
def decimalZeros : List Nat :=
  [0x30, 0x660, 0x6F0, 0x7C0, 0x966, 0x9E6, 0xA66, 0xAE6, 0xB66, 0xBE6, 0xC66, 0xCE6, 0xD66,
    0xDE6, 0xE50, 0xED0, 0xF20, 0x1040, 0x1090, 0x17E0, 0x1810, 0x1946, 0x19D0, 0x1A80, 0x1A90,
    0x1B50, 0x1BB0, 0x1C40, 0x1C50, 0xA620, 0xA8D0, 0xA900, 0xA9D0, 0xA9F0, 0xAA50, 0xABF0,
    0xFF10, 0x104A0, 0x10D30, 0x10D40, 0x11066, 0x110F0, 0x11136, 0x111D0, 0x112F0, 0x11450,
    0x114D0, 0x11650, 0x116C0, 0x116D0, 0x116DA, 0x11730, 0x118E0, 0x11950, 0x11BF0, 0x11C50,
    0x11D50, 0x11DA0, 0x11F50, 0x16130, 0x16A60, 0x16AC0, 0x16B50, 0x16D70, 0x1CCF0, 0x1D7CE,
    0x1D7D8, 0x1D7E2, 0x1D7EC, 0x1D7F6, 0x1E140, 0x1E2F0, 0x1E4F0, 0x1E5F1, 0x1E950, 0x1FBF0]

/-- The value of a Unicode decimal digit. -/
def decimalValue (char : Char) : Option Nat :=
  -- The ten digits of a run follow their zero without a gap.
  (decimalZeros.find? fun base => base ≤ char.toNat && char.toNat < base + 10).map
    fun base => char.toNat - base

/-- The characters matched by `\d`. -/
def isDecimal (char : Char) : Bool := (decimalValue char).isSome

/-- White space that `int()` skips around a number: inside ASCII only the set of C. -/
def isNumberSpace (char : Char) : Bool :=
  isSpace char && !(0x1C ≤ char.toNat && char.toNat ≤ 0x1F)

/-- The digits of a number, with single underscores between digits left out. -/
def decimalDigits : List Char → Option (List Nat)
  | [] => none
  | [char] => (decimalValue char).map fun digit => [digit]
  -- An underscore stands between two digits, never at an end and never twice.
  | char :: '_' :: rest => do
    let digit ← decimalValue char
    let digits ← decimalDigits rest
    return digit :: digits
  | char :: rest => do
    let digit ← decimalValue char
    let digits ← decimalDigits rest
    return digit :: digits

/-- The most digits `int()` converts from a string. -/
def intMaxStrDigits : Nat := 4300

/-- An unsigned number read from decimal digits. -/
def natOfDigits (text : List Char) : Option Nat := do
  let digits ← decimalDigits text
  -- Longer numerals are refused before conversion.
  if digits.length ≤ intMaxStrDigits then
    some (digits.foldl (fun value digit => 10 * value + digit) 0)
  else none

/-- `int(text)`, where no result stands for the `ValueError` of a malformed numeral. -/
def intOfText (text : String) : Option Int :=
  -- White space may surround the numeral, and one sign may open it.
  match (stripBy isNumberSpace text).toList with
  | '-' :: digits => (natOfDigits digits).map fun value => -(value : Int)
  | '+' :: digits => (natOfDigits digits).map fun value => (value : Int)
  | digits => (natOfDigits digits).map fun value => (value : Int)

end PyText
