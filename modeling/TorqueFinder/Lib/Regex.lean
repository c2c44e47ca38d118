import Mathlib.Data.List.Infix

/-! Backtracking regular expressions: the ways to match at a position, in the order tried. -/

/-- A regular expression over characters. -/
inductive Regex where
  /-- One character satisfying a test. -/
  | char (test : Char → Bool)
  /-- One expression after the other. -/
  | seq (first second : Regex)
  /-- The expression if it matches, else nothing: the greedy `?`. -/
  | opt (body : Regex)
  /-- As many repetitions as possible, then fewer: the greedy `*`. -/
  | star (body : Regex)

namespace Regex

/-- One or more repetitions, as many as possible: the greedy `+`. -/
def plus (body : Regex) : Regex := .seq body (.star body)

/-- The texts left over by repeating a matcher, longest repetition first. -/
def repeated (matcher : List Char → List (List Char)) : Nat → List Char → List (List Char)
  -- The bound is the length of the text, which a repetition that consumes can never exceed.
  | 0, text => [text]
  | bound + 1, text =>
    -- A repetition that consumes nothing ends the loop.
    ((matcher text).filter fun rest => rest.length < text.length).flatMap (repeated matcher bound)
      ++ [text]

/-- The texts left over by every match at the front, in the order they are tried. -/
def remainders : Regex → List Char → List (List Char)
  | .char test, text =>
    match text with
    | [] => []
    | head :: rest => if test head then [rest] else []
  | .seq first second, text => (remainders first text).flatMap (remainders second)
  -- A greedy option is tried before it is left out.
  | .opt body, text => remainders body text ++ [text]
  -- No more repetitions than characters can consume something.
  | .star body, text => repeated (remainders body) text.length text

/-- `re.search`: some position of the text begins a match. -/
def search (regex : Regex) (text : String) : Bool :=
  -- The end of the text is a position too.
  text.toList.tails.any fun suffix => !(remainders regex suffix).isEmpty

/-- The length of the match found at the front, when there is one. -/
def matchLength (regex : Regex) (text : List Char) : Option Nat :=
  (remainders regex text).head?.map fun rest => text.length - rest.length

/-- The characters of a text, each marked when it lies inside a match, scanning from the left. -/
def markMatches (regex : Regex) : Nat → List Char → List (Char × Bool)
  | _, [] => []
  -- The number counts what is left of the match that is under way.
  | inside + 1, head :: rest => (head, true) :: markMatches regex inside rest
  | 0, head :: rest =>
    match matchLength regex (head :: rest) with
    | some (length + 1) => (head, true) :: markMatches regex length rest
    -- An empty match covers no character, like no match at all.
    | _ => (head, false) :: markMatches regex 0 rest

end Regex
