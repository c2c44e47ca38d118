import TorqueFinder.Lib.Regex

/-! Replacing the matches of a pattern: pieces of regular expressions with groups and guards. -/

namespace Regex

/-- The texts an expression stands for. -/
inductive Denotes : Regex → List Char → Prop where
  | char {test : Char → Bool} {letter : Char} (passes : test letter = true) :
    Denotes (.char test) [letter]
  | seq {first second : Regex} {front back : List Char} (ahead : Denotes first front)
    (behind : Denotes second back) : Denotes (.seq first second) (front ++ back)
  | present {body : Regex} {eaten : List Char} (once : Denotes body eaten) :
    Denotes (.opt body) eaten
  | absent {body : Regex} : Denotes (.opt body) []
  | done {body : Regex} : Denotes (.star body) []
  | again {body : Regex} {front back : List Char} (ahead : Denotes body front)
    (behind : Denotes (.star body) back) : Denotes (.star body) (front ++ back)

/-- A repeated matcher eats repetitions of what the matcher eats. -/
private theorem denotes_of_repeated {body : Regex} {matcher : List Char → List (List Char)}
    (sound : ∀ text rest, rest ∈ matcher text → ∃ eaten, text = eaten ++ rest ∧ body.Denotes eaten)
    (bound : Nat) {text rest : List Char} (left : rest ∈ repeated matcher bound text) :
    ∃ eaten, text = eaten ++ rest ∧ (Regex.star body).Denotes eaten := by
  -- Induction on the bound: one repetition and the repetitions of what is left.
  induction bound generalizing text with
  | zero =>
    obtain rfl : rest = text := by simpa [repeated] using left
    exact ⟨[], rfl, .done⟩
  | succ bound ih =>
    rcases List.mem_append.mp left with more | last
    · obtain ⟨middle, matched, later⟩ := List.mem_flatMap.mp more
      obtain ⟨front, rfl, ahead⟩ := sound text middle (List.mem_filter.mp matched).1
      obtain ⟨back, rfl, behind⟩ := ih later
      exact ⟨front ++ back, by rw [List.append_assoc], .again ahead behind⟩
    · obtain rfl : rest = text := by simpa using last
      exact ⟨[], rfl, .done⟩

/-- What a match leaves over comes behind a text the expression stands for. -/
theorem denotes_of_remainders {regex : Regex} {text rest : List Char}
    (left : rest ∈ regex.remainders text) :
    ∃ eaten, text = eaten ++ rest ∧ regex.Denotes eaten := by
  -- Each way to match is built like the expression, so the text it eats is too.
  induction regex generalizing text rest with
  | char test =>
    cases text with
    | nil => simp [remainders] at left
    | cons letter more =>
      rw [remainders] at left
      split at left
      · rename_i passes
        obtain rfl : rest = more := by simpa using left
        exact ⟨[letter], rfl, .char passes⟩
      · cases left
  | seq first second firstIh secondIh =>
    obtain ⟨middle, ahead, behind⟩ := List.mem_flatMap.mp left
    obtain ⟨front, rfl, eatsFront⟩ := firstIh ahead
    obtain ⟨back, rfl, eatsBack⟩ := secondIh behind
    exact ⟨front ++ back, by rw [List.append_assoc], .seq eatsFront eatsBack⟩
  | opt body ih =>
    rcases List.mem_append.mp left with once | never
    · obtain ⟨eaten, split, eats⟩ := ih once
      exact ⟨eaten, split, .present eats⟩
    · obtain rfl : rest = text := by simpa using never
      exact ⟨[], rfl, .absent⟩
  | star body ih => exact denotes_of_repeated (fun _ _ => ih) _ left

/-- A repetition may stop at once. -/
private theorem self_mem_repeated (matcher : List Char → List (List Char)) (bound : Nat)
    (text : List Char) : text ∈ repeated matcher bound text := by
  cases bound with
  | zero => exact List.mem_singleton_self text
  | succ bound => exact List.mem_append_right _ (List.mem_singleton_self text)

/-- A larger bound allows the repetitions a smaller one does. -/
private theorem repeated_mono {matcher : List Char → List (List Char)} {low high : Nat}
    (le : low ≤ high) {text rest : List Char} (left : rest ∈ repeated matcher low text) :
    rest ∈ repeated matcher high text := by
  -- Induction on the smaller bound, for every text that may be left.
  induction low generalizing high text with
  | zero =>
    obtain rfl : rest = text := by simpa [repeated] using left
    exact self_mem_repeated matcher high rest
  | succ low ih =>
    obtain ⟨high, rfl⟩ := Nat.exists_eq_succ_of_ne_zero (Nat.ne_zero_of_lt le)
    rcases List.mem_append.mp left with more | last
    · obtain ⟨middle, matched, later⟩ := List.mem_flatMap.mp more
      have further := ih (Nat.le_of_succ_le_succ le) later
      exact List.mem_append_left _ (List.mem_flatMap.mpr ⟨middle, matched, further⟩)
    · exact List.mem_append_right _ last

/-- In front of any text, every text an expression stands for is among its matches. -/
theorem mem_remainders_of_denotes {regex : Regex} {eaten : List Char}
    (denotes : regex.Denotes eaten) (rest : List Char) :
    rest ∈ regex.remainders (eaten ++ rest) := by
  induction denotes generalizing rest with
  | char passes => simp [remainders, passes]
  | @seq first second front back _ _ aheadIh behindIh =>
    rw [List.append_assoc]
    exact List.mem_flatMap.mpr ⟨back ++ rest, aheadIh (back ++ rest), behindIh rest⟩
  | present _ ih => exact List.mem_append_left _ (ih rest)
  | absent => exact List.mem_append_right _ (List.mem_singleton_self rest)
  | done => exact self_mem_repeated _ _ rest
  | @again body front back _ _ aheadIh behindIh =>
    cases front with
    | nil => exact behindIh rest
    | cons letter front =>
      -- The repetition eats at least one character, so the bound leaves enough for the others.
      have enough : (back ++ rest).length ≤ (front ++ back ++ rest).length := by
        simp only [List.length_append]
        omega
      have later := repeated_mono enough (behindIh rest)
      have ahead : back ++ rest ∈ body.remainders (letter :: (front ++ back ++ rest)) := by
        simpa using aheadIh (back ++ rest)
      have shorter : (back ++ rest).length < (letter :: (front ++ back ++ rest)).length :=
        Nat.lt_succ_of_le enough
      exact List.mem_append_left _ (List.mem_flatMap.mpr
        ⟨back ++ rest, List.mem_filter.mpr ⟨ahead, decide_eq_true shorter⟩, later⟩)

/-- One character is what passes its test. -/
theorem denotes_char_iff {test : Char → Bool} {eaten : List Char} :
    (Regex.char test).Denotes eaten ↔ ∃ letter, test letter = true ∧ eaten = [letter] := by
  -- A test for one character denotes the characters that pass it.
  constructor
  · intro denotes
    cases denotes with
    | char passes => exact ⟨_, passes, rfl⟩
  · intro found
    obtain ⟨letter, passes, rfl⟩ := found
    exact .char passes

/-- A sequence is one text behind the other. -/
theorem denotes_seq_iff {first second : Regex} {eaten : List Char} :
    (Regex.seq first second).Denotes eaten ↔
      ∃ front back, eaten = front ++ back ∧ first.Denotes front ∧ second.Denotes back := by
  -- A word of a sequence splits into a word of each part.
  constructor
  · intro denotes
    cases denotes with
    | seq ahead behind => exact ⟨_, _, rfl, ahead, behind⟩
  · intro found
    obtain ⟨front, back, rfl, ahead, behind⟩ := found
    exact .seq ahead behind

/-- The repetitions of one character are the texts all of whose characters pass its test. -/
theorem denotes_star_iff {test : Char → Bool} {eaten : List Char} :
    (Regex.star (.char test)).Denotes eaten ↔ ∀ letter ∈ eaten, test letter = true := by
  constructor
  · intro denotes
    generalize shape : Regex.star (.char test) = regex at denotes
    induction denotes with
    | done => simp
    | again ahead behind _ ih =>
      cases shape
      obtain ⟨letter, passes, rfl⟩ := denotes_char_iff.mp ahead
      simpa [passes] using ih rfl
    | char | seq | present | absent => cases shape
  · intro pass
    -- The repetitions are taken one character at a time, as the text is built.
    induction eaten with
    | nil => exact .done
    | cons letter rest ih =>
      have later := ih fun other member => pass other (List.mem_cons_of_mem _ member)
      exact .again (.char (pass letter List.mem_cons_self)) later

/-- An optional character is there and passes its test, or is missing. -/
theorem denotes_opt_iff {test : Char → Bool} {eaten : List Char} :
    (Regex.opt (.char test)).Denotes eaten ↔
      eaten = [] ∨ ∃ letter, test letter = true ∧ eaten = [letter] := by
  -- The option is taken once or not at all.
  constructor
  · intro denotes
    cases denotes with
    | present once => exact .inr (denotes_char_iff.mp once)
    | absent => exact .inl rfl
  · rintro (rfl | ⟨letter, passes, rfl⟩)
    · exact .absent
    · exact .present (.char passes)

/-- The first way to match one expression behind another follows the first way to match each. -/
theorem head?_remainders_seq {first second : Regex} {text middle rest : List Char}
    (ahead : (first.remainders text).head? = some middle)
    (behind : (second.remainders middle).head? = some rest) :
    ((Regex.seq first second).remainders text).head? = some rest := by
  -- The first way of the whole goes through the first way of its first part.
  obtain ⟨others, shape⟩ := List.head?_eq_some_iff.mp ahead
  rw [remainders, shape, List.flatMap_cons, List.head?_append, behind]
  rfl

/-- The first way to repeat one character takes all that pass its test. -/
theorem head?_remainders_star {test : Char → Bool} {eaten rest : List Char}
    (pass : ∀ letter ∈ eaten, test letter = true)
    (stop : ∀ letter ∈ rest.head?, test letter = false) :
    ((Regex.star (.char test)).remainders (eaten ++ rest)).head? = some rest := by
  -- The list of ways starts with the one through the first character, for every bound.
  have all : ∀ bound, eaten.length ≤ bound →
      (repeated (Regex.char test).remainders bound (eaten ++ rest)).head? = some rest := by
    induction eaten with
    | nil =>
      intro bound _
      cases bound with
      | zero => rfl
      | succ bound =>
        -- The character behind the run does not pass.
        have none : (Regex.char test).remainders rest = [] := by
          cases rest with
          | nil => rfl
          | cons letter more => simp [remainders, stop letter rfl]
        simp [repeated, none]
    | cons letter more ih =>
      intro bound enough
      cases bound with
      | zero => cases enough
      | succ bound =>
        have passes : test letter = true := pass letter List.mem_cons_self
        have later := ih (fun other member => pass other (List.mem_cons_of_mem _ member)) bound
          (Nat.le_of_succ_le_succ enough)
        -- A character that passes is eaten, and the run goes on.
        have one : (Regex.char test).remainders (letter :: (more ++ rest)) = [more ++ rest] := by
          simp [remainders, passes]
        rw [List.cons_append, repeated, one]
        simp [List.head?_append, later]
  exact all _ (by simp)

end Regex

/-- A piece of a pattern. -/
inductive Piece where
  /-- The character in front does not pass a test: a negative lookbehind. -/
  | notBehind (test : Char → Bool)
  /-- The next character does not pass a test: a negative lookahead. -/
  | notAhead (test : Char → Bool)
  /-- An expression. -/
  | part (regex : Regex)
  /-- The first of some expressions that leads to a match. -/
  | oneOf (choices : List Regex)
  /-- An expression whose match is kept. -/
  | group (regex : Regex)

namespace Piece

/-- What was eaten of a text, given what is left of it. -/
def eaten (text rest : List Char) : List Char := text.take (text.length - rest.length)

/-- The ways to match one piece, in the order tried: what is kept, and what is left over. -/
def step (behind : Option Char) (text : List Char) : Piece → List (List (List Char) × List Char)
  -- The guards look at a neighbour and consume nothing.
  | .notBehind test => if behind.any test then [] else [([], text)]
  | .notAhead test => if text.head?.any test then [] else [([], text)]
  | .part regex => (regex.remainders text).map fun rest => ([], rest)
  -- Alternatives are tried in their order.
  | .oneOf choices =>
    choices.flatMap fun regex => (regex.remainders text).map fun rest => ([], rest)
  | .group regex => (regex.remainders text).map fun rest => ([eaten text rest], rest)

/-- The ways to match the pieces of a pattern, behind a character, in the order tried. -/
def ways : List Piece → Option Char → List Char → List (List (List Char) × List Char)
  | [], _, text => [([], text)]
  | piece :: more, behind, text =>
    -- The character behind the next piece is the last one this piece has consumed.
    (piece.step behind text).flatMap fun (kept, rest) =>
      (ways more ((eaten text rest).getLast?.or behind) rest).map fun (later, final) =>
        (kept ++ later, final)

/-- Replace the matches from the left, skipping what is left of the match under way. -/
def replaceFrom (pattern : List Piece) (replacement : List (List Char) → List Char) :
    Nat → Option Char → List Char → List Char
  | _, _, [] => []
  | skip + 1, _, letter :: rest => replaceFrom pattern replacement skip (some letter) rest
  | 0, behind, letter :: rest =>
    match (ways pattern behind (letter :: rest)).head? with
    | some (groups, left) =>
      match (letter :: rest).length - left.length with
      | skip + 1 =>
        replacement groups ++ replaceFrom pattern replacement skip (some letter) rest
      -- An empty match is put in front of the character it was found at.
      | 0 => replacement groups ++ letter :: replaceFrom pattern replacement 0 (some letter) rest
    | none => letter :: replaceFrom pattern replacement 0 (some letter) rest

/-- `re.sub`, for patterns that do not match at the end of a text. -/
def sub (pattern : List Piece) (replacement : List (List Char) → List Char) (text : String) :
    String :=
  String.ofList (replaceFrom pattern replacement 0 none text.toList)

/-- The texts a pattern stands for, whatever its guards. -/
def Denotes : List Piece → List Char → Prop
  | [], text => text = []
  -- A guard consumes nothing, so it says nothing about the word.
  | .notBehind _ :: more, text => Denotes more text
  | .notAhead _ :: more, text => Denotes more text
  | .part regex :: more, text =>
    ∃ front back, text = front ++ back ∧ regex.Denotes front ∧ Denotes more back
  | .oneOf choices :: more, text =>
    ∃ regex ∈ choices, ∃ front back, text = front ++ back ∧ regex.Denotes front ∧ Denotes more back
  | .group regex :: more, text =>
    ∃ front back, text = front ++ back ∧ regex.Denotes front ∧ Denotes more back

/-- What one piece eats can stand in front of what the others stand for. -/
private theorem denotes_of_step {piece : Piece} {behind : Option Char} {text rest : List Char}
    {kept : List (List Char)} (stepped : (kept, rest) ∈ piece.step behind text) :
    ∃ front, text = front ++ rest ∧
      ∀ more back, Denotes more back → Denotes (piece :: more) (front ++ back) := by
  -- A guard eats nothing, and any other piece eats a text of its own.
  cases piece with
  | notBehind test =>
    rw [step] at stepped
    split at stepped
    · cases stepped
    · obtain ⟨_, rfl⟩ : kept = [] ∧ rest = text := by simpa using stepped
      exact ⟨[], rfl, fun _ _ denotes => denotes⟩
  | notAhead test =>
    rw [step] at stepped
    split at stepped
    · cases stepped
    · obtain ⟨_, rfl⟩ : kept = [] ∧ rest = text := by simpa using stepped
      exact ⟨[], rfl, fun _ _ denotes => denotes⟩
  -- The piece eats a text that its expression denotes.
  | part regex =>
    obtain ⟨_, left, same⟩ := List.mem_map.mp stepped
    obtain ⟨_, rfl⟩ := Prod.mk.inj same
    obtain ⟨front, rfl, eats⟩ := Regex.denotes_of_remainders left
    exact ⟨front, rfl, fun _ back denotes => ⟨front, back, rfl, eats, denotes⟩⟩
  | oneOf choices =>
    obtain ⟨regex, chosen, stepped⟩ := List.mem_flatMap.mp stepped
    obtain ⟨_, left, same⟩ := List.mem_map.mp stepped
    obtain ⟨_, rfl⟩ := Prod.mk.inj same
    obtain ⟨front, rfl, eats⟩ := Regex.denotes_of_remainders left
    exact ⟨front, rfl, fun _ back denotes => ⟨regex, chosen, front, back, rfl, eats, denotes⟩⟩
  | group regex =>
    obtain ⟨_, left, same⟩ := List.mem_map.mp stepped
    obtain ⟨_, rfl⟩ := Prod.mk.inj same
    obtain ⟨front, rfl, eats⟩ := Regex.denotes_of_remainders left
    exact ⟨front, rfl, fun _ back denotes => ⟨front, back, rfl, eats, denotes⟩⟩

/-- What is left over by a match comes behind a text the pattern stands for. -/
theorem denotes_of_ways {pattern : List Piece} {behind : Option Char} {text rest : List Char}
    {groups : List (List Char)} (matched : (groups, rest) ∈ ways pattern behind text) :
    ∃ front, text = front ++ rest ∧ Denotes pattern front := by
  -- Each piece consumes a word of its own, and the words follow one another.
  induction pattern generalizing behind text groups with
  | nil =>
    obtain ⟨_, rfl⟩ : groups = [] ∧ rest = text := by simpa [ways] using matched
    exact ⟨[], rfl, rfl⟩
  | cons piece more ih =>
    obtain ⟨⟨kept, middle⟩, stepped, later⟩ := List.mem_flatMap.mp matched
    obtain ⟨⟨others, final⟩, went, same⟩ := List.mem_map.mp later
    obtain ⟨rfl, rfl⟩ := Prod.mk.inj same
    obtain ⟨back, rfl, denotes⟩ := ih went
    obtain ⟨front, rfl, stands⟩ := denotes_of_step stepped
    exact ⟨front ++ back, by rw [List.append_assoc], stands more back denotes⟩

section Ways

variable {pattern : List Piece} {behind : Option Char} {text front rest final word : List Char}

/-- What was eaten is what stood in front of the rest. -/
@[simp] theorem eaten_append : eaten (front ++ rest) rest = front := by
  simp [eaten]

/-- A way to match one piece goes on with a way to match the others. -/
theorem mem_ways_cons {piece : Piece} {kept later : List (List Char)}
    (stepped : (kept, rest) ∈ piece.step behind text)
    (went : (later, final) ∈ ways pattern ((eaten text rest).getLast?.or behind) rest) :
    (kept ++ later, final) ∈ ways (piece :: pattern) behind text :=
  List.mem_flatMap.mpr ⟨(kept, rest), stepped, List.mem_map.mpr ⟨(later, final), went, rfl⟩⟩

/-- The guards among the pieces. -/
def isGuard : Piece → Bool
  | .notBehind _ | .notAhead _ => true
  | .part _ | .oneOf _ | .group _ => false

/-- A piece that is no guard can eat whatever it stands for. -/
private theorem step_of_denotes {piece : Piece} (plain : piece.isGuard = false)
    (denotes : Denotes (piece :: pattern) word) :
    ∃ kept front back, word = front ++ back ∧ (kept, back) ∈ piece.step behind word ∧
      Denotes pattern back := by
  -- The text the piece stands for is among its matches in front of any text.
  cases piece with
  | notBehind | notAhead => cases plain
  | part regex =>
    obtain ⟨front, back, rfl, eats, later⟩ := denotes
    have left := Regex.mem_remainders_of_denotes eats back
    exact ⟨[], front, back, rfl, List.mem_map.mpr ⟨back, left, rfl⟩, later⟩
  | oneOf choices =>
    obtain ⟨regex, chosen, front, back, rfl, eats, later⟩ := denotes
    have left := Regex.mem_remainders_of_denotes eats back
    exact ⟨[], front, back, rfl,
      List.mem_flatMap.mpr ⟨regex, chosen, List.mem_map.mpr ⟨back, left, rfl⟩⟩, later⟩
  | group regex =>
    obtain ⟨front, back, rfl, eats, later⟩ := denotes
    have left := Regex.mem_remainders_of_denotes eats back
    exact ⟨[front], front, back, rfl, List.mem_map.mpr ⟨back, left, by simp⟩, later⟩

/-- A word of a pattern is matched whole when its only guards look at what is around it. -/
theorem exists_way_of_denotes {parts : List Piece} {before ahead : Char → Bool}
    (plain : ∀ piece ∈ parts, piece.isGuard = false)
    (clear : ∀ letter ∈ behind, before letter = false)
    (denotes : Denotes (.notBehind before :: (parts ++ [.notAhead ahead])) word) :
    ∃ groups,
      (groups, []) ∈ ways (.notBehind before :: (parts ++ [.notAhead ahead])) behind word := by
  -- Only the guard in front looks behind, so the other pieces match behind any character.
  have inner : ∀ behind, ∃ groups,
      (groups, []) ∈ ways (parts ++ [.notAhead ahead]) behind word := by
    replace denotes : Denotes (parts ++ [.notAhead ahead]) word := denotes
    induction parts generalizing word with
    | nil =>
      intro behind
      obtain rfl : word = [] := denotes
      exact ⟨[], by simp [ways, step]⟩
    | cons piece parts ih =>
      intro behind
      obtain ⟨kept, front, back, rfl, stepped, later⟩ :=
        step_of_denotes (plain piece List.mem_cons_self) denotes
      obtain ⟨groups, went⟩ := ih (fun other member => plain other (List.mem_cons_of_mem _ member))
        later _
      exact ⟨kept ++ groups, mem_ways_cons stepped went⟩
  obtain ⟨groups, went⟩ := inner ((eaten word word).getLast?.or behind)
  have passes : behind.any before = false := by cases behind <;> simp_all
  have stepped : ([], word) ∈ (Piece.notBehind before).step behind word := by simp [step, passes]
  exact ⟨groups, mem_ways_cons stepped went⟩

end Ways

section Scan

variable {pattern : List Piece} {replacement : List (List Char) → List Char}

/-- The scan passes over what is left of a match without writing it. -/
private theorem replaceFrom_skip (behind : Option Char) (front rest : List Char) :
    replaceFrom pattern replacement front.length behind (front ++ rest) =
      replaceFrom pattern replacement 0 (front.getLast?.or behind) rest := by
  -- Each skipped character becomes the one behind which the scan goes on.
  induction front generalizing behind with
  | nil => rfl
  | cons letter front ih =>
    have last : (letter :: front).getLast? = front.getLast?.or (some letter) := by
      cases front <;> simp [List.getLast?_cons]
    rw [List.length_cons, List.cons_append, replaceFrom, ih, last]
    cases front.getLast? <;> rfl

/-- The first way to match at a position is written anew, and the scan goes on behind it. -/
theorem replaceFrom_of_head {behind : Option Char} {front rest : List Char}
    {groups : List (List Char)} (nonempty : front ≠ [])
    (first : (ways pattern behind (front ++ rest)).head? = some (groups, rest)) :
    replaceFrom pattern replacement 0 behind (front ++ rest) =
      replacement groups ++ replaceFrom pattern replacement 0 front.getLast? rest := by
  -- The match is written anew at its first character, and its other characters are skipped.
  obtain ⟨letter, front, rfl⟩ := List.exists_cons_of_ne_nil nonempty
  have size : (letter :: (front ++ rest)).length - rest.length = front.length + 1 := by
    simp only [List.length_cons, List.length_append]
    omega
  have last : (letter :: front).getLast? = front.getLast?.or (some letter) := by
    cases front <;> simp [List.getLast?_cons]
  rw [List.cons_append] at first ⊢
  rw [replaceFrom, first]
  simp only [size]
  rw [replaceFrom_skip, last]

/-- A text that is one word is written anew when words end where a letter first stands. -/
theorem replaceFrom_of_word {behind : Option Char} {word written : List Char} {last : Char}
    {groups : List (List Char)}
    (ends : ∀ word, Denotes pattern word → ∃ stem, word = stem ++ [last] ∧ last ∉ stem)
    (whole : (groups, []) ∈ ways pattern behind word) :
    replaceFrom pattern (fun _ => written) 0 behind word = written := by
  obtain ⟨_, rfl, denotes⟩ := denotes_of_ways whole
  obtain ⟨stem, shape, fresh⟩ := ends _ denotes
  subst shape
  rw [List.append_nil] at whole ⊢
  -- The letter that ends a match stands only at the end of the text, so no match stops before it.
  have complete : ∀ way ∈ ways pattern behind (stem ++ [last]), way.2 = [] := by
    intro way matched
    obtain ⟨front, split, other⟩ := denotes_of_ways matched
    obtain ⟨otherStem, rfl, _⟩ := ends _ other
    rcases List.eq_nil_or_concat' way.2 with none | ⟨more, final, rest⟩
    · exact none
    · rw [rest, ← List.append_assoc] at split
      obtain ⟨same, _⟩ := List.append_inj' split rfl
      exact absurd (by simp [same]) fresh
  obtain ⟨first, others, shape⟩ := List.exists_cons_of_ne_nil (List.ne_nil_of_mem whole)
  have left : first.2 = [] := complete first (by simp [shape])
  have head : (ways pattern behind (stem ++ [last] ++ [])).head? = some (first.1, []) := by
    rw [List.append_nil, shape, ← left]
    rfl
  have rewritten : replaceFrom pattern (fun _ => written) 0 behind (stem ++ [last] ++ []) =
      written ++ replaceFrom pattern (fun _ => written) 0 (stem ++ [last]).getLast? [] :=
    replaceFrom_of_head (by simp) head
  simpa [replaceFrom] using rewritten

/-- Where no match begins, the character stays. -/
private theorem replaceFrom_of_ways_nil {behind : Option Char} {letter : Char} {rest : List Char}
    (none : ways pattern behind (letter :: rest) = []) :
    replaceFrom pattern replacement 0 behind (letter :: rest) =
      letter :: replaceFrom pattern replacement 0 (some letter) rest := by
  -- Where nothing matches, the letter is copied.
  rw [replaceFrom, none]
  rfl

/-- Characters that begin no match stay, and the scan goes on behind them. -/
theorem replaceFrom_append {front : List Char}
    (quiet : ∀ letter ∈ front, ∀ word, Denotes pattern word → ∃ first ∈ word.head?, first ≠ letter)
    (behind : Option Char) (rest : List Char) :
    replaceFrom pattern replacement 0 behind (front ++ rest) =
      front ++ replaceFrom pattern replacement 0 (front.getLast?.or behind) rest := by
  -- A match at a character would start with it, and no word does.
  induction front generalizing behind with
  | nil => rfl
  | cons letter front ih =>
    have none : ways pattern behind (letter :: (front ++ rest)) = [] := by
      rw [List.eq_nil_iff_forall_not_mem]
      intro way matched
      obtain ⟨word, split, denotes⟩ := denotes_of_ways matched
      obtain ⟨first, starts, differs⟩ := quiet letter List.mem_cons_self word denotes
      obtain ⟨more, rfl⟩ : ∃ more, word = first :: more := List.head?_eq_some_iff.mp starts
      exact differs (List.cons.inj split).1.symm
    have last : (letter :: front).getLast? = front.getLast?.or (some letter) := by
      cases front <;> simp [List.getLast?_cons]
    rw [List.cons_append, replaceFrom_of_ways_nil none,
      ih (fun other member => quiet other (List.mem_cons_of_mem _ member)), last]
    cases front.getLast? <;> rfl

/-- A text that holds no word of the pattern stays as it is. -/
theorem replaceFrom_of_no_infix {text : List Char}
    (free : ∀ word, Denotes pattern word → ¬ word <:+: text) (behind : Option Char) :
    replaceFrom pattern replacement 0 behind text = text := by
  -- A match anywhere would be a word inside the text.
  induction text generalizing behind with
  | nil => rfl
  | cons letter rest ih =>
    have none : ways pattern behind (letter :: rest) = [] := by
      rw [List.eq_nil_iff_forall_not_mem]
      intro way matched
      obtain ⟨word, split, denotes⟩ := denotes_of_ways matched
      exact free word denotes ⟨[], way.2, by simpa using split.symm⟩
    have later : ∀ word, Denotes pattern word → ¬ word <:+: rest := by
      intro word denotes inside
      exact free word denotes (inside.trans (List.suffix_cons letter rest).isInfix)
    rw [replaceFrom_of_ways_nil none, ih later]

/-- A text that holds no word of the pattern is its own substitution. -/
theorem sub_of_no_infix {text : String}
    (free : ∀ word, Denotes pattern word → ¬ word <:+: text.toList) :
    sub pattern replacement text = text := by
  rw [sub, replaceFrom_of_no_infix free, String.ofList_toList]

end Scan

end Piece
