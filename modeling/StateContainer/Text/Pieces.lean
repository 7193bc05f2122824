/-
This file cuts a text at a separating character and puts the pieces together
again. A dotted name is read with these functions: its pieces are the parts
between the dots, the piece after the last dot is its simple name, and what
stands before that dot is the package.

The main statement is that joining the pieces gives back the text.
-/

namespace StateContainer.Text

/-- The pieces of a text between the occurrences of a separator; there is always one more
piece than there are separators, and a piece may be empty. -/
def pieces (separator : Char) : List Char → List (List Char)
  | [] => [[]]
  | c :: rest =>
    if c = separator then
      [] :: pieces separator rest
    else
      match pieces separator rest with
      | [] => [[c]]
      | first :: others => (c :: first) :: others

/-- The pieces with the separator between each two neighbours. -/
def joined (separator : Char) : List (List Char) → List Char
  | [] => []
  | [piece] => piece
  | piece :: next :: others => piece ++ separator :: joined separator (next :: others)

/-- A text has at least one piece. -/
theorem pieces_ne_nil (separator : Char) (text : List Char) : pieces separator text ≠ [] := by
  cases text with
  | nil => simp [pieces]
  | cons c rest =>
    unfold pieces
    split
    · simp
    · split <;> simp

/-- Putting a character in front of the first piece puts it in front of the whole text. -/
theorem joined_cons_cons (separator c : Char) (first : List Char) (others : List (List Char)) :
    joined separator ((c :: first) :: others) = c :: joined separator (first :: others) := by
  cases others <;> rfl

/-- Nothing is lost when a text is cut into pieces. -/
theorem joined_pieces (separator : Char) (text : List Char) :
    joined separator (pieces separator text) = text := by
  induction text with
  | nil => rfl
  | cons c rest inductionHypothesis =>
    unfold pieces
    split
    · next isSeparator =>
      cases cut : pieces separator rest with
      | nil => exact absurd cut (pieces_ne_nil separator rest)
      | cons first others =>
        rw [cut] at inductionHypothesis
        simp [joined, inductionHypothesis, isSeparator]
    · cases cut : pieces separator rest with
      | nil => exact absurd cut (pieces_ne_nil separator rest)
      | cons first others =>
        rw [cut] at inductionHypothesis
        rw [joined_cons_cons, inductionHypothesis]

/-- The parts of a dotted name. -/
def dottedParts (name : String) : List String :=
  (pieces '.' name.toList).map String.ofList

/-- The words of a line that are separated by single blanks. -/
def spacedWords (line : String) : List String :=
  (pieces ' ' line.toList).map String.ofList

/-- Parts put together to a dotted name. -/
def dotted (parts : List String) : String :=
  ".".intercalate parts

/-- What stands after the last separator; the whole text if there is none. -/
def afterLast (separator : Char) (text : List Char) : List Char :=
  (pieces separator text).getLastD []

/-- What stands before the last separator; nothing if there is none. -/
def beforeLast (separator : Char) (text : List Char) : List Char :=
  joined separator (pieces separator text).dropLast

/-- What stands before the first separator; the whole text if there is none. -/
def beforeFirst (separator : Char) (text : List Char) : List Char :=
  text.takeWhile (· ≠ separator)

end StateContainer.Text
