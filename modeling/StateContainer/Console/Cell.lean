/-
This file says how a text fills the columns of a terminal: what is shown of it,
how many columns a character fills, and how a text is padded to a width.

A few controls are not shown at all, a line feed begins a line, and a tab goes
on to the next column whose number is a multiple of eight.
-/

import StateContainer.Console.CellTable
import StateContainer.Text.Pieces
import StateContainer.Text.Span

namespace StateContainer.Console

/-! ### Widths -/

/-- The number of columns that a character fills. -/
def charWidth (c : Char) : Nat :=
  if 32 ≤ c.toNat && c.toNat < 127 then 1
  else if Text.inSpans zeroWidthSpans c.toNat then 0
  else if Text.inSpans wideSpans c.toNat then 2
  else 1

/-- The character that joins the pictures beside it. -/
def joiner : Char := '\u200d'

/-- The mark behind a sign that asks for the sign as a picture. -/
def pictureMark : Char := '\ufe0f'

/-- Whether a character is a sign that is wider as a picture. -/
def isPictureSign (c : Char) : Bool :=
  Text.inSpans pictureSpans c.toNat

/-- The number of columns that the rest of a line fills, given the last character before it that
fills a column, unless a mark has been behind that already. What is joined to a picture fills
nothing. -/
def lineWidthAfter (last : Option Char) : List Char → Nat
  | [] => 0
  | c :: rest =>
    if c = joiner then
      match rest with
      | [] => 0
      | _ :: after => lineWidthAfter last after
    else if c = pictureMark then
      (if last.any isPictureSign then 1 else 0) + lineWidthAfter none rest
    else charWidth c + lineWidthAfter (if charWidth c = 0 then last else some c) rest

/-- The number of columns that a line fills. -/
def lineWidth (line : List Char) : Nat :=
  lineWidthAfter none line

/-- The number of columns that the widest of several lines fills. -/
def blockWidth (lines : List (List Char)) : Nat :=
  (lines.map lineWidth).foldl max 0

/-- The printable characters of ASCII fill one column each. -/
theorem charWidth_of_ascii (c : Char) (low : 32 ≤ c.toNat) (high : c.toNat < 127) :
    charWidth c = 1 := by
  simp [charWidth, low, high]

/-! ### Lines -/

/-- Whether a character is a control that is not shown: the bell, the backspace, the vertical
tab, the form feed and the carriage return. -/
def isHidden (c : Char) : Bool :=
  [7, 8, 11, 12, 13].contains c.toNat

/-- The parts of a line between its tabs, with spaces for these, of which the parts before fill
the given number of columns. A tab is one space at least. -/
def expandParts (column : Nat) : List (List Char) → List Char
  | [] => []
  | [last] => last
  | part :: others =>
    let reached := column + lineWidth (part ++ [' '])
    let next := (reached + 7) / 8 * 8
    part ++ ' ' :: List.replicate (next - reached) ' ' ++ expandParts next others

/-- A line with spaces for its tabs. -/
def expandTabs (line : List Char) : List Char :=
  expandParts 0 (Text.pieces '\t' line)

/-- The lines that a text is shown on. -/
def shownLines (text : List Char) : List (List Char) :=
  (Text.pieces '\n' (text.filter (!isHidden ·))).map expandTabs

/-- A text is shown on at least one line. -/
theorem shownLines_ne_nil (text : List Char) : shownLines text ≠ [] := by
  simp [shownLines, Text.pieces_ne_nil]

/-! ### Padding -/

/-- Where a line stands in its columns. -/
inductive Alignment where
  | left
  | center
deriving DecidableEq, Repr

/-- A number of spaces. -/
def blanks (count : Nat) : List Char :=
  List.replicate count ' '

/-- A line padded to a width. In the centre, an odd space goes to the right. -/
def pad (alignment : Alignment) (width : Nat) (line : List Char) : List Char :=
  let free := width - lineWidth line
  match alignment with
  | .left => line ++ blanks free
  | .center => blanks (free / 2) ++ line ++ blanks (free - free / 2)

/-- Only a sign of a picture matters to what follows it. -/
theorem lineWidthAfter_eq (last : Option Char) (noSign : last.any isPictureSign = false) :
    (line : List Char) → lineWidthAfter last line = lineWidthAfter none line
  | [] => by simp [lineWidthAfter]
  | [c] => by
    simp only [lineWidthAfter, noSign]
    split <;> simp
  | c :: second :: rest => by
    have skipped := lineWidthAfter_eq last noSign rest
    have kept := lineWidthAfter_eq last noSign (second :: rest)
    rw [lineWidthAfter.eq_def last, lineWidthAfter.eq_def none]
    simp only [noSign, Option.any_none]
    by_cases empty : charWidth c = 0
    · simp [empty, skipped, kept]
    · simp [empty, skipped]

/-- What a character other than the joiner adds to the width of a line. -/
theorem lineWidthAfter_cons (last : Option Char) (c : Char) (rest : List Char)
    (other : c ≠ joiner) :
    lineWidthAfter last (c :: rest) =
      if c = pictureMark then (if last.any isPictureSign then 1 else 0) + lineWidthAfter none rest
      else charWidth c + lineWidthAfter (if charWidth c = 0 then last else some c) rest := by
  rw [lineWidthAfter.eq_def]
  simp only [other, if_false]

/-- A space fills one column. -/
theorem lineWidthAfter_space (last : Option Char) (rest : List Char) :
    lineWidthAfter last (' ' :: rest) = 1 + lineWidthAfter none rest := by
  have blank : charWidth ' ' = 1 := charWidth_of_ascii ' ' (by decide) (by decide)
  have noSign : (some ' ').any isPictureSign = false := by decide +kernel
  have noMark : ' ' ≠ pictureMark := by decide
  rw [lineWidthAfter_cons last ' ' rest (by decide)]
  simp only [noMark, if_false, blank, Nat.one_ne_zero, lineWidthAfter_eq _ noSign]

/-- Spaces fill one column each. -/
theorem lineWidthAfter_blanks_append (last : Option Char) (count : Nat) (rest : List Char)
    (noSign : last.any isPictureSign = false) :
    lineWidthAfter last (blanks count ++ rest) = count + lineWidthAfter none rest := by
  induction count generalizing last with
  | zero => simp [blanks, lineWidthAfter_eq last noSign]
  | succ count inductionHypothesis =>
    rw [show blanks (count + 1) ++ rest = ' ' :: (blanks count ++ rest) from rfl,
      lineWidthAfter_space, inductionHypothesis none rfl]
    omega

/-- Spaces behind a line add a column each, unless a joiner takes one away. -/
theorem lineWidthAfter_append_blanks (last : Option Char) (line : List Char) (count : Nat)
    (separate : joiner ∉ line) :
    lineWidthAfter last (line ++ blanks count) = lineWidthAfter last line + count := by
  induction line generalizing last with
  | nil =>
    induction count generalizing last with
    | zero => rfl
    | succ count inductionHypothesis =>
      have next := inductionHypothesis none
      rw [List.nil_append] at next ⊢
      rw [show blanks (count + 1) = ' ' :: blanks count from rfl, lineWidthAfter_space, next]
      simp only [lineWidthAfter]
      omega
  | cons c rest inductionHypothesis =>
    have other : c ≠ joiner := fun same => separate (same ▸ List.mem_cons_self)
    have others : joiner ∉ rest := fun inside => separate (List.mem_cons_of_mem c inside)
    rw [List.cons_append, lineWidthAfter_cons _ _ _ other, lineWidthAfter_cons _ _ _ other,
      inductionHypothesis _ others, inductionHypothesis _ others]
    split <;> omega

/-- A line that is not too wide has the width that it is padded to. -/
theorem lineWidth_pad (alignment : Alignment) (width : Nat) (line : List Char)
    (separate : joiner ∉ line) (fits : lineWidth line ≤ width) :
    lineWidth (pad alignment width line) = width := by
  unfold lineWidth at *
  cases alignment with
  | left =>
    simp only [pad, lineWidth, lineWidthAfter_append_blanks none line _ separate]
    omega
  | center =>
    simp only [pad, lineWidth, List.append_assoc,
      lineWidthAfter_blanks_append none _ _ (Option.any_none ..),
      lineWidthAfter_append_blanks none line _ separate]
    omega

end StateContainer.Console
