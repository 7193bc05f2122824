/-
This file cuts a type signature into tokens: brackets, commas, and the maximal
runs of all other characters. Every token knows the position of its first
character, since the errors of a signature name positions.

The main statement is that the tokens spell the signature they were cut from.
-/

import StateContainer.Text.Blank

namespace StateContainer.Signature

/-- The two kinds of brackets around type arguments. -/
inductive Bracket where
  | angle
  | square
deriving DecidableEq, Repr

/-- The character that opens a list of arguments. -/
def Bracket.opening : Bracket → Char
  | angle => '<'
  | square => '['

/-- The character that closes a list of arguments. -/
def Bracket.closing : Bracket → Char
  | angle => '>'
  | square => ']'

/-- A piece of a signature. -/
inductive Token where
  | opening (bracket : Bracket)
  | closing (bracket : Bracket)
  | comma
  | run (text : List Char)
deriving DecidableEq, Repr

/-- The characters of a token. -/
def Token.text : Token → List Char
  | opening bracket => [bracket.opening]
  | closing bracket => [bracket.closing]
  | comma => [',']
  | run text => text

/-- The token that a special character is by itself. -/
def Token.ofChar? (c : Char) : Option Token :=
  if c = '<' then some (.opening .angle)
  else if c = '[' then some (.opening .square)
  else if c = '>' then some (.closing .angle)
  else if c = ']' then some (.closing .square)
  else if c = ',' then some .comma
  else none

/-- Whether a character is a bracket or a comma. -/
def isSpecial (c : Char) : Bool :=
  (Token.ofChar? c).isSome

/-- A token with the position of its first character. -/
structure PlacedToken where
  token : Token
  position : Nat
deriving DecidableEq, Repr

/-- An ordinary character in front of the tokens of the text that follows it. It joins the run
with which that text begins, or is a run of its own. -/
def extendRun (c : Char) (position : Nat) : List PlacedToken → List PlacedToken
  | ⟨.run text, _⟩ :: others => ⟨.run (c :: text), position⟩ :: others
  | others => ⟨.run [c], position⟩ :: others

/-- The tokens of a text whose first character has the given position. -/
def scanFrom (position : Nat) : List Char → List PlacedToken
  | [] => []
  | c :: rest =>
    match Token.ofChar? c with
    | some token => ⟨token, position⟩ :: scanFrom (position + 1) rest
    | none => extendRun c position (scanFrom (position + 1) rest)

/-- The tokens of a signature. -/
def scan (signature : List Char) : List PlacedToken :=
  scanFrom 0 signature

/-! ### The tokens spell the signature -/

/-- The characters of several tokens, one after the other. -/
def spelling (tokens : List PlacedToken) : List Char :=
  tokens.flatMap (·.token.text)

/-- A special character is the whole text of its token. -/
theorem Token.text_of_ofChar? {c : Char} {token : Token} (found : Token.ofChar? c = some token) :
    token.text = [c] := by
  unfold Token.ofChar? at found
  split at found
  · next same => cases found; rw [same]; rfl
  split at found
  · next same => cases found; rw [same]; rfl
  split at found
  · next same => cases found; rw [same]; rfl
  split at found
  · next same => cases found; rw [same]; rfl
  split at found
  · next same => cases found; rw [same]; rfl
  · cases found

/-- Extending the first run puts one character in front of the spelling. -/
theorem spelling_extendRun (c : Char) (position : Nat) (tokens : List PlacedToken) :
    spelling (extendRun c position tokens) = c :: spelling tokens := by
  unfold extendRun
  split <;> simp [spelling, Token.text]

/-- No character of a text is lost or changed by scanning it. -/
theorem spelling_scanFrom (position : Nat) (text : List Char) :
    spelling (scanFrom position text) = text := by
  induction text generalizing position with
  | nil => rfl
  | cons c rest inductionHypothesis =>
    unfold scanFrom
    split
    · next token found =>
      have spelled := inductionHypothesis (position + 1)
      simp only [spelling] at spelled
      simp [spelling, Token.text_of_ofChar? found, spelled]
    · rw [spelling_extendRun, inductionHypothesis]

end StateContainer.Signature
