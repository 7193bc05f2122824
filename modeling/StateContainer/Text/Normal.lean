/-
This file brings identifiers into their normal form, in which letters that only
look different are the same: a full-width letter is the plain one, a ligature is
its letters, and a letter with a combining mark is the letter that has the mark.

Every character is decomposed, the marks behind each character are put in the
order of their classes, and then as much as possible is composed again.
-/

import StateContainer.Text.NormalTable

namespace StateContainer.Text

/-! ### Syllables -/

/-- The first syllable of Hangul. -/
def firstSyllable : Nat := 0xAC00

/-- The three letters of a syllable, of which the last one may be missing. -/
def syllableLetters (code : Nat) : List Char :=
  let index := code - firstSyllable
  let letters := [0x1100 + index / 588, 0x1161 + index % 588 / 28]
  (if index % 28 = 0 then letters else letters ++ [0x11A7 + index % 28]).map Char.ofNat

/-- The syllable that a letter or a syllable makes with a further letter. -/
def syllable? (first second : Nat) : Option Char :=
  if 0x1100 ≤ first && first < 0x1113 && 0x1161 ≤ second && second < 0x1176 then
    some (Char.ofNat (firstSyllable + ((first - 0x1100) * 21 + (second - 0x1161)) * 28))
  else if firstSyllable ≤ first && first < 0xD7A4 && (first - firstSyllable) % 28 = 0 &&
      0x11A8 ≤ second && second < 0x11C3 then
    some (Char.ofNat (first + (second - 0x11A7)))
  else none

/-! ### Steps -/

/-- The characters that a character is decomposed to. -/
def decomposed (c : Char) : List Char :=
  if c.toNat < 128 then [c]
  else if firstSyllable ≤ c.toNat && c.toNat < 0xD7A4 then syllableLetters c.toNat
  else
    match decompositions.find? (·.head? = some c) with
    | some (_ :: parts) => parts
    | _ => [c]

/-- The class of a character that combines with those before it; zero for all others. -/
def combiningClass (c : Char) : Nat :=
  if c.toNat < 128 then 0
  else
    match combiningSpans.find? fun (first, last, _) => first ≤ c.toNat && c.toNat ≤ last with
    | some (_, _, found) => found
    | none => 0

/-- Adds a character at the end of a text that is given in reverse: a mark goes in front of the
marks of greater classes. -/
def addMark (c : Char) (reversed : List Char) : List Char :=
  match reversed with
  | [] => [c]
  | last :: others =>
    if combiningClass c ≠ 0 && combiningClass c < combiningClass last then
      last :: addMark c others
    else c :: reversed

/-- The text with its marks in order. -/
def ordered (text : List Char) : List Char :=
  (text.foldl (fun reversed c => addMark c reversed) []).reverse

/-- The character that two characters make up. -/
def composition? (first second : Char) : Option Char :=
  (syllable? first.toNat second.toNat).or <|
    (compositions.find? (·.drop 1 = [first, second])).bind List.head?

/-- Composes what follows a character with it, given the marks in between, in reverse, which do
not compose with it. A mark composes unless one of its class or a greater one stands in
between. -/
def composeAfter (base : Char) (between : List Char) : List Char → List Char
  | [] => base :: between.reverse
  | c :: rest =>
    let free := between.head?.all fun last => combiningClass last < combiningClass c
    match if free then composition? base c else none with
    | some found => composeAfter found between rest
    | none =>
      if combiningClass c = 0 then base :: between.reverse ++ composeAfter c [] rest
      else composeAfter base (c :: between) rest

/-- The text with as much as possible composed. -/
def composed : List Char → List Char
  | [] => []
  | c :: rest => composeAfter c [] rest

/-! ### The normal form -/

/-- The normal form of an identifier. -/
def normal (name : List Char) : List Char :=
  if name.all (·.toNat < 128) then name else composed (ordered (name.flatMap decomposed))

/-- An identifier of ASCII is its own normal form. -/
theorem normal_of_ascii (name : List Char) (ascii : ∀ c ∈ name, c.toNat < 128) :
    normal name = name := by
  have every : name.all (·.toNat < 128) = true := by simpa using ascii
  simp only [normal, every, if_true]

/-- The normal form of an identifier. -/
def normalName (name : String) : String :=
  String.ofList (normal name.toList)

end StateContainer.Text
