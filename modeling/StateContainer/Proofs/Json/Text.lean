/-
This file proves that a text is read as it was written.

The only texts that are not are those in which the first half of a surrogate pair stands
right before a second half: the two are written by their units, and two such units side
by side are read as one character.
-/

import Mathlib.Data.List.Chain
import StateContainer.Proofs.Text

namespace StateContainer.Json

/-! ### Halves of pairs -/

/-- No first half of a surrogate pair stands right before a second half. -/
def HalvesApart (text : List Char) : Prop :=
  text.IsChain fun c next =>
    ¬(isHighUnit (Text.codeOfChar c) = true ∧ isLowUnit (Text.codeOfChar next) = true)

theorem isHalf_toNat (c : Char) : Text.isHalf c.toNat = false := by
  have valid : c.toNat.isValidChar := c.valid
  unfold Text.isHalf
  simp only [Bool.and_eq_false_iff, decide_eq_false_iff_not]
  rcases valid with low | ⟨high, _⟩
  · exact Or.inl (by omega)
  · exact Or.inr (by omega)

/-- A character stands for the code that it is the character of. -/
theorem charOfCode_codeOfChar (c : Char) : Text.charOfCode (Text.codeOfChar c) = c := by
  unfold Text.codeOfChar
  split
  · next half =>
    have large : Text.halfOffset ≤ c.toNat := by
      simp only [Text.isHalf, Bool.and_eq_true, decide_eq_true_eq] at half
      omega
    rw [Text.charOfCode, if_pos half, Nat.sub_add_cancel large, Char.ofNat_toNat]
  · rw [Text.charOfCode, isHalf_toNat, if_neg Bool.false_ne_true, Char.ofNat_toNat]

/-- A code beyond the first plane is that of its character. -/
theorem codeOfChar_of_large {c : Char} (large : 0x10000 ≤ Text.codeOfChar c) :
    Text.codeOfChar c = c.toNat := by
  unfold Text.codeOfChar at large ⊢
  split
  · next half =>
    simp only [Text.isHalf, Bool.and_eq_true, decide_eq_true_eq] at half
    rw [if_pos (by simp [Text.isHalf, half])] at large
    omega
  · rfl

theorem toNat_lt (c : Char) : c.toNat < 0x110000 := by
  have valid : c.toNat.isValidChar := c.valid
  rcases valid with low | ⟨_, high⟩
  · omega
  · exact high

/-! ### Reading the parts of a text -/

/-- The parts that a code is read as. -/
def unitsOf (code : Nat) : List Piece :=
  if code < 0x10000 then [.unit code]
  else [.unit (0xD800 + (code - 0x10000) / 0x400), .unit (0xDC00 + (code - 0x10000) % 0x400)]

/-- Whether a character is not written by its code. -/
def isNamed (c : Char) : Bool :=
  (shortEscapes.lookup c).isSome || (32 ≤ c.toNat && c.toNat < 127)

/-- The parts that a written character is read as. -/
def piecesOf (c : Char) : List Piece :=
  if isNamed c then [.char c] else unitsOf (Text.codeOfChar c)

/-- Puts parts in front of those that are read of the rest of a text. -/
def before (pieces : List Piece) (read : Option (List Piece × List Char)) :
    Option (List Piece × List Char) :=
  read.map fun found => (pieces ++ found.1, found.2)

theorem before_append (pieces more : List Piece) (read : Option (List Piece × List Char)) :
    before (pieces ++ more) read = before pieces (before more read) := by
  cases read with
  | none => rfl
  | some found => simp [before]

theorem readPieces_unitEscape {unit : Nat} (low : unit < 65536) (rest : List Char) :
    readPieces (unitEscape unit ++ rest) = before [.unit unit] (readPieces rest) := by
  obtain ⟨a, b, c, d, digits, code⟩ := Text.unitCode?_hexPadded low
  rw [unitEscape, digits]
  simp only [List.cons_append, List.nil_append, readPieces, code]
  cases readPieces rest <;> rfl

theorem readPieces_codeEscape {code : Nat} (low : code < 0x110000) (rest : List Char) :
    readPieces (codeEscape code ++ rest) = before (unitsOf code) (readPieces rest) := by
  unfold codeEscape unitsOf
  split
  · next small => exact readPieces_unitEscape small rest
  · rw [List.append_assoc, readPieces_unitEscape (by omega), readPieces_unitEscape (by omega)]
    exact (before_append [_] [_] _).symm

theorem readPieces_shortEscape {c letter : Char} (short : (c, letter) ∈ shortEscapes)
    (rest : List Char) :
    readPieces ('\\' :: letter :: rest) = before [.char c] (readPieces rest) := by
  simp only [shortEscapes, List.mem_cons, Prod.mk.injEq, List.not_mem_nil, or_false] at short
  rcases short with ⟨rfl, rfl⟩ | ⟨rfl, rfl⟩ | ⟨rfl, rfl⟩ | ⟨rfl, rfl⟩ | ⟨rfl, rfl⟩ | ⟨rfl, rfl⟩ |
    ⟨rfl, rfl⟩
  all_goals
    rw [readPieces]
    · rw [unescape?]
      cases readPieces rest <;> rfl
    · simp

/-- A character that needs no escape is read as it is. -/
theorem readPieces_plain {c : Char} (plain : shortEscapes.lookup c = none) (shown : 32 ≤ c.toNat)
    (rest : List Char) : readPieces (c :: rest) = before [.char c] (readPieces rest) := by
  have noQuote : c ≠ '"' := by
    rintro rfl
    simp [shortEscapes] at plain
  have noBackslash : c ≠ '\\' := by
    rintro rfl
    simp [shortEscapes] at plain
  rw [readPieces]
  · rw [if_neg (by omega)]
    cases readPieces rest <;> rfl
  · exact noQuote
  · exact fun _ _ _ _ _ same => absurd same noBackslash
  · exact fun _ _ same => absurd same noBackslash

/-- A written character is read as its parts. -/
theorem readPieces_writeChar (c : Char) (rest : List Char) :
    readPieces (writeChar c ++ rest) = before (piecesOf c) (readPieces rest) := by
  unfold writeChar piecesOf isNamed
  cases short : shortEscapes.lookup c with
  | some letter =>
    obtain ⟨_, _, found, _⟩ := List.lookup_eq_some_iff.mp short
    exact readPieces_shortEscape (found ▸ List.mem_append_right _ List.mem_cons_self) rest
  | none =>
    by_cases shown : (32 ≤ c.toNat && c.toNat < 127) = true
    · simp only [shown, if_true, Option.isSome_none, Bool.false_or]
      simp only [Bool.and_eq_true, decide_eq_true_eq] at shown
      exact readPieces_plain short shown.1 rest
    · rw [if_neg shown, if_neg (by simpa using shown)]
      refine readPieces_codeEscape ?_ rest
      have bounded := toNat_lt c
      unfold Text.codeOfChar
      split <;> omega

/-- A written text is read as the parts of its characters. -/
theorem readPieces_writeChars (text rest : List Char) :
    readPieces (text.flatMap writeChar ++ '"' :: rest) = some (text.flatMap piecesOf, rest) := by
  induction text with
  | nil => rfl
  | cons c text inductionHypothesis =>
    rw [List.flatMap_cons, List.append_assoc, readPieces_writeChar, inductionHypothesis]
    rfl

/-! ### Joining the parts -/

/-- A unit that does not go together with what follows is a character of its own. -/
theorem joinPieces_unit {code : Nat} {rest : List Piece}
    (alone : ∀ low, rest.head? = some (.unit low) → ¬(isHighUnit code ∧ isLowUnit low)) :
    joinPieces (.unit code :: rest) = Text.charOfCode code :: joinPieces rest := by
  cases rest with
  | nil => rfl
  | cons piece rest =>
    cases piece with
    | char c => rfl
    | unit low =>
      rw [joinPieces, if_neg]
      rw [Bool.and_eq_true]
      exact alone low rfl

/-- Two units that make a pair are the character of the code that they were made of. -/
theorem joinPieces_pair {code : Nat} (large : 0x10000 ≤ code) (low : code < 0x110000)
    (rest : List Piece) :
    joinPieces (unitsOf code ++ rest) = Char.ofNat code :: joinPieces rest := by
  have high : isHighUnit (0xD800 + (code - 0x10000) / 0x400) = true := by
    simp only [isHighUnit, Bool.and_eq_true, decide_eq_true_eq]
    omega
  have second : isLowUnit (0xDC00 + (code - 0x10000) % 0x400) = true := by
    simp only [isLowUnit, Bool.and_eq_true, decide_eq_true_eq]
    omega
  have whole : 0x10000 + (0xD800 + (code - 0x10000) / 0x400 - 0xD800) * 0x400 +
      (0xDC00 + (code - 0x10000) % 0x400 - 0xDC00) = code := by
    omega
  rw [unitsOf, if_neg (by omega)]
  simp only [List.cons_append, List.nil_append, joinPieces, high, second, Bool.and_self, if_true,
    whole]

/-- A second half of a pair comes first among the parts of a character only if the character is
that half. -/
theorem codeOfChar_of_head? {c : Char} {low : Nat} (rest : List Piece)
    (first : (piecesOf c ++ rest).head? = some (.unit low)) (half : isLowUnit low = true) :
    Text.codeOfChar c = low := by
  unfold piecesOf at first
  split at first
  · cases first
  · unfold unitsOf at first
    split at first
    · simpa using first
    · next large =>
      have code : Text.codeOfChar c = c.toNat := codeOfChar_of_large (by omega)
      have bounded := toNat_lt c
      simp only [List.cons_append, List.head?_cons, Option.some.injEq, Piece.unit.injEq] at first
      simp only [isLowUnit, Bool.and_eq_true, decide_eq_true_eq] at half
      omega

/-- The parts of the characters of a text are joined to the text. -/
theorem joinPieces_flatMap {text : List Char} (apart : HalvesApart text) :
    joinPieces (text.flatMap piecesOf) = text := by
  induction text with
  | nil => rfl
  | cons c rest inductionHypothesis =>
    have others := inductionHypothesis apart.of_cons
    rw [List.flatMap_cons]
    by_cases named : isNamed c = true
    · rw [piecesOf, if_pos named]
      exact congrArg (c :: ·) others
    · rw [piecesOf, if_neg named]
      by_cases large : 0x10000 ≤ Text.codeOfChar c
      · have code := codeOfChar_of_large large
        rw [joinPieces_pair large (code ▸ toNat_lt c), others, code, Char.ofNat_toNat]
      · rw [unitsOf, if_pos (by omega)]
        refine (joinPieces_unit ?_).trans ?_
        · rintro low first ⟨high, half⟩
          cases rest with
          | nil => cases first
          | cons next rest =>
            have second := codeOfChar_of_head? _ first half
            rw [← second] at half
            exact apart.rel ⟨high, half⟩
        · rw [charOfCode_codeOfChar]
          exact congrArg (c :: ·) others

/-- A text is read as it was written. -/
theorem readText_writeText {text : String} (apart : HalvesApart text.toList) (rest : List Char) :
    readText (text.toList.flatMap writeChar ++ '"' :: rest) = some (text, rest) := by
  rw [readText, readPieces_writeChars]
  simp only [Option.bind_eq_bind, Option.bind_some, joinPieces_flatMap apart, String.ofList_toList]
  rfl

end StateContainer.Json
