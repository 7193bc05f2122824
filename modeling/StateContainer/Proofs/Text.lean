/-
This file says what is left of texts that are taken apart, and what is read of those that were
written.

Trimming takes the blanks at the ends. The pieces of a text give back what it was joined of:
cutting at a separator that was put between two texts cuts each of them by itself, and a text
without the separator is its own only piece. Dotted names, lines and the words of a line are all
read in this way. Digits are read as the numbers that they were written from: decimal digits of any
length, and the four hexadecimal digits of a unit.

Names stay apart from what separates them: an identifier holds neither the dots between the parts
of a qualified name nor the slashes between the parts of a path, and it is still without them when
its words are lowered and written with underscores between them. Characters beyond ASCII are
lowered by the case tables. No span and no sequence of the tables leads down to the code points of
dots and slashes.
-/

import Mathlib.Data.List.Basic
import Mathlib.Data.List.DropRight
import Mathlib.Data.List.TakeWhile
import StateContainer.Json.Reader
import StateContainer.Json.Writer
import StateContainer.Text.Blank
import StateContainer.Text.Case
import StateContainer.Text.Identifier
import StateContainer.Text.Pieces

namespace StateContainer.Text

/-! ### Trimming -/

theorem trimEnd_eq_nil_iff {text : List Char} : trimEnd text = [] ↔ ∀ c ∈ text, isBlank c :=
  List.rdropWhile_eq_nil_iff

theorem trimEnd_prefix (text : List Char) : trimEnd text <+: text :=
  List.rdropWhile_prefix isBlank text

/-- What is left of a text does not begin with white space. -/
theorem isBlank_head_trim {text rest : List Char} {c : Char} (left : trim text = c :: rest) :
    isBlank c = false := by
  obtain ⟨blanks, split⟩ := trimEnd_prefix (trimStart text)
  rw [← trim, left] at split
  have first := List.head?_dropWhile_not isBlank text
  rw [← trimStart, ← split] at first
  exact first

/-- Nothing is left of a text exactly if all of it is white space. -/
theorem trim_eq_nil_iff {text : List Char} : trim text = [] ↔ ∀ c ∈ text, isBlank c := by
  rw [← List.dropWhile_eq_nil_iff, ← trimStart, trim]
  constructor
  · intro blank
    cases left : trimStart text with
    | nil => rfl
    | cons c rest =>
      have first := List.head?_dropWhile_not isBlank text
      rw [← trimStart, left] at first
      rw [left] at blank
      exact absurd (trimEnd_eq_nil_iff.mp blank c List.mem_cons_self) (Bool.eq_false_iff.mp first)
  · intro blank
    rw [blank]
    rfl

/-- Blanks in front of a text are trimmed away. -/
theorem trim_cons_blank {c : Char} (blank : isBlank c = true) (text : List Char) :
    trim (c :: text) = trim text := by
  rw [trim, trimStart, List.dropWhile_cons_of_pos blank]
  rfl

theorem trimStart_trimStart (text : List Char) : trimStart (trimStart text) = trimStart text :=
  List.dropWhile_idempotent isBlank text

theorem trimEnd_trimEnd (text : List Char) : trimEnd (trimEnd text) = trimEnd text :=
  List.rdropWhile_idempotent isBlank text

/-- A text that ends in a character is not trimmed behind it. -/
theorem trimEnd_concat {c : Char} (written : isBlank c = false) (text : List Char) :
    trimEnd (text ++ [c]) = text ++ [c] :=
  List.rdropWhile_concat_neg isBlank text c (by rw [written]; exact Bool.false_ne_true)

/-- A text that begins with a character is not trimmed in front of it. -/
theorem trimStart_cons {c : Char} (written : isBlank c = false) (text : List Char) :
    trimStart (c :: text) = c :: text :=
  List.dropWhile_cons_of_neg (by rw [written]; exact Bool.false_ne_true)

/-- What stands in front of the white space at an end begins as the whole text does. -/
theorem trimStart_trimEnd {text : List Char} (start : trimStart text = text) :
    trimStart (trimEnd text) = trimEnd text := by
  cases left : trimEnd text with
  | nil => rfl
  | cons c rest =>
    obtain ⟨blanks, split⟩ := trimEnd_prefix text
    rw [left, List.cons_append] at split
    have first := List.head?_dropWhile_not isBlank text
    rw [← trimStart, start, ← split] at first
    exact trimStart_cons first rest

theorem trimEnd_append_blank {back : List Char} (blank : ∀ c ∈ back, isBlank c) (text : List Char) :
    trimEnd (text ++ back) = trimEnd text := by
  rw [trimEnd, trimEnd, List.reverse_append, List.dropWhile_append_of_pos]
  exact fun c member => blank c (List.mem_reverse.mp member)

/-- White space around a text is trimmed away. -/
theorem trim_append_append {front back : List Char} (blankFront : ∀ c ∈ front, isBlank c)
    (blankBack : ∀ c ∈ back, isBlank c) (text : List Char) :
    trim (front ++ text ++ back) = trim text := by
  rw [trim, List.append_assoc, trimStart, List.dropWhile_append_of_pos blankFront,
    List.dropWhile_append]
  split
  next empty =>
    rw [trim, trimStart, List.isEmpty_iff.mp empty, List.dropWhile_eq_nil_iff.mpr blankBack]
  next => exact trimEnd_append_blank blankBack _

/-- A text has white space at most around what trimming leaves of it. -/
theorem exists_eq_append_trim (text : List Char) :
    ∃ front back, text = front ++ trim text ++ back ∧ (∀ c ∈ front, isBlank c) ∧
      ∀ c ∈ back, isBlank c := by
  refine ⟨text.takeWhile isBlank, (trimStart text).rtakeWhile isBlank, ?_,
    fun c member => List.mem_takeWhile_imp member, fun c member => List.mem_rtakeWhile_imp member⟩
  have ends : trim text ++ (trimStart text).rtakeWhile isBlank = trimStart text :=
    List.rdropWhile_append_rtakeWhile
  rw [List.append_assoc, ends]
  exact List.takeWhile_append_dropWhile.symm

/-- Trimming leaves nothing to trim. -/
theorem trim_trim (text : List Char) : trim (trim text) = trim text := by
  rw [trim, trim, trimStart_trimEnd (trimStart_trimStart text), trimEnd_trimEnd]

/-! ### Pieces -/

section
variable {separator : Char}

theorem pieces_cons_separator (separator : Char) (rest : List Char) :
    pieces separator (separator :: rest) = [] :: pieces separator rest := by
  rw [pieces, if_pos rfl]

/-- A character other than the separator goes to the first piece. -/
theorem pieces_cons_of_ne {c : Char} (differ : c ≠ separator) {rest first : List Char}
    {others : List (List Char)} (cut : pieces separator rest = first :: others) :
    pieces separator (c :: rest) = (c :: first) :: others := by
  rw [pieces, if_neg differ, cut]

/-- A separator between two texts keeps their pieces apart. -/
theorem pieces_append_cons (text rest : List Char) :
    pieces separator (text ++ separator :: rest) =
      pieces separator text ++ pieces separator rest := by
  induction text with
  | nil => exact pieces_cons_separator separator rest
  | cons c text inductionHypothesis =>
    by_cases here : c = separator
    · subst here
      rw [List.cons_append, pieces_cons_separator, pieces_cons_separator, inductionHypothesis]
      rfl
    · cases cut : pieces separator text with
      | nil => exact absurd cut (pieces_ne_nil separator text)
      | cons first others =>
        rw [cut] at inductionHypothesis
        rw [List.cons_append, pieces_cons_of_ne here inductionHypothesis,
          pieces_cons_of_ne here cut]
        rfl

/-- A text without the separator is not cut. -/
theorem pieces_of_not_mem {text : List Char} (free : separator ∉ text) :
    pieces separator text = [text] := by
  induction text with
  | nil => rfl
  | cons c text inductionHypothesis =>
    rw [List.mem_cons, not_or] at free
    exact pieces_cons_of_ne (Ne.symm free.1) (inductionHypothesis free.2)

/-- Pieces hold no separator. -/
theorem not_mem_of_mem_pieces {text piece : List Char} (member : piece ∈ pieces separator text) :
    separator ∉ piece := by
  induction text generalizing piece with
  | nil =>
    rw [List.mem_singleton.mp member]
    exact List.not_mem_nil
  | cons c text inductionHypothesis =>
    by_cases here : c = separator
    · subst here
      rw [pieces_cons_separator] at member
      rcases List.mem_cons.mp member with rfl | later
      · exact List.not_mem_nil
      · exact inductionHypothesis later
    · cases cut : pieces separator text with
      | nil => exact absurd cut (pieces_ne_nil separator text)
      | cons first others =>
        rw [cut] at inductionHypothesis
        rw [pieces_cons_of_ne here cut] at member
        rcases List.mem_cons.mp member with rfl | later
        · rw [List.mem_cons, not_or]
          exact ⟨Ne.symm here, inductionHypothesis List.mem_cons_self⟩
        · exact inductionHypothesis (List.mem_cons_of_mem _ later)

/-- Texts without the separator are the pieces of what they are joined to. -/
theorem pieces_joined {parts : List (List Char)} (nonempty : parts ≠ [])
    (free : ∀ part ∈ parts, separator ∉ part) : pieces separator (joined separator parts) = parts := by
  induction parts with
  | nil => exact absurd rfl nonempty
  | cons part others inductionHypothesis =>
    rw [List.forall_mem_cons] at free
    cases others with
    | nil => exact pieces_of_not_mem free.1
    | cons next others =>
      rw [joined, pieces_append_cons, pieces_of_not_mem free.1,
        inductionHypothesis (List.cons_ne_nil _ _) free.2]
      rfl

/-- Parts that hold something are what is found between the separators of what they are joined to. -/
theorem filter_pieces_joined {parts : List (List Char)} (filled : ∀ part ∈ parts, part ≠ [])
    (free : ∀ part ∈ parts, separator ∉ part) :
    (pieces separator (joined separator parts)).filter (· ≠ []) = parts := by
  cases parts with
  | nil => rfl
  | cons part others =>
    rw [pieces_joined (List.cons_ne_nil _ _) free]
    exact List.filter_eq_self.mpr fun part member => decide_eq_true (filled part member)

theorem joined_cons (separator : Char) (part : List Char) (others : List (List Char)) :
    joined separator (part :: others) = part ++ others.flatMap (separator :: ·) := by
  induction others generalizing part with
  | nil => exact (List.append_nil part).symm
  | cons next others inductionHypothesis =>
    rw [joined, inductionHypothesis, List.flatMap_cons]
    rfl

theorem map_joined (f : Char → Char) (parts : List (List Char)) :
    (joined separator parts).map f = joined (f separator) (parts.map (List.map f)) := by
  cases parts with
  | nil => rfl
  | cons part others =>
    rw [List.map_cons, joined_cons, joined_cons, List.map_append, List.map_flatMap, List.flatMap_map]
    rfl

/-- A joined text is made of the separator and the characters of its parts. -/
theorem mem_joined {parts : List (List Char)} {c : Char} (member : c ∈ joined separator parts) :
    c = separator ∨ ∃ part ∈ parts, c ∈ part := by
  induction parts with
  | nil => cases member
  | cons part others inductionHypothesis =>
    cases others with
    | nil => exact .inr ⟨part, List.mem_cons_self, member⟩
    | cons next others =>
      rw [joined, List.mem_append, List.mem_cons] at member
      rcases member with here | between | later
      · exact .inr ⟨part, List.mem_cons_self, here⟩
      · exact .inl between
      · obtain between | ⟨part, listed, inside⟩ := inductionHypothesis later
        · exact .inl between
        · exact .inr ⟨part, List.mem_cons_of_mem _ listed, inside⟩

/-- What stands before and behind the last separator is found again. -/
theorem append_cons_inj {first firstOther last lastOther : List Char} (free : separator ∉ last)
    (freeOther : separator ∉ lastOther)
    (same : first ++ separator :: last = firstOther ++ separator :: lastOther) :
    first = firstOther ∧ last = lastOther := by
  have cut := congrArg (pieces separator) same
  rw [pieces_append_cons, pieces_append_cons, pieces_of_not_mem free,
    pieces_of_not_mem freeOther] at cut
  obtain ⟨before, behind⟩ := List.append_inj' cut rfl
  have joinedSame := congrArg (joined separator) before
  rw [joined_pieces, joined_pieces] at joinedSame
  exact ⟨joinedSame, List.singleton_inj.mp behind⟩

/-- Each line of a text that ends it is a piece of its own. -/
theorem pieces_lines {lines : List String} (free : ∀ line ∈ lines, '\n' ∉ line.toList)
    (rest : List Char) :
    pieces '\n' ((lines.flatMap fun line => line.toList ++ ['\n']) ++ rest) =
      lines.map String.toList ++ pieces '\n' rest := by
  induction lines with
  | nil => rfl
  | cons line others inductionHypothesis =>
    rw [List.forall_mem_cons] at free
    rw [List.flatMap_cons, List.append_assoc, List.append_assoc, List.singleton_append,
      pieces_append_cons, pieces_of_not_mem free.1, inductionHypothesis free.2]
    rfl

/-! ### Dotted names -/

theorem intercalate_eq_joined (separator : Char) (parts : List (List Char)) :
    [separator].intercalate parts = joined separator parts := by
  induction parts with
  | nil => rfl
  | cons part others inductionHypothesis =>
    cases others with
    | nil => exact List.append_nil _
    | cons next others =>
      rw [List.intercalate_cons_cons, inductionHypothesis, List.append_assoc]
      rfl

theorem toList_dotted (parts : List String) :
    (dotted parts).toList = joined '.' (parts.map String.toList) := by
  rw [dotted, String.toList_intercalate]
  exact intercalate_eq_joined '.' _

theorem dottedParts_ne_nil (name : String) : dottedParts name ≠ [] := by
  rw [dottedParts, Ne, List.map_eq_nil_iff]
  exact pieces_ne_nil _ _

/-- Nothing is lost when a name is cut at its dots. -/
theorem joined_dottedParts (name : String) :
    joined '.' ((dottedParts name).map String.toList) = name.toList := by
  have parts : (dottedParts name).map String.toList = pieces '.' name.toList := by
    rw [dottedParts, List.map_map]
    exact List.map_id'' (fun _ => String.toList_ofList) _
  rw [parts, joined_pieces]

/-- A character other than a dot that is in no part of a dotted name is not in the name. -/
theorem not_mem_of_dottedParts {name : String} {c : Char} (noDot : c ≠ '.')
    (free : ∀ part ∈ dottedParts name, c ∉ part.toList) : c ∉ name.toList := by
  intro member
  rw [← joined_pieces '.' name.toList] at member
  obtain rfl | ⟨part, listed, inside⟩ := mem_joined member
  · exact noDot rfl
  · refine free (String.ofList part) (List.mem_map_of_mem listed) ?_
    rw [String.toList_ofList]
    exact inside

end

/-! ### Decimal digits -/

theorem isDigit_of_mem_decimal {n : Nat} {c : Char} (member : c ∈ decimal n) :
    c.isDigit = true :=
  Nat.isDigit_of_mem_toDigits (by decide) (by decide) member

/-- The digits of a number are read as the number. -/
theorem ofDigits_decimal (n : Nat) :
    ofDigits 10 ((decimal n).map fun c => c.toNat - '0'.toNat) = n := by
  have folded : (fun (value : Nat) (c : Char) => value * 10 + (c.toNat - '0'.toNat)) =
      fun value c => 10 * value + (c.toNat - '0'.toNat) := by
    funext value c
    rw [Nat.mul_comm]
  rw [ofDigits, List.foldl_map, folded]
  exact Nat.ofDigitChars_ten_toDigits

/-- A number other than zero does not begin with a zero. -/
theorem head?_decimal_ne {n : Nat} (positive : 0 < n) : (decimal n).head? ≠ some '0' := by
  induction n using Nat.strongRecOn with
  | ind n inductionHypothesis =>
    rw [decimal, Nat.toDigits_eq_if (by decide)]
    split
    · simp only [List.head?_cons, ne_eq, Option.some.injEq, Nat.digitChar_eq_zero]
      omega
    · next large =>
      have fewer := inductionHypothesis (n / 10) (by omega) (by omega)
      rw [decimal] at fewer
      cases digits : Nat.toDigits 10 (n / 10) with
      | nil => exact absurd digits Nat.toDigits_ne_nil
      | cons first others =>
        rw [digits] at fewer
        exact fewer

/-- The number of digits is bounded by the power of ten that bounds the number. -/
theorem length_decimal_le_iff {n count : Nat} (positive : 0 < count) :
    (decimal n).length ≤ count ↔ n < tenPower count :=
  Nat.length_toDigits_le_iff (by decide) positive

/-! ### Hexadecimal digits -/

theorem hexDigit?_digitChar {n : Nat} (low : n < 16) : Json.hexDigit? n.digitChar = some n := by
  have all : ∀ i : Fin 16, Json.hexDigit? i.val.digitChar = some i.val := by decide
  exact all ⟨n, low⟩

/-- The four digits of a unit. -/
theorem hexPadded_four {n : Nat} (low : n < 65536) :
    hexPadded 4 n = [(n / 4096).digitChar, (n / 256 % 16).digitChar, (n / 16 % 16).digitChar,
      (n % 16).digitChar] := by
  have zero : ('0' : Char) = Nat.digitChar 0 := rfl
  rw [hexPadded, Nat.toDigits_eq_if (by decide)]
  split
  · rw [Nat.div_eq_of_lt (by omega : n < 4096), Nat.div_eq_of_lt (by omega : n < 256),
      Nat.div_eq_of_lt (by omega : n < 16), Nat.mod_eq_of_lt (by omega : n < 16)]
    rfl
  · rw [Nat.toDigits_eq_if (by decide)]
    split
    · rw [Nat.div_eq_of_lt (by omega : n < 4096), Nat.div_eq_of_lt (by omega : n < 256),
        Nat.mod_eq_of_lt (by omega : n / 16 < 16)]
      rfl
    · rw [Nat.toDigits_eq_if (by decide), Nat.div_div_eq_div_mul]
      split
      · rw [Nat.div_eq_of_lt (by omega : n < 4096), Nat.mod_eq_of_lt (by omega : n / 256 < 16)]
        rfl
      · rw [Nat.toDigits_of_lt_base (by omega), Nat.div_div_eq_div_mul]
        rfl

/-- The four digits of a unit are read as the unit. -/
theorem unitCode?_hexPadded {n : Nat} (low : n < 65536) :
    ∃ a b c d, hexPadded 4 n = [a, b, c, d] ∧ Json.unitCode? a b c d = some n := by
  refine ⟨_, _, _, _, hexPadded_four low, ?_⟩
  rw [Json.unitCode?, hexDigit?_digitChar (by omega), hexDigit?_digitChar (by omega),
    hexDigit?_digitChar (by omega), hexDigit?_digitChar (by omega)]
  have joined : ofDigits 16 [n / 4096, n / 256 % 16, n / 16 % 16, n % 16] = n := by
    simp only [ofDigits, List.foldl_cons, List.foldl_nil]
    omega
  exact congrArg some joined

/-! ### Names -/

/-- Whether a character separates the parts of a qualified name or of a path. -/
def isSeparator (c : Char) : Bool :=
  c == '.' || c == '/'

/-! ### Identifiers -/

/-- A character that may stand nowhere in an identifier does not occur in one. -/
theorem not_mem_of_isIdentifier {text : String} (named : isIdentifier text = true) {c : Char}
    (noStart : isIdentifierStart c = false) (noContinue : isIdentifierContinue c = false) :
    c ∉ text.toList := by
  rw [isIdentifier] at named
  cases characters : text.toList with
  | nil => exact List.not_mem_nil
  | cons first rest =>
    rw [characters, isIdentifierChars, Bool.and_eq_true, List.all_eq_true] at named
    intro member
    rcases List.mem_cons.mp member with rfl | later
    · exact absurd (noStart.symm.trans named.1) Bool.false_ne_true
    · exact absurd (noContinue.symm.trans (named.2 c later)) Bool.false_ne_true

theorem ne_empty_of_isIdentifier {text : String} (named : isIdentifier text = true) : text ≠ "" := by
  rintro rfl
  cases named

/-- What may stand in an identifier may be put behind one. -/
theorem isIdentifier_append {text behind : String} (named : isIdentifier text = true)
    (continues : behind.toList.all isIdentifierContinue = true) : isIdentifier (text ++ behind) = true := by
  rw [isIdentifier] at named ⊢
  rw [String.toList_append]
  cases characters : text.toList with
  | nil =>
    rw [characters] at named
    cases named
  | cons first rest =>
    rw [characters, isIdentifierChars, Bool.and_eq_true] at named
    rw [List.cons_append, isIdentifierChars, named.1, List.all_append, named.2, continues]
    rfl

/-- An identifier holds no separator. -/
theorem isSeparator_of_mem {text : String} (named : isIdentifier text = true) {c : Char}
    (member : c ∈ text.toList) : isSeparator c = false := by
  rw [isSeparator, Bool.or_eq_false_iff, beq_eq_false_iff_ne, beq_eq_false_iff_ne]
  refine ⟨?_, ?_⟩
  · rintro rfl
    exact not_mem_of_isIdentifier named rfl rfl member
  · rintro rfl
    exact not_mem_of_isIdentifier named rfl rfl member

/-! ### Letters of either case -/

/-- Whether a character has a code point beyond those of the separators and of the characters that end
lines. -/
def IsBeyond (c : Char) : Prop :=
  c.toNat = 0 ∨ 47 < c.toNat

theorem isBeyond_ofNat {code : Nat} (beyond : 47 < code) : IsBeyond (Char.ofNat code) := by
  by_cases valid : code.isValidChar
  · have made : Char.ofNat code = Char.ofNatAux code valid := dif_pos valid
    exact .inr (beyond.trans_eq (congrArg Char.toNat made).symm)
  · have made : Char.ofNat code = Char.ofNat 0 := dif_neg valid
    exact .inl (congrArg Char.toNat made)

theorem IsBeyond.ne {c low : Char} (beyond : IsBeyond c) (isLow : 0 < low.toNat ∧ low.toNat ≤ 47) :
    c ≠ low := by
  rintro rfl
  rcases beyond with zero | above <;> omega

theorem IsBeyond.isSeparator {c : Char} (beyond : IsBeyond c) : isSeparator c = false := by
  rw [Text.isSeparator, Bool.or_eq_false_iff, beq_eq_false_iff_ne, beq_eq_false_iff_ne]
  exact ⟨beyond.ne (by decide), beyond.ne (by decide)⟩

/-- Changing the case by a span leads beyond the separators if every span does. -/
theorem caseOffset_cases {spans : Array CaseSpan}
    (beyond : ∀ span ∈ spans.toList, (47 : Int) < span.first + span.offset) (code low high : Nat) :
    caseOffset spans code low high = 0 ∨ 47 < code + caseOffset spans code low high := by
  fun_induction caseOffset spans code low high with
  | case1 => exact .inl rfl
  | case2 _ _ _ _ _ _ _ inductionHypothesis => exact inductionHypothesis
  | case3 _ _ _ _ _ _ _ _ inductionHypothesis => exact inductionHypothesis
  | case4 low high _ middle span found notBelow _ _ =>
    have shifted := beyond span (Array.mem_toList_iff.mpr (Array.mem_of_getElem? found))
    exact .inr (by omega)
  | case5 => exact .inl rfl
  | case6 => exact .inl rfl

/-- So does changing the case of any character beyond ASCII by tables. -/
theorem isBeyond_of_mem_mapByTables {spans : Array CaseSpan} {sequences : Array (Nat × List Nat)}
    (beyond : ∀ span ∈ spans.toList, (47 : Int) < span.first + span.offset)
    (each : ∀ entry ∈ sequences.toList, ∀ code ∈ entry.2, 47 < code) {c d : Char}
    (large : ¬ c.toNat < 128) (member : d ∈ mapByTables spans sequences c) : IsBeyond d := by
  rw [mapByTables] at member
  split at member
  · next entry found =>
    obtain ⟨code, inside, rfl⟩ := List.mem_map.mp member
    have listed := Array.mem_toList_iff.mpr (Array.mem_of_find?_eq_some found)
    exact isBeyond_ofNat (each entry listed code inside)
  · rw [List.mem_singleton.mp member]
    refine isBeyond_ofNat ?_
    have shifted := caseOffset_cases beyond c.toNat 0 spans.size
    omega

/-- What holds of the first 128 characters holds of each character of ASCII. -/
theorem forall_ascii {motive : Char → Prop} (each : ∀ code < 128, motive (Char.ofNat code)) {c : Char}
    (ascii : c.toNat < 128) : motive c :=
  Char.ofNat_toNat c ▸ each c.toNat ascii

/-- The lower case of a character that is no separator holds none. -/
theorem isSeparator_of_mem_lowerChar {c d : Char} (plain : isSeparator c = false)
    (member : d ∈ lowerChar c) : isSeparator d = false := by
  rw [lowerChar] at member
  split at member
  · next ascii =>
    rw [List.mem_singleton.mp member]
    exact forall_ascii (motive := fun c => isSeparator c = false → isSeparator c.toLower = false)
      (by decide) ascii plain
  · next large =>
    refine (isBeyond_of_mem_mapByTables ?_ (by decide) large member).isSeparator
    set_option maxRecDepth 4000 in decide

/-- The upper case of a text on one line is on one line. -/
theorem not_mem_upper {text : List Char} (whole : '\n' ∉ text) : '\n' ∉ upper text := by
  rw [upper, List.mem_flatMap]
  rintro ⟨c, inside, member⟩
  rw [upperChar] at member
  split at member
  · next ascii =>
    have raised : c.toUpper = '\n' → c = '\n' :=
      forall_ascii (motive := fun c => c.toUpper = '\n' → c = '\n') (by decide) ascii
    exact whole (raised (List.mem_singleton.mp member).symm ▸ inside)
  · next large =>
    refine (isBeyond_of_mem_mapByTables ?_ (by decide) large member).ne (by decide) rfl
    set_option maxRecDepth 4000 in decide

theorem isSeparator_of_mem_lowerAfter {text before : List Char}
    (plain : ∀ c ∈ text, isSeparator c = false) :
    ∀ d ∈ lowerAfter before text, isSeparator d = false := by
  induction text generalizing before with
  | nil => exact List.forall_mem_nil _
  | cons c rest inductionHypothesis =>
    rw [List.forall_mem_cons] at plain
    rw [lowerAfter]
    split
    · rw [List.forall_mem_cons]
      refine ⟨?_, inductionHypothesis plain.2⟩
      split <;> rfl
    · rw [List.forall_mem_append]
      exact ⟨fun d => isSeparator_of_mem_lowerChar plain.1, inductionHypothesis plain.2⟩

/-! ### Words -/

/-- What holds of underscores and of each character of a text holds of each character of the text with
underscores between its words. -/
theorem forall_mem_separateWordsAfter {motive : Char → Prop} (underscore : motive '_') {text : List Char}
    (each : ∀ c ∈ text, motive c) (previous : Char) :
    ∀ c ∈ separateWordsAfter previous text, motive c := by
  induction text generalizing previous with
  | nil => exact List.forall_mem_nil _
  | cons c rest inductionHypothesis =>
    rw [List.forall_mem_cons] at each
    have later : ∀ d ∈ separateWordsAfter c rest, motive d := inductionHypothesis each.2 c
    rw [separateWordsAfter]
    split
    · exact List.forall_mem_cons.mpr ⟨underscore, List.forall_mem_cons.mpr ⟨each.1, later⟩⟩
    · exact List.forall_mem_cons.mpr ⟨each.1, later⟩

theorem forall_mem_separateWords {motive : Char → Prop} (underscore : motive '_') {text : List Char}
    (each : ∀ c ∈ text, motive c) : ∀ c ∈ separateWords text, motive c := by
  cases text with
  | nil => exact List.forall_mem_nil _
  | cons first rest =>
    rw [List.forall_mem_cons] at each
    exact List.forall_mem_cons.mpr ⟨each.1, forall_mem_separateWordsAfter underscore each.2 first⟩

/-- The words of an identifier, lowered and put together, hold no separator. -/
theorem isSeparator_of_mem_snakeCase {name : String} (named : isIdentifier name = true) :
    ∀ c ∈ (snakeCase name).toList, isSeparator c = false := by
  rw [snakeCase, String.toList_ofList, lower]
  exact isSeparator_of_mem_lowerAfter (forall_mem_separateWords
    (motive := fun c => isSeparator c = false) rfl fun _ => isSeparator_of_mem named)

end StateContainer.Text
