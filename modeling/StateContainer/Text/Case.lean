/-
This file maps texts to upper and to lower case by the full mappings of Unicode:
a character may become several (`ß` becomes `SS`), and a capital sigma becomes a
final sigma where it ends a word.

A sigma ends a word if, skipping case-ignorable characters, a cased character
stands before it and none stands after it. ASCII follows the short rules; only
the other characters are looked up in the tables.

It also writes a name of several capitalised words with underscores between
them: `MainState` becomes `main_state` and `HTTPServer` becomes `http_server`.
A word begins at an ASCII capital that follows a lower-case letter or a digit,
and at an ASCII capital between another capital and a lower-case letter. An
underscore is put at each such place, and the whole is then lowered.
-/

import StateContainer.Text.CaseTable
import StateContainer.Text.Span

namespace StateContainer.Text

/-! ### Classes of characters -/

/-- Whether a character is an upper-case one. -/
def isUpper (c : Char) : Bool :=
  if c.toNat < 128 then c.isUpper else inSpans upperSpans c.toNat

/-- Whether a character is skipped when the neighbours of a sigma are looked for. -/
def isCaseIgnorable (c : Char) : Bool :=
  if c.toNat < 128 then
    c == '\'' || c == '.' || c == ':' || c == '^' || c.toNat == 0x60
  else inSpans ignorableSpans c.toNat

/-- Whether a character that is not case-ignorable has case. -/
def isCased (c : Char) : Bool :=
  if c.toNat < 128 then c.isAlpha else inSpans casedSpans c.toNat

/-! ### The mapping of one character -/

/-- The offset of a code point by the spans with an index in `[low, high)`, and zero if none
of them holds it. -/
def caseOffset (spans : Array CaseSpan) (code low high : Nat) : Int :=
  if low < high then
    let middle := (low + high) / 2
    match spans[middle]? with
    | none => 0
    | some span =>
      if code < span.first then caseOffset spans code low middle
      else if span.last < code then caseOffset spans code (middle + 1) high
      else if (code - span.first) % span.step = 0 then span.offset
      else 0
  else 0
termination_by high - low

/-- The mapping of one character beyond ASCII by a table of single mappings and a table of
sequences. -/
def mapByTables (spans : Array CaseSpan) (sequences : Array (Nat × List Nat)) (c : Char) :
    List Char :=
  match sequences.find? (fun entry => entry.1 == c.toNat) with
  | some entry => entry.2.map Char.ofNat
  | none => [Char.ofNat (c.toNat + caseOffset spans c.toNat 0 spans.size).toNat]

/-- The upper case of one character. -/
def upperChar (c : Char) : List Char :=
  if c.toNat < 128 then [c.toUpper] else mapByTables upperCaseSpans upperCaseSequences c

/-- The lower case of one character, apart from the rule for a final sigma. -/
def lowerChar (c : Char) : List Char :=
  if c.toNat < 128 then [c.toLower] else mapByTables lowerCaseSpans lowerCaseSequences c

/-! ### The mapping of a text -/

/-- Whether the nearest character that is not case-ignorable is cased. -/
def meetsCased (neighbours : List Char) : Bool :=
  ((neighbours.dropWhile isCaseIgnorable).head?.map isCased).getD false

/-- The upper case of a text. -/
def upper (text : List Char) : List Char :=
  text.flatMap upperChar

/-- The lower case of a text, of which the part before it has been read; that part is given
in reverse. -/
def lowerAfter (before : List Char) : List Char → List Char
  | [] => []
  | c :: rest =>
    if c = 'Σ' then
      (if meetsCased before && !meetsCased rest then 'ς' else 'σ') :: lowerAfter (c :: before) rest
    else
      lowerChar c ++ lowerAfter (c :: before) rest

/-- The lower case of a text. -/
def lower (text : List Char) : List Char :=
  lowerAfter [] text

/-! ### The words of a name -/

/-- Whether a word begins between two neighbouring characters, given what follows them. -/
def wordBegins (previous current : Char) (next : Option Char) : Bool :=
  current.isUpper &&
    (previous.isLower || previous.isDigit ||
      (previous.isUpper && (next.map Char.isLower).getD false))

/-- The text with an underscore wherever a word begins after the given character. -/
def separateWordsAfter (previous : Char) : List Char → List Char
  | [] => []
  | c :: rest =>
    if wordBegins previous c rest.head? then '_' :: c :: separateWordsAfter c rest
    else c :: separateWordsAfter c rest

/-- The text with an underscore between each two words. -/
def separateWords : List Char → List Char
  | [] => []
  | c :: rest => c :: separateWordsAfter c rest

/-- The words of a name in lower case, with underscores between them. -/
def snakeCase (name : String) : String :=
  String.ofList (lower (separateWords name.toList))

end StateContainer.Text
