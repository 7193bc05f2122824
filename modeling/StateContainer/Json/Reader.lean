/-
This file reads trees from text.

The format is read strictly: no comma stands behind the last item, no control
character stands in a text, and no digit but those of ASCII counts. The three
numbers that are not finite are read by their names. An integer with more digits
than may be converted is refused. Nothing but space, tab, line feed and carriage
return separates the parts.
-/

import StateContainer.Json
import StateContainer.Number.Reader
import StateContainer.OrderedMap
import StateContainer.Text.Encoding

namespace StateContainer.Json

/-! ### Blanks -/

/-- Whether a character separates parts. -/
def isSpace (c : Char) : Bool :=
  c == ' ' || c == '\t' || c == '\n' || c == '\r'

/-- The text without the separating characters in front. -/
def skipSpace (text : List Char) : List Char :=
  text.dropWhile isSpace

/-! ### Texts -/

/-- A part of a written text: a character, or a unit that is given by its number. -/
inductive Piece where
  | char (c : Char)
  | unit (code : Nat)
deriving DecidableEq, Repr

/-- The value of a hexadecimal digit. -/
def hexDigit? (c : Char) : Option Nat :=
  if c.isDigit then some (c.toNat - '0'.toNat)
  else if 'a' ≤ c && c ≤ 'f' then some (c.toNat - 'a'.toNat + 10)
  else if 'A' ≤ c && c ≤ 'F' then some (c.toNat - 'A'.toNat + 10)
  else none

/-- The character that a letter behind a backslash stands for. -/
def unescape? : Char → Option Char
  | '"' => some '"'
  | '\\' => some '\\'
  | '/' => some '/'
  | 'n' => some '\n'
  | 'r' => some '\r'
  | 't' => some '\t'
  | 'b' => some '\x08'
  | 'f' => some '\x0c'
  | _ => none

/-- The number of four hexadecimal digits. -/
def unitCode? (a b c d : Char) : Option Nat := do
  return Text.ofDigits 16 [← hexDigit? a, ← hexDigit? b, ← hexDigit? c, ← hexDigit? d]

/-- The parts of a written text up to its closing quote, and what follows the quote. -/
def readPieces : List Char → Option (List Piece × List Char)
  | [] => none
  | '"' :: rest => some ([], rest)
  | '\\' :: 'u' :: a :: b :: c :: d :: rest => do
    let code ← unitCode? a b c d
    let (pieces, after) ← readPieces rest
    return (.unit code :: pieces, after)
  | '\\' :: letter :: rest => do
    let c ← unescape? letter
    let (pieces, after) ← readPieces rest
    return (.char c :: pieces, after)
  | c :: rest =>
    if c.toNat < 32 then none
    else do
      let (pieces, after) ← readPieces rest
      return (.char c :: pieces, after)

/-- Whether a unit is the first half of a pair. -/
def isHighUnit (code : Nat) : Bool := 0xD800 ≤ code && code < 0xDC00

/-- Whether a unit is the second half of a pair. -/
def isLowUnit (code : Nat) : Bool := 0xDC00 ≤ code && code < 0xE000

/-- The characters that the parts stand for; two units that make a pair are one character. -/
def joinPieces : List Piece → List Char
  | [] => []
  | .char c :: rest => c :: joinPieces rest
  | .unit high :: .unit low :: rest =>
    if isHighUnit high && isLowUnit low then
      Char.ofNat (0x10000 + (high - 0xD800) * 0x400 + (low - 0xDC00)) :: joinPieces rest
    else Text.charOfCode high :: joinPieces (.unit low :: rest)
  | .unit code :: rest => Text.charOfCode code :: joinPieces rest

/-- The text behind an opening quote, and what follows its closing quote. -/
def readText (text : List Char) : Option (String × List Char) := do
  let (pieces, after) ← readPieces text
  return (String.ofList (joinPieces pieces), after)

/-! ### Numbers -/

/-- The leading digits, and what follows them. -/
def takeDigits (text : List Char) : List Nat × List Char :=
  ((text.takeWhile Char.isDigit).map (fun c => c.toNat - '0'.toNat), text.dropWhile Char.isDigit)

/-- The digits before the point: a zero alone, or a run that begins with another digit. -/
def takeWhole : List Char → Option (List Nat × List Char)
  | '0' :: rest => some ([0], rest)
  | other =>
    match takeDigits other with
    | ([], _) => none
    | found => some found

/-- The digits behind a point, if there are any. -/
def takeFraction : List Char → List Nat × List Char
  | '.' :: rest =>
    match takeDigits rest with
    | ([], _) => ([], '.' :: rest)
    | found => found
  | other => ([], other)

/-- The exponent of a number, if there is one. -/
def takeExponent : List Char → Option Int × List Char
  | mark :: rest =>
    if mark = 'e' || mark = 'E' then
      let (negative, unsigned) := Number.takeSign rest
      match takeDigits unsigned with
      | ([], _) => (none, mark :: rest)
      | (digits, after) =>
        let magnitude : Int := Text.ofDigits 10 digits
        (some (if negative then -magnitude else magnitude), after)
    else (none, mark :: rest)
  | [] => (none, [])

/-- A number without its sign, and what follows it. A number with a fraction or an exponent is
a floating-point number. -/
def readUnsigned (negative : Bool) (text : List Char) : Option (Json × List Char) := do
  let (whole, afterWhole) ← takeWhole text
  let (fraction, afterFraction) := takeFraction afterWhole
  match fraction, takeExponent afterFraction with
  | [], (none, after) =>
    if Number.digitLimit < whole.length then none
    else
      let magnitude : Int := Text.ofDigits 10 whole
      return (int (if negative then -magnitude else magnitude), after)
  | fraction, (exponent, after) =>
    let digits := Text.ofDigits 10 (whole ++ fraction)
    return (float (Binary64.ofDecimal negative digits (exponent.getD 0 - fraction.length)), after)

/-! ### Trees -/

/-- What follows a given beginning of a text. -/
def after? (start : String) (text : List Char) : Option (List Char) :=
  if start.toList.isPrefixOf text then some (text.drop start.toList.length) else none

/-- The words that stand for a tree. -/
def words : List (String × Json) := [
  ("null", null), ("true", bool true), ("false", bool false),
  ("NaN", float (Binary64.nan false)), ("Infinity", float (Binary64.infinity false)),
  ("-Infinity", float (Binary64.infinity true))]

/-- A word or a number in front of a text, and what follows it. -/
def readLeaf (text : List Char) : Option (Json × List Char) :=
  match words.findSome? fun (word, tree) => (after? word text).map (tree, ·) with
  | some found => some found
  | none =>
    match text with
    | '-' :: unsigned => readUnsigned true unsigned
    | unsigned => readUnsigned false unsigned

mutual

/-- The tree in front of a text, and what follows it. -/
def readTree : Nat → List Char → Option (Json × List Char)
  | 0, _ => none
  | fuel + 1, input =>
    match input with
    | '"' :: rest => do
      let (s, after) ← readText rest
      return (Json.text s, after)
    | '[' :: rest =>
      match skipSpace rest with
      | ']' :: after => some (array [], after)
      | inner => do
        let (items, after) ← readItems fuel inner
        return (array items, after)
    | '\x7b' :: rest =>
      match skipSpace rest with
      | '\x7d' :: after => some (object [], after)
      | inner => do
        let (entries, after) ← readEntries fuel inner
        return (object (OrderedMap.ofList entries).entries, after)
    | other => readLeaf other

/-- The items in front of a closing bracket, and what follows it. -/
def readItems : Nat → List Char → Option (List Json × List Char)
  | 0, _ => none
  | fuel + 1, input => do
    let (item, after) ← readTree fuel input
    match skipSpace after with
    | ']' :: rest => return ([item], rest)
    | ',' :: rest =>
      let (items, final) ← readItems fuel (skipSpace rest)
      return (item :: items, final)
    | _ => none

/-- The entries in front of a closing brace, and what follows it. -/
def readEntries : Nat → List Char → Option (List (String × Json) × List Char)
  | 0, _ => none
  | fuel + 1, input =>
    match input with
    | '"' :: start => do
      let (key, afterKey) ← readText start
      match skipSpace afterKey with
      | ':' :: afterColon =>
        let (value, after) ← readTree fuel (skipSpace afterColon)
        match skipSpace after with
        | '\x7d' :: rest => return ([(key, value)], rest)
        | ',' :: rest =>
          let (entries, final) ← readEntries fuel (skipSpace rest)
          return ((key, value) :: entries, final)
        | _ => none
      | _ => none
    | _ => none

end

/-- The tree that a text stands for. Every step down takes at least
one character in two calls, so twice the length of the text is fuel enough. -/
def readChars (text : List Char) : Option Json :=
  match readTree (2 * text.length + 1) (skipSpace text) with
  | some (tree, after) => if (skipSpace after).isEmpty then some tree else none
  | none => none

/-- The tree that a string stands for. -/
def read? (text : String) : Option Json :=
  readChars text.toList

end StateContainer.Json
