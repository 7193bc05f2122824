/-
This file reads the literals of expressions: numbers, and texts and bytes between
quotes.
-/

import StateContainer.Hint.Problem
import StateContainer.Number.Reader
import StateContainer.Text.CharacterName
import StateContainer.Text.Encoding
import StateContainer.Value

namespace StateContainer.Hint

/-! ### Forms -/

/-- How the characters between quotes are read. -/
structure LiteralForm where
  /-- A backslash stands for itself. -/
  raw : Bool := false
  /-- The literal is one of bytes. -/
  bytes : Bool := false
  /-- The literal shows values. -/
  shows : Bool := false
deriving Repr

/-- The form that the letters before a quote tell. -/
def literalForm? (letters : String) : Option LiteralForm :=
  match String.ofList (letters.toList.map Char.toLower) with
  | "" | "u" => some {}
  | "r" => some { raw := true }
  | "b" => some { bytes := true }
  | "br" | "rb" => some { raw := true, bytes := true }
  | "f" => some { shows := true }
  | "fr" | "rf" => some { raw := true, shows := true }
  | _ => none

namespace Literal

/-! ### Numbers -/

/-- A number as it is written. -/
inductive Number where
  | real (value : Value)
  | imaginary (x : Binary64)
deriving Repr

/-- The value of a digit in a base of at most sixteen. -/
def digitValue (c : Char) : Nat :=
  if c.isDigit then c.toNat - '0'.toNat
  else if c.isLower then c.toNat - 'a'.toNat + 10
  else c.toNat - 'A'.toNat + 10

/-- Whether a character is a digit of a base. -/
def isDigitOf (base : Nat) (c : Char) : Bool :=
  (c.isDigit && digitValue c < base) ||
    (base == 16 && (('a' ≤ c && c ≤ 'f') || ('A' ≤ c && c ≤ 'F')))

/-- A run of digits in which single underscores may stand between digits, without the
underscores, and what follows it. -/
def takeDigits (isDigit : Char → Bool) : List Char → List Char × List Char
  | c :: '_' :: next :: rest =>
    if isDigit c then
      if isDigit next then
        let (digits, after) := takeDigits isDigit (next :: rest)
        (c :: digits, after)
      else ([c], '_' :: next :: rest)
    else ([], c :: '_' :: next :: rest)
  | c :: rest =>
    if isDigit c then
      let (digits, after) := takeDigits isDigit rest
      (c :: digits, after)
    else ([], c :: rest)
  | [] => ([], [])

/-- The words that may follow a number directly. -/
def wordsBehind : List String := ["and", "else", "for", "if", "in", "is", "or", "not"]

/-- Refuses characters that go on with a number without belonging to it. -/
def endNumber {α : Type} (kind : String) (found : α) (after : List Char) :
    Except ProblemCause (α × List Char) :=
  match after with
  | c :: _ =>
    if wordsBehind.any fun word => word.toList.isPrefixOf after then .ok (found, after)
    else if c.isAlphanum || c = '_' || 128 ≤ c.toNat then .error (.malformedNumber kind)
    else .ok (found, after)
  | [] => .ok (found, after)

/-- The base that a letter behind a zero tells, with its name. -/
def baseOf? (letter : Char) : Option (Nat × String) :=
  if letter = 'x' || letter = 'X' then some (16, "hexadecimal")
  else if letter = 'o' || letter = 'O' then some (8, "octal")
  else if letter = 'b' || letter = 'B' then some (2, "binary")
  else none

/-- An integer in a base, and what follows it. -/
def takeInBase (base : Nat) (kind : String) (text : List Char) :
    Except ProblemCause (Number × List Char) :=
  let body := if text.head? = some '_' then text.drop 1 else text
  match takeDigits (isDigitOf base) body with
  | ([], after) =>
    match after with
    | c :: _ => .error (if c.isDigit then .foreignDigit c kind else .malformedNumber kind)
    | [] => .error (.malformedNumber kind)
  | (digits, after) =>
    match after with
    | c :: _ =>
      if c.isDigit then .error (.foreignDigit c kind)
      else endNumber kind (.real (.int (Text.ofDigits base (digits.map digitValue)))) after
    | [] => .ok (.real (.int (Text.ofDigits base (digits.map digitValue))), after)

/-- The fraction behind a point, if there is a point. -/
def takeFraction : List Char → Option (List Char) × List Char
  | '.' :: rest =>
    let (digits, after) := takeDigits Char.isDigit rest
    (some digits, after)
  | text => (none, text)

/-- The exponent of a number, if there is one. -/
def takeExponent : List Char → Except ProblemCause (Option Int × List Char)
  | [] => .ok (none, [])
  | mark :: rest =>
    if mark = 'e' || mark = 'E' then
      let (negative, unsigned) := Number.takeSign rest
      match takeDigits Char.isDigit unsigned with
      | ([], _) =>
        if unsigned.length = rest.length then .ok (none, mark :: rest)
        else .error (.malformedNumber "decimal")
      | (digits, after) =>
        let magnitude : Int := Text.ofDigits 10 (digits.map digitValue)
        .ok (some (if negative then -magnitude else magnitude), after)
    else .ok (none, mark :: rest)

/-- A number that is no integer. -/
def realOf (whole fraction : List Char) (exponent : Int) : Binary64 :=
  let digits := Text.ofDigits 10 ((whole ++ fraction).map digitValue)
  Binary64.ofDecimal false digits (exponent - fraction.length)

/-- A decimal number, and what follows it. An integer other than zero does not begin with a
zero. -/
def takeDecimal (text : List Char) :
    Except ProblemCause (Number × List Char) := do
  let (whole, afterWhole) := takeDigits Char.isDigit text
  let (fraction, afterFraction) := takeFraction afterWhole
  let (exponent, after) ← takeExponent afterFraction
  let x := realOf whole (fraction.getD []) (exponent.getD 0)
  match after with
  | 'j' :: rest => endNumber "imaginary" (.imaginary x) rest
  | 'J' :: rest => endNumber "imaginary" (.imaginary x) rest
  | _ =>
    if fraction.isSome || exponent.isSome then endNumber "decimal" (.real (.float x)) after
    else if whole.head? = some '0' && whole.any (· ≠ '0') then throw .leadingZero
    else
      let found ← endNumber "decimal" (.real (.int (Text.ofDigits 10 (whole.map digitValue)))) after
      if Number.digitLimit < whole.length then throw (.tooManyDigits whole.length)
      return found

/-- A number, and what follows it. -/
def takeNumber (text : List Char) :
    Except ProblemCause (Number × List Char) :=
  match text with
  | '0' :: letter :: rest =>
    match baseOf? letter with
    | some (base, kind) => takeInBase base kind rest
    | none => takeDecimal text
  | _ => takeDecimal text

/-! ### Quotes -/

/-- The characters up to the closing quote, and what follows it. A backslash takes the character
behind it along. -/
def takeToQuote (quote : Char) (line : Nat) :
    List Char → Except ProblemCause (List Char × List Char)
  | [] => .error (.openLiteral line)
  | '\\' :: c :: rest => do
    let (characters, after) ← takeToQuote quote (if c = '\n' then line + 1 else line) rest
    return ('\\' :: c :: characters, after)
  | c :: rest =>
    if c = quote then .ok ([], rest)
    else if c = '\n' then .error (.openLiteral line)
    else do
      let (characters, after) ← takeToQuote quote line rest
      return (c :: characters, after)

/-- The same for three closing quotes, between which lines may end. -/
def takeToQuotes (quote : Char) (line : Nat) :
    List Char → Except ProblemCause (List Char × List Char)
  | [] => .error (.openBlock line)
  | '\\' :: c :: rest => do
    let (characters, after) ← takeToQuotes quote (if c = '\n' then line + 1 else line) rest
    return ('\\' :: c :: characters, after)
  | c :: rest =>
    match rest with
    | second :: third :: after =>
      if c = quote && second = quote && third = quote then .ok ([], after)
      else do
        let next := if c = '\n' then line + 1 else line
        let (characters, behind) ← takeToQuotes quote next (second :: third :: after)
        return (c :: characters, behind)
    | _ => .error (.openBlock (line + ((c :: rest).filter (· = '\n')).length))

/-- The characters of a literal from its first quote on, and what follows the literal. -/
def takeQuoted (line : Nat) : List Char → Except ProblemCause (List Char × List Char)
  | [] => .error (.openLiteral line)
  | quote :: rest =>
    match rest with
    | second :: third :: more =>
      if second = quote && third = quote then takeToQuotes quote line more
      else takeToQuote quote line rest
    | _ => takeToQuote quote line rest

/-! ### Escapes -/

/-- The character that a letter behind a backslash stands for. -/
def escaped? : Char → Option Char
  | '\\' => some '\\'
  | '\'' => some '\''
  | '"' => some '"'
  | 'a' => some '\x07'
  | 'b' => some '\x08'
  | 'f' => some '\x0c'
  | 'n' => some '\n'
  | 'r' => some '\r'
  | 't' => some '\t'
  | 'v' => some '\x0b'
  | _ => none

/-- The number of digits behind a letter that gives a character by its code. -/
def codeDigits? (bytes : Bool) : Char → Option Nat
  | 'x' => some 2
  | 'u' => if bytes then none else some 4
  | 'U' => if bytes then none else some 8
  | _ => none

/-- The number of bytes that a character takes up in an encoded text. -/
def encodedLength (c : Char) : Nat :=
  if c.toNat < 128 then 1 else 10

/-- The wording of an error in the escape at a position. -/
def escapeError (bytes : Bool) (letter : Char) (position length : Nat) : ProblemCause :=
  if bytes then .escape s!"(value error) invalid \\x escape at position {position}"
  else
    let what :=
      if letter = 'x' then "truncated \\xXX escape"
      else if letter = 'u' then "truncated \\uXXXX escape"
      else "truncated \\UXXXXXXXX escape"
    .escape <| s!"(unicode error) 'unicodeescape' codec can't decode bytes in position {position}-" ++
      s!"{position + length}: " ++ what

/-- The wording of an error in the name of a character, or in a code that is too great. -/
def nameError (what : String) (position length : Nat) : ProblemCause :=
  .escape <| s!"(unicode error) 'unicodeescape' codec can't decode bytes in position {position}-" ++
    s!"{position + length}: " ++ what

/-- Puts a character in front of others. -/
def consTo (c : Char) (rest : Except ProblemCause (List Char)) :
    Except ProblemCause (List Char) :=
  rest.map (c :: ·)

/-- The characters that a text with escapes stands for, of which the first one has the given
position. Every step takes a character at least. -/
def unescape (bytes : Bool) : Nat → Nat → List Char → Except ProblemCause (List Char)
  | 0, _, _ => .ok []
  | _, _, [] => .ok []
  | fuel + 1, position, '\\' :: c :: rest =>
    if c = '\n' then unescape bytes fuel (position + 2) rest
    else
      match escaped? c, codeDigits? bytes c with
      | some found, _ => consTo found (unescape bytes fuel (position + 2) rest)
      | none, some count =>
        let digits := (rest.take count).takeWhile (isDigitOf 16)
        let code := Text.ofDigits 16 (digits.map digitValue)
        if digits.length < count then
          .error (escapeError bytes c position (digits.length + 1))
        else if 0x110000 ≤ code then
          .error (nameError "illegal Unicode character" position (count + 1))
        else
          consTo (Text.charOfCode code) (unescape bytes fuel (position + 2 + count) (rest.drop count))
      | none, none =>
        if isDigitOf 8 c then
          let digits := c :: (rest.take 2).takeWhile (isDigitOf 8)
          let code := Text.ofDigits 8 (digits.map digitValue)
          consTo (Char.ofNat code)
            (unescape bytes fuel (position + 1 + digits.length) (rest.drop (digits.length - 1)))
        else if c = 'N' && !bytes then
          match rest with
          | '\x7b' :: more =>
            let name := more.takeWhile (· ≠ '\x7d')
            match more.drop name.length, Text.namedChar? (String.ofList name) with
            | _ :: after, some found =>
              consTo found (unescape bytes fuel (position + 4 + name.length) after)
            | _ :: _, none =>
              .error (nameError "unknown Unicode character name" position (name.length + 3))
            | [], _ =>
              .error (nameError "malformed \\N character escape" position (name.length + 2))
          | _ => .error (nameError "malformed \\N character escape" position 1)
        else consTo '\\' (consTo c (unescape bytes fuel (position + 1 + encodedLength c) rest))
  | fuel + 1, position, c :: rest =>
    consTo c (unescape bytes fuel (position + encodedLength c) rest)

end Literal

/-- The value of a literal. -/
def LiteralForm.value (form : LiteralForm) (characters : List Char) :
    Except ProblemCause Value := do
  if form.bytes && characters.any (128 ≤ ·.toNat) then throw .byteCharacter
  let read ←
    if form.raw then pure characters
    else Literal.unescape form.bytes characters.length 0 characters
  if form.bytes then return .bytes (read.map fun c => UInt8.ofNat c.toNat)
  else return .text (String.ofList read)

end StateContainer.Hint
