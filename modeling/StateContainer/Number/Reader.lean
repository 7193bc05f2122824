/-
This file reads integers and floating-point numbers from text.

White space around a number is skipped, a sign may stand in front, and single
underscores may stand between digits. The digits of every script count, and so
does the white space beyond ASCII; of ASCII only the six blanks count, and not
the information separators.
-/

import StateContainer.Number.Binary64
import StateContainer.Text.Blank
import StateContainer.Text.Digit

namespace StateContainer.Number

/-- Whether a character is skipped around a number. -/
def isSkipped (c : Char) : Bool :=
  if c.toNat < 128 then (9 ≤ c.toNat && c.toNat ≤ 13) || c == ' ' else Text.isBlank c

/-- The text with the digits of every script replaced by those of ASCII and without the white
space around it. -/
def normalized (text : List Char) : List Char :=
  let inner := ((text.dropWhile isSkipped).reverse.dropWhile isSkipped).reverse
  inner.map fun c =>
    match Text.digitValue? c with
    | some value => Char.ofNat ('0'.toNat + value)
    | none => c

/-- A sign and what follows it. -/
def takeSign : List Char → Bool × List Char
  | '-' :: rest => (true, rest)
  | '+' :: rest => (false, rest)
  | rest => (false, rest)

/-- The digits of a run in which single underscores may stand between digits, and what follows
the run. There is no run if the text does not begin with a digit, and an underscore that is
not followed by a digit ends it. -/
def takeDigits : List Char → List Nat × List Char
  | c :: '_' :: next :: rest =>
    match Text.asciiDigit? c with
    | none => ([], c :: '_' :: next :: rest)
    | some digit =>
      if next.isDigit then
        let (digits, after) := takeDigits (next :: rest)
        (digit :: digits, after)
      else ([digit], '_' :: next :: rest)
  | c :: rest =>
    match Text.asciiDigit? c with
    | none => ([], c :: rest)
    | some digit =>
      let (digits, after) := takeDigits rest
      (digit :: digits, after)
  | [] => ([], [])

/-! ### Integers -/

/-- Why a text does not give an integer. -/
inductive IntegerError where
  /-- The text is not written as an integer. -/
  | malformed
  /-- The text has more digits than may be converted. -/
  | tooManyDigits (count : Nat)
deriving DecidableEq, Repr

/-- The greatest number of decimal digits that is converted between text and integers. -/
def digitLimit : Nat := 4300

/-- Reads an integer in decimal notation. A misplaced underscore is found before the digits are
counted, and anything else that follows them after that. -/
def readInteger (text : String) : Except IntegerError Int :=
  let (negative, unsigned) := takeSign (normalized text.toList)
  match takeDigits unsigned with
  | ([], _) => .error .malformed
  | (_, '_' :: _) => .error .malformed
  | (digits, after) =>
    if digitLimit < digits.length then .error (.tooManyDigits digits.length)
    else if !after.isEmpty then .error .malformed
    else
      let magnitude : Int := Text.ofDigits 10 digits
      .ok (if negative then -magnitude else magnitude)

/-- Whether an integer has few enough digits to be converted to text. -/
def isWritable (n : Int) : Bool :=
  n.natAbs < tenPower digitLimit

/-! ### Floating-point numbers -/

/-- The names of numbers that are not finite, in lower case. -/
def readNamed (negative : Bool) (word : String) : Option Binary64 :=
  if word = "inf" || word = "infinity" then some (Binary64.infinity negative)
  else if word = "nan" then some (Binary64.nan negative)
  else none

/-- The exponent at the end of a decimal number; nothing is an exponent of zero. -/
def readExponent : List Char → Option Int
  | [] => some 0
  | mark :: rest =>
    if mark = 'e' || mark = 'E' then
      let (negative, unsigned) := takeSign rest
      match takeDigits unsigned with
      | (digit :: digits, []) =>
        let magnitude : Int := Text.ofDigits 10 (digit :: digits)
        some (if negative then -magnitude else magnitude)
      | _ => none
    else none

/-- Reads a floating-point number: digits with at most one point among or beside them, and an
optional exponent, or the name of a number that is not finite. -/
def readBinary64? (text : String) : Option Binary64 :=
  let (negative, unsigned) := takeSign (normalized text.toList)
  let (whole, afterWhole) := takeDigits unsigned
  match afterWhole with
  | '.' :: rest =>
    let (fraction, afterFraction) := takeDigits rest
    if whole.isEmpty && fraction.isEmpty then none
    else
      (readExponent afterFraction).map fun exponent =>
        Binary64.ofDecimal negative (Text.ofDigits 10 (whole ++ fraction))
          (exponent - fraction.length)
  | _ =>
    if whole.isEmpty then
      readNamed negative (String.ofList (unsigned.map Char.toLower))
    else
      (readExponent afterWhole).map fun exponent =>
        Binary64.ofDecimal negative (Text.ofDigits 10 whole) exponent

end StateContainer.Number
