/-
This file makes numbers of values: integers in every base, floating-point and
complex numbers, and decimal ones. Texts are read, and other numbers are brought
to the kind that is asked for.
-/

import StateContainer.Hint.Given
import StateContainer.Hint.Operator
import StateContainer.Number.Decimal
import StateContainer.Text.Encoding

namespace StateContainer.Hint

/-! ### Digits in a base -/

/-- The value of a digit in bases up to 36. -/
def digitOf? (c : Char) : Option Nat :=
  if c.isDigit then some (c.toNat - '0'.toNat)
  else if c.isLower then some (c.toNat - 'a'.toNat + 10)
  else if c.isUpper then some (c.toNat - 'A'.toNat + 10)
  else none

/-- The digits of a run in which single underscores may stand between digits. -/
def digitsInBase? (base : Nat) : List Char → Option (List Nat)
  | [] => none
  | [c] => digit? c |>.map fun found => [found]
  | c :: '_' :: others => do return (← digit? c) :: (← digitsInBase? base others)
  | c :: others => do return (← digit? c) :: (← digitsInBase? base others)
where
  /-- A digit of the base. -/
  digit? (c : Char) : Option Nat :=
    (digitOf? c).filter (· < base)

/-- The base that a mark in front of digits names. -/
def markedBase? : List Char → Option Nat
  | '0' :: mark :: _ =>
    match mark.toLower with
    | 'x' => some 16
    | 'o' => some 8
    | 'b' => some 2
    | _ => none
  | _ => none

/-- The digits behind the mark of a base. An underscore may stand between them. -/
def behindMark (digits : List Char) : List Char :=
  match digits.drop 2 with
  | '_' :: others => others
  | others => others

/-- The digits of an integer in a base, together with the base. Where the base is left open it is
told by a mark, or is ten, but then there are no zeros in front. -/
def digitsOf? (base : Nat) (unsigned : List Char) : Option (Nat × List Nat) := do
  let marked := markedBase? unsigned
  if base = 0 then
    match marked with
    | some named => return (named, ← digitsInBase? named (behindMark unsigned))
    | none =>
      let digits ← digitsInBase? 10 unsigned
      if digits.head? = some 0 && digits.any (· ≠ 0) then none else return (10, digits)
  else if marked = some base then return (base, ← digitsInBase? base (behindMark unsigned))
  else return (base, ← digitsInBase? base unsigned)

/-! ### Integers -/

/-- Refuses what is written as no integer of a base. A long literal is cut off. -/
def refuseInteger {α : Type} (base : Int) (literal : String) : Evaluation α :=
  invalid (s!"invalid literal for int() with base {base}: " ++ String.ofList (literal.toList.take 200))

/-- Refuses an integer with too many digits. -/
def refuseLength {α : Type} (count : Nat) : Evaluation α :=
  invalid (s!"Exceeds the limit (4300 digits) for integer string conversion: value has {count} " ++
    "digits; use sys.set_int_max_str_digits() to increase the limit")

/-- The integer that a text writes, which is shown by a literal. -/
def integerOfText (text literal : String) : Evaluation Int :=
  match Number.readInteger text with
  | .ok n => return n
  | .error .malformed => refuseInteger 10 literal
  | .error (.tooManyDigits count) => refuseLength count

/-- The integer that a text writes in a base. Only in bases that are powers of two the digits may
be many. -/
def integerInBase (base : Nat) (text literal : String) : Evaluation Int :=
  if base = 10 then integerOfText text literal
  else
    let (isNegative, unsigned) := Number.takeSign (Number.normalized text.toList)
    match digitsOf? base unsigned with
    | some (found, digits) =>
      let isBinary := [2, 4, 8, 16, 32].contains found
      if !isBinary && Number.digitLimit < digits.length then refuseLength digits.length
      else
        let magnitude : Int := Text.ofDigits found digits
        return if isNegative then -magnitude else magnitude
    | none => refuseInteger base literal

/-- The text that something is, and the literal that it is shown by. Bytes are the text that they
encode. -/
def writtenNumber? : Hint → Option (Option String × String)
  | value (.text text) => some (some text, Text.quoted text)
  | value (.bytes bytes) =>
    some ((Text.decode8 bytes).map String.ofList, Text.quotedBytes (bytes.take 200))
  | _ => none

/-- The integer of one argument. -/
def toInteger (hint : Hint) : Evaluation Int :=
  match writtenNumber? hint, hint with
  | some (some content, shown), _ => integerOfText content shown
  | some (none, shown), _ => refuseInteger 10 shown
  | none, value (.float x) =>
    match x.truncate? with
    | some n => return n
    | none =>
      if x.isNaN then invalid "cannot convert float NaN to integer"
      else throw (.raised "OverflowError" "cannot convert float infinity to integer")
  | none, _ =>
    match index? hint with
    | some n => return n
    | none =>
      misused (.other ("int() argument must be a string, a bytes-like object or a real number, " ++
        "not '" ++ hint.kindName ++ "'"))

/-- The integer that one argument writes in the base that another one is. -/
def toIntegerIn (hint base : Hint) : Evaluation Int := do
  let n ← integerGiven base
  if (n < 2 && n ≠ 0) || 36 < n then invalid "int() base must be >= 2 and <= 36, or 0"
  else
    match writtenNumber? hint with
    | some (some content, shown) => integerInBase n.toNat content shown
    | some (none, shown) => refuseInteger n shown
    | none => misused (.other "int() can't convert non-string with explicit base")

/-- The integer of a call. -/
def makeInteger (given : Given) : Evaluation Hint := do
  let count := given.positional.length + given.named.length
  match given.positional, given.named with
  | [], [] => return int 0
  | [only], [] => return int (← toInteger only)
  | [first, base], [] => return int (← toIntegerIn first base)
  | [first], [("base", base)] => return int (← toIntegerIn first base)
  | _, named =>
    if 2 < count then misused (.other s!"int() takes at most 2 arguments ({count} given)")
    else
      match named.find? (·.1 ≠ "base") with
      | some (name, _) => misused (.other s!"'{name}' is an invalid keyword argument for int()")
      | none => misused (.other "int() missing string argument")

/-! ### Floating-point numbers -/

/-- The floating-point number of a call. -/
def makeReal (given : Given) : Evaluation Hint := do
  match ← atMostOne "float" given with
  | none => return ofReal (.zero false)
  | some only =>
    match writtenNumber? only, numeric? only with
    | some (content, shown), _ =>
      match content.bind Number.readBinary64? with
      | some x => return ofReal x
      | none => invalid ("could not convert string to float: " ++ shown)
    | none, some (.float x) => return ofReal x
    | none, some (.int n) => return ofReal (← realOf n)
    | none, _ =>
      misused (.other
        ("float() argument must be a string or a real number, not '" ++ only.kindName ++ "'"))

/-! ### Complex numbers -/

/-- Where the imaginary part of a complex number begins: at its last sign, unless that belongs to
an exponent. -/
def imaginaryStart (text : List Char) : Nat :=
  let places := text.zipIdx.filter fun (c, place) =>
    (c = '+' || c = '-') && 0 < place && text[place - 1]? ≠ some 'e' && text[place - 1]? ≠ some 'E'
  (places.getLast?.map (·.2)).getD 0

/-- A part of a complex number. White space does not belong to it. -/
def readPart? (text : List Char) : Option Binary64 :=
  if text.any Number.isSkipped then none else Number.readBinary64? (String.ofList text)

/-- Whether every underscore stands between digits, given the character in front. -/
def underscoresFit : Char → List Char → Bool
  | before, [] => before ≠ '_'
  | before, c :: others =>
    (if c = '_' then before.isDigit else before ≠ '_' || c.isDigit) && underscoresFit c others

/-- Reads a complex number: one part or both of them, perhaps between parentheses. The imaginary
unit may stand alone. -/
def readComplex? (text : String) : Option Complex64 := do
  let isMark (c : Char) : Bool := c = 'j' || c = 'J'
  let outer := Number.normalized text.toList
  let inner ←
    match outer with
    | '(' :: others =>
      if others.getLast? = some ')' then some (Number.normalized others.dropLast) else none
    | others => some others
  if (inner.getLast?.map isMark).getD false then
    let body := inner.dropLast
    let start := imaginaryStart body
    let imaginary ←
      match body.drop start with
      | [] => some Binary64.one
      | ['+'] => some Binary64.one
      | ['-'] => some Binary64.one.neg
      | others => readPart? others
    let real ← if start = 0 then some (Binary64.zero false) else readPart? (body.take start)
    return ⟨real, imaginary⟩
  else return .ofReal (← readPart? inner)

/-- The complex number of one or two numbers. -/
def makeComplex (given : Given) : Evaluation Hint := do
  let parts ← takeInOrder "complex()" ["real", "imag"] 0 0 (fun _ part => return part) given
  match parts.lookup "real", parts.lookup "imag" with
  | some (value (.text _)), some _ =>
    misused (.other "complex() can't take second arg if first is a string")
  | some (value (.text text)), none =>
    if !underscoresFit ' ' (Number.normalized text.toList) then
      invalid ("could not convert string to complex: " ++ Text.quoted text)
    else
      match readComplex? text with
      | some z => return ofComplex z
      | none => invalid "complex() arg is a malformed string"
  | _, some (value (.text _)) => misused (.other "complex() second arg can't be a string")
  | real, imaginary => do
    let part (hint : Option Hint) (refusal : String) : Evaluation Complex64 :=
      match hint.map numeric?, hint with
      | some (some (.complex z)), _ => return z
      | some (some (.float x)), _ => return .ofReal x
      | some (some (.int n)), _ => do return .ofReal (← realOf n)
      | none, _ => return .ofReal (.zero false)
      | some none, other =>
        misused (.other (refusal ++ ", not '" ++ ((other.map kindName).getD "") ++ "'"))
    let x ← part real "complex() first argument must be a string or a number"
    let y ← part imaginary "complex() second argument must be a number"
    return complex (if y.imaginary.isZero then x.real else x.real.sub y.imaginary)
      (if x.imaginary.isZero then y.real else x.imaginary.add y.real)

/-! ### Decimal numbers -/

/-- A decimal number as a value. -/
def ofDecimal (d : DecimalNumber) : Hint :=
  value (.wrapped "Decimal" ("Decimal('" ++ d.text ++ "')") (.text d.text))

/-- The decimal number that a text writes. -/
def decimalOfText (text : String) : Evaluation Hint :=
  match DecimalNumber.read? text with
  | some d => return ofDecimal d
  | none => throw (.raised "InvalidOperation" "[<class 'decimal.ConversionSyntax'>]")

/-- The digit that an item of a sequence of digits is. -/
def decimalDigit (hint : Hint) : Evaluation Char :=
  match index? hint with
  | some n =>
    if 0 ≤ n && n < 10 then return Char.ofNat ('0'.toNat + n.toNat)
    else invalid "coefficient must be a tuple of digits"
  | none => invalid "coefficient must be a tuple of digits"

/-- The decimal number of a sign, digits and an exponent. -/
def decimalOfParts (parts : List Hint) : Evaluation Hint := do
  match parts with
  | [sign, digits, exponent] =>
    let isNegative ←
      match index? sign with
      | some 0 => pure false
      | some 1 => pure true
      | _ => invalid "sign must be an integer with the value 0 or 1"
    let make : List Char → DecimalNumber ←
      match exponent with
      | value (.text "F") => pure fun _ => ⟨isNegative, .infinite⟩
      | value (.text "n") =>
        pure fun given => ⟨isNegative, .undefined false (given.dropWhile (· = '0'))⟩
      | value (.text "N") =>
        pure fun given => ⟨isNegative, .undefined true (given.dropWhile (· = '0'))⟩
      | value (.text _) => invalid "string argument in the third position must be 'F', 'n' or 'N'"
      | other =>
        match index? other with
        | some n => pure fun given => .ofDigits isNegative given n
        | none => invalid "exponent must be an integer"
    let items ←
      match digits with
      | list items => pure items
      | tuple items => pure items
      | _ => invalid "coefficient must be a tuple of digits"
    return ofDecimal (make (← items.mapM decimalDigit))
  | _ => invalid "argument must be a sequence of length 3"

/-- The decimal number of a value. -/
def toDecimal (hint : Hint) : Evaluation Hint :=
  match hint with
  | value (.wrapped "Decimal" shown content) => return value (.wrapped "Decimal" shown content)
  | value (.text written) => decimalOfText written
  | value (.float x) => return ofDecimal (.ofBinary64 x)
  | list parts => decimalOfParts parts
  | tuple parts => decimalOfParts parts
  | other =>
    match index? other with
    | some n => return ofDecimal (.ofInt n)
    | none =>
      misused (.other ("conversion from " ++ other.kindName ++ " to Decimal is not supported"))

/-- The decimal number of a call. -/
def makeDecimal (given : Given) : Evaluation Hint := do
  let parts ← takeInOrder "function" ["value", "context"] 0 0 (fun _ part => return part) given
  match parts.lookup "context" with
  | none => pure ()
  | some (value .null) => pure ()
  | some _ => misused (.other "optional argument must be a context")
  match parts.lookup "value" with
  | some found => toDecimal found
  | none => return ofDecimal (.ofInt 0)

end StateContainer.Hint
