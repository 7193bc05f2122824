/-
This file shows values in texts: as they are, in a layout that says how wide a
text is and how a number is written, and in the places of a pattern.
-/

import StateContainer.Hint.Memory
import StateContainer.Number.Arithmetic

namespace StateContainer.Hint

/-! ### Plain texts -/

/-- Something as it is written in an expression. -/
def representation (hint : Hint) : Evaluation String :=
  if hint.isTooLong then throw tooLong else return hint.written

/-- Something as a text. A text is itself. -/
def shownText : Hint → Evaluation String
  | value (.text text) => return text
  | other => representation other

/-- A text in which the characters beyond ASCII are escaped. -/
def asciiText (text : String) : String :=
  String.ofList (text.toList.flatMap fun c =>
    if c.toNat < 128 then [c] else Text.codeEscape (Text.codeOfChar c))

/-! ### Digits -/

/-- The digits of a natural number in a base. -/
def digitsIn (base n : Nat) : List Char :=
  Nat.toDigits base n

/-- An integer in a base, with a mark in front of its digits. -/
def integerIn (base : Nat) (mark : String) (n : Int) : String :=
  (if n < 0 then "-" else "") ++ mark ++ String.ofList (digitsIn base n.natAbs)

/-- A finite number with so many digits behind the point. -/
def fixedPoint (places : Nat) (x : Binary64) : String :=
  let scaled := Binary64.roundQuotient (x.numerator * tenPower places) x.denominator
  let digits := Text.decimal scaled
  let digits := List.replicate (places + 1 - digits.length) '0' ++ digits
  let whole := digits.take (digits.length - places)
  let fraction := digits.drop (digits.length - places)
  (if x.isNegative then "-" else "") ++ String.ofList whole ++
    (if places = 0 then "" else "." ++ String.ofList fraction)

/-! ### Layouts -/

/-- How a value is laid out. -/
structure Layout where
  fill : Char := ' '
  /-- The sign for the place of the value within its width. -/
  place : Option Char := none
  sign : Char := '-'
  alternate : Bool := false
  width : Nat := 0
  separator : Option Char := none
  precision : Option Nat := none
  form : Option Char := none

/-- Whether a character says where a value is placed. -/
def isPlace (c : Char) : Bool :=
  "<>^=".toList.contains c

/-- The digits at the start of a text as a number, and the rest. -/
def takeNumber (text : List Char) : Option Nat × List Char :=
  let digits := text.takeWhile fun c => (Text.asciiDigit? c).isSome
  if digits.isEmpty then (none, text)
  else
    (some (Text.ofDigits 10 (digits.filterMap Text.asciiDigit?)), text.drop digits.length)

/-- The layout that a text describes. -/
def readLayout? (text : List Char) : Option Layout :=
  let (layout, text) : Layout × List Char :=
    match text with
    | fill :: place :: others =>
      if isPlace place then ({ fill, place := some place }, others)
      else if isPlace fill then ({ place := some fill }, place :: others)
      else ({}, text)
    | [place] => if isPlace place then ({ place := some place }, []) else ({}, text)
    | [] => ({}, [])
  let (layout, text) :=
    match text with
    | c :: others => if "+- ".toList.contains c then ({ layout with sign := c }, others) else (layout, text)
    | [] => (layout, text)
  let (layout, text) :=
    match text with
    | '#' :: others => ({ layout with alternate := true }, others)
    | _ => (layout, text)
  let (layout, text) :=
    match text with
    | '0' :: others =>
      if layout.place.isNone then ({ layout with fill := '0', place := some '=' }, others)
      else (layout, others)
    | _ => (layout, text)
  let (width, text) := takeNumber text
  let layout := { layout with width := width.getD 0 }
  let (layout, text) :=
    match text with
    | ',' :: others => ({ layout with separator := some ',' }, others)
    | '_' :: others => ({ layout with separator := some '_' }, others)
    | _ => (layout, text)
  let (layout, text) :=
    match text with
    | '.' :: others =>
      let (precision, others) := takeNumber others
      ({ layout with precision }, others)
    | _ => (layout, text)
  match text with
  | [] => some layout
  | [style] => some { layout with form := some style }
  | _ => none

/-- A text brought to the width of a layout. The sign of a number may stand before the padding. -/
def Layout.padded (layout : Layout) (usual : Char) (text : String) : String :=
  let missing := layout.width - text.length
  let pad (n : Nat) : String := String.ofList (List.replicate n layout.fill)
  match layout.place.getD usual with
  | '<' => text ++ pad missing
  | '^' => pad (missing / 2) ++ text ++ pad (missing - missing / 2)
  | '=' =>
    match text.toList with
    | c :: others =>
      if c = '-' || c = '+' || c = ' ' then String.ofList (c :: (pad missing).toList ++ others)
      else pad missing ++ text
    | [] => pad missing
  | _ => pad missing ++ text

/-- Digits in groups of three. -/
def grouped (separator : Char) (digits : List Char) : List Char :=
  let reversed := digits.reverse
  (reversed.zipIdx.flatMap fun (c, i) => if i ≠ 0 && i % 3 = 0 then [separator, c] else [c]).reverse

/-- An integer in a layout. -/
def integerLaidOut (layout : Layout) (n : Int) : Option String :=
  let written : Option (String × List Char) :=
    match layout.form.getD 'd' with
    | 'd' => some ("", Text.decimal n.natAbs)
    | 'b' => some ("0b", digitsIn 2 n.natAbs)
    | 'o' => some ("0o", digitsIn 8 n.natAbs)
    | 'x' => some ("0x", digitsIn 16 n.natAbs)
    | 'X' => some ("0X", (digitsIn 16 n.natAbs).map Char.toUpper)
    | 'c' => some ("", [Char.ofNat n.toNat])
    | _ => none
  written.map fun (mark, digits) =>
    let digits := match layout.separator with | some c => grouped c digits | none => digits
    let sign := if n < 0 then "-" else if layout.sign = '-' then "" else String.singleton layout.sign
    layout.padded '>'
      (sign ++ (if layout.alternate then mark else "") ++ String.ofList digits)

/-- A number in a layout. -/
def numberLaidOut (layout : Layout) (x : Binary64) : Option String :=
  let sign := if x.isNegative || layout.sign = '-' then "" else String.singleton layout.sign
  let padded (text : String) : Option String := some (layout.padded '>' (sign ++ text))
  if !x.isFinite then padded (x.text .plain)
  else
    match layout.form, layout.precision with
    | none, none => padded (x.text .plain)
    | some 'f', precision => padded (fixedPoint (precision.getD 6) x)
    | some '%', precision =>
      padded (fixedPoint (precision.getD 6) (x.mul (Binary64.ofInt 100)) ++ "%")
    | _, _ => none

/-- A text in a layout. -/
def textLaidOut (layout : Layout) (text : String) : Option String :=
  let isPlain := (layout.form.getD 's') = 's' && layout.place ≠ some '='
  if isPlain then
    let cut := match layout.precision with
      | some n => String.ofList (text.toList.take n)
      | none => text
    some (layout.padded '<' cut)
  else none

/-- Something in a layout. What is neither a text nor a number has no layouts. -/
def laidOut (layout : String) (hint : Hint) : Evaluation String := do
  if layout.isEmpty then shownText hint
  else
    let refused (kind : String) : Fault :=
      match layout.toList.getLast? with
      | some style =>
        .raised "ValueError" s!"Unknown format code '{style}' for object of type '{kind}'"
      | none => .raised "ValueError" "Invalid format specifier"
    match readLayout? layout.toList, hint with
    | some read, value (.text text) =>
      match textLaidOut read text with
      | some shown => return shown
      | none => throw (refused "str")
    | some read, value (.bool b) =>
      match integerLaidOut read (if b then 1 else 0) with
      | some shown => return shown
      | none => throw (refused "int")
    | some read, value (.int n) =>
      if hint.isTooLong then throw tooLong
      else
        let real := numberLaidOut read (Binary64.ofInt n)
        match (integerLaidOut read n).or real with
        | some shown => return shown
        | none => throw (refused "int")
    | some read, value (.float x) =>
      match numberLaidOut read x with
      | some shown => return shown
      | none => throw (refused "float")
    | none, value (.text _) => throw (.raised "ValueError" "Invalid format specifier")
    | none, value (.int _) => throw (.raised "ValueError" "Invalid format specifier")
    | none, value (.float _) => throw (.raised "ValueError" "Invalid format specifier")
    | _, _ =>
      misused (.other s!"unsupported format string passed to {hint.kindName}.__format__")

/-! ### Patterns -/

/-- The integer that is shown for something in a pattern. -/
def patternInteger (style : Char) : Hint → Evaluation Int
  | value (.float x) =>
    match style, x.truncate? with
    | 'd', some n => return n
    | 'i', some n => return n
    | _, _ => misused (.other s!"%{style} format: an integer is required, not float")
  | other =>
    match other with
    | value v =>
      match v.integer? with
      | some n => return n
      | none => refuse other
    | _ => refuse other
where
  /-- There is no such integer. -/
  refuse (other : Hint) : Evaluation Int :=
    let wanted := if style = 'd' || style = 'i' then "a real number" else "an integer"
    misused (.other s!"%{style} format: {wanted} is required, not {other.kindName}")

/-- A value in its place in a pattern. -/
def patternShown (style : Char) (hint : Hint) : Evaluation String := do
  match style with
  | 's' => shownText hint
  | 'r' => representation hint
  | 'a' => return asciiText (← representation hint)
  | 'd' => return integerIn 10 "" (← patternInteger style hint)
  | 'i' => return integerIn 10 "" (← patternInteger style hint)
  | 'u' => return integerIn 10 "" (← patternInteger 'd' hint)
  | 'x' => return integerIn 16 "" (← patternInteger style hint)
  | 'o' => return integerIn 8 "" (← patternInteger style hint)
  | 'f' =>
    match hint with
    | value (.float x) => return fixedPoint 6 x
    | other => return fixedPoint 6 (Binary64.ofInt (← patternInteger 'd' other))
  | other =>
    let code := String.ofList (digitsIn 16 other.toNat)
    throw (.raised "ValueError" s!"unsupported format character '{other}' (0x{code})")

/-- A pattern with values in its places. -/
def fillPattern : List Char → List Hint → Evaluation (List Char)
  | [], [] => return []
  | [], _ :: _ => misused (.other "not all arguments converted during string formatting")
  | '%' :: '%' :: others, given => do return '%' :: (← fillPattern others given)
  | ['%'], _ => throw (.raised "ValueError" "incomplete format")
  | '%' :: _ :: _, [] => misused (.other "not enough arguments for format string")
  | '%' :: style :: others, first :: given => do
    let shown ← patternShown style first
    return shown.toList ++ (← fillPattern others given)
  | c :: others, given => do return c :: (← fillPattern others given)

/-- A text with values in its places. A map may be given for none of them. -/
def filled (pattern : String) (given : Hint) : Evaluation Hint := do
  let items := match given with
    | tuple items => items
    | dict _ => if pattern.contains '%' then [given] else []
    | other => [other]
  return .text (String.ofList (← fillPattern pattern.toList items))

end StateContainer.Hint
