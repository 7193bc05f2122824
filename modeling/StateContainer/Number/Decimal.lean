/-
This file holds decimal numbers: digits with a power of ten, and the numbers that
are not finite.

A decimal number keeps its trailing zeros, so that it is written with as many
digits as it was read with. The decimal number of a floating-point number is
exactly as large.
-/

import StateContainer.Number.Power
import StateContainer.Number.Reader

namespace StateContainer

/-- What a decimal number is apart from its sign. -/
inductive DecimalMagnitude where
  /-- Digits without leading zeros, and the power of ten that the last one counts. -/
  | finite (digits : List Char) (exponent : Int)
  | infinite
  /-- No number; it may carry digits, and it may be one that no arithmetic takes. -/
  | undefined (signals : Bool) (digits : List Char)
deriving DecidableEq, Repr

/-- A decimal number. -/
structure DecimalNumber where
  isNegative : Bool
  magnitude : DecimalMagnitude
deriving DecidableEq, Repr

namespace DecimalNumber

/-- Whether a number is finite. -/
def isFinite (d : DecimalNumber) : Bool :=
  match d.magnitude with
  | .finite _ _ => true
  | _ => false

/-! ### Making -/

/-- The finite number with the given digits and exponent. -/
def ofDigits (isNegative : Bool) (digits : List Char) (exponent : Int) : DecimalNumber :=
  let kept := digits.dropWhile (· = '0')
  { isNegative, magnitude := .finite (if kept.isEmpty then ['0'] else kept) exponent }

/-- The decimal number of an integer. -/
def ofInt (n : Int) : DecimalNumber :=
  ofDigits (n < 0) (Text.decimal n.natAbs) 0

/-- The decimal number that is exactly as large as a floating-point number. Its denominator is a
power of two, so that some number of tenths counts it. -/
def ofBinary64 (x : Binary64) : DecimalNumber :=
  if x.isNaN then { isNegative := x.isNegative, magnitude := .undefined false [] }
  else if x.isInfinite then { isNegative := x.isNegative, magnitude := .infinite }
  else
    let common := Nat.gcd x.numerator x.denominator
    let places := (x.denominator / common).log2
    let digits := x.numerator / common * (tenPower places / twoPower places)
    if x.isZero then ofDigits x.isNegative ['0'] 0
    else ofDigits x.isNegative (Text.decimal digits) (-places)

/-! ### Reading -/

/-- Reads digits with at most one point, and tells how many stand behind the point. -/
def readDigits? (text : List Char) : Option (List Char × Nat) :=
  let whole := text.takeWhile Char.isDigit
  match text.drop whole.length with
  | [] => if whole.isEmpty then none else some (whole, 0)
  | '.' :: fraction =>
    if fraction.all Char.isDigit && !(whole.isEmpty && fraction.isEmpty) then
      some (whole ++ fraction, fraction.length)
    else none
  | _ => none

/-- Reads the finite number without its sign. -/
def readFinite? (isNegative : Bool) (text : List Char) : Option DecimalNumber := do
  let mantissa := text.takeWhile fun c => c ≠ 'e' && c ≠ 'E'
  let (digits, places) ← readDigits? mantissa
  let exponent ←
    match text.drop mantissa.length with
    | [] => pure 0
    | _ :: power =>
      let (below, magnitude) := Number.takeSign power
      if magnitude.isEmpty || !magnitude.all Char.isDigit then none
      else
        let n : Int := Text.ofDigits 10 (magnitude.map fun c => c.toNat - '0'.toNat)
        pure (if below then -n else n)
  return ofDigits isNegative digits (exponent - places)

/-- Reads the digits that stand behind the name of what is no number. -/
def readUndefined? (isNegative signals : Bool) (digits : List Char) : Option DecimalNumber :=
  if digits.all Char.isDigit then
    some { isNegative, magnitude := .undefined signals (digits.dropWhile (· = '0')) }
  else none

/-- Reads a decimal number. Underscores are skipped wherever they are. -/
def read? (text : String) : Option DecimalNumber :=
  let plain := (Number.normalized (Text.trim text.toList)).filter (· ≠ '_')
  let (isNegative, unsigned) := Number.takeSign plain
  match unsigned.map Char.toLower with
  | ['i', 'n', 'f'] => some { isNegative, magnitude := .infinite }
  | ['i', 'n', 'f', 'i', 'n', 'i', 't', 'y'] => some { isNegative, magnitude := .infinite }
  | 'n' :: 'a' :: 'n' :: digits => readUndefined? isNegative false digits
  | 's' :: 'n' :: 'a' :: 'n' :: digits => readUndefined? isNegative true digits
  | _ => readFinite? isNegative unsigned

/-! ### Writing -/

/-- How a finite number is written: with a power of ten where it is large or very small. -/
def finiteText (digits : List Char) (exponent : Int) : String :=
  let count : Int := digits.length
  let leftmost := exponent + count
  let isPlain := exponent ≤ 0 && -6 < leftmost
  let point : Int := if isPlain then leftmost else 1
  let body :=
    if point ≤ 0 then '0' :: '.' :: List.replicate (-point).toNat '0' ++ digits
    else if count ≤ point then digits ++ List.replicate (point - count).toNat '0'
    else digits.take point.toNat ++ '.' :: digits.drop point.toNat
  let power := leftmost - point
  let powerText := (if power < 0 then "-" else "+") ++ String.ofList (Text.decimal power.natAbs)
  String.ofList body ++ if power = 0 then "" else "E" ++ powerText

/-- How a decimal number is written. -/
def text (d : DecimalNumber) : String :=
  let sign := if d.isNegative then "-" else ""
  match d.magnitude with
  | .finite digits exponent => sign ++ finiteText digits exponent
  | .infinite => sign ++ "Infinity"
  | .undefined signals digits =>
    sign ++ (if signals then "sNaN" else "NaN") ++ String.ofList digits

end DecimalNumber

end StateContainer
