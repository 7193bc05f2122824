/-
This file writes a floating-point number as text. It first chooses the digits:
the fewest decimal digits that read back as the same number, and among those the
ones nearest to it. Then it settles where the point goes.

The reals that round to `m * 2 ^ q` form an interval, from half-way to the
neighbour below to half-way to the neighbour above, whose ends belong to it
exactly if `m` is even. For each count of digits the value has two neighbours on
the decimal grid of that count; the first grid on which one of them lies in the
interval is taken. All comparisons are exact, between natural numbers.

Values between `10 ^ -4` and `10 ^ 16` are written positionally and always with
a point, so that they differ from integers. Other values have an exponent with a
sign and at least two digits.
-/

import StateContainer.Number.Binary64
import StateContainer.Text.Digit

namespace StateContainer

/-- The decimal number `digits * 10 ^ exponent`. -/
structure Decimal where
  digits : Nat
  exponent : Int
deriving DecidableEq, Repr

namespace Decimal

/-- How `digits * 10 ^ exponent` compares with `significand * 2 ^ power`. -/
def compareBinary (x : Decimal) (significand : Nat) (power : Int) : Ordering :=
  compare (x.digits * tenPower x.exponent.toNat * twoPower (-power).toNat)
    (significand * twoPower power.toNat * tenPower (-x.exponent).toNat)

/-- Removes the zeros at the end of the digits. -/
def stripped (fuel : Nat) (x : Decimal) : Decimal :=
  match fuel with
  | 0 => x
  | fuel + 1 =>
    if x.digits ≠ 0 && x.digits % 10 = 0 then stripped fuel ⟨x.digits / 10, x.exponent + 1⟩
    else x

end Decimal

namespace Binary64

/-- Whether the gap to the neighbour below is half the gap to the neighbour above. -/
def narrowBelow (x : Binary64) : Bool :=
  x.fractionBits == 0 && 1 < x.exponentBits

/-- Whether a decimal lies among the reals that round to the magnitude of a finite number. -/
def readsBack (x : Binary64) (candidate : Decimal) : Bool :=
  let low := if x.narrowBelow then 4 * x.significand - 1 else 4 * x.significand - 2
  let high := 4 * x.significand + 2
  let closed := x.significand % 2 == 0
  let fromLow := candidate.compareBinary low (x.power - 2)
  let fromHigh := candidate.compareBinary high (x.power - 2)
  (fromLow == .gt || (closed && fromLow == .eq)) && (fromHigh == .lt || (closed && fromHigh == .eq))

/-- The least `k` for which the magnitude of a positive finite number is below `10 ^ k`. The
estimate from the binary exponent is this number or one less or more. -/
def decimalScale (x : Binary64) : Int :=
  let estimate := binaryExponent x.numerator x.denominator * 30103 / 100000
  let reaches (k : Int) : Bool := (⟨1, k⟩ : Decimal).compareBinary x.significand x.power != .gt
  if reaches (estimate + 1) then estimate + 2
  else if reaches estimate then estimate + 1
  else if reaches (estimate - 1) then estimate
  else estimate - 1

/-- The nearer of the two neighbours of a positive finite number on the grid of `10 ^ exponent`
that read back; of two equally near ones the even one. -/
def onGrid? (x : Binary64) (exponent : Int) : Option Decimal :=
  let top := x.numerator * tenPower (-exponent).toNat
  let bottom := x.denominator * tenPower exponent.toNat
  let floor := top / bottom
  let below : Decimal := ⟨floor, exponent⟩
  let above : Decimal := ⟨floor + 1, exponent⟩
  match x.readsBack below, x.readsBack above with
  | true, true =>
    match compare (2 * (top % bottom)) bottom with
    | .lt => some below
    | .gt => some above
    | .eq => some (if floor % 2 = 0 then below else above)
  | true, false => some below
  | false, true => some above
  | false, false => none

/-- The first grid that has a number which reads back, counting up from `count` digits. -/
def shortestFrom (x : Binary64) (scale : Int) : Nat → Nat → Decimal
  | 0, _ => ⟨x.numerator, 0⟩
  | tries + 1, count => (x.onGrid? (scale - count)).getD (shortestFrom x scale tries (count + 1))

/-- The shortest decimal that reads back as the magnitude of a finite number. -/
def shortest (x : Binary64) : Decimal :=
  if x.significand = 0 then ⟨0, 0⟩
  else (shortestFrom x x.decimalScale 17 1).stripped 20

/-! ### Layout -/

/-- How numbers that are not finite are spelled. -/
structure Spelling where
  nan : String
  infinity : String
  negativeInfinity : String

/-- The spelling in messages and literals. -/
def Spelling.plain : Spelling := ⟨"nan", "inf", "-inf"⟩

/-- The text of a decimal whose `point` digits stand before the decimal point. -/
def layout (digits : List Char) (point : Int) : List Char :=
  if -4 < point && point ≤ 16 then
    if point ≤ 0 then
      '0' :: '.' :: List.replicate (-point).toNat '0' ++ digits
    else if point.toNat < digits.length then
      digits.take point.toNat ++ '.' :: digits.drop point.toNat
    else
      digits ++ List.replicate (point.toNat - digits.length) '0' ++ ['.', '0']
  else
    let exponent := (point - 1).natAbs
    let exponentDigits := (if exponent < 10 then ['0'] else []) ++ Text.decimal exponent
    let mantissa :=
      match digits with
      | [] => []
      | [single] => [single]
      | first :: rest => first :: '.' :: rest
    mantissa ++ 'e' :: (if point < 1 then '-' else '+') :: exponentDigits

/-- The text of a number. -/
def text (spelling : Spelling) (x : Binary64) : String :=
  if x.isNaN then spelling.nan
  else if x.isInfinite then
    if x.isNegative then spelling.negativeInfinity else spelling.infinity
  else
    let shortest := x.shortest
    let digits := Text.decimal shortest.digits
    let point : Int := if shortest.digits = 0 then 1 else digits.length + shortest.exponent
    String.ofList ((if x.isNegative then ['-'] else []) ++ layout digits point)

end Binary64

end StateContainer
