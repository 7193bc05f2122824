/-
This file holds the floating-point numbers that values and snapshots carry: the
binary format of 64 bits. A number is kept as its bits, so that two numbers are
the same object exactly if they agree in every bit, and all arithmetic on them
is exact arithmetic on integers.

A finite number is `m * 2 ^ q` with a sign. The one operation that rounds is
`ofRatio`, which takes a quotient of two natural numbers to the nearest number
of the format, and to the one with the even significand if two are equally near.
-/

import StateContainer.Number.Power

namespace StateContainer

/-- A number of the binary format of 64 bits. -/
structure Binary64 where
  bits : UInt64
deriving DecidableEq, Repr

namespace Binary64

instance : Inhabited Binary64 := ⟨⟨0⟩⟩

/-! ### Parts of a number -/

/-- Whether the sign bit is set. -/
def isNegative (x : Binary64) : Bool :=
  twoPower 63 ≤ x.bits.toNat

/-- The bits of the exponent. -/
def exponentBits (x : Binary64) : Nat :=
  x.bits.toNat / twoPower 52 % twoPower 11

/-- The bits of the fraction. -/
def fractionBits (x : Binary64) : Nat :=
  x.bits.toNat % twoPower 52

/-- Whether the number is finite. -/
def isFinite (x : Binary64) : Bool :=
  x.exponentBits != 2047

/-- Whether it is one of the two infinities. -/
def isInfinite (x : Binary64) : Bool :=
  x.exponentBits == 2047 && x.fractionBits == 0

/-- Whether it is not a number at all. -/
def isNaN (x : Binary64) : Bool :=
  x.exponentBits == 2047 && x.fractionBits != 0

/-- The significand `m` of a finite number `m * 2 ^ q`. -/
def significand (x : Binary64) : Nat :=
  if x.exponentBits = 0 then x.fractionBits else twoPower 52 + x.fractionBits

/-- The power `q` of a finite number `m * 2 ^ q`. -/
def power (x : Binary64) : Int :=
  if x.exponentBits = 0 then -1074 else (x.exponentBits : Int) - 1075

/-- Whether a finite number is zero, of either sign. -/
def isZero (x : Binary64) : Bool :=
  x.isFinite && x.significand == 0

/-- The numerator of the magnitude of a finite number. -/
def numerator (x : Binary64) : Nat :=
  x.significand * twoPower x.power.toNat

/-- The denominator of the magnitude of a finite number. -/
def denominator (x : Binary64) : Nat :=
  twoPower (-x.power).toNat

/-! ### Numbers from parts -/

/-- The number of a sign and of the 63 bits of a magnitude. -/
def ofMagnitude (negative : Bool) (magnitude : Nat) : Binary64 :=
  ⟨UInt64.ofNat (if negative then twoPower 63 + magnitude else magnitude)⟩

/-- Zero with a sign. -/
def zero (negative : Bool) : Binary64 :=
  ofMagnitude negative 0

/-- Infinity with a sign. -/
def infinity (negative : Bool) : Binary64 :=
  ofMagnitude negative (2047 * twoPower 52)

/-- The quiet number that is no number, with a sign. -/
def nan (negative : Bool) : Binary64 :=
  ofMagnitude negative (2047 * twoPower 52 + twoPower 51)

/-- The quotient rounded to the nearest integer, a half to the even neighbour. -/
def roundQuotient (numerator denominator : Nat) : Nat :=
  let quotient := numerator / denominator
  let twice := 2 * (numerator % denominator)
  if denominator < twice || (twice = denominator && quotient % 2 = 1) then quotient + 1
  else quotient

/-- The binary exponent of a positive quotient: the greatest `e` with `2 ^ e` at most the
quotient. The difference of the two logarithms is this exponent or one more. -/
def binaryExponent (numerator denominator : Nat) : Int :=
  let estimate := (numerator.log2 : Int) - denominator.log2
  if denominator * twoPower estimate.toNat ≤ numerator * twoPower (-estimate).toNat then estimate
  else estimate - 1

/-- The number nearest to a quotient of natural numbers, with a sign. A quotient beyond the
range of the format becomes an infinity.

The significand is rounded to 53 bits, or to fewer where the format ends. Carrying into the
next power of two needs no case of its own, since the bits of the exponent stand directly
above those of the fraction. -/
def ofRatio (negative : Bool) (numerator denominator : Nat) : Binary64 :=
  if numerator = 0 || denominator = 0 then zero negative
  else
    let power := max (binaryExponent numerator denominator - 52) (-1074)
    let rounded :=
      roundQuotient (numerator * twoPower (-power).toNat) (denominator * twoPower power.toNat)
    let magnitude := (power + 1074).toNat * twoPower 52 + rounded
    if 2047 * twoPower 52 ≤ magnitude then infinity negative else ofMagnitude negative magnitude

/-- The number nearest to `digits * 10 ^ exponent`. Exponents far outside the range of the
format are settled before any power of ten is computed. -/
def ofDecimal (negative : Bool) (digits : Nat) (exponent : Int) : Binary64 :=
  if digits = 0 then zero negative
  else
    let size := (digits.log2 : Int) * 30103 / 100000 + exponent
    if 400 < size then infinity negative
    else if size < -400 then zero negative
    else ofRatio negative (digits * tenPower exponent.toNat) (tenPower (-exponent).toNat)

/-- The number nearest to an integer, and nothing if that is beyond the range. -/
def ofInt? (n : Int) : Option Binary64 :=
  let nearest := ofRatio (n < 0) n.natAbs 1
  if nearest.isFinite then some nearest else none

/-! ### Integers from numbers -/

/-- The integer part of a finite number: the magnitude is rounded down. -/
def truncate? (x : Binary64) : Option Int :=
  if x.isFinite then
    let magnitude : Int := (x.numerator / x.denominator : Nat)
    some (if x.isNegative then -magnitude else magnitude)
  else none

/-! ### Comparison by value -/

/-- Whether two numbers have the same value. The two zeros have, and no value equals that of
something that is not a number. -/
def sameValue (x y : Binary64) : Bool :=
  !x.isNaN && !y.isNaN && (x == y || (x.isZero && y.isZero))

/-- Whether a number has the value of an integer. -/
def sameAsInt (x : Binary64) (n : Int) : Bool :=
  x.isFinite && x.numerator == n.natAbs * x.denominator &&
    (n == 0 || x.isNegative == decide (n < 0))

end Binary64

end StateContainer
