/-
This file holds arithmetic on floating-point numbers: sums, products, quotients,
remainders and powers, and the same on complex numbers.

A finite number is a quotient of integers, so that sums, products and quotients
are exact quotients that are rounded once. Powers with exponents that are no
small integers are taken by the processor.
-/

import StateContainer.Number.Binary64

namespace StateContainer

namespace Binary64

/-! ### Parts with signs -/

/-- The numerator of a finite number with its sign. -/
def signedNumerator (x : Binary64) : Int :=
  if x.isNegative then -(x.numerator : Int) else x.numerator

/-- The number nearest to a quotient, where a quotient of zero has the given sign. -/
def ofQuotient (negativeZero : Bool) (numerator : Int) (denominator : Nat) : Binary64 :=
  if numerator = 0 then zero negativeZero
  else ofRatio (numerator < 0) numerator.natAbs denominator

/-- The number with the other sign. -/
def neg (x : Binary64) : Binary64 :=
  ⟨x.bits ^^^ 0x8000000000000000⟩

/-- The number without its sign. -/
def abs (x : Binary64) : Binary64 :=
  if x.isNegative then x.neg else x

/-- The number of an integer of moderate size. -/
def ofInt (n : Int) : Binary64 :=
  ofRatio (n < 0) n.natAbs 1

/-- One. -/
def one : Binary64 := ofInt 1

/-! ### Sums and products -/

/-- The sum of two numbers. A sum of zero is positive unless both numbers are negative. -/
def add (x y : Binary64) : Binary64 :=
  if x.isNaN || y.isNaN then nan false
  else if x.isInfinite then
    if y.isInfinite && x.isNegative ≠ y.isNegative then nan true else x
  else if y.isInfinite then y
  else
    ofQuotient (x.isNegative && y.isNegative)
      (x.signedNumerator * y.denominator + y.signedNumerator * x.denominator)
      (x.denominator * y.denominator)

/-- The difference of two numbers. -/
def sub (x y : Binary64) : Binary64 :=
  x.add y.neg

/-- The product of two numbers. -/
def mul (x y : Binary64) : Binary64 :=
  let negative := x.isNegative != y.isNegative
  if x.isNaN || y.isNaN then nan false
  else if x.isInfinite || y.isInfinite then
    if x.isZero || y.isZero then nan true else infinity negative
  else
    ofQuotient negative (x.signedNumerator * y.signedNumerator) (x.denominator * y.denominator)

/-- The quotient of two numbers of which the second is not zero. -/
def div (x y : Binary64) : Binary64 :=
  let negative := x.isNegative != y.isNegative
  if x.isNaN || y.isNaN then nan false
  else if x.isInfinite then
    if y.isInfinite then nan true else infinity negative
  else if y.isInfinite then zero negative
  else
    ofRatio negative (x.numerator * y.denominator) (x.denominator * y.numerator)

/-! ### Remainders -/

/-- The greatest integral number that is not above a number. -/
def floor (x : Binary64) : Binary64 :=
  if x.isFinite then
    ofQuotient x.isNegative (x.signedNumerator.fdiv x.denominator) 1
  else x

/-- The rest of a division whose quotient is rounded towards zero. It has the sign of the first
number. -/
def rest (x y : Binary64) : Binary64 :=
  if x.isNaN || y.isNaN || x.isInfinite then nan false
  else if y.isInfinite then x
  else
    let denominator := x.denominator * y.denominator
    ofRatio x.isNegative ((x.numerator * y.denominator) % (y.numerator * x.denominator)) denominator

/-- The remainder of a division whose quotient is rounded down. It has the sign of the second
number, which is not zero. -/
def remainder (x y : Binary64) : Binary64 :=
  let left := x.rest y
  if left.isNaN then left
  else if left.isZero then zero y.isNegative
  else if left.isNegative != y.isNegative then left.add y
  else left

/-- The quotient of two numbers rounded down. The second one is not zero. -/
def floorDiv (x y : Binary64) : Binary64 :=
  let left := x.rest y
  let quotient := (x.sub left).div y
  let quotient :=
    if !left.isNaN && !left.isZero && left.isNegative != y.isNegative then quotient.sub one
    else quotient
  if quotient.isNaN then quotient
  else if quotient.isZero then zero (x.isNegative != y.isNegative)
  else
    let below := quotient.floor
    let half := ofRatio false 1 2
    let excess := (quotient.sub below).sub half
    if !excess.isZero && !excess.isNegative then below.add one else below

/-! ### Powers -/

/-- A number as the processor takes it. -/
def toFloat (x : Binary64) : Float :=
  Float.ofBits x.bits

/-- A number as the processor leaves it. -/
def ofFloat (x : Float) : Binary64 :=
  ⟨x.toBits⟩

/-- A power of a number. -/
def pow (x y : Binary64) : Binary64 :=
  ofFloat (x.toFloat.pow y.toFloat)

/-- Whether a number is integral. -/
def isIntegral (x : Binary64) : Bool :=
  x.isFinite && x.numerator % x.denominator == 0

/-! ### Order -/

/-- The order of two numbers, if both are numbers. -/
def order? (x y : Binary64) : Option Ordering :=
  if x.isNaN || y.isNaN then none
  else if x.sameValue y then some .eq
  else if x.isInfinite then some (if x.isNegative then .lt else .gt)
  else if y.isInfinite then some (if y.isNegative then .gt else .lt)
  else some (compare (x.signedNumerator * y.denominator) (y.signedNumerator * x.denominator))

/-- The order of a number and an integer, if the number is one. -/
def orderInt? (x : Binary64) (n : Int) : Option Ordering :=
  if x.isNaN then none
  else if x.isInfinite then some (if x.isNegative then .lt else .gt)
  else some (compare x.signedNumerator (n * x.denominator))

end Binary64

/-! ### Complex numbers -/

/-- A complex number. -/
structure Complex64 where
  real : Binary64
  imaginary : Binary64
deriving DecidableEq, Repr, Inhabited

namespace Complex64

/-- A real number as a complex one. -/
def ofReal (x : Binary64) : Complex64 :=
  ⟨x, .zero false⟩

/-- Whether a complex number is zero. -/
def isZero (z : Complex64) : Bool :=
  z.real.isZero && z.imaginary.isZero

/-- The sum of two complex numbers. -/
def add (z w : Complex64) : Complex64 :=
  ⟨z.real.add w.real, z.imaginary.add w.imaginary⟩

/-- The difference of two complex numbers. -/
def sub (z w : Complex64) : Complex64 :=
  ⟨z.real.sub w.real, z.imaginary.sub w.imaginary⟩

/-- The product of two complex numbers. -/
def mul (z w : Complex64) : Complex64 :=
  ⟨(z.real.mul w.real).sub (z.imaginary.mul w.imaginary),
    (z.real.mul w.imaginary).add (z.imaginary.mul w.real)⟩

/-- The quotient of two complex numbers of which the second is not zero. Both are divided by the
greater part of the second one first, so that no part leaves the range of numbers. -/
def div (z w : Complex64) : Complex64 :=
  if (w.real.abs.order? w.imaginary.abs) != some .lt then
    let ratio := w.imaginary.div w.real
    let size := w.real.add (w.imaginary.mul ratio)
    ⟨(z.real.add (z.imaginary.mul ratio)).div size, (z.imaginary.sub (z.real.mul ratio)).div size⟩
  else
    let ratio := w.real.div w.imaginary
    let size := (w.real.mul ratio).add w.imaginary
    ⟨((z.real.mul ratio).add z.imaginary).div size, ((z.imaginary.mul ratio).sub z.real).div size⟩

/-- One. -/
def one : Complex64 := ofReal .one

/-- A power with a natural exponent: the product of those repeated squares that the bits of the
exponent name. -/
def powNat : Nat → Complex64 → Complex64 → Nat → Complex64
  | 0, _, product, _ => product
  | fuel + 1, square, product, exponent =>
    if exponent = 0 then product
    else
      powNat fuel (square.mul square) (if exponent % 2 = 1 then product.mul square else product)
        (exponent / 2)

/-- A power with any exponent, by polar coordinates. The base is not zero. -/
def powPolar (z w : Complex64) : Complex64 :=
  let re := z.real.toFloat
  let im := z.imaginary.toFloat
  let radius := ((re * re + im * im).sqrt).pow w.real.toFloat
  let angle := Float.atan2 im re
  let turned := angle * w.real.toFloat
  let (radius, turned) :=
    if w.imaginary.isZero then (radius, turned)
    else
      (radius / (angle * w.imaginary.toFloat).exp,
        turned + w.imaginary.toFloat * ((re * re + im * im).sqrt).log)
  ⟨.ofFloat (radius * turned.cos), .ofFloat (radius * turned.sin)⟩

/-- A power. The base is not zero unless the exponent is. -/
def pow (z w : Complex64) : Complex64 :=
  if w.isZero then one
  else
    match w.imaginary.isZero && w.real.isIntegral, w.real.truncate? with
    | true, some exponent =>
      if exponent.natAbs ≤ 100 then
        let power := powNat 8 z one exponent.natAbs
        if exponent < 0 then one.div power else power
      else powPolar z w
    | _, _ => powPolar z w

end Complex64

end StateContainer
