/-
This file holds the powers of two and of ten, of which the formats of numbers are
made, and combines integers bit by bit. A negative integer has infinitely many
bits that are set, so that its complement, which is not negative, has finitely
many.
-/

namespace StateContainer

/-- A power of two. -/
def twoPower (exponent : Nat) : Nat :=
  Nat.pow 2 exponent

/-- A power of ten. -/
def tenPower (exponent : Nat) : Nat :=
  Nat.pow 10 exponent

end StateContainer

namespace StateContainer.Number

/-- The complement of an integer. -/
def complement (n : Int) : Int :=
  -n - 1

/-- The bits that are set in a natural number and not in another one. -/
def bitsWithout (n m : Nat) : Nat :=
  n - (n &&& m)

/-- The bits that are set in both integers. -/
def bitsOfBoth : Int → Int → Int
  | .ofNat n, .ofNat m => (n &&& m : Nat)
  | .ofNat n, .negSucc m => (bitsWithout n m : Nat)
  | .negSucc n, .ofNat m => (bitsWithout m n : Nat)
  | .negSucc n, .negSucc m => .negSucc (n ||| m)

/-- The bits that are set in one of the integers. -/
def bitsOfEither (n m : Int) : Int :=
  complement (bitsOfBoth (complement n) (complement m))

/-- The bits that are set in exactly one of the integers. -/
def bitsOfOne (n m : Int) : Int :=
  bitsOfEither n m - bitsOfBoth n m

/-- The integer with its bits moved up. -/
def shiftUp (n : Int) (places : Nat) : Int :=
  if n = 0 then 0 else n * twoPower places

/-- The integer with its bits moved down. Those that fall off are lost. -/
def shiftDown (n : Int) (places : Nat) : Int :=
  if n.natAbs.log2 < places then (if n < 0 then -1 else 0) else n.fdiv (twoPower places)

end StateContainer.Number
