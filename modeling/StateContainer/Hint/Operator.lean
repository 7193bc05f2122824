/-
This file applies operators to what expressions stand for: arithmetic on numbers,
joining and repeating sequences, and comparisons.

Truth values count as integers. The bar makes a union of two types.
-/

import StateContainer.Hint.Shown
import StateContainer.Hint.Subscript
import StateContainer.Number.Power
import StateContainer.Value.SetOrder

namespace StateContainer.Hint

/-! ### Truth -/

/-- Whether something counts as true. -/
def truth : Hint → Bool
  | value v => v.truth
  | complex x y => !(x.isZero && y.isZero)
  | list items => !items.isEmpty
  | tuple items => !items.isEmpty
  | set _ items => !items.isEmpty
  | dict entries => !entries.isEmpty
  | range start stop step => rangeLength start stop step ≠ 0
  | _ => true

/-! ### Numbers -/

/-- A number as an operand. -/
inductive Numeric where
  | int (n : Int)
  | float (x : Binary64)
  | complex (z : Complex64)

/-- The number that something is. A truth value is an integer. -/
def numeric? : Hint → Option Numeric
  | value (.float x) => some (.float x)
  | value v => v.integer?.map .int
  | complex x y => some (.complex ⟨x, y⟩)
  | _ => none

/-- A floating-point number. -/
def ofReal (x : Binary64) : Hint :=
  value (.float x)

/-- A complex number. -/
def ofComplex (z : Complex64) : Hint :=
  complex z.real z.imaginary

/-- The floating-point number nearest to an integer. -/
def realOf (n : Int) : Evaluation Binary64 :=
  match Binary64.ofInt? n with
  | some x => return x
  | none => throw (.raised "OverflowError" "int too large to convert to float")

/-- What an operator makes of two complex numbers, if it is one for them. -/
def combineComplex? (operator : String) (z w : Complex64) : Option (Evaluation Hint) :=
  match operator with
  | "+" => some (return ofComplex (z.add w))
  | "-" => some (return ofComplex (z.sub w))
  | "*" => some (return ofComplex (z.mul w))
  | "/" =>
    some (if w.isZero then throw (.zeroDivisor "complex division by zero")
      else return ofComplex (z.div w))
  | "**" =>
    some (
      if z.isZero && !w.isZero then
        if w.real.isNegative || !w.imaginary.isZero then
          throw (.zeroDivisor "0.0 to a negative or complex power")
        else return ofComplex (.ofReal (.zero false))
      else return ofComplex (z.pow w))
  | _ => none

/-- A power of a floating-point number. That of a negative number with a fraction is complex. -/
def powerOf (x y : Binary64) : Evaluation Hint :=
  if x.isZero && y.isNegative && !y.isZero && !y.isNaN then
    throw (.zeroDivisor "0.0 cannot be raised to a negative power")
  else if x.isNegative && x.isFinite && !x.isZero && y.isFinite && !y.isIntegral then
    return ofComplex ((Complex64.ofReal x).pow (.ofReal y))
  else
    let power := x.pow y
    if power.isInfinite && x.isFinite && y.isFinite then
      throw (.raised "OverflowError" "(34, 'Numerical result out of range')")
    else return ofReal power

/-- What an operator makes of two floating-point numbers, if it is one for them. -/
def combineReals? (operator : String) (x y : Binary64) : Option (Evaluation Hint) :=
  let divided (text : String) (quotient : Binary64) : Option (Evaluation Hint) :=
    some (if y.isZero then throw (.zeroDivisor text) else return ofReal quotient)
  match operator with
  | "+" => some (return ofReal (x.add y))
  | "-" => some (return ofReal (x.sub y))
  | "*" => some (return ofReal (x.mul y))
  | "/" => divided "float division by zero" (x.div y)
  | "//" => divided "float floor division by zero" (x.floorDiv y)
  | "%" => divided "float modulo" (x.remainder y)
  | "**" => some (powerOf x y)
  | _ => none

/-- What an operator makes of two integers, if it is one for them. -/
def combineIntegers? (operator : String) (n m : Int) : Option (Evaluation Hint) :=
  let divided (text : String) (quotient : Int) : Option (Evaluation Hint) :=
    some (if m = 0 then throw (.zeroDivisor text) else return int quotient)
  let shifted (moved : Int) : Option (Evaluation Hint) :=
    some (if m < 0 then throw (.raised "ValueError" "negative shift count") else return int moved)
  match operator with
  | "+" => some (return int (n + m))
  | "-" => some (return int (n - m))
  | "*" => some (return int (n * m))
  | "/" =>
    let quotient := Binary64.ofQuotient false (if m < 0 then -n else n) m.natAbs
    some (
      if m = 0 then throw (.zeroDivisor "division by zero")
      else if quotient.isFinite then return ofReal quotient
      else throw (.raised "OverflowError" "integer division result too large for a float"))
  | "//" => divided "integer division or modulo by zero" (n.fdiv m)
  | "%" => divided "integer modulo by zero" (n.fmod m)
  | "**" =>
    some (if m < 0 then do powerOf (← realOf n) (← realOf m) else return int (Int.pow n m.toNat))
  | "<<" => shifted (Number.shiftUp n m.toNat)
  | ">>" => shifted (Number.shiftDown n m.toNat)
  | "&" => some (return int (Number.bitsOfBoth n m))
  | "|" => some (return int (Number.bitsOfEither n m))
  | "^" => some (return int (Number.bitsOfOne n m))
  | _ => none

/-- What an operator makes of two numbers, if it is one for them. -/
def combineNumbers? (operator : String) : Numeric → Numeric → Option (Evaluation Hint)
  | .int n, .int m => combineIntegers? operator n m
  | .int n, .float y =>
    (combineReals? operator .one y).map fun _ => do
      match combineReals? operator (← realOf n) y with
      | some made => made
      | none => return null
  | .float x, .int m =>
    (combineReals? operator x .one).map fun _ => do
      match combineReals? operator x (← realOf m) with
      | some made => made
      | none => return null
  | .float x, .float y => combineReals? operator x y
  | first, second =>
    (combineComplex? operator .one .one).map fun _ => do
      match combineComplex? operator (← complexOf first) (← complexOf second) with
      | some made => made
      | none => return null
where
  /-- A number as a complex one. -/
  complexOf : Numeric → Evaluation Complex64
    | .int n => do return .ofReal (← realOf n)
    | .float x => return .ofReal x
    | .complex z => return z

/-! ### Sequences -/

/-- How often a sequence is repeated. -/
def repetitions (hint : Hint) : Evaluation Nat :=
  match index? hint with
  | none =>
    misused (.other ("can't multiply sequence by non-int of type '" ++ hint.kindName ++ "'"))
  | some n =>
    if twoPower 63 ≤ n.natAbs then
      throw (.raised "OverflowError"
        ("cannot fit '" ++ hint.kindName ++ "' into an index-sized integer"))
    else return n.toNat

/-- Items repeated. -/
def repeated {α : Type} (items : List α) (count : Nat) : List α :=
  (List.replicate count items).flatten

/-- A sequence repeated, if the first operand is a sequence. -/
def repeat? : Hint → Hint → Option (Evaluation Hint)
  | value (.text s), count =>
    some (do return text (String.ofList (repeated s.toList (← repetitions count))))
  | value (.bytes b), count => some (do return value (.bytes (repeated b (← repetitions count))))
  | list items, count => some (do return list (repeated items (← repetitions count)))
  | tuple items, count => some (do return tuple (repeated items (← repetitions count)))
  | _, _ => none

/-- Two sequences one after the other, if the first operand is a sequence. -/
def join? : Hint → Hint → Option (Evaluation Hint)
  | value (.text s), value (.text t) => some (return text (s ++ t))
  | value (.bytes b), value (.bytes c) => some (return value (.bytes (b ++ c)))
  | list items, list items' => some (return list (items ++ items'))
  | tuple items, tuple items' => some (return tuple (items ++ items'))
  | value (.text _), other => refused "str" other
  | list _, other => refused "list" other
  | tuple _, other => refused "tuple" other
  | value (.bytes _), other =>
    some (misused (.other ("can't concat " ++ other.kindName ++ " to bytes")))
  | _, _ => none
where
  /-- The second operand is no such sequence. -/
  refused (kind : String) (other : Hint) : Option (Evaluation Hint) :=
    let given := other.kindName
    some (misused (.other s!"can only concatenate {kind} (not \"{given}\") to {kind}"))

/-! ### Sets and maps -/

/-- Whether an item is among the given ones. -/
def isAmong (items : List Hint) (item : Hint) : Bool :=
  items.any (same item ·)

/-- The hash of something, if it is known. -/
def hash? : Hint → Option Int
  | value v => v.hash?
  | tuple items => (hashes? items).map Hash.ofHashes
  | _ => none
where
  /-- The hashes of several things. -/
  hashes? : List Hint → Option (List Int)
    | [] => some []
    | first :: others => do return (← hash? first) :: (← hashes? others)

/-- The set of items that are added one after the other. -/
def setOf (frozen : Bool) (items : List Hint) : Hint :=
  set frozen (SetOrder.ofAdded hash? (distinct items))

/-- A set that was taken over as a whole from another one. -/
def takenOver : Hint → Hint
  | set frozen items => set frozen (SetOrder.ofMerged hash? items)
  | other => other

/-- What an operator makes of the items of two sets, if it is one for them. -/
def combineSets? (operator : String) (items items' : List Hint) : Option (List Hint) :=
  match operator with
  | "|" => some (items ++ items'.filter (!isAmong items ·))
  | "&" => some (items.filter (isAmong items' ·))
  | "-" => some (items.filter (!isAmong items' ·))
  | "^" => some (items.filter (!isAmong items' ·) ++ items'.filter (!isAmong items ·))
  | _ => none

/-! ### Operators -/

/-- What an operator on two operands makes of them, if they are collections or truth values. -/
def combineCollections? (operator : String) (left right : Hint) : Option (Evaluation Hint) :=
  match operator, left, right with
  | "&", value (.bool b), value (.bool c) => some (return bool (b && c))
  | "|", value (.bool b), value (.bool c) => some (return bool (b || c))
  | "^", value (.bool b), value (.bool c) => some (return bool (b != c))
  | "|", dict entries, dict entries' =>
    some (return dict (entries'.foldl (fun made (key, item) => insertEntry made key item) entries))
  | "+", _, _ => join? left right
  | "*", _, _ => (repeat? left right).or (repeat? right left)
  | "%", value (.text pattern), _ => some (filled pattern right)
  | _, set frozen items, set _ items' =>
    (combineSets? operator items items').map fun made => return setOf frozen made
  | _, _, _ => none

/-- What an operator on two operands makes of them. -/
def combine (operator : String) (left right : Hint) : Evaluation Hint :=
  let byNumbers : Option (Evaluation Hint) := do
    let first ← numeric? left
    let second ← numeric? right
    combineNumbers? operator first second
  let byTypes := if operator = "|" then unionOf? left right else none
  match ((combineCollections? operator left right).or byNumbers).or byTypes with
  | some made => made
  | none => misused (.unsupportedOperands operator left.kindName right.kindName)

/-- What an operator on one operand makes of it. -/
def signed (operator : String) (operand : Hint) : Evaluation Hint :=
  match operator, numeric? operand with
  | "not", _ => return bool (!operand.truth)
  | "-", some (.int n) => return int (-n)
  | "+", some (.int n) => return int n
  | "~", some (.int n) => return int (Number.complement n)
  | "-", some (.float x) => return ofReal x.neg
  | "+", some (.float x) => return ofReal x
  | "-", some (.complex z) => return complex z.real.neg z.imaginary.neg
  | "+", some (.complex z) => return ofComplex z
  | _, _ => misused (.unsupportedOperand operator operand.kindName)

/-! ### Comparisons -/

/-- Whether an ordering is one that a comparison asks for. -/
def isAsked (operator : String) (ordering : Ordering) : Bool :=
  match operator with
  | "<" => ordering == .lt
  | "<=" => ordering != .gt
  | ">" => ordering == .gt
  | _ => ordering != .lt

/-- The order of two real numbers, if both are numbers. -/
def orderNumbers? : Numeric → Numeric → Option (Option Ordering)
  | .int n, .int m => some (some (compare n m))
  | .int n, .float y => some ((y.orderInt? n).map Ordering.swap)
  | .float x, .int m => some (x.orderInt? m)
  | .float x, .float y => some (x.order? y)
  | _, _ => none

/-- The order of two sequences of bytes. -/
def orderBytes : List UInt8 → List UInt8 → Ordering
  | [], [] => .eq
  | [], _ :: _ => .lt
  | _ :: _, [] => .gt
  | first :: others, first' :: others' =>
    (compare first.toNat first'.toNat).then (orderBytes others others')

/-- Whether one set is within another one as a comparison asks. -/
def compareSets (operator : String) (items items' : List Hint) : Bool :=
  let within := items.all (isAmong items' ·)
  let around := items'.all (isAmong items ·)
  match operator with
  | "<" => within && !around
  | "<=" => within
  | ">" => around && !within
  | _ => around

mutual

/-- Whether two operands are in the order that a comparison asks for. -/
def compareOrder (operator : String) : Hint → Hint → Evaluation Bool
  | value (.text s), value (.text t) => return isAsked operator (compare s t)
  | value (.bytes b), value (.bytes c) => return isAsked operator (orderBytes b c)
  | list items, list items' => compareItems operator items items'
  | tuple items, tuple items' => compareItems operator items items'
  | set _ items, set _ items' => return compareSets operator items items'
  | left, right =>
    let ordering := do orderNumbers? (← numeric? left) (← numeric? right)
    match ordering with
    | some found => return (found.map (isAsked operator)).getD false
    | none => misused (.notComparable operator left.kindName right.kindName)

/-- Whether two sequences are in the order that a comparison asks for: the first items that differ
decide. -/
def compareItems (operator : String) : List Hint → List Hint → Evaluation Bool
  | [], [] => return isAsked operator .eq
  | [], _ :: _ => return isAsked operator .lt
  | _ :: _, [] => return isAsked operator .gt
  | first :: others, first' :: others' =>
    if same first first' then compareItems operator others others'
    else compareOrder operator first first'

end

/-- Whether a sequence is a part of another one. -/
def isPartOf {α : Type} [BEq α] (part : List α) : List α → Bool
  | [] => part.isEmpty
  | first :: others => part.isPrefixOf (first :: others) || isPartOf part others

/-- Whether an item is in a collection. -/
def contained (item collection : Hint) : Evaluation Bool :=
  match collection with
  | value (.text whole) =>
    match item with
    | value (.text part) => return isPartOf part.toList whole.toList
    | other =>
      misused (.other ("'in <string>' requires string as left operand, not " ++ other.kindName))
  | value (.bytes whole) =>
    match item with
    | value (.bytes part) => return isPartOf part whole
    | other =>
      match index? other with
      | some n =>
        if 0 ≤ n && n < 256 then return whole.any (·.toNat == n.toNat)
        else throw (.raised "ValueError" "byte must be in range(0, 256)")
      | none =>
        misused (.other ("a bytes-like object is required, not '" ++ other.kindName ++ "'"))
  | range start stop step =>
    match index? item with
    | some n =>
      let isBetween := if 0 < step then start ≤ n && n < stop else stop < n && n ≤ start
      return isBetween && (n - start) % step == 0
    | none => return isAmong ((rangeItems start stop step).map int) item
  | set _ items => do
    checkKey item
    return isAmong items item
  | dict entries => do
    checkKey item
    return isAmong (entries.map Prod.fst) item
  | other =>
    if refusesItems other then misused (.notIterable other.kindName)
    else do return isAmong (← itemsOf .notIterable other) item

/-- What a comparison makes of two operands. -/
def compared (operator : String) (left right : Hint) : Evaluation Bool :=
  match operator with
  | "==" => return same left right
  | "!=" => return !same left right
  | "is" => return identical left right
  | "is not" => return !identical left right
  | "in" => contained left right
  | "not in" => do return !(← contained left right)
  | _ => compareOrder operator left right

end StateContainer.Hint
