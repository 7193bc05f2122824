/-
This file takes collections apart: it goes through their items, and takes single
items and slices out of them. What is no collection is subscripted by its
arguments.
-/

import StateContainer.Hint.Generic

namespace StateContainer.Hint

/-! ### Items -/

/-- The characters of a text. -/
def characters (text : String) : List Hint :=
  text.toList.map fun c => .text (String.singleton c)

/-- Bytes as integers. -/
def octets (bytes : List UInt8) : List Hint :=
  bytes.map fun b => int b.toNat

/-- How many integers are in a range. The step is not zero. -/
def rangeLength (start stop step : Int) : Nat :=
  if 0 < step then ((stop - start + step - 1) / step).toNat
  else ((start - stop - step - 1) / (-step)).toNat

/-- The integers of a range. -/
def rangeItems (start stop step : Int) : List Int :=
  (List.range (rangeLength start stop step)).map fun (i : Nat) => start + i * step

/-- Whether the star takes a generic type apart into the form that stands for its arguments. -/
def isSpread : Hint → Bool
  | applied (.typing _) origin _ => origin != callableClass
  | applied .declared _ _ => true
  | literal _ => true
  | qualified _ _ => true
  | typeVariable v => v.kind = .types
  | _ => false

/-- Whether something of the typing vocabulary says by itself that it holds no items. -/
def refusesItems : Hint → Bool
  | form _ => true
  | standIn _ _ _ => true
  | union bars _ => !bars
  | annotated _ _ => true
  | applied _ origin _ => origin == callableClass
  | _ => false

/-- The items that something stands for when it is gone through. -/
def itemsOf (refusal : String → Misuse) : Hint → Evaluation (List Hint)
  | list items => return items
  | tuple items => return items
  | set _ items => return items
  | dict entries => return entries.map Prod.fst
  | value (.text text) => return characters text
  | value (.bytes bytes) => return octets bytes
  | range start stop step => return (rangeItems start stop step).map int
  | series items none => return items
  | series _ (some (className, text)) => throw (.raised className text)
  | unpacked generic => return [unpacked generic]
  | applied .plain origin items =>
    if origin = callableClass then misused (refusal "_CallableGenericAlias")
    else return [unpacked (applied .plain origin items)]
  | other => do
    if isSpread other then return [← applyForm "Unpack" other]
    else if refusesItems other then misused (.notIterated other.kindName)
    else misused (refusal other.kindName)

/-- The items that a star before something stands for. -/
def spread (hint : Hint) : Evaluation (List Hint) :=
  itemsOf .notSpreadable hint

/-! ### Slices -/

/-- The integer that something is as an index. -/
def index? : Hint → Option Int
  | value v => v.integer?
  | _ => none

/-- A bound of a slice, if it is given. -/
def boundOf : Hint → Evaluation (Option Int)
  | value .null => return none
  | other =>
    match index? other with
    | some n => return some n
    | none => misused (.other "slice indices must be integers or None or have an __index__ method")

/-- A bound of a slice of so many items, counted from the end if it is negative, and brought
between the least and the greatest one. -/
def clamp (length : Nat) (least greatest bound : Int) : Int :=
  min greatest (max least (if bound < 0 then bound + length else bound))

/-- The start, the stop and the step of a slice of so many items. -/
def sliceBounds (length : Nat) (bounds : List Hint) : Evaluation (Int × Int × Int) := do
  let lower := bounds.getD 0 null
  let upper := bounds.getD 1 null
  let step := (← boundOf (bounds.getD 2 null)).getD 1
  if step = 0 then throw (.raised "ValueError" "slice step cannot be zero")
  let lower ← boundOf lower
  let upper ← boundOf upper
  let n : Int := length
  if 0 < step then
    return ((lower.map (clamp length 0 n)).getD 0, (upper.map (clamp length 0 n)).getD n, step)
  else
    return ((lower.map (clamp length (-1) (n - 1))).getD (n - 1),
      (upper.map (clamp length (-1) (n - 1))).getD (-1), step)

/-- The items of a slice. -/
def sliceOf {α : Type} (items : List α) (bounds : List Hint) : Evaluation (List α) := do
  let (start, stop, step) ← sliceBounds items.length bounds
  return (rangeItems start stop step).filterMap fun i => items[i.toNat]?

/-! ### Single items -/

/-- The place of an item among so many, counted from the end if the index is negative. -/
def placeOf? (length : Nat) (index : Int) : Option Nat :=
  let place := if index < 0 then index + length else index
  if 0 ≤ place && place < length then some place.toNat else none

/-- An item of a collection by its index. -/
def itemAt (collection : String) (items : List Hint) (index : Hint) : Evaluation Hint :=
  match index? index with
  | none => misused (.indexKind collection index.kindName)
  | some n =>
    match (placeOf? items.length n).bind (items[·]?) with
    | some item => return item
    | none =>
      if twoPower 63 ≤ n.natAbs then
        throw (.raised "IndexError"
          ("cannot fit '" ++ index.kindName ++ "' into an index-sized integer"))
      else if collection = "byte" then throw (.raised "IndexError" "index out of range")
      else throw (.outOfRange collection)

/-- An item or a slice of a range. -/
def rangeAt (start stop step : Int) (index : Hint) : Evaluation Hint := do
  let length := rangeLength start stop step
  match index with
  | slice bounds =>
    let (first, last, stride) ← sliceBounds length bounds
    return range (start + first * step) (start + last * step) (step * stride)
  | other =>
    match index? other with
    | none => misused (.indexKind "range" other.kindName)
    | some n =>
      match placeOf? length n with
      | some place => return int (start + place * step)
      | none => throw (.outOfRange "range object")

/-- The value that a map holds under a key. -/
def valueAt (entries : List (Hint × Hint)) (key : Hint) : Evaluation Hint := do
  checkKey key
  match entries.find? fun (present, _) => same present key with
  | some (_, item) => return item
  | none => throw (.unknownKey key.written)

/-- A class of named values by one of its names, or a class with its arguments. -/
def classAt (id : ClassId) (index : Hint) : Evaluation Hint :=
  if id.metaName = "EnumType" then
    match index with
    | value (.text name) =>
      match Vocabulary.safetyMember? name with
      | some found => return found
      | none => throw (.unknownKey index.written)
    | _ => throw (.unknownKey index.written)
  else applyClass id index

/-- Something with a subscript. -/
def subscripted (base index : Hint) : Evaluation Hint :=
  match base, index with
  | value (.text text), slice bounds => do return .text (String.ofList (← sliceOf text.toList bounds))
  | value (.bytes bytes), slice bounds => do return value (.bytes (← sliceOf bytes bounds))
  | list items, slice bounds => do return list (← sliceOf items bounds)
  | tuple items, slice bounds => do return tuple (← sliceOf items bounds)
  | value (.text text), _ => itemAt "string" (characters text) index
  | value (.bytes bytes), _ => itemAt "byte" (octets bytes) index
  | list items, _ => itemAt "list" items index
  | tuple items, _ => itemAt "tuple" items index
  | range start stop step, _ => rangeAt start stop step index
  | dict entries, _ => valueAt entries index
  | classRef id, _ => classAt id index
  | standIn name origin parameters, _ => applyAlias name origin parameters index
  | form name, _ => applyForm name index
  | applied _ _ _, _ => specialise base index
  | unpacked _, _ => specialise base index
  | union _ _, _ => specialise base index
  | annotated _ _, _ => specialise base index
  | qualified _ _, _ => specialise base index
  | literal _, _ => specialise base index
  | other, _ => misused (.notSubscriptable other.kindName)

end StateContainer.Hint
