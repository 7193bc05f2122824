/-
This file converts checked values to the types that are declared for them.

A check leaves some values as they are: those of no member of a union, and the
items of collections that are not checked. A conversion makes these what the type
demands, or fails. A scalar that is none yet is made one; an annotation with null
and one other argument is converted by its first argument, and any other union
leaves a value alone. A collection is made anew by its class from its converted
items; the keys of a map are converted and then given to their class once more.
-/

import StateContainer.Hint.Call
import StateContainer.Snapshot.Rule

namespace StateContainer.Snapshot

open Hint (Evaluation Given misused invalid)

/-! ### Scalars -/

/-- Makes a value an instance of a built-in class, unless it is one. -/
def makeInstance (id : Hint.ClassId) (given : Hint) : Evaluation Hint :=
  if Hint.isInstance given id then return given
  else Hint.construct "builtins" id { positional := [given] }

/-- A value as a scalar of a class. Classes that are no scalars leave it alone. -/
def toScalar (id : Hint.ClassId) (given : Hint) : Evaluation Hint :=
  match id.qualifiedName with
  | "builtins.int" => makeInstance id given
  | "builtins.float" => makeInstance id given
  | "builtins.str" => makeInstance id given
  | "builtins.bool" => makeInstance id given
  | "datetime.datetime" => Hint.toMoment given
  | "uuid.UUID" => Hint.toIdentifier given
  | "decimal.Decimal" => Hint.toDecimal given
  | _ => return given

/-! ### Collections -/

/-- Whether a class is one of collections, of which texts are none. -/
def isCollection (id : Hint.ClassId) : Bool :=
  Hint.belongsTo id Hint.collectionClass && id.qualifiedName ≠ "builtins.str"

/-- A collection of a class that keeps its items. -/
def keeping (name : String) (items : List Hint) : Hint :=
  .value (.wrapped name (name ++ "(" ++ (Hint.list items).written ++ ")")
    (Hint.toValue (.list items)))

/-- Bytes that can be changed. -/
def changeableBytes (items : List Hint) : Evaluation Hint := do
  let bytes ← items.mapM fun item =>
    match Hint.index? item with
    | some n =>
      if 0 ≤ n && n < 256 then return n.toNat.toUInt8 else invalid "byte must be in range(0, 256)"
    | none =>
      misused (.other ("'" ++ item.kindMessageName ++ "' object cannot be interpreted as an integer"))
  return .value (.wrapped "bytearray" ("bytearray(" ++ Text.quotedBytes bytes ++ ")")
    (.list (bytes.map fun byte => .int byte.toNat)))

/-- The collection that a class makes of items. An abstract class makes one of a class that
belongs to it. -/
def collect (id : Hint.ClassId) (items : List Hint) : Evaluation Hint :=
  match id.qualifiedName with
  | "collections.abc.Collection" => return .tuple items
  | "collections.abc.Sequence" => return .tuple items
  | "collections.abc.MutableSequence" => return .list items
  | "collections.abc.Set" => Hint.makeSet false items
  | "collections.abc.MutableSet" => Hint.makeSet false items
  | "collections.deque" => return keeping "deque" items
  | "collections.UserList" => return keeping "UserList" items
  | "builtins.bytearray" => changeableBytes items
  | "builtins.memoryview" =>
    misused (.other "memoryview: a bytes-like object is required, not 'list'")
  | _ => Hint.construct "builtins" id { positional := [.list items] }

/-- Converts each item by a conversion of its own, of which there have to be as many. -/
def convertEach (types : List Hint) (conversions : List (Hint → Evaluation Hint))
    (items : List Hint) : Evaluation (List Hint) := do
  if conversions.length = items.length then
    (conversions.zip items).mapM fun (convert, item) => convert item
  else
    let shown ← Hint.representation (.tuple types)
    misused (.other ("Number of types specified in the collection type " ++ shown ++
      " does not match number of elements in the collection. In case you are working with tuples" ++
      "take a look at this document docs.python.org/3/library/typing.html#annotating-tuples."))

/-- What an argument of a type makes of the items of a collection. -/
abbrev ItemsConversion := List Hint → Evaluation (List Hint)

/-- The conversion that an argument stands for, or else none. -/
def conversionAt (conversions : List ItemsConversion) (place : Nat) : ItemsConversion :=
  conversions[place]?.getD fun items => return items

/-- The keys and the values of a map. -/
def entriesOf (given : Hint) : Evaluation (List (Hint × Hint)) :=
  match given with
  | .dict entries => return entries
  | other => throw (.unknownAttribute other.ownerText "keys")

/-! ### Maps -/

/-- What the type of keys makes of a converted key when it is called. -/
def callKeyType (type key : Hint) : Evaluation Hint :=
  match type with
  | .value .null => return key
  | .typeVariable _ => return key
  | other =>
    match originOf other with
    | .classRef id =>
      if id = Hint.anyClass then return key
      else if id.qualifiedName = "builtins.tuple" then
        return .tuple (← Hint.itemsOf .notIterated key)
      else
        Hint.callKnown Hint.commonScope "builtins" (fun _ _ => return .null) other
          { positional := [key] }
    | _ =>
      Hint.callKnown Hint.commonScope "builtins" (fun _ _ => return .null) other
        { positional := [key] }

/-- Makes entries of keys and values, one after the other. -/
def makeEntries (keyType : Hint) (pairs : List (Hint × Hint)) :
    Evaluation (List (Hint × Hint)) :=
  pairs.foldlM (fun made (key, item) => do
    let key ← callKeyType keyType key
    Hint.checkKey key
    return Hint.insertEntry made key item) []

/-- The map that a class makes of keys and values. Some classes do not look at them. -/
def collectEntries (id : Hint.ClassId) (keyType : Hint) (pairs : List (Hint × Hint)) :
    Evaluation Hint := do
  match id.qualifiedName with
  | "collections.defaultdict" => misused (.other "first argument must be callable or None")
  | "collections.ChainMap" => return .value (.object "ChainMap" "ChainMap(<zip object>)")
  | "collections.UserDict" =>
    let made := Hint.dict (← makeEntries keyType pairs)
    return .value (.wrapped "UserDict" made.written (Hint.toValue made))
  | _ => return .dict (← makeEntries keyType pairs)

/-- Converts a map. A type without arguments leaves the keys and the values alone. -/
def convertMap (id : Hint.ClassId) (arguments : Option (List Hint))
    (conversions : List ItemsConversion) (given : Hint) : Evaluation Hint := do
  let keyType ←
    match arguments with
    | none => pure (.classRef Hint.anyClass)
    | some [keyType, _] => pure keyType
    | some several =>
      let count := several.length
      if 2 < count then invalid "too many values to unpack (expected 2)"
      else invalid s!"not enough values to unpack (expected 2, got {count})"
  let entries ← entriesOf given
  let keys ← conversionAt conversions 0 (entries.map (·.1))
  let items ← conversionAt conversions 1 (entries.map (·.2))
  collectEntries id keyType (keys.zip items)

/-- Converts a map of counts, of which only the keys are converted. -/
def convertCounts (conversions : List ItemsConversion) (given : Hint) : Evaluation Hint := do
  let entries ← entriesOf given
  let keys ← conversionAt conversions 0 (entries.map (·.1))
  return .dict (← makeEntries (.value .null) (keys.zip (entries.map (·.2))))

/-! ### Conversion -/

/-- Converts a tuple: all items by one type before an ellipsis, or each by a type of its own. -/
def convertTuple (arguments : Option (List Hint)) (conversions : List (Hint → Evaluation Hint))
    (first : ItemsConversion) (given : Hint) : Evaluation Hint := do
  match arguments with
  | none => return .tuple (← Hint.itemsOf .notIterated given)
  | some types =>
    if types.any Hint.isEllipsis then
      return .tuple (← first (← Hint.itemsOf .notIterated given))
    else
      let _ ← Hint.lengthOf given
      return .tuple (← convertEach types conversions (← Hint.itemsOf .notIterated given))

/-- Converts a collection of a class that is applied to arguments. -/
def convertCollection (id : Hint.ClassId) (arguments : Option (List Hint))
    (single : List (Hint → Evaluation Hint)) (conversions : List ItemsConversion) (given : Hint) :
    Evaluation Hint := do
  if id.qualifiedName = "collections.Counter" then convertCounts conversions given
  else if Hint.belongsTo id Hint.mappingClass then convertMap id arguments conversions given
  else if id.qualifiedName = "builtins.tuple" then
    convertTuple arguments single (conversionAt conversions 0) given
  else
    collect id (← conversionAt conversions 0 (← Hint.itemsOf .notIterated given))

/-- Converts a value by an annotation that is no class: with null among two arguments, by the first
one. -/
def convertOptional (type : Hint) (single : List (Hint → Evaluation Hint)) (given : Hint) :
    Evaluation Hint :=
  match given, admitsNull type, single with
  | .value .null, _, _ => return given
  | present, true, [first, _] => first present
  | present, _, _ => return present

/-- Converts a value by a type, given what its arguments do. Null is no scalar, and is left alone
anywhere else. -/
def convertWith (type : Hint) (arguments : Option (List Hint))
    (single : List (Hint → Evaluation Hint)) (conversions : List ItemsConversion) (given : Hint) :
    Evaluation Hint :=
  match originOf type, given with
  | .classRef id, .value .null =>
    if isCollection id || arguments.isSome then return given else toScalar id given
  | .classRef id, present =>
    if isCollection id then convertCollection id arguments single conversions present
    else if arguments.isNone then toScalar id present
    else convertOptional type single present
  | _, present => convertOptional type single present

mutual

/-- Converts a value by a type. -/
def convert : Hint → Hint → Evaluation Hint
  | .applied spelling origin arguments, given =>
    convertWith (.applied spelling origin arguments) (some arguments) (conversionsOf arguments)
      (itemsConversionsOf arguments) given
  | .union bars members, given =>
    convertWith (.union bars members) (some members) (conversionsOf members) [] given
  | .qualified form arguments, given =>
    convertWith (.qualified form arguments) (some arguments) (conversionsOf arguments) [] given
  | other, given => convertWith other none [] [] given

/-- What several types do to values. -/
def conversionsOf : List Hint → List (Hint → Evaluation Hint)
  | [] => []
  | first :: others => convert first :: conversionsOf others

/-- What several types do to the items of collections. A list of types has one for each item. -/
def itemsConversionsOf : List Hint → List ItemsConversion
  | [] => []
  | .list types :: others =>
    convertEach types (conversionsOf types) :: itemsConversionsOf others
  | .tuple types :: others =>
    convertEach types (conversionsOf types) :: itemsConversionsOf others
  | first :: others => (fun items => items.mapM (convert first)) :: itemsConversionsOf others

end

end StateContainer.Snapshot
