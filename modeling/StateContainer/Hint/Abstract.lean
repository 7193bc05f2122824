/-
This file says which classes belong to the abstract ones. A class may belong to
an abstract class without descending from it, by what its instances can do.
-/

import StateContainer.Hint.Attribute

namespace StateContainer.Hint

/-- Classes, each with the abstract ones that it belongs to without descending from them. -/
def abstractClasses : List (String × List String) := [
  ("int", ["SupportsInt", "SupportsFloat", "SupportsAbs", "SupportsIndex", "SupportsRound"]),
  ("float", ["SupportsInt", "SupportsFloat", "SupportsAbs", "SupportsRound"]),
  ("complex", ["SupportsAbs", "SupportsComplex"]),
  ("str", ["Iterable", "Reversible", "Sized", "Container", "Collection", "Sequence"]),
  ("bytes", ["Iterable", "Reversible", "Sized", "Container", "Collection", "Sequence", "ByteString",
      "SupportsBytes"]),
  ("bytearray", ["Iterable", "Reversible", "Sized", "Container", "Collection", "Sequence",
      "MutableSequence", "ByteString"]),
  ("memoryview", ["Iterable", "Reversible", "Sized", "Container", "Collection", "Sequence"]),
  ("range", ["Iterable", "Reversible", "Sized", "Container", "Collection", "Sequence"]),
  ("list", ["Iterable", "Reversible", "Sized", "Container", "Collection", "Sequence",
      "MutableSequence"]),
  ("tuple", ["Iterable", "Reversible", "Sized", "Container", "Collection", "Sequence"]),
  ("dict", ["Iterable", "Reversible", "Sized", "Container", "Collection", "Mapping",
      "MutableMapping"]),
  ("set", ["Iterable", "Sized", "Container", "Collection", "Set", "MutableSet"]),
  ("frozenset", ["Iterable", "Sized", "Container", "Collection", "Set"]),
  ("collections.deque", ["Iterable", "Reversible", "Sized", "Container", "Collection", "Sequence",
      "MutableSequence"]),
  ("generator", ["Iterable", "Iterator", "Generator"]),
  ("enumerate", ["Iterable", "Iterator"]),
  ("filter", ["Iterable", "Iterator"]),
  ("map", ["Iterable", "Iterator"]),
  ("reversed", ["Iterable", "Iterator"]),
  ("zip", ["Iterable", "Iterator"]),
  ("type", ["Callable"]),
  ("datetime.timedelta", ["SupportsAbs"]),
  ("decimal.Decimal", ["SupportsInt", "SupportsFloat", "SupportsAbs", "SupportsRound",
      "SupportsComplex"]),
  ("uuid.UUID", ["SupportsInt"])]

/-- The classes whose instances cannot be keys. -/
def changeableClasses : List String := [
  "list", "dict", "set", "bytearray", "slice", "collections.deque", "collections.OrderedDict",
  "collections.defaultdict", "collections.Counter", "collections.ChainMap", "collections.UserDict",
  "collections.UserList"]

/-- The abstract classes that a class belongs to without descending from them. -/
def abstractNames (id : ClassId) : List String :=
  (if changeableClasses.contains id.partText then [] else ["Hashable"]) ++
    (id.partText :: Vocabulary.ancestors id).flatMap (Vocabulary.paired abstractClasses)

/-- Whether a class is another one, descends from it, or belongs to it if it is abstract. -/
def belongsTo (id other : ClassId) : Bool :=
  (id.partText :: Vocabulary.ancestors id).contains other.partText ||
    ((other.moduleName = "collections.abc" || other.moduleName = "typing") &&
      (abstractNames id).contains other.path)

/-- The class of all collections. -/
def collectionClass : ClassId :=
  { moduleName := "collections.abc", path := "Collection" }

/-- The class of all maps. -/
def mappingClass : ClassId :=
  { moduleName := "collections.abc", path := "Mapping" }

end StateContainer.Hint
