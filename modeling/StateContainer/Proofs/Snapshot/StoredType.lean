/-
This file singles out the types that persisted fields are made of: texts, integers, truth
values, lists, and maps from texts. A field may admit null besides, at its root.

Which values a type admits is said independently of how they are checked: a truth value is
no integer, and the keys of a map are texts, each of which occurs once.
-/

import StateContainer.Snapshot.Rule
import StateContainer.Proofs.Json.Tree

namespace StateContainer

/-- A type that persisted fields are made of. -/
inductive StoredType where
  | text
  | integer
  | truth
  | list (item : StoredType)
  /-- A map from texts. -/
  | map (item : StoredType)
deriving DecidableEq, Repr, Inhabited

/-! ### Values -/

/-- The entries of a map from texts. -/
def Value.textEntries (pairs : List (String × Value)) : List (Value × Value) :=
  pairs.map fun pair => (.text pair.1, pair.2)

namespace StoredType

/-- Whether a value is one of a type. -/
def Admits : StoredType → Value → Prop
  | text, given => ∃ s, given = .text s
  | integer, given => ∃ n, given = .int n
  | truth, given => ∃ b, given = .bool b
  | list item, given => ∃ items, given = .list items ∧ ∀ part ∈ items, item.Admits part
  | map item, given =>
    ∃ pairs, given = .dict (Value.textEntries pairs) ∧ (pairs.map (·.1)).Nodup ∧
      ∀ pair ∈ pairs, item.Admits pair.2

/-- No type admits null. -/
theorem Admits.ne_null {type : StoredType} {given : Value} (admitted : type.Admits given) :
    given ≠ .null := by
  rintro rfl
  cases type with
  | text => obtain ⟨_, same⟩ := admitted; cases same
  | integer => obtain ⟨_, same⟩ := admitted; cases same
  | truth => obtain ⟨_, same⟩ := admitted; cases same
  | list item => obtain ⟨_, same, _⟩ := admitted; cases same
  | map item => obtain ⟨_, same, _⟩ := admitted; cases same

end StoredType

namespace Value

mutual

/-- Whether a value can be stored: its integers have few enough digits, and the halves of
surrogate pairs are apart in its texts. -/
def IsStorable : Value → Prop
  | int n => Number.isWritable n = true
  | text s => Json.HalvesApart s.toList
  | list items => AreStorable items
  | dict entries => EntriesAreStorable entries
  | _ => True

/-- Whether this is so for all of several values. -/
def AreStorable : List Value → Prop
  | [] => True
  | first :: others => IsStorable first ∧ AreStorable others

/-- Whether this is so for the keys and the values of entries. -/
def EntriesAreStorable : List (Value × Value) → Prop
  | [] => True
  | (key, value) :: others => IsStorable key ∧ IsStorable value ∧ EntriesAreStorable others

end

end Value

/-! ### Annotations and rules -/

namespace StoredType

/-- The classes that the types are made of. -/
def textClass : Hint.ClassId := Hint.builtinClass "str" .closed
def integerClass : Hint.ClassId := Hint.builtinClass "int" .closed
def truthClass : Hint.ClassId := Hint.builtinClass "bool" .closed
def listClass : Hint.ClassId := Hint.builtinClass "list" .free
def mapClass : Hint.ClassId := Hint.builtinClass "dict" .free

/-- What the annotation of a type resolves to. -/
def hint : StoredType → Hint
  | text => .classRef textClass
  | integer => .classRef integerClass
  | truth => .classRef truthClass
  | list item => .applied .plain listClass [item.hint]
  | map item => .applied .plain mapClass [.classRef textClass, item.hint]

/-- The rule that the values of a type are checked by. -/
def rule : StoredType → Snapshot.Rule
  | text => .text
  | integer => .integer
  | truth => .truth
  | list item => .list item.rule
  | map item => .map (some .text) (some item.rule)

end StoredType

/-- The type of a persisted field. -/
structure FieldType where
  type : StoredType
  /-- Null is admitted, too. -/
  nullable : Bool := false
deriving DecidableEq, Repr, Inhabited

namespace FieldType

/-- Whether a value is one of the type of a field. -/
def Admits (field : FieldType) (given : Value) : Prop :=
  (field.nullable = true ∧ given = .null) ∨ field.type.Admits given

/-- What the annotation of a field resolves to. -/
def hint (field : FieldType) : Hint :=
  if field.nullable then .union true [field.type.hint, Hint.nullType] else field.type.hint

/-- The rule that the values of a field are checked by. -/
def rule (field : FieldType) : Snapshot.Rule :=
  if field.nullable then .orNull field.type.rule else field.type.rule

end FieldType

end StateContainer
