/-
This file holds the classes of a module as far as state definitions depend on
them: their ancestors, the annotations and attributes they declare, how they are
constructed, and, for a record class, its fields.

The fields of a record class are those of its ancestors, in order, each replaced
where it stands by a later field of the same name, and then its own ones.
-/

import StateContainer.Class.Formal
import StateContainer.OrderedMap
import StateContainer.Schema

namespace StateContainer

namespace Class

/-- What makes an empty collection as a default. -/
inductive Factory where
  | list
  | dict
  | set
deriving DecidableEq, Repr, Inhabited

/-- The empty collection. -/
def Factory.make : Factory → Value
  | list => .list []
  | dict => .dict []
  | set => .set []

/-- The remark on a field that its markers are read from. -/
inductive Remark where
  /-- There is none, which means that no marker is set. -/
  | absent
  | markers (markers : Markers)
  /-- There is one that is no markers. -/
  | unresolvable
deriving DecidableEq, Repr, Inhabited

/-- The markers that a remark tells, if it tells any. -/
def Remark.markers? : Remark → Option Markers
  | absent => some {}
  | markers m => some m
  | unresolvable => none

/-- What the declaration of a field says besides its annotation. -/
structure FieldOptions where
  default : Option Value := none
  factory : Option Factory := none
  inConstructor : Bool := true
  byName : Option Bool := none
  remark : Remark := .absent
deriving Repr, Inhabited

/-- A field of a record class. -/
structure Field where
  name : String
  /-- The annotation, which is a text if it was written as one. -/
  type : Hint
  default : Option Value := none
  factory : Option Factory := none
  inConstructor : Bool := true
  byName : Bool := false
  remark : Remark := .absent
  /-- The name is annotated as an attribute of the class, and is no field of instances. -/
  ofClass : Bool := false
deriving Repr, Inhabited

namespace Field

/-- Whether the field has a default of either kind. -/
def hasDefault (f : Field) : Bool :=
  f.default.isSome || f.factory.isSome

/-- The value that the field takes by default. -/
def defaultValue? (f : Field) : Option Value :=
  f.default.or (f.factory.map Factory.make)

end Field

/-- The fields of a record class, and how its instances are kept and shown. -/
structure RecordInfo where
  /-- All fields, those of the class itself included. -/
  allFields : OrderedMap String Field
  /-- Instances cannot be changed. -/
  frozen : Bool
  /-- Instances are shown with their fields. -/
  shown : Bool := true
  /-- Instances have places for their fields and for nothing else. -/
  slotted : Bool := false
deriving Repr, Inhabited

/-- The fields of instances, in order. -/
def RecordInfo.fields (r : RecordInfo) : List Field :=
  r.allFields.values.filter (!·.ofClass)

/-- The view model that a state definition declares: a name, or what is one itself. -/
inductive ViewModel where
  | none
  | named (name : String)
  | known (type : Hint)
deriving Repr, Inhabited

/-- An attribute of a class. -/
inductive Attribute where
  | value (value : Value)
  /-- The options of a field of a class that is no record class. -/
  | options (options : FieldOptions)
  | nested (id : Hint.ClassId)
  /-- The place of a field in instances. -/
  | slot
  /-- A method, by its path. One of the class itself is bound to the class that is asked for it. -/
  | method (path : String) (ofClass : Bool)
deriving Repr, Inhabited

/-- A class as a value. -/
def classValue (id : Hint.ClassId) : Value :=
  .object id.metaName id.wholeText

/-- The value of an attribute of a class, if it is a value. -/
def Attribute.value? (id : Hint.ClassId) : Attribute → Option Value
  | value v => some v
  | nested inner => some (classValue inner)
  | options _ => some (.object "Field" "Field()")
  | method path true =>
    some (.object "method" ("<bound method " ++ path ++ " of " ++ id.wholeText ++ ">"))
  | method path false => some (.object "function" ("<function " ++ path ++ ">"))
  | slot => none

end Class

open StateContainer.Class in
/-- A class. -/
structure ClassInfo where
  id : Hint.ClassId
  /-- The ancestors in the order in which attributes are looked up. -/
  ancestors : List ClassInfo := []
  annotations : OrderedMap String Hint := {}
  attributes : OrderedMap String Attribute := {}
  /-- The constructor that the class itself has. -/
  ownConstructor : Option Constructor := none
  /-- The constructor was written by hand, and does not set the fields. -/
  constructorIsWritten : Bool := false
  /-- The constructor keeps its argument as the delegate of the instance. -/
  keepsDelegate : Bool := false
  /-- The fields, if the class itself was made a record class. -/
  ownRecord : Option RecordInfo := none
  /-- The view model, if the class itself was marked as a state definition. -/
  ownState : Option ViewModel := none
deriving Inhabited

namespace ClassInfo

open StateContainer.Class

/-- The name of the class without the classes around it. -/
def name (c : ClassInfo) : String :=
  c.id.simpleName

/-- The class and its ancestors, in the order in which attributes are looked up. -/
def lineage (c : ClassInfo) : List ClassInfo :=
  c :: c.ancestors

/-- The fields, if the class or an ancestor was made a record class. -/
def record? (c : ClassInfo) : Option RecordInfo :=
  c.lineage.findSome? (·.ownRecord)

/-- The constructor of the class or of the first ancestor that has one, with that class. -/
def constructor? (c : ClassInfo) : Option (ClassInfo × Constructor) :=
  c.lineage.findSome? fun ancestor => ancestor.ownConstructor.map (ancestor, ·)

/-- An attribute of the class or of the first ancestor that has it. -/
def attribute? (c : ClassInfo) (name : String) : Option Attribute :=
  c.lineage.findSome? (·.attributes.get? name)

/-- Whether instances have no places but those of fields. -/
def isSlotted (c : ClassInfo) : Bool :=
  c.lineage.all fun ancestor => (ancestor.ownRecord.map (·.slotted)).getD false

/-- Whether the class itself adds places to instances. -/
def addsSlots (c : ClassInfo) : Bool :=
  c.attributes.values.any fun kept => match kept with | .slot => true | _ => false

/-- Whether the class is a state definition itself. -/
def isState (c : ClassInfo) : Bool :=
  c.ownState.isSome

/-- Whether the class is another one or has it among its ancestors. -/
def inherits (c : ClassInfo) (id : Hint.ClassId) : Bool :=
  c.lineage.any (·.id = id)

end ClassInfo

end StateContainer
