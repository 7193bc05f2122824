/-
This file holds the instances of record classes: how they are constructed from
arguments, how a field is read and assigned, and how an instance is shown.

A constructor that is made from the fields sets each of them to its argument or
to its default. One that is written by hand sets nothing, so that a field is then
read from the class.
-/

import StateContainer.Class

namespace StateContainer

open StateContainer.Class

/-- An instance of a class. -/
structure Instance where
  ofClass : ClassInfo
  values : OrderedMap String Value := {}
deriving Inhabited

namespace Instance

/-- Why something cannot be done with an instance. -/
inductive InstanceError where
  | binding (error : Hint.BindingError)
  | frozenField (name : String)
  | unknownAttribute (className name : String)
  /-- An attribute of the class hides that instances have no place for the name. -/
  | fixedAttribute (className name : String)
  /-- A frozen class was made anew with places for its fields, and does not know its instances. -/
  | strangeInstance
  /-- The fields of something are asked for that is no record. -/
  | noRecord
deriving Repr

/-- The name of the class of an error. -/
def InstanceError.className : InstanceError → String
  | binding _ => "TypeError"
  | frozenField _ => "FrozenInstanceError"
  | unknownAttribute _ _ => "AttributeError"
  | fixedAttribute _ _ => "AttributeError"
  | strangeInstance => "TypeError"
  | noRecord => "TypeError"

/-- The wording of an error. -/
def InstanceError.message : InstanceError → String
  | binding error => error.message
  | frozenField name => "cannot assign to field " ++ Text.quoted name
  | unknownAttribute className name => s!"'{className}' object has no attribute '{name}'"
  | fixedAttribute className name =>
    "'" ++ Text.shortName 50 className ++ s!"' object attribute '{name}' is read-only"
  | strangeInstance => "super(type, obj): obj must be an instance or subtype of type"
  | noRecord => "must be called with a dataclass type or instance"

/-! ### Fields -/

/-- The fields of an instance, which has to be a record. -/
def fields (i : Instance) : Except InstanceError (List Field) :=
  match i.ofClass.record? with
  | some record => .ok record.fields
  | none => .error .noRecord

/-- The value of a field, from the instance or else from its class. -/
def get (i : Instance) (name : String) : Except InstanceError Value :=
  match (i.values.get? name).or ((i.ofClass.attribute? name).bind (Attribute.value? i.ofClass.id)) with
  | some value => .ok value
  | none => .error (.unknownAttribute (Text.shortName 50 i.ofClass.name) name)

/-- The error by which a frozen record class forbids the assignment, if one does. One that is an
ancestor forbids it for its own fields alone. -/
def refusal? (i : Instance) (name : String) : Option InstanceError :=
  i.ofClass.lineage.findSome? fun ancestor =>
    match ancestor.ownRecord with
    | none => none
    | some record =>
      if !record.frozen then none
      else if record.fields.any (·.name = name) then some (.frozenField name)
      else if record.slotted then some .strangeInstance
      else if ancestor.id = i.ofClass.id then some (.frozenField name)
      else none

/-- The instance with a value assigned. -/
def set (i : Instance) (name : String) (value : Value) : Except InstanceError Instance :=
  let changed := { i with values := i.values.insert name value }
  match i.refusal? name with
  | some error => .error error
  | none =>
    if !i.ofClass.isSlotted then .ok changed
    else
      match i.ofClass.attribute? name with
      | some .slot => .ok changed
      | some _ => .error (.fixedAttribute i.ofClass.name name)
      | none => .error (.unknownAttribute (Text.shortName 100 i.ofClass.name) name)

/-! ### Construction -/

/-- The value that a constructor gives to a field; nothing if the field is left to the class. Where
instances have places for their fields, the class keeps no defaults. -/
def initialValue? (slotted : Bool) (bound : List (String × Value)) (field : Field) : Option Value :=
  if field.inConstructor then (bound.lookup field.name).or field.defaultValue?
  else if slotted then field.defaultValue?
  else field.factory.map Factory.make

/-- Gives a field its first value. Where the record class is frozen, this does not count as an
assignment. -/
def start (frozen : Bool) (i : Instance) (name : String) (value : Value) :
    Except InstanceError Instance :=
  if frozen then .ok { i with values := i.values.insert name value } else i.set name value

/-- Sets the fields of a record class. -/
def ofFields (c : ClassInfo) (record : RecordInfo) (bound : List (String × Value)) :
    Except InstanceError Instance :=
  record.fields.foldlM (fun i field =>
    match initialValue? record.slotted bound field with
    | some value => i.start record.frozen field.name value
    | none => .ok i) { ofClass := c }

/-- What a view model keeps its delegate as. -/
def delegateName : String := "delegate"

/-- Sets what a constructor that is written by hand sets. -/
def ofWritten (c owner : ClassInfo) (bound : List (String × Value)) : Except InstanceError Instance :=
  match owner.keepsDelegate, bound.lookup delegateName with
  | true, some delegate => set { ofClass := c } delegateName delegate
  | _, _ => .ok { ofClass := c }

/-- An instance of a class, constructed from arguments. -/
def make (c : ClassInfo) (arguments : List Value) (named : List (String × Value)) :
    Except InstanceError Instance :=
  match c.constructor? with
  | none =>
    if arguments.isEmpty && named.isEmpty then .ok { ofClass := c }
    else .error (.binding (.noArguments c.name))
  | some (owner, constructor) => do
    let bound ← (constructor.bind arguments named).mapError .binding
    if owner.constructorIsWritten then ofWritten c owner bound
    else
      match owner.ownRecord with
      | some record => ofFields c record bound
      | none => return { ofClass := c }

/-! ### Showing -/

/-- All fields with their values. -/
def entries (i : Instance) : Except InstanceError (List (String × Value)) :=
  i.fields >>= List.mapM fun field => do return (field.name, ← i.get field.name)

/-- The fields that an instance is shown with: those of the first ancestor that shows them. -/
def shownFields (i : Instance) : List Field :=
  let records := i.ofClass.lineage.filterMap (·.ownRecord)
  ((records.find? (·.shown)).map (·.fields)).getD []

/-- An instance as it is shown: the path of its class, and its fields. -/
def text (i : Instance) : Except InstanceError String := do
  let shown ← i.shownFields.mapM fun field => do return (field.name, ← i.get field.name)
  let parts := shown.map fun (name, value) => name ++ "=" ++ value.literal
  return i.ofClass.id.path ++ "(" ++ ", ".intercalate parts ++ ")"

end Instance

end StateContainer
