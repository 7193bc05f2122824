/-
This file builds classes from their declarations.

A class gets its annotations and attributes first. Where it is declared as a
record class, its fields are collected, and the constructor is made from them
unless one is written by hand. A class that is marked as a state definition and
is no record class yet becomes a frozen one whose fields are given by name. The
first rule that a declaration breaks is reported.
-/

import StateContainer.Class
import StateContainer.Hint.Resolve
import StateContainer.Text.Identifier

namespace StateContainer.Class

/-! ### Declarations -/

/-- The attribute that a field is declared with. -/
inductive DeclaredAttribute where
  | none
  | value (value : Value)
  | options (options : FieldOptions)
  /-- Markers of which there is no one of the given name. -/
  | unknownMarker (name : String)
deriving Repr, Inhabited

/-- The annotation of a field: an expression that is evaluated at once, or one that is kept as a
text. -/
structure DeclaredField where
  name : String
  type : String
  quoted : Bool := false
  carried : DeclaredAttribute := .none
deriving Repr, Inhabited

/-- How a class is made a record class. -/
structure RecordOptions where
  constructor : Bool := true
  frozen : Bool := false
  byName : Bool := false
  equality : Bool := true
  order : Bool := false
  /-- Instances are shown with their fields. -/
  shown : Bool := true
  /-- Instances have places for their fields and for nothing else. -/
  slotted : Bool := false
  /-- Weak references are asked for. -/
  weakly : Bool := false
  /-- The first option that there is not. -/
  unknown : Option String := none
deriving Repr, Inhabited

/-- The view model that a declaration names: by a text, or by a path in the module. -/
inductive DeclaredViewModel where
  | none
  | named (name : String)
  | atPath (path : String)
deriving Repr, Inhabited

/-- The declaration of a class. -/
structure Declaration where
  name : String
  /-- The module that the class says it belongs to, if that is another one. -/
  moduleName : Option String := none
  bases : List String := []
  fields : List DeclaredField := []
  /-- The parameters of a constructor that is written by hand. -/
  constructor : Option String := none
  /-- The constructor takes a delegate and keeps it. -/
  isModel : Bool := false
  nested : List Declaration := []
  record : Option RecordOptions := none
  state : Option DeclaredViewModel := none
  /-- Bases that do not belong to the module; they come before the others. -/
  outside : List ClassInfo := []
deriving Inhabited

/-! ### Errors -/

/-- Why a class cannot be built. -/
inductive BuildError where
  | hint (fault : Hint.Fault)
  /-- A default can be changed by those who use it. -/
  | mutableDefault (kind field : String)
  | twoDefaults
  | defaultOrder (field : String)
  | frozenAncestor
  | changeableAncestor
  | classFieldFactory (field : String)
  | classFieldByName (field : String)
  | unannotatedField (field : String)
  /-- An attribute is to be taken away from a class that only inherits it. -/
  | noOwnAttribute (className name : String)
  | orderWithoutEquality
  /-- The module of a class with texts as annotations is not known. -/
  | unknownModule
  /-- A base is no class. -/
  | strangeBase
  /-- A base is no class, but stands for one. -/
  | indirectBase
  /-- A base is a class from which none can be made. -/
  | refusedBase (text : String)
  /-- The classes of a base have members that are counted. -/
  | countedBase
  | repeatedBase (name : String)
  | inconsistentAncestors (names : List String)
  /-- Two bases give their instances places of their own. -/
  | conflictingSlots
  /-- The parameters of a constructor are malformed. -/
  | malformedConstructor (problem : Hint.Problem)
  /-- A constructor has no place for the instance. -/
  | instanceMissing
  /-- The name of a field cannot be that of a parameter. -/
  | malformedField (line : Nat) (shown : Bool)
  /-- The name of a field is not in its normal form. -/
  | unnormalField (name : String)
  /-- There is no option of that name, or no marker. -/
  | unknownOption (name : String)
  | unknownMarker (name : String)
  | weakWithoutSlots
deriving Repr

/-- The name of the class of an error. -/
def BuildError.className : BuildError → String
  | hint fault => fault.className
  | mutableDefault _ _ => "ValueError"
  | twoDefaults => "ValueError"
  | orderWithoutEquality => "ValueError"
  | unknownModule => "AttributeError"
  | noOwnAttribute _ _ => "AttributeError"
  | countedBase => "AttributeError"
  | malformedConstructor problem => problem.className
  | malformedField _ _ => "SyntaxError"
  | instanceMissing => "ValueError"
  | _ => "TypeError"

/-- The wording of an error. -/
def BuildError.message : BuildError → String
  | hint fault => fault.message
  | mutableDefault kind field =>
    s!"mutable default <class '{kind}'> for field {field} is not allowed: use default_factory"
  | twoDefaults => "cannot specify both default and default_factory"
  | defaultOrder field => "non-default argument " ++ Text.quoted field ++ " follows default argument"
  | frozenAncestor => "cannot inherit non-frozen dataclass from a frozen one"
  | changeableAncestor => "cannot inherit frozen dataclass from a non-frozen one"
  | classFieldFactory field => s!"field {field} cannot have a default factory"
  | classFieldByName field => s!"field {field} is a ClassVar but specifies kw_only"
  | unannotatedField field => Text.quoted field ++ " is a field but has no type annotation"
  | noOwnAttribute className name =>
    "type object '" ++ Text.shortName 50 className ++ s!"' has no attribute '{name}'"
  | orderWithoutEquality => "eq must be true if order is true"
  | unknownModule => "'NoneType' object has no attribute '__dict__'"
  | strangeBase =>
    "metaclass conflict: the metaclass of a derived class must be a (non-strict) subclass of the " ++
      "metaclasses of all its bases"
  | indirectBase => "type() doesn't support MRO entry resolution; use types.new_class()"
  | refusedBase text => text
  | countedBase => "'dict' object has no attribute '_member_names'"
  | repeatedBase name => s!"duplicate base class {name}"
  | inconsistentAncestors names =>
    "Cannot create a consistent method resolution\norder (MRO) for bases " ++ ", ".intercalate names
  | conflictingSlots => "multiple bases have instance lay-out conflict"
  | malformedConstructor problem => problem.message
  | instanceMissing => "invalid method signature"
  | malformedField line shown =>
    (if shown then "f-string: " else "") ++ s!"invalid syntax (<string>, line {line})"
  | unnormalField name => s!"__create_fn__() got an unexpected keyword argument '_type_{name}'"
  | unknownMarker name => s!"state_field() got an unexpected keyword argument '{name}'"
  | unknownOption name => s!"dataclass() got an unexpected keyword argument '{name}'"
  | weakWithoutSlots => "weakref_slot is True but slots is False"

/-- A class or something else that is built, or why it cannot be, and what is remembered. -/
abbrev Building := ExceptT BuildError (StateM Hint.Memory)

/-- Takes an error of an annotation as one of the class. -/
def ofEvaluation {α : Type} (evaluation : Hint.Evaluation α) : Building α :=
  evaluation.adapt .hint

/-! ### Ancestors -/

/-- The first class that heads one of the lists and stands behind no head. -/
def nextAncestor? (lists : List (List ClassInfo)) : Option ClassInfo :=
  (lists.filterMap List.head?).find? fun candidate =>
    lists.all fun list => !(list.drop 1).any (·.id = candidate.id)

/-- Merges lists of ancestors so that the order of each is kept. -/
def mergeAncestors : Nat → List (List ClassInfo) → Option (List ClassInfo)
  | 0, lists => if lists.all List.isEmpty then some [] else none
  | fuel + 1, lists =>
    if lists.all List.isEmpty then some []
    else
      match nextAncestor? lists with
      | none => none
      | some next =>
        let remaining := lists.map fun list =>
          if (list.head?.map (·.id)) = some next.id then list.drop 1 else list
        (mergeAncestors fuel remaining).map (next :: ·)

/-- The first of several classes that is named again. -/
def repeatedClass? : List ClassInfo → Option ClassInfo
  | [] => none
  | first :: others => if others.any (·.id = first.id) then some first else repeatedClass? others

/-- The classes from which none can be made since they stand for a notion of types. -/
def closedClasses : List String :=
  ["ForwardRef", "TypeVar", "ParamSpec", "TypeVarTuple", "ParamSpecArgs", "ParamSpecKwargs"].map
    ("typing." ++ ·)

/-- Refuses bases from which no class can be made at all. -/
def checkBases (bases : List ClassInfo) : Building Unit := do
  if bases.any (·.id.metaName = "EnumType") then throw .countedBase
  if bases.any (·.id.qualifiedName = "datetime.timezone") then
    throw (.refusedBase "type 'datetime.timezone' is not an acceptable base type")

/-- Refuses bases that do not admit a class of the given identity. -/
def checkDescent (id : Hint.ClassId) (bases : List ClassInfo) : Building Unit := do
  let names := bases.map (·.id.qualifiedName)
  if names.any closedClasses.contains then
    throw (.refusedBase "Cannot subclass special typing classes")
  if names.contains "typing.Annotated" then
    throw (.refusedBase ("Cannot subclass " ++ id.moduleName ++ ".Annotated"))
  if names.contains "typing.Generic" && id.simpleName ≠ "Protocol" then
    throw (.refusedBase "Cannot inherit from plain Generic")

/-- The ancestors of a class with the given bases, which have to differ. -/
def ancestorsOf (bases : List ClassInfo) : Building (List ClassInfo) :=
  let lists := bases.map (·.lineage) ++ [bases]
  match repeatedClass? bases, mergeAncestors lists.flatten.length lists with
  | some repeated, _ => throw (.repeatedBase repeated.name)
  | none, some ancestors =>
    if haveConflict (bases.filterMap slotsOf?) then throw .conflictingSlots else return ancestors
  | none, none => throw (.inconsistentAncestors (bases.map (·.name)))
where
  /-- The first ancestor of a class that gives instances places of their own. -/
  slotsOf? (c : ClassInfo) : Option ClassInfo :=
    c.lineage.find? (·.addsSlots)
  /-- Whether two classes give instances places of their own and none descends from the other. -/
  haveConflict : List ClassInfo → Bool
    | [] => false
    | first :: others =>
      others.any (fun c => !c.inherits first.id && !first.inherits c.id) || haveConflict others

/-! ### Fields -/

/-- Whether an annotation says that the name belongs to the class. -/
def isClassQualifier : Hint → Bool
  | .form name => name = "ClassVar"
  | .qualified name _ => name = "ClassVar"
  | _ => false

/-- The first word of a text, or the first two if a dot stands between them; blanks may surround
each of them. -/
def leadingWords (text : List Char) : Option String × String :=
  let start := Text.trimStart text
  let first := start.takeWhile Text.isWordChar
  match Text.trimStart (start.dropWhile Text.isWordChar) with
  | '.' :: rest =>
    let second := (Text.trimStart rest).takeWhile Text.isWordChar
    if second.isEmpty || first.isEmpty then (none, String.ofList first)
    else (some (String.ofList first), String.ofList second)
  | _ => (none, String.ofList first)

/-- Whether a text says that the name belongs to the class. The text is not evaluated: only its
first words count. -/
def textQualifies (names : String → Option Hint) (text : String) : Bool :=
  match leadingWords text.toList with
  | (none, word) =>
    match names word with
    | some (.form "ClassVar") => true
    | _ => false
  | (some qualifier, word) =>
    match names qualifier with
    | some (.moduleRef "typing") => word = "ClassVar"
    | _ => false

/-- What is known of the module that a class says it belongs to. -/
structure Surroundings where
  /-- The names of the module; nothing if there is no such module. -/
  names : Option (String → Option Hint)

/-- Whether an annotation says that the name belongs to the class. -/
def belongsToClass (surroundings : Surroundings) (type : Hint) : Building Bool :=
  match type with
  | .value (.text text) =>
    match surroundings.names with
    | some names => return textQualifies names text
    | none =>
      if (leadingWords text.toList).1.isSome || (leadingWords text.toList).2 = "" then return false
      else throw .unknownModule
  | other => return isClassQualifier other

/-- The class of a value that can be changed. -/
def changeableKind? : Value → Option String
  | .list _ => some "list"
  | .dict _ => some "dict"
  | .set _ => some "set"
  | .object "mappingproxy" _ => some "mappingproxy"
  | _ => none

/-- The methods of the class of abstract classes. -/
def abstractMethods : List String :=
  ["register", "_dump_registry", "_abc_registry_clear", "_abc_caches_clear"]

/-- What every class has under a name. -/
def commonAttribute? (id : Hint.ClassId) (name : String) : Option Value :=
  match name with
  | "__doc__" => some .null
  | "__module__" => some (.text id.moduleName)
  | "__name__" => some (.text id.simpleName)
  | "__qualname__" => some (.text id.path)
  | "__annotations__" => some (.dict [])
  | "__dict__" => some (.object "mappingproxy" "mappingproxy(\x7b\x7d)")
  | _ =>
    if id.metaName = "ABCMeta" && abstractMethods.contains name then
      (Attribute.method ("ABCMeta." ++ name) true).value? id
    else if Hint.Vocabulary.objectMethods.contains name then
      some (.object "wrapper_descriptor" ("<slot wrapper '" ++ name ++ "' of 'object' objects>"))
    else if Hint.Vocabulary.typeMethods.contains name then
      some (.object "builtin_function_or_method" ("<built-in method " ++ name ++ " of type object>"))
    else none

/-- What the attribute of an annotated name says about the field. -/
def optionsOf (id : Hint.ClassId) (name : String) : Option Attribute → FieldOptions
  | some (.options options) => options
  | some .slot => {}
  | some other => { default := other.value? id }
  | none => { default := commonAttribute? id name }

/-- The field of an annotated name. -/
def fieldOf (surroundings : Surroundings) (byName : Bool) (c : ClassInfo) (name : String)
    (type : Hint) : Building Field := do
  let options := optionsOf c.id name (c.attribute? name)
  let ofClass ← belongsToClass surroundings type
  if ofClass then
    if options.factory.isSome then throw (.classFieldFactory name)
    if options.byName.isSome then throw (.classFieldByName name)
  else
    match options.default.bind changeableKind? with
    | some kind => throw (.mutableDefault kind name)
    | none => pure ()
  return {
    name, type, ofClass
    default := options.default
    factory := options.factory
    inConstructor := options.inConstructor
    byName := options.byName.getD byName
    remark := options.remark }

/-- Whether an attribute holds the options of a field. -/
def isOptions : Attribute → Bool
  | .options _ => true
  | _ => false

/-- Leaves the default of a field as the attribute of its class, and no options. Options without a
default are taken away, which is possible only where the class itself has them. -/
def settleAttribute (c : ClassInfo) (field : Field) : Building ClassInfo :=
  match c.attribute? field.name, field.default with
  | some (.options _), some value =>
    return { c with attributes := c.attributes.insert field.name (.value value) }
  | some (.options _), none =>
    if c.attributes.contains field.name then
      return { c with attributes := ⟨c.attributes.entries.filter (·.1 ≠ field.name)⟩ }
    else throw (.noOwnAttribute c.name field.name)
  | _, _ => return c

/-! ### Record classes -/

/-- The parameter of a field. -/
def formalOf (kind : Hint.ParameterKind) (field : Field) : Formal :=
  { name := field.name, kind, type := some field.type, hasDefault := field.hasDefault }

/-- The parameters of the fields: those that may be given by position come first. -/
def formalsOf (fields : List Field) : List Formal :=
  let given := fields.filter (·.inConstructor)
  (given.filter (!·.byName)).map (formalOf .either) ++ (given.filter (·.byName)).map (formalOf .name)

/-- The first field without a default behind one that has a default. -/
def misplaced? : List Field → Option Field
  | [] => none
  | first :: others =>
    if first.hasDefault then others.find? (!·.hasDefault) else misplaced? others

/-- The fields that a class takes over from its ancestors. -/
def inheritedFields (c : ClassInfo) : OrderedMap String Field :=
  c.ancestors.reverse.foldl (fun fields ancestor =>
    match ancestor.record? with
    | some record => record.allFields.values.foldl (fun all f => all.insert f.name f) fields
    | none => fields) {}

/-- Checks the names of fields as the names of parameters. A reserved word cannot be one, and a
name that is not in its normal form is not found again. -/
def checkNames (fields : List Field) : Building Unit := do
  match fields.find? fun f => f.inConstructor && isReserved f.name with
  | some _ => throw (.malformedField 2 false)
  | none => pure ()
  match fields.find? fun f => Text.normalName f.name ≠ f.name with
  | some f => throw (.unnormalField f.name)
  | none => pure ()
where
  /-- Whether a name is a reserved word, or no name at all. -/
  isReserved (name : String) : Bool :=
    Hint.Token.keywords.contains name || name.isEmpty

/-- Gives instances places for their fields and for nothing else, where no ancestor gives them
those. -/
def addSlots (fields : List Field) (c : ClassInfo) : ClassInfo :=
  let names := fields.map (·.name)
  let kept := c.attributes.entries.filter fun (name, _) => !names.contains name
  let isInherited (name : String) : Bool :=
    c.ancestors.any fun ancestor =>
      match ancestor.attributes.get? name with
      | some .slot => true
      | _ => false
  let added := (names.filter (!isInherited ·)).map fun name => (name, Attribute.slot)
  { c with attributes := ⟨kept ++ added⟩ }

/-- The constructor that is made from fields. The parameter that takes the instance has a name of
its own. -/
def constructorOf (c : ClassInfo) (fields : List Field) : Constructor :=
  let receiver := if fields.any (·.name = "self") then "__dataclass_self__" else "self"
  { owner := c.id.simpleName, receiver := some { name := receiver }, formals := formalsOf fields }

/-- Makes a class a record class. -/
def makeRecord (surroundings : Surroundings) (options : RecordOptions) (c : ClassInfo) :
    Building ClassInfo := do
  match options.unknown with
  | some name => throw (.unknownOption name)
  | none => pure ()
  let records := c.ancestors.filterMap (·.record?)
  let own ← c.annotations.entries.mapM fun (name, type) =>
    fieldOf surroundings options.byName c name type
  let c ← own.foldlM settleAttribute c
  match c.attributes.entries.find? fun (name, kept) => isOptions kept && !c.annotations.contains name with
  | some (name, _) => throw (.unannotatedField name)
  | none => pure ()
  if !records.isEmpty then
    let anyFrozen := records.any (·.frozen)
    if anyFrozen && !options.frozen then throw .frozenAncestor
    if !anyFrozen && options.frozen then throw .changeableAncestor
  if options.order && !options.equality then throw .orderWithoutEquality
  let fields := own.foldl (fun all f => all.insert f.name f) (inheritedFields c)
  let record : RecordInfo :=
    { allFields := fields, frozen := options.frozen, shown := options.shown
      slotted := options.slotted }
  if options.constructor then
    match misplaced? (record.fields.filter fun f => f.inConstructor && !f.byName) with
    | some f => throw (.defaultOrder f.name)
    | none => pure ()
    checkNames record.fields
  if options.shown && record.fields.any fun f => Hint.Token.keywords.contains f.name then
    throw (.malformedField 3 true)
  let made := constructorOf c record.fields
  let finished := { c with
    ownRecord := some record
    ownConstructor := if options.constructor then c.ownConstructor.or (some made) else c.ownConstructor }
  match finished.constructor? with
  | some (_, constructor) => if !constructor.takesInstance then throw .instanceMissing
  | none => pure ()
  if options.slotted then return addSlots record.fields finished
  else if options.weakly then throw .weakWithoutSlots
  else return finished

/-- The record class that a state definition becomes by itself. -/
def stateRecordOptions : RecordOptions := { frozen := true, byName := true }

/-- Marks a class as a state definition. -/
def markState (surroundings : Surroundings) (viewModel : ViewModel) (c : ClassInfo) :
    Building ClassInfo := do
  let record ←
    if c.record?.isSome then pure c else makeRecord surroundings stateRecordOptions c
  return { record with ownState := some viewModel }

end StateContainer.Class
