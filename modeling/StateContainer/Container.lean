/-
This file makes the generated types of a definition ready for use: the record of
the definition itself, the class of its snapshots, the class of its inputs, and
its view model.

The annotations of a snapshot are texts of the generated module and are resolved
there, so that they see the modules which the generated module imports and
nothing of the module of the definition but the definition.
-/

import StateContainer.Class.Index
import StateContainer.Class.Metadata
import StateContainer.Container.Code
import StateContainer.Failure
import StateContainer.ModuleText

namespace StateContainer

open StateContainer.Class

/-! ### Errors -/

/-- Why a generated module cannot be loaded. -/
inductive LoadError where
  | malformed (flaw : Code.Flaw)
  | missing (error : ModuleIndex.Error)
  | noName (moduleName name : String)
  /-- A class of the generated module cannot be built. -/
  | build (error : BuildError)
  /-- A class that stands where another one was expected does not take the arguments. -/
  | call (error : Instance.InstanceError)
  | failed (cause : Hint.Fault)
deriving Repr

namespace LoadError

/-- The name of the class of an error. -/
def className : LoadError → String
  | malformed _ => "SyntaxError"
  | missing error => error.className
  | noName _ _ => "ImportError"
  | build error => error.className
  | call error => error.className
  | failed cause => cause.className

/-- The wording of an error. -/
def message : LoadError → String
  | malformed flaw => flaw.message
  | missing error => error.message
  | noName moduleName name => s!"cannot import name '{name}' from '{moduleName}' (unknown location)"
  | build error => error.message
  | call error => error.message
  | failed cause => cause.message

end LoadError

/-- What is loaded, or why it cannot be. -/
abbrev Loading := Except LoadError

/-! ### Generated types in use -/

/-- The generated types of a definition, ready for use. -/
structure Container where
  artifacts : ArtifactSet
  /-- The module of the definition. -/
  surroundings : ClassModule
  /-- The class of the definition itself. -/
  record : ClassInfo
  snapshotClass : Option SnapshotClass
  inputClass : Option ClassInfo
  viewModel : Option Hint
  /-- The classes that stand where classes and functions of the runtime were expected, since the
  definition or its view model has the same name. -/
  standIns : OrderedMap String ClassInfo := {}

namespace Container

/-! ### Modules and names -/

/-- The modules that a generated module may import. -/
def index (m : ClassModule) : ModuleIndex :=
  .ofNames [m.name]

/-- Loads a module: every module around it has to be there. -/
def loadModule (m : ClassModule) (name : String) : Loading Unit :=
  ((index m).find name).mapError .missing

/-- The members of the modules that the generated module may use, that of the definition
included. -/
def memberOf (m : ClassModule) (moduleName name : String) : Option Hint :=
  if moduleName = m.name then m.bound? name
  else if (index m).contains (moduleName ++ "." ++ name) then some (.moduleRef (moduleName ++ "." ++ name))
  else m.members moduleName name

/-- The class of the module that something is. -/
def classOf? (m : ClassModule) (found : Hint) : Option ClassInfo :=
  match found with
  | .classRef id => m.classOf? id
  | _ => none

/-- What the name of another module is bound to. -/
def importName (m : ClassModule) (moduleName name : String) : Loading Hint := do
  loadModule m moduleName
  let written := Text.normalName name
  match memberOf m moduleName written with
  | some found => return found
  | none => throw (.noName moduleName written)

/-- Follows a path of names inside something. -/
def follow (m : ClassModule) (owner : Hint) (path : List String) : Loading Hint :=
  let scope : Hint.Scope :=
    { lookup := m.bound?, inner := m.bound?, classMember := m.classMember?
      moduleMember := memberOf m, moduleName := m.name }
  let found := path.foldlM (fun owner name => Hint.attributeOf scope (Text.normalName name) owner) owner
  (found.value m.memory).mapError .failed

/-! ### The generated module -/

/-- The names that the generated module binds by its imports. -/
def importedNames (a : ArtifactSet) (definitions : List (String × Hint)) : List (String × Hint) :=
  (a.typeImports.map fun name =>
      (QualifiedName.outermost name, Hint.moduleRef (QualifiedName.outermost name))) ++
    [("ClassVar", .form "ClassVar"), ("dataclasses", .moduleRef "dataclasses")] ++
    (a.runtimeNames.map fun name => (name, .classRef { moduleName := a.moduleName, path := name })) ++
    definitions

/-- The module of the generated types, before they are declared. -/
def generatedModule (m : ClassModule) (a : ArtifactSet) (definitions : List (String × Hint)) :
    ClassModule where
  name := a.moduleName
  names := OrderedMap.ofList (importedNames a definitions)
  classes := m.classes
  common _ := none
  members := memberOf m
  memory := { m.memory with bindings := {} }

/-- The declaration of a type whose members are fields. -/
def fieldsDeclaration (type : GeneratedType) (bases : List ClassInfo) : Declaration where
  name := Text.normalName type.name
  fields := type.members.map fun f =>
    { name := Code.insideName type.name f.name, type := Annotation.kept f.typeText, quoted := true }
  record := some {}
  outside := bases

/-- The constructor of a class takes so many arguments by position. -/
def checkCall (c : ClassInfo) (count : Nat) : Except Instance.InstanceError Unit := do
  let _ ← Instance.make c (List.replicate count (.object "object" "<object object>")) []

/-- Declares a generated type, if there is one. -/
def declareFields (standIns : OrderedMap String ClassInfo) (bases : List ClassInfo)
    (generated : ClassModule) (type : Option GeneratedType) :
    Loading (ClassModule × Option ClassInfo) :=
  match type with
  | none => .ok (generated, none)
  | some type => do
    match standIns.get? "dataclass" with
    | some c => (checkCall c 1).mapError .call
    | none => pure ()
    let declaration := fieldsDeclaration type bases
    match (generated.declare declaration).run generated.memory with
    | (.ok declared, memory) =>
      return ({ declared with memory }, (declared.names.get? declaration.name).bind declared.classFor?)
    | (.error error, _) => throw (.build error)

/-- The names of a generated module that a definition may take. -/
def takenNames (a : ArtifactSet) : List String :=
  ["Protocol", "dataclass", "dataclasses"] ++ a.runtimeNames

/-- The classes that stand where others were expected. -/
def standInsOf (m : ClassModule) (a : ArtifactSet) (definitions : List (String × Hint)) :
    OrderedMap String ClassInfo :=
  OrderedMap.ofList (definitions.filterMap fun (name, found) =>
    if (takenNames a).contains name then (classOf? m found).map (name, ·) else none)

/-- The type of factories has to take the type of delegates as an argument. -/
def checkFactory (standIns : OrderedMap String ClassInfo) : Loading Unit :=
  match standIns.get? "StateFactory" with
  | some c => throw (.failed (.misuse (.closedClass c.name)))
  | none => return ()

/-- Loads the generated types of a definition: first the imports, then the types in order. -/
def load (m : ClassModule) (definition : ClassInfo) (a : ArtifactSet) : Loading Container := do
  match Code.flaw? a with
  | some flaw => throw (.malformed flaw)
  | none => pure ()
  a.typeImports.forM (loadModule m)
  let record ← importName m a.schema.definition.moduleName a.name
  let root ← a.viewModel?.mapM fun (moduleName, path) =>
    let name := QualifiedName.outermost path
    return (Text.normalName name, ← importName m moduleName name)
  let definitions := (Text.normalName a.name, record) :: root.toList
  let standIns := standInsOf m a definitions
  let base := (standIns.get? "Snapshot").getD Snapshot.baseClass
  let (withSnapshot, snapshot) ←
    declareFields standIns [base] (generatedModule m a definitions) a.snapshot
  let (generated, inputClass) ← declareFields standIns [] withSnapshot a.input
  checkFactory standIns
  let viewModel ← a.viewModel?.mapM fun (_, path) =>
    follow m ((root.map (·.2)).getD record) ((Text.dottedParts path).drop 1)
  return {
    artifacts := a
    surroundings := m
    record := (classOf? m record).getD definition
    snapshotClass := snapshot.map fun info => { surroundings := generated, info }
    inputClass
    viewModel
    standIns }

/-- The class of the module of the definition that something is. -/
def classIn? (c : Container) (found : Hint) : Option ClassInfo :=
  classOf? c.surroundings found

/-! ### Surface -/

/-- The names that the delegate has from the class that stands for its interface. -/
def inheritedNames (c : Container) : List String :=
  match c.standIns.get? "Protocol" with
  | some found => found.lineage.flatMap (·.attributes.keys)
  | none => []

/-- The public names of the delegate, in ascending order. -/
def publicNames (c : Container) : List String :=
  let own := c.artifacts.delegate.memberNames ++ c.inheritedNames
  let names := own.filter fun name => name.toList.head? ≠ some '_'
  let all := if c.artifacts.snapshotKey.isSome then "SNAPSHOT_KEY" :: names else names
  all.eraseDups.mergeSort (· ≤ ·)

/-- The text of the annotation of a field. -/
def annotationText (field : Class.Field) : String :=
  match field.type with
  | .value (.text written) => written
  | other => other.qualifiedName

/-- The fields of a generated class with their annotations. -/
def annotatedFields (generated : ClassInfo) : List (String × String) :=
  ((generated.record?.map (·.fields)).getD []).map fun field => (field.name, annotationText field)

/-- The fields that snapshots have, if there are snapshots. -/
def snapshotFields (c : Container) : Option (List (String × String)) :=
  c.snapshotClass.map fun generated => annotatedFields generated.info

/-- The fields that inputs have, if there are inputs. -/
def inputFields (c : Container) : Option (List (String × String)) :=
  c.inputClass.map annotatedFields

/-- The properties. -/
def properties (c : Container) : List Property :=
  c.artifacts.schema.properties

/-- The property of a name. -/
def property? (c : Container) (name : String) : Option Property :=
  c.properties.find? (·.name = name)

/-! ### Initial state -/

/-- The input of a delegate: an instance of its own class, or anything with attributes. -/
inductive Input where
  | record (values : Instance)
  | attributes (values : List (String × Value))
deriving Inhabited

/-- The value that an input has for a property. -/
def Input.get (input : Input) (name : String) : Except Failure Value :=
  match input with
  | .record values => (values.get name).mapError .state
  | .attributes values =>
    match values.lookup name with
    | some value => .ok value
    | none => .error (.missing "types.SimpleNamespace" name)

/-- An instance of the definition with some fields given. -/
def makeRecord (c : Container) (given : List (String × Value)) : Except Failure Instance :=
  (Instance.make c.record [] given).mapError .state

/-- The name that the delegate has for a name inside of it. -/
def insideName (c : Container) (name : String) : String :=
  Code.insideName c.artifacts.delegate.name name

/-- Calls what stands for a function or a class of the runtime. -/
def callStandIn (c : Container) (name : String) (count : Nat) : Except Failure Unit :=
  match c.standIns.get? name with
  | some found => (checkCall found count).mapError .state
  | none => .ok ()

/-- The record that the input makes, with defaults for all other fields. -/
def fromInput (c : Container) (input : Option Input) : Except Failure Instance := do
  match input with
  | none => c.makeRecord []
  | some input =>
    let given ← c.artifacts.plan.inputFields.mapM fun name => do
      return (name, ← input.get (c.insideName name))
    c.makeRecord given

/-- A value of what a stored text was read as. -/
def restoredValue (c : Container) (restored : SnapshotClass.Decoded) (name : String) :
    Except Failure Value :=
  match restored with
  | .snapshot snapshot => (snapshot.get (c.insideName name)).mapError .state
  | .values _ => .error (.missing "dict" name)

/-- The record with the restored fields replaced. -/
def replaceFields (c : Container) (state : Instance) (restored : SnapshotClass.Decoded) :
    Except Failure Instance := do
  match c.standIns.get? "dataclasses" with
  | some found =>
    throw (.failed (.unknownAttribute (Hint.ownerText (.classRef found.id)) "replace"))
  | none => pure ()
  let changes ← c.artifacts.plan.restoredFields.mapM fun name => do
    return (name, ← c.restoredValue restored name)
  let fields ← state.fields.mapError .state
  let kept ← (fields.filter fun field =>
      field.inConstructor && !changes.any (·.1 = field.name)).mapM fun field => do
    return (field.name, ← (state.get field.name).mapError .state)
  c.makeRecord (changes ++ kept)

/-- What snapshots are restored from. -/
inductive Source where
  | store (kept : SnapshotStore)
  /-- Something of a class that keeps no snapshots. -/
  | other (className : String)
deriving Inhabited

/-- The store that a source is. -/
def Source.store? : Source → Except Failure SnapshotStore
  | .store kept => .ok kept
  | .other className => .error (.missing className "load_snapshot")

/-- The initial state, and what is logged: the defaults, then the input, then what is restored
from the source. -/
def initialState (c : Container) (source : Option Source) (input : Option Input) :
    Except Failure (Instance × List String) := do
  let state ← c.fromInput (if c.artifacts.input.isSome then input else none)
  match c.snapshotClass, c.artifacts.snapshotKey with
  | some snapshotClass, some key =>
    c.callStandIn "restore_snapshot" 3
    let kept ← source.mapM Source.store?
    match ← (snapshotClass.restore kept key).mapError .snapshot with
    | (none, log) => return (state, log)
    | (some restored, log) => return (← c.replaceFields state restored, log)
  | _, _ => return (state, [])

end Container

end StateContainer
