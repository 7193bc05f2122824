/-
This file builds modules: it declares their classes one after the other and
binds their names, and then further names for classes that exist already.

Annotations that are evaluated at once see the names bound so far. Annotations
that are texts are resolved later, in the finished module: a name is looked up in
the module of the class that has the annotation, then among the attributes of
that class, and at last among the built-in names.
-/

import StateContainer.Class.Catalogue
import StateContainer.Class.Declare

namespace StateContainer

open StateContainer.Class

/-- A module with its classes. -/
structure ClassModule where
  name : String
  /-- What the names are bound to, in the order of their first binding. -/
  names : OrderedMap String Hint := {}
  /-- The classes, nested ones included. -/
  classes : OrderedMap Hint.ClassId ClassInfo := {}
  /-- What further names are bound to. -/
  common : String → Option Hint := Hint.Vocabulary.global?
  /-- The members of other modules. -/
  members : String → String → Option Hint := Catalogue.member?
  /-- What evaluating the annotations has left to remember. -/
  memory : Hint.Memory := {}
deriving Inhabited

namespace ClassModule

/-! ### Scopes -/

/-- What a name is bound to in the module. -/
def bound? (m : ClassModule) (name : String) : Option Hint :=
  (m.names.get? name).or (m.common name)

/-- What an attribute of a class is. -/
def attributeHint? (c : ClassInfo) (name : String) : Option Hint :=
  (c.attribute? name).bind fun kept =>
    match kept with
    | .value value => some (Hint.ofValue value)
    | .nested id => some (.classRef id)
    | .slot =>
      some (.value (.object "member_descriptor" s!"<member '{name}' of '{c.name}' objects>"))
    | .options _ => none
    | .method _ _ => none

/-- The class that an identifier stands for. -/
def classOf? (m : ClassModule) (id : Hint.ClassId) : Option ClassInfo :=
  m.classes.get? id

/-- An attribute of a class. -/
def classMember? (m : ClassModule) (id : Hint.ClassId) (name : String) : Option Hint :=
  match m.classOf? id with
  | some found => attributeHint? found name
  | none => Hint.Vocabulary.classMember? id name

/-- The scope of annotations that are evaluated at once. -/
def scope (m : ClassModule) : Hint.Scope where
  lookup name := (m.bound? name).or (Hint.Vocabulary.builtin? name)
  inner name := (m.bound? name).or (Hint.Vocabulary.builtin? name)
  classMember := m.classMember?
  moduleMember := m.members
  moduleName := m.name

/-- Whether a module stands around the one that is built. -/
def isAround (m : ClassModule) (moduleName : String) : Bool :=
  (moduleName ++ ".").toList.isPrefixOf m.name.toList

/-- The names of a module by its own name, if it is in use. -/
def namesOf? (m : ClassModule) (moduleName : String) : Option (String → Option Hint) :=
  if moduleName = m.name then some m.bound?
  else if m.isAround moduleName || Catalogue.isUsed moduleName then some (m.members moduleName)
  else none

/-- The scope of the texts among the annotations of a class. Inside of functions, the names of the
module are not seen. -/
def textScope (m : ClassModule) (c : ClassInfo) : Hint.Scope where
  lookup name :=
    (((m.namesOf? c.id.moduleName).bind (· name)).or (ownName c name)).or
      (Hint.Vocabulary.builtin? name)
  inner name := (ownName c name).or (Hint.Vocabulary.builtin? name)
  classMember := m.classMember?
  moduleMember := m.members
  moduleName := m.name
where
  /-- What a name is bound to in the class itself. -/
  ownName (c : ClassInfo) (name : String) : Option Hint :=
    if c.attributes.contains name then attributeHint? c name else none

/-! ### Building classes -/

/-- What a name of the module is bound to. -/
def memberNamed (m : ClassModule) (name : String) : Hint.Evaluation Hint :=
  match m.bound? name with
  | some found => return found
  | none => throw (.unknownAttribute (Hint.ownerText (.moduleRef m.name)) name)

/-- What is at a path of names: the first one is a name of the module, and each further one an
attribute of what the earlier ones lead to. -/
def atPath (m : ClassModule) (path : String) : Hint.Evaluation Hint := do
  let names := Text.dottedParts path
  (names.drop 1).foldlM (fun owner name => Hint.attributeOf m.scope name owner)
    (← m.memberNamed (names.headD ""))

/-- A class that was not built, of which nothing but its ancestors is known. -/
def outsideClass (id : Hint.ClassId) : ClassInfo :=
  let ancestors := ((Hint.lineage id).drop 1).filterMap fun found =>
    match found with
    | .classRef other => if other.qualifiedName = "builtins.object" then none else some { id := other }
    | _ => none
  { id, ancestors }

/-- The class that something is. -/
def classFor? (m : ClassModule) : Hint → Option ClassInfo
  | .classRef id => some ((m.classOf? id).getD (outsideClass id))
  | _ => none

/-- Something that is no class as one: what has a name and a module, and can be called, is like a
class in which there is nothing. -/
def asClass : Hint → Hint.Evaluation ClassInfo
  | .newType moduleName name _ => return { id := { moduleName, path := name } }
  | .standIn name _ _ => return { id := { moduleName := "typing", path := name } }
  | .function moduleName path => return { id := { moduleName, path } }
  | .typeVariable v => do
    let shown ← Hint.representation (.typeVariable v)
    Hint.misused (.other (shown ++ " is not a module, class, or callable."))
  | .form _ => throw (.attributeOfForm "__dict__")
  | .moduleRef name => throw (.unknownAttribute (Hint.ownerText (.moduleRef name)) "__module__")
  | other => throw (.unknownAttribute other.ownerText "__name__")

/-- The class at a path of names. -/
def classAt (m : ClassModule) (path : String) : Hint.Evaluation ClassInfo := do
  let found ← m.atPath path
  match m.classFor? found with
  | some c => return c
  | none => asClass found

/-- The annotation of a declared field. -/
def declaredType (m : ClassModule) (field : DeclaredField) : Building Hint :=
  if field.quoted then return .text field.type
  else ofEvaluation (Hint.evaluateText m.scope field.type)

/-- The attribute that a field is declared with. -/
def declaredAttribute? (field : DeclaredField) : Building (Option Attribute) :=
  match field.carried with
  | .none => return none
  | .value value => return some (.value value)
  | .unknownMarker name => throw (.unknownMarker name)
  | .options options =>
    if options.default.isSome && options.factory.isSome then throw .twoDefaults
    else return some (.options options)

/-- Adds a declared field to a class. -/
def declareField (m : ClassModule) (c : ClassInfo) (field : DeclaredField) :
    Building ClassInfo := do
  let type ← m.declaredType field
  let carried ← declaredAttribute? field
  return { c with
    annotations := c.annotations.insert field.name type
    attributes :=
      match carried with
      | some found => c.attributes.insert field.name found
      | none => c.attributes }

/-- Gives a class the constructor that is written by hand, if there is one. -/
def declareConstructor (m : ClassModule) (c : ClassInfo) (declaration : Declaration) :
    Building ClassInfo :=
  if declaration.isModel then
    return { c with
      ownConstructor := some { owner := c.id.simpleName, formals := [{ name := "delegate" }] }
      constructorIsWritten := true
      keepsDelegate := true }
  else
    match declaration.constructor with
    | none => return c
    | some text =>
      match Hint.Reader.readParameterList text with
      | .error problem => throw (.malformedConstructor problem)
      | .ok written => do
        let formals ← ofEvaluation (evaluateFormals m.scope written)
        return { c with
          ownConstructor := some (.ofFormals c.id.simpleName formals)
          constructorIsWritten := true }

/-- Whether something that is no class stands for one among bases. -/
def standsForBase : Hint → Bool
  | .form _ => true
  | .standIn _ _ _ => true
  | .applied _ _ _ => true
  | .newType _ _ _ => true
  | .function "typing" name => name = "NamedTuple" || name = "TypedDict"
  | _ => false

/-- The bases of a declared class. All paths are followed before it is looked whether they lead to
classes. -/
def declaredBases (m : ClassModule) (declaration : Declaration) : Building (List ClassInfo) := do
  let found ← declaration.bases.mapM fun path => ofEvaluation (m.atPath path)
  let named ← found.mapM fun base =>
    match m.classFor? base with
    | some c => return c
    | none => throw (if standsForBase base then .indirectBase else .strangeBase)
  return declaration.outside ++ named

/-- The name of the class of a class with the given bases. -/
def metaNameOf (bases : List ClassInfo) : String :=
  ((bases.map (·.id.metaName)).find? (· ≠ "type")).getD "type"

/-- What a path leads to as a view model. A text is the name of one. -/
def viewModelOf : Hint → ViewModel
  | .value .null => .none
  | .value (.text name) => .named name
  | other => .known other

/-- The view model of a declared state definition. -/
def declaredViewModel (m : ClassModule) : DeclaredViewModel → Building ViewModel
  | .none => return .none
  | .named name => return .named name
  | .atPath path => do return viewModelOf (← ofEvaluation (m.atPath path))

/-- Makes a class what its declaration says: a record class, a state definition, or both. -/
def finishClass (m : ClassModule) (declaration : Declaration) (c : ClassInfo) :
    Building ClassInfo := do
  let surroundings : Surroundings := ⟨m.namesOf? c.id.moduleName⟩
  let c ←
    match declaration.record with
    | some options => makeRecord surroundings options c
    | none => pure c
  match declaration.state with
  | some viewModel => markState surroundings (← m.declaredViewModel viewModel) c
  | none => return c

/-- The identity of the class that is declared next at a path. -/
def nextId (m : ClassModule) (moduleName path : String) : Hint.ClassId :=
  let earlier := m.classes.keys.filter fun id => id.moduleName = moduleName && id.path = path
  { moduleName, path, edition := earlier.length }

/-- Keeps a class among those of the module. -/
def keep (m : ClassModule) (c : ClassInfo) : ClassModule :=
  { m with classes := m.classes.insert c.id c }

mutual

/-- Declares a class. Its path is its name, behind that of the class right around it. What the class
says itself comes first, then its bases, then the classes inside, and at last what it becomes. -/
def declareClass (m : ClassModule) (outer : String) : Declaration → Building (ClassModule × ClassInfo)
  | ⟨name, moduleName, bases, fields, constructor, isModel, nested, record, state, outside⟩ => do
    let declaration : Declaration :=
      ⟨name, moduleName, bases, fields, constructor, isModel, [], record, state, outside⟩
    let start : ClassInfo := { id := m.nextId (moduleName.getD m.name) (outer ++ name) }
    let withFields ← fields.foldlM m.declareField start
    let own ← m.declareConstructor withFields declaration
    let bases ← m.declaredBases declaration
    checkBases bases
    let withAncestors :=
      { own with
        id := { own.id with metaName := metaNameOf bases }
        ancestors := ← ancestorsOf bases }
    checkDescent own.id bases
    let (m, inner) ← declareNested m (name ++ ".") nested
    let whole := inner.foldl (fun (c : ClassInfo) nested =>
      { c with attributes := c.attributes.insert nested.name (.nested nested.id) }) withAncestors
    let finished ← m.finishClass declaration whole
    return (m.keep finished, finished)

/-- Declares the classes inside another one. -/
def declareNested (m : ClassModule) (outer : String) :
    List Declaration → Building (ClassModule × List ClassInfo)
  | [] => return (m, [])
  | first :: others => do
    let (m, first) ← declareClass m outer first
    let (m, others) ← declareNested m outer others
    return (m, first :: others)

end

/-- Declares a class of the module and binds its name. -/
def declare (m : ClassModule) (declaration : Declaration) : Building ClassModule := do
  let (next, c) ← m.declareClass "" declaration
  return { next with names := next.names.insert declaration.name (.classRef c.id) }

/-- Binds a further name for what is at a path. -/
def bindAlias (m : ClassModule) (names : String × String) : Building ClassModule := do
  let found ← ofEvaluation (m.atPath names.2)
  return { m with names := m.names.insert names.1 found }

/-! ### Types of annotations -/

/-- Adds the resolved annotations of a class to those of its ancestors. -/
def addTypes (m : ClassModule) (types : OrderedMap String Hint) (c : ClassInfo) :
    Hint.Evaluation (OrderedMap String Hint) :=
  c.annotations.entries.foldlM (fun types (name, given) => do
    let resolved ← Hint.resolveField (m.textScope c) given
    return types.insert name resolved) types

/-- The types of all annotated names of a class and its ancestors. -/
def resolvedTypes (m : ClassModule) (c : ClassInfo) : Hint.Evaluation (OrderedMap String Hint) := do
  let types ← c.lineage.reverse.foldlM m.addTypes {}
  return ⟨← types.entries.mapM fun (name, type) => do return (name, ← type.plain)⟩

/-- What is remembered after the types of the annotations of a class were asked for. -/
def rememberTypes (m : ClassModule) (memory : Hint.Memory) (c : ClassInfo) : Hint.Memory :=
  (m.resolvedTypes c).after memory

/-- Builds a module from its declarations and its further names. The types of the annotations of
its classes are asked for in order, so that they are the same whenever they are asked for again. -/
def build (name : String) (declarations : List Declaration) (aliases : List (String × String)) :
    Except BuildError ClassModule :=
  let building : Building ClassModule := do
    aliases.foldlM bindAlias (← declarations.foldlM declare { name })
  let (result, memory) := building.run {}
  result.map fun m =>
    { m with memory := m.classes.values.foldl m.rememberTypes memory }

/-! ### State definitions -/

/-- What the names of the module are bound to, in order: a name that is bound everywhere keeps its
place when it is bound anew. -/
def boundInOrder (m : ClassModule) : List Hint :=
  let anew := Hint.Vocabulary.globalNames.filterMap m.names.get?
  let own := m.names.entries.filter fun (name, _) => !Hint.Vocabulary.globalNames.contains name
  anew ++ own.map (·.2)

/-- The state definitions of the module: the classes that its names are bound to, in order, as
far as they are marked and say that they belong to the module. -/
def definitions (m : ClassModule) : List ClassInfo :=
  m.boundInOrder.filterMap fun bound =>
    match bound with
    | .classRef id => (m.classOf? id).filter fun c => c.isState && c.id.moduleName = m.name
    | _ => none

end ClassModule

end StateContainer
