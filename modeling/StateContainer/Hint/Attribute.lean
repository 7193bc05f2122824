/-
This file looks attributes up.

A class has its own members and those of its ancestors. A plain generic type has
the attributes of its class; one of the typing vocabulary has those that are not
special. Values have the methods of their classes.
-/

import StateContainer.Hint.Operator

namespace StateContainer.Hint

/-- What names and the attributes of modules and classes are bound to. -/
structure Scope where
  lookup : String → Option Hint
  /-- What names are bound to inside of functions. -/
  inner : String → Option Hint
  classMember : ClassId → String → Option Hint := Vocabulary.classMember?
  moduleMember : String → String → Option Hint := Vocabulary.member?
  /-- The name of the module that the names belong to. -/
  moduleName : String := "__main__"
  /-- What the names of parameters and of loops are bound to. -/
  locals : List (String × Hint) := []
  /-- The expression is the body of a function. -/
  isBody : Bool := false

/-- The scope in which nothing but the common vocabulary is bound. -/
def commonScope : Scope where
  lookup name := (Vocabulary.global? name).or (Vocabulary.builtin? name)
  inner name := (Vocabulary.global? name).or (Vocabulary.builtin? name)

/-- The scope of the body of a function, with what its names are bound to. -/
def Scope.body (scope : Scope) (locals : List (String × Hint)) : Scope :=
  { scope with locals, isBody := true }

/-- What a name is bound to. -/
def Scope.find? (scope : Scope) (name : String) : Option Hint :=
  (scope.locals.lookup name).or (if scope.isBody then scope.inner name else scope.lookup name)

/-! ### Classes of things -/

/-- The class of a given name. -/
def classNamed (name : String) : Hint :=
  match Text.beforeLast '.' name.toList with
  | [] => (Vocabulary.builtin? name).getD (classRef (builtinClass name .closed))
  | qualifier =>
    let moduleName := String.ofList qualifier
    let path := String.ofList (Text.afterLast '.' name.toList)
    (Vocabulary.member? moduleName path).getD (classRef { moduleName, path })

/-- The name of the class of something, with its module unless that is the built-in one. -/
def qualifiedKind (kind : String) : String :=
  match kind with
  | "ABCMeta" => "abc.ABCMeta"
  | "EnumType" => "enum.EnumType"
  | "SafeUUID" => "uuid.SafeUUID"
  | "TypeVar" => "typing.TypeVar"
  | "ParamSpec" => "typing.ParamSpec"
  | "TypeVarTuple" => "typing.TypeVarTuple"
  | "ForwardRef" => "typing.ForwardRef"
  | "NewType" => "typing.NewType"
  | other => if "_".isPrefixOf other then "typing." ++ other else other

/-- The class of something. -/
def classOf : Hint → Hint
  | value .null => nullType
  | applied .plain origin _ =>
    if origin = callableClass then classNamed "collections.abc._CallableGenericAlias"
    else classNamed "types.GenericAlias"
  | other => classNamed (qualifiedKind other.kindName)

/-- The identity of the class of something. -/
def classIdOf (hint : Hint) : ClassId :=
  match classOf hint with
  | classRef id => id
  | _ => Vocabulary.sampleClass ""

/-- A class with its ancestors. -/
def lineage (id : ClassId) : List Hint :=
  classRef id :: (Vocabulary.ancestors id).map classNamed

/-- The nearest ancestor of a class, if it has one. -/
def nearestAncestor? (id : ClassId) : Option Hint :=
  (Vocabulary.ancestors id).head?.map classNamed

/-! ### Attributes of classes -/

/-- Reports that there is no such attribute. -/
def noAttribute {α : Type} (owner : Hint) (name : String) : Evaluation α :=
  throw (.unknownAttribute owner.ownerText name)

/-- An attribute that every class has. -/
def commonClassAttribute? (id : ClassId) (name : String) : Option Hint :=
  match name with
  | "__name__" => some (text id.simpleName)
  | "__qualname__" => some (text id.path)
  | "__module__" => some (text id.moduleName)
  | "__class__" => some (classOf (classRef id))
  | "__mro__" => some (tuple (lineage id))
  | "__bases__" => some (tuple (nearestAncestor? id).toList)
  | "__base__" => some ((nearestAncestor? id).getD null)
  | _ => none

/-- An attribute of a class. -/
def classAttribute (scope : Scope) (id : ClassId) (name : String) : Evaluation Hint :=
  match commonClassAttribute? id name, id.arity with
  | some found, _ => return found
  | none, .checked _ =>
    if name = "__parameters__" then return tuple [Vocabulary.sampleVariable]
    else member
  | none, _ => member
where
  /-- The attribute as a member of the class. -/
  member : Evaluation Hint :=
    match scope.classMember id name with
    | some found => return found
    | none => noAttribute (classRef id) name

/-! ### Attributes of values -/

/-- A part of a value that is an attribute of it. -/
def partOf? (name : String) : Hint → Option Hint
  | value (.float x) =>
    match name with
    | "real" => some (ofReal x)
    | "imag" => some (ofReal (.zero false))
    | _ => none
  | value v =>
    match v.integer?, name with
    | some n, "real" => some (int n)
    | some n, "numerator" => some (int n)
    | some _, "imag" => some (int 0)
    | some _, "denominator" => some (int 1)
    | _, _ => none
  | complex x y =>
    match name with
    | "real" => some (ofReal x)
    | "imag" => some (ofReal y)
    | _ => none
  | range start stop step =>
    match name with
    | "start" => some (int start)
    | "stop" => some (int stop)
    | "step" => some (int step)
    | _ => none
  | slice bounds =>
    match name with
    | "start" => bounds[0]?
    | "stop" => bounds[1]?
    | "step" => bounds[2]?
    | _ => none
  | function m path =>
    match name with
    | "__name__" => some (text (String.ofList (Text.afterLast '.' path.toList)))
    | "__qualname__" => some (text path)
    | "__module__" => some (text m)
    | _ => none
  | method path _ =>
    match name with
    | "__name__" => some (text (String.ofList (Text.afterLast '.' path.toList)))
    | "__qualname__" => some (text path)
    | _ => none
  | closure _ _ _ _ =>
    match name with
    | "__name__" => some (text "<lambda>")
    | "__qualname__" => some (text "<lambda>")
    | _ => none
  | moduleRef m => if name = "__name__" then some (text m) else none
  | form formName =>
    match name with
    | "__name__" => some (text formName)
    | "__qualname__" => some (text formName)
    | "__module__" => some (text "typing")
    | _ => none
  | typeVariable v =>
    match name with
    | "__name__" => some (text v.name)
    | "__bound__" => if v.kind = .types then none else some null
    | "__constraints__" => if v.kind = .type then some (tuple []) else none
    | "__covariant__" => some (bool (v.sign == "+"))
    | "__contravariant__" => some (bool (v.sign == "-"))
    | "args" =>
      if v.kind = .parameters then
        some (thing ⟨"ParamSpecArgs", v.name ++ ".args", none, none⟩)
      else none
    | "kwargs" =>
      if v.kind = .parameters then
        some (thing ⟨"ParamSpecKwargs", v.name ++ ".kwargs", none, none⟩)
      else none
    | _ => none
  | newType m typeName base =>
    match name with
    | "__name__" => some (text typeName)
    | "__qualname__" => some (text typeName)
    | "__module__" => some (text m)
    | "__supertype__" => some base
    | _ => none
  | forward content =>
    match name with
    | "__forward_arg__" => some (text content)
    | "__forward_evaluated__" => some (bool false)
    | "__forward_value__" => some null
    | "__forward_is_argument__" => some (bool true)
    | "__forward_is_class__" => some (bool false)
    | "__forward_module__" => some null
    | _ => none
  | thing t =>
    match name, t.moduleName with
    | "__module__", some m => some (text m)
    | _, _ => none
  | union true items =>
    match name with
    | "__args__" => some (tuple items)
    | "__parameters__" => some (tuple ((variablesOf [] (union true items)).map typeVariable))
    | "__module__" => some (text "types")
    | _ => none
  | _ => none

/-- An attribute of a value: a part of it, or a method of its class with the value as its
receiver. -/
def valueAttribute (scope : Scope) (owner : Hint) (name : String) : Evaluation Hint :=
  if name = "__class__" then return classOf owner
  else
    match partOf? name owner with
    | some found => return found
    | none =>
      match scope.classMember (classIdOf owner) name with
      | some (method path []) => return method path [owner]
      | some (method _ (_ :: _)) => noAttribute owner name
      | some found => return found
      | none => noAttribute owner name

/-! ### Attributes of generic types -/

/-- Whether a name is reserved for special attributes. -/
def isSpecial (name : String) : Bool :=
  "__".isPrefixOf name && ['_', '_'].isSuffixOf name.toList

/-- The name of a generic type of the typing vocabulary. -/
def genericName? : Hint → Option String
  | standIn name _ _ => some name
  | applied (.typing name) _ _ => some name
  | applied .declared origin _ => some origin.simpleName
  | union false items =>
    some (if items.length = 2 && items.any isNullType then "Optional" else "Union")
  | literal _ => some "Literal"
  | annotated _ _ => some "Annotated"
  | qualified name _ => some name
  | _ => none

/-- The class or the form that a generic type is made of. -/
def originOf? : Hint → Option Hint
  | standIn _ origin _ => some (classRef origin)
  | applied _ origin _ => some (classRef origin)
  | unpacked (applied _ origin _) => some (classRef origin)
  | union false _ => some (form "Union")
  | literal _ => some (form "Literal")
  | annotated base _ => some base
  | qualified name _ =>
    if name = "Generic" || name = "Protocol" then some (classRef { moduleName := "typing", path := name })
    else some (form name)
  | _ => none

/-- The arguments of a generic type, if it has some. -/
def argumentsOf? : Hint → Option (List Hint)
  | applied _ _ items => some items
  | unpacked (applied _ _ items) => some items
  | union _ items => some items
  | literal items => some items
  | annotated base _ => some [base]
  | qualified _ items => some items
  | _ => none

/-- A special attribute of a generic type. -/
def genericAttribute? (generic : Hint) (name : String) : Option Hint :=
  match name with
  | "__origin__" => originOf? generic
  | "__args__" => (argumentsOf? generic).map tuple
  | "__parameters__" =>
    (argumentsOf? generic).map fun _ => tuple ((variablesOf [] generic).map typeVariable)
  | "__metadata__" =>
    match generic with
    | annotated _ remarks => some (tuple remarks)
    | _ => none
  | "__unpacked__" =>
    match generic with
    | unpacked _ => some (bool true)
    | applied .plain _ _ => some (bool false)
    | _ => none
  | "__class__" => some (classOf generic)
  | _ => none

/-- The module of a generic type of the typing vocabulary. -/
def moduleOfGeneric : Hint → String
  | applied .declared origin _ => origin.moduleName
  | annotated (classRef id) _ => id.moduleName
  | _ => "typing"

/-- A special attribute of a generic type of the typing vocabulary. -/
def typingAttribute? (generic : Hint) (name : String) : Option Hint :=
  match name with
  | "__name__" => (genericName? generic).map text
  | "__qualname__" => (genericName? generic).map text
  | "__module__" => some (text (moduleOfGeneric generic))
  | _ => genericAttribute? generic name

/-- An attribute. -/
def attributeOf (scope : Scope) (name : String) : Hint → Evaluation Hint
  | moduleRef m =>
    match scope.moduleMember m name with
    | some found => return found
    | none => valueAttribute scope (moduleRef m) name
  | classRef id => classAttribute scope id name
  | applied .plain origin items =>
    match genericAttribute? (applied .plain origin items) name with
    | some found => return found
    | none => classAttribute scope origin name
  | unpacked generic =>
    match genericAttribute? (unpacked generic) name, originOf? generic with
    | some found, _ => return found
    | none, some (classRef origin) => classAttribute scope origin name
    | none, _ => noAttribute (unpacked generic) name
  | annotated base remarks =>
    match typingAttribute? (annotated base remarks) name with
    | some found => return found
    | none => if isSpecial name then throw (.attributeOfForm name) else attributeOf scope name base
  | form formName =>
    match partOf? name (form formName) with
    | some found => return found
    | none => if name = "__class__" then return classOf (form formName) else throw (.attributeOfForm name)
  | other =>
    match genericName? other with
    | none => valueAttribute scope other name
    | some _ =>
      match typingAttribute? other name, originOf? other with
      | some found, _ => return found
      | none, some (classRef origin) =>
        if isSpecial name then throw (.attributeOfForm name) else classAttribute scope origin name
      | none, _ => throw (.attributeOfForm name)

end StateContainer.Hint
