/-
This file provides the metadata of state definitions that are record classes.

The parameters of the constructor have the types that the annotations of the
class resolve to. If a single annotation of the class or of an ancestor refers to
a name that is not bound, all annotations are taken as they were written, and
those that are texts are passed on as signatures.
-/

import StateContainer.Class.Module
import StateContainer.Extraction
import StateContainer.Hint.Describe
import StateContainer.Signature.Union

namespace StateContainer

open StateContainer.Class

namespace ClassModule

/-- The types of all annotated names; nothing if one of them refers to a name that is not bound. -/
def knownTypes (m : ClassModule) (c : ClassInfo) : Except Hint.Fault (OrderedMap String Hint) :=
  match (m.resolvedTypes c).value m.memory with
  | .error (.unknownName _) => .ok {}
  | result => result

/-- A parameter of a constructor, with the type that its name is known to have. -/
def parameterOf (types : OrderedMap String Hint) (formal : Formal) :
    Except (ExtractionError Hint.Fault) Parameter :=
  match ((types.get? formal.name).or formal.type).getD (.classRef Hint.anyClass) with
  | .value (.text text) =>
    let (signature, nullable) := Signature.splitOptional text
    .ok { name := formal.name, signature := some signature, nullable, hasDefault := formal.hasDefault }
  | hint =>
    match hint.describe with
    | .ok type =>
      .ok { name := formal.name, type := some type, nullable := type.nullable
            hasDefault := formal.hasDefault }
    | .error (.signature error) => .error (.signature error)
    | .error .tooLong => .error (.provider Hint.tooLong)

/-- The parameters of the constructor of a class, if it is a record class. -/
def parameters (m : ClassModule) (c : ClassInfo) :
    Except (ExtractionError Hint.Fault) (Option (List Parameter)) :=
  match c.record? with
  | none => .ok none
  | some _ => do
    let types ← (m.knownTypes c).mapError .provider
    let constructor := c.constructor?.map (·.2)
    if (constructor.map (·.takesInstance)) = some false then
      throw (.provider (.raised "ValueError" BuildError.instanceMissing.message))
    let formals := (constructor.map (·.formals)).getD []
    return some (← formals.mapM (parameterOf types))

/-- The qualified name of the view model of a state definition. A name without a dot belongs to
the module of the definition. -/
def viewModelName? (c : ClassInfo) : Option String :=
  match c.ownState with
  | none => none
  | some .none => none
  | some (.named name) =>
    if name.toList.contains '.' then some name else some (c.id.moduleName ++ "." ++ name)
  | some (.known type) => some type.qualifiedName

/-- What identifies a class as a definition. -/
def definition (c : ClassInfo) : Definition :=
  { name := c.name, moduleName := c.id.moduleName, viewModel := viewModelName? c }

/-- The declared fields: those of instances, or all annotated names if the class is no record
class. -/
def declaredFields (c : ClassInfo) : List String :=
  match c.record? with
  | some record => record.fields.map (·.name)
  | none => c.annotations.keys

/-- The markers of a field of a record class, if there is such a field and they can be
resolved. -/
def markers? (c : ClassInfo) (field : String) : Option Markers :=
  (c.record?.bind fun record => record.fields.find? (·.name = field)).bind (·.remark.markers?)

/-- The metadata of the classes of a module. -/
def provider (m : ClassModule) : Provider ClassInfo Hint.Fault where
  describe := definition
  declaredFields := declaredFields
  parameters := m.parameters
  markers c field := .ok (markers? c field)

end ClassModule

end StateContainer
