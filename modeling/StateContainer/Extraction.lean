/-
This file extracts the properties of a state definition from what a provider of
metadata says about it: the parameters of its constructor, its declared fields
and the markers of each field.

The parameters have to line up with the fields, position by position; every
field needs markers that can be resolved, and a default unless its value is
supplied by the caller; and every parameter needs a type, which is given as a
structure or as a signature. The first thing that is wrong is reported, and at
one position the checks go in the order just given.
-/

import StateContainer.Schema
import StateContainer.Signature.Parser

namespace StateContainer

/-! ### Errors -/

/-- Why metadata does not make up properties. -/
inductive MetadataError where
  | noConstructor (definition : String)
  | countMismatch (definition : String) (parameters fields : Nat)
  | nameMismatch (definition parameter field : String)
  | unresolvedMarkers (definition field : String)
  | missingDefault (definition field : String)
  | missingType (parameter : String)
deriving DecidableEq, Repr

/-- The wording of an error. -/
def MetadataError.message : MetadataError → String
  | noConstructor definition => s!"{definition} has no primary constructor"
  | countMismatch definition parameters fields =>
    s!"{definition} constructor has {parameters} parameters but {fields} declared fields"
  | nameMismatch definition parameter field =>
    s!"{definition} parameter '{parameter}' does not match field '{field}'"
  | unresolvedMarkers definition field => s!"Cannot resolve markers of {definition}.{field}"
  | missingDefault definition field =>
    s!"{definition}.{field} needs a default value or an input marker"
  | missingType parameter => s!"No type information for parameter '{parameter}'"

/-- Why a definition has no properties. The errors of the metadata and of signatures concern the
definition alone; any other error is one of the provider. -/
inductive ExtractionError (ε : Type) where
  | metadata (error : MetadataError)
  | signature (error : Signature.ParseError)
  | provider (error : ε)
deriving DecidableEq, Repr

/-! ### Providers of metadata -/

/-- A parameter of a constructor. Its type is given as a structure or as a signature; a structure
takes precedence. -/
structure Parameter where
  name : String
  signature : Option String := none
  type : Option Descriptor := none
  nullable : Bool := false
  hasDefault : Bool := true
deriving DecidableEq, Repr, Inhabited

/-- A source of metadata about definitions of some kind. -/
structure Provider (δ ε : Type) where
  describe : δ → Definition
  declaredFields : δ → List String
  /-- The parameters of the constructor, if there is one. -/
  parameters : δ → Except (ExtractionError ε) (Option (List Parameter))
  /-- The markers of a field, if they can be resolved. -/
  markers : δ → String → Except (ExtractionError ε) (Option Markers)

/-! ### Extraction -/

variable {δ ε : Type}

/-- The type of a parameter. It is nullable if the parameter or the given type is. -/
def Parameter.declaredType (p : Parameter) : Except (ExtractionError ε) Descriptor :=
  match p.type, p.signature with
  | some type, _ => .ok (type.asNullable (p.nullable || type.nullable))
  | none, some signature =>
    match Signature.parse signature with
    | .ok type => .ok (type.asNullable (p.nullable || type.nullable))
    | .error error => .error (.signature error)
  | none, none => .error (.metadata (.missingType p.name))

/-- The property that a parameter and the field at its position make up. -/
def Provider.property (provider : Provider δ ε) (definition : δ) (parameter : Parameter)
    (field : String) : Except (ExtractionError ε) Property := do
  let name := (provider.describe definition).name
  if parameter.name ≠ field then
    throw (.metadata (.nameMismatch name parameter.name field))
  match ← provider.markers definition field with
  | none => throw (.metadata (.unresolvedMarkers name field))
  | some markers =>
    if !(parameter.hasDefault || markers.input) then
      throw (.metadata (.missingDefault name field))
    let type ← parameter.declaredType
    return {
      name := parameter.name
      type
      single := markers.single
      persisted := markers.persist
      input := markers.input
      hasDefault := parameter.hasDefault }

/-- The properties of parameters and fields, position by position. -/
def Provider.properties (provider : Provider δ ε) (definition : δ) :
    List Parameter → List String → Except (ExtractionError ε) (List Property)
  | parameter :: parameters, field :: fields => do
    let first ← provider.property definition parameter field
    let others ← provider.properties definition parameters fields
    return first :: others
  | _, _ => .ok []

/-- The properties of a definition, one for each parameter of its constructor, in order. -/
def Provider.extract (provider : Provider δ ε) (definition : δ) :
    Except (ExtractionError ε) (List Property) := do
  let name := (provider.describe definition).name
  match ← provider.parameters definition with
  | none => throw (.metadata (.noConstructor name))
  | some parameters =>
    let fields := provider.declaredFields definition
    if parameters.length ≠ fields.length then
      throw (.metadata (.countMismatch name parameters.length fields.length))
    provider.properties definition parameters fields

/-- The schema of a definition. -/
def Provider.schema (provider : Provider δ ε) (definition : δ) :
    Except (ExtractionError ε) Schema := do
  let properties ← provider.extract definition
  return Schema.classify properties (provider.describe definition)

end StateContainer
