/-
This file holds the schema of a state definition: what the definition is called
and which properties it has, each with its type and its markers.

A property is read once or many times; it may be kept in snapshots, and it may
be supplied by whoever builds the container. Whether a definition persists
anything or takes any input follows from its properties.
-/

import StateContainer.Descriptor
import StateContainer.QualifiedName

namespace StateContainer

/-- The delivery and lifecycle markers of one field. -/
structure Markers where
  /-- Each pushed value is handed to one reader only. -/
  single : Bool := false
  /-- The field is kept in snapshots. -/
  persist : Bool := false
  /-- The initial value is supplied by the caller. -/
  input : Bool := false
deriving DecidableEq, Repr, Inhabited

/-- One property of a state definition. -/
structure Property where
  name : String
  type : Descriptor
  single : Bool := false
  persisted : Bool := false
  input : Bool := false
  hasDefault : Bool := true
deriving DecidableEq, Repr, Inhabited

/-- What identifies a state definition. -/
structure Definition where
  name : String
  moduleName : String
  /-- The qualified name of the class that consumes the state. -/
  viewModel : Option String := none
deriving DecidableEq, Repr, Inhabited

namespace Definition

/-- The package of the module. -/
def package (d : Definition) : String :=
  QualifiedName.package d.moduleName

/-- The module and the name of the class. -/
def qualifiedName (d : Definition) : String :=
  d.moduleName ++ "." ++ d.name

end Definition

/-- A definition with its properties in the order of their declaration. -/
structure Schema where
  definition : Definition
  properties : List Property
deriving DecidableEq, Repr, Inhabited

namespace Schema

/-- The schema of a definition. -/
def classify (properties : List Property) (definition : Definition) : Schema :=
  ⟨definition, properties⟩

/-- The properties that are read once. -/
def singleRead (s : Schema) : List Property :=
  s.properties.filter (·.single)

/-- The properties that are read many times. -/
def multiRead (s : Schema) : List Property :=
  s.properties.filter (!·.single)

/-- The properties that are kept in snapshots. -/
def persisted (s : Schema) : List Property :=
  s.properties.filter (·.persisted)

/-- The properties that the caller supplies. -/
def inputs (s : Schema) : List Property :=
  s.properties.filter (·.input)

/-- The properties that are neither kept nor supplied. -/
def plain (s : Schema) : List Property :=
  s.properties.filter fun p => !(p.persisted || p.input)

/-- Whether some property is kept in snapshots. -/
def hasPersisted (s : Schema) : Bool :=
  s.properties.any (·.persisted)

/-- Whether some property is supplied by the caller. -/
def hasInput (s : Schema) : Bool :=
  s.properties.any (·.input)

/-- Whether some property outlives or precedes the container. -/
def anyPersistence (s : Schema) : Bool :=
  s.hasPersisted || s.hasInput

end Schema

end StateContainer
