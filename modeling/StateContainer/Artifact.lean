/-
This file derives the types that are generated for a state definition: an
interface to observe the state, a delegate that holds it, a factory of
delegates, and, where the schema asks for them, a snapshot of the persisted
properties and an input of the supplied ones.

Only the shape of the types is settled here, as lists of members in the order of
the properties; `ModuleText` writes them out.
-/

import StateContainer.Event
import StateContainer.TypeText
import StateContainer.Schema
import StateContainer.Text.Case

namespace StateContainer

/-! ### Shapes -/

/-- The generated types of one definition. -/
inductive ArtifactKind where
  | interface
  | delegate
  | snapshot
  | input
  | factory
deriving DecidableEq, Repr

/-- The members of generated types. -/
inductive MemberKind where
  /-- Gives the observable of a property. -/
  | accessor
  /-- Pushes a value of a property. -/
  | mutator
  /-- Holds the value of a property. -/
  | channel
  | saveSnapshot
  | initialState
  | currentState
  /-- A field of a snapshot or an input. -/
  | field
  | create
deriving DecidableEq, Repr

/-- The kind of the events of a property. -/
def Property.eventKind (p : Property) : EventKind :=
  if p.single then .single else .multi

/-- A member of a generated type. The annotation is the result of a method, the value of a
mutator and the type of a field. -/
structure Member where
  name : String
  kind : MemberKind
  typeText : String
  property : Option String := none
  eventKind : Option EventKind := none
deriving DecidableEq, Repr

/-- The shape of one generated type. -/
structure GeneratedType where
  name : String
  kind : ArtifactKind
  members : List Member
deriving DecidableEq, Repr

namespace GeneratedType

/-- The members of one kind. -/
def ofKind (t : GeneratedType) (kind : MemberKind) : List Member :=
  t.members.filter (·.kind = kind)

/-- The names of the members. -/
def memberNames (t : GeneratedType) : List String :=
  t.members.map (·.name)

end GeneratedType

/-- How the initial state is merged from defaults, input and snapshot. -/
structure InitialStatePlan where
  parameters : List String
  inputFields : List String
  restoredFields : List String
deriving DecidableEq, Repr

/-- Everything that is generated for one definition. -/
structure ArtifactSet where
  schema : Schema
  moduleName : String
  interface : GeneratedType
  delegate : GeneratedType
  snapshot : Option GeneratedType
  input : Option GeneratedType
  factory : GeneratedType
  plan : InitialStatePlan
  snapshotKey : Option String
  typeImports : List String
deriving DecidableEq, Repr

/-- The generated types in the order in which they are written. -/
def ArtifactSet.types (a : ArtifactSet) : List GeneratedType :=
  a.interface :: a.snapshot.toList ++ a.input.toList ++ [a.delegate, a.factory]

/-! ### Names -/

/-- The parameter that passes a source of snapshots. -/
def snapshotSourceName : String := "snapshot_source"

/-- The parameter that passes an input. -/
def stateInputName : String := "state_input"

/-- The key under which the snapshot of a definition is stored. -/
def snapshotKey (name : String) : String :=
  String.ofList (Text.upper name.toList) ++ "_BUNDLE_KEY"

namespace Property

/-- The annotation of the type of a property. -/
def typeText (p : Property) : String :=
  TypeText.write p.type

/-! ### Members -/

/-- The accessor of a property. -/
def accessor (p : Property) : Member where
  name := "observe_" ++ p.name
  kind := .accessor
  typeText := "Observable[Event[" ++ p.typeText ++ "]]"
  property := p.name
  eventKind := p.eventKind

/-- The channel of a property. -/
def channel (p : Property) : Member where
  name := "_" ++ p.name ++ "_channel"
  kind := .channel
  typeText := "StateChannel[Event[" ++ p.typeText ++ "]]"
  property := p.name
  eventKind := p.eventKind

/-- The mutator of a property. -/
def mutator (p : Property) : Member where
  name := "push_" ++ p.name
  kind := .mutator
  typeText := p.typeText
  property := p.name
  eventKind := p.eventKind

/-- The field that a snapshot or an input has for a property. -/
def field (p : Property) : Member where
  name := p.name
  kind := .field
  typeText := p.typeText
  property := p.name

end Property

/-- The method that saves a snapshot. -/
def saveSnapshotMember : Member where
  name := "save_snapshot"
  kind := .saveSnapshot
  typeText := "None"

/-- The method that merges the initial state. -/
def initialStateMember (definition : String) : Member where
  name := "get_initial_state"
  kind := .initialState
  typeText := definition

/-- The method that rebuilds the state record. -/
def currentStateMember (definition : String) : Member where
  name := "current_state"
  kind := .currentState
  typeText := definition

/-- The method that builds a delegate. -/
def createMember (delegate : String) : Member where
  name := "create"
  kind := .create
  typeText := delegate

/-! ### The types of a schema -/

namespace Schema

/-- The name of the definition. -/
def name (s : Schema) : String :=
  s.definition.name

/-- The saving method, where something is persisted. -/
def saveMembers (s : Schema) : List Member :=
  if s.hasPersisted then [saveSnapshotMember] else []

/-- The type that observers see. -/
def interface (s : Schema) : GeneratedType where
  name := s.name ++ "Client"
  kind := .interface
  members := s.properties.map (·.accessor) ++ s.saveMembers

/-- The type of the persisted properties. -/
def snapshot? (s : Schema) : Option GeneratedType :=
  if s.hasPersisted then
    some ⟨s.name ++ "Snapshot", .snapshot, s.persisted.map (·.field)⟩
  else none

/-- The type of the supplied properties. -/
def input? (s : Schema) : Option GeneratedType :=
  if s.hasInput then some ⟨s.name ++ "Input", .input, s.inputs.map (·.field)⟩ else none

/-- The type that holds the state. -/
def delegate (s : Schema) : GeneratedType where
  name := s.name ++ "Delegate"
  kind := .delegate
  members :=
    s.properties.map (·.channel) ++ [initialStateMember s.name] ++
      s.properties.map (·.accessor) ++ s.properties.map (·.mutator) ++
      [currentStateMember s.name] ++ s.saveMembers

/-- The type that builds delegates. -/
def factory (s : Schema) : GeneratedType where
  name := s.name ++ "Factory"
  kind := .factory
  members := [createMember s.delegate.name]

/-- How the initial state is merged. -/
def plan (s : Schema) : InitialStatePlan where
  parameters :=
    (if s.hasPersisted then [snapshotSourceName] else []) ++
      (if s.hasInput then [stateInputName] else [])
  inputFields := s.inputs.map (·.name)
  restoredFields := s.persisted.map (·.name)

/-- The modules that the types of the properties need, in ascending order. -/
def typeImports (s : Schema) : List String :=
  s.properties.foldl (fun modules p => TypeText.addModules p.type modules) []

/-- Everything that is generated for a schema. -/
def synthesize (s : Schema) : ArtifactSet where
  schema := s
  moduleName := Text.snakeCase s.name ++ "_gen"
  interface := s.interface
  delegate := s.delegate
  snapshot := s.snapshot?
  input := s.input?
  factory := s.factory
  plan := s.plan
  snapshotKey := if s.hasPersisted then some (snapshotKey s.name) else none
  typeImports := s.typeImports

end Schema

end StateContainer
