/-
This file writes the generated types of a definition as the text of a module.

The text is kept in sections, each a list of lines: the title, the imports of
the standard library, of the modules of types, of the runtime and of the
definition, and then the types in the order of emission. What one section uses
another section imports, and both depend on the same facts of the artifacts.
-/

import StateContainer.Artifact

namespace StateContainer

/-- The text of a generated module, in sections. -/
structure ModuleText where
  title : List String
  standardImports : List String
  typeImports : List String
  runtimeImports : List String
  definitionImports : List String
  interface : List String
  snapshot : List String
  input : List String
  delegate : List String
  factory : List String
deriving Repr

namespace ModuleText

/-- All lines in order. -/
def lines (m : ModuleText) : List String :=
  m.title ++ m.standardImports ++ m.typeImports ++ m.runtimeImports ++ m.definitionImports ++
    m.interface ++ m.snapshot ++ m.input ++ m.delegate ++ m.factory

/-- The text; every line is ended. -/
def text (m : ModuleText) : String :=
  String.join (m.lines.map (· ++ "\n"))

end ModuleText

namespace ArtifactSet

/-! ### Facts that several sections depend on -/

/-- The name of the definition. -/
def name (a : ArtifactSet) : String :=
  a.schema.definition.name

/-- The name of the snapshot type; nothing if there is none. -/
def snapshotName (a : ArtifactSet) : String :=
  (a.snapshot.map (·.name)).getD ""

/-- The view model of the definition, as the module that holds it and its path there. -/
def viewModel? (a : ArtifactSet) : Option (String × String) :=
  match a.schema.definition.viewModel with
  | none => none
  | some viewModel => if viewModel = "" then none else QualifiedName.split? viewModel

/-- The names that the runtime supplies, in ascending order. -/
def runtimeNames (a : ArtifactSet) : List String :=
  ["Event"] ++ (if a.schema.multiRead.isEmpty then [] else ["MultiEvent"]) ++ ["Observable"] ++
    (if a.schema.singleRead.isEmpty then [] else ["SingleEvent"]) ++
    (if a.schema.hasPersisted then ["Snapshot"] else []) ++
    ["SnapshotStore", "StateChannel", "StateFactory"] ++
    (if a.schema.hasPersisted then ["restore_snapshot"] else [])

/-- The parameters that the delegate and the merge of the initial state declare. -/
def declaredParameters (a : ArtifactSet) : List String :=
  (if a.plan.parameters.contains snapshotSourceName then
    [snapshotSourceName ++ ": SnapshotStore | None = None"] else []) ++
  (match a.input with
    | some input => [stateInputName ++ ": " ++ input.name ++ " | None = None"]
    | none => [])

/-- The declared parameters behind a first one. -/
def furtherParameters (a : ArtifactSet) : String :=
  String.join (a.declaredParameters.map (", " ++ ·))

/-- The annotation of the input that a factory takes. -/
def inputTypeText (a : ArtifactSet) : String :=
  match a.input with
  | some input => input.name ++ " | None"
  | none => "object"

/-! ### Imports -/

/-- The title of the module. -/
def titleLines (a : ArtifactSet) : List String := [
  s!"\"\"\"State container for {a.name}. Generated by stategen, do not edit.\"\"\"",
  "",
  "from __future__ import annotations",
  ""]

/-- The imports of the standard library. -/
def standardImportLines (a : ArtifactSet) : List String :=
  (if a.plan.restoredFields.isEmpty then [] else ["import dataclasses"]) ++
  (if a.snapshot.isSome || a.input.isSome then ["from dataclasses import dataclass"] else []) ++
  [if a.snapshot.isSome then "from typing import ClassVar, Protocol"
    else "from typing import Protocol"]

/-- The imports of the modules of types, behind an empty line. -/
def typeImportLines (a : ArtifactSet) : List String :=
  if a.typeImports.isEmpty then [] else "" :: a.typeImports.map ("import " ++ ·)

/-- The import of the runtime, a line for each name. -/
def runtimeImportLines (a : ArtifactSet) (runtimeImport : String) : List String :=
  [s!"from {runtimeImport} import ("] ++ a.runtimeNames.map (fun name => s!"    {name},") ++ [")"]

/-- The imports of the definition and of its view model. -/
def definitionImportLines (a : ArtifactSet) : List String :=
  s!"from {a.schema.definition.moduleName} import {a.name}" ::
    (match a.viewModel? with
    | some (moduleName, path) =>
      [s!"from {moduleName} import {QualifiedName.outermost path}"]
    | none => [])

/-! ### Interface, snapshot and input -/

/-- The type that observers see. -/
def interfaceLines (a : ArtifactSet) : List String :=
  [s!"class {a.interface.name}(Protocol):",
    s!"    \"\"\"Observation interface of {a.name}.\"\"\""] ++
  (a.interface.ofKind .accessor).map (fun member =>
    s!"    def {member.name}(self) -> {member.typeText}: ...") ++
  (a.interface.ofKind .saveSnapshot).map (fun member =>
    s!"    def {member.name}(self, target: SnapshotStore | None) -> None: ...")

/-- The fields of a snapshot or an input. -/
def fieldLines (t : GeneratedType) : List String :=
  t.members.map fun member => s!"    {member.name}: {member.typeText}"

/-- The type of the persisted properties. -/
def snapshotLines (a : ArtifactSet) : List String :=
  match a.snapshot with
  | none => []
  | some snapshot =>
    ["@dataclass", s!"class {snapshot.name}(Snapshot):",
      s!"    \"\"\"Persisted fields of {a.name}.\"\"\"", ""] ++ fieldLines snapshot

/-- The type of the supplied properties. -/
def inputLines (a : ArtifactSet) : List String :=
  match a.input with
  | none => []
  | some input =>
    ["@dataclass", s!"class {input.name}:",
      s!"    \"\"\"Caller-supplied initial values of {a.name}.\"\"\"", ""] ++ fieldLines input

/-! ### The delegate -/

/-- The name of the property of a member. -/
def propertyOf (member : Member) : String :=
  member.property.getD ""

/-- The name of the class of the events of a member. -/
def eventClassOf (member : Member) : String :=
  (member.eventKind.map EventKind.className).getD ""

/-- The constructor: it merges the initial state and puts each value into a channel. -/
def constructorLines (a : ArtifactSet) : List String :=
  [s!"    def __init__(self{a.furtherParameters}) -> None:",
    "        initial = self.get_initial_state(" ++ ", ".intercalate a.plan.parameters ++ ")"] ++
  (a.delegate.ofKind .channel).flatMap fun member => [
    s!"        self.{member.name}: {member.typeText} = StateChannel(",
    s!"            {eventClassOf member}(initial.{propertyOf member})",
    "        )"]

/-- The merge of the defaults with the input. -/
def mergeInputLines (a : ArtifactSet) : List String :=
  if a.plan.inputFields.isEmpty then [s!"        initial = {a.name}()"]
  else
    ["        if state_input is None:", s!"            initial = {a.name}()", "        else:",
      s!"            initial = {a.name}("] ++
    a.plan.inputFields.map (fun field => s!"                {field}=state_input.{field},") ++
    ["            )"]

/-- The merge with the restored snapshot. -/
def mergeSnapshotLines (a : ArtifactSet) : List String :=
  if a.plan.restoredFields.isEmpty then ["        return initial"]
  else
    ["        restored = restore_snapshot(snapshot_source, cls.SNAPSHOT_KEY, " ++ a.snapshotName ++ ")",
      "        if restored is None:", "            return initial",
      "        return dataclasses.replace(", "            initial,"] ++
    a.plan.restoredFields.map (fun field => s!"            {field}=restored.{field},") ++
    ["        )"]

/-- The merge of the initial state. -/
def initialStateLines (a : ArtifactSet) : List String :=
  (a.delegate.ofKind .initialState).flatMap fun member =>
    ["    @classmethod",
      s!"    def {member.name}(cls{a.furtherParameters}) -> {member.typeText}:",
      "        \"\"\"Merge field defaults, input values and the restored snapshot.\"\"\""] ++
    a.mergeInputLines ++ a.mergeSnapshotLines

/-- The accessors and the mutators of the properties. -/
def propertyLines (a : ArtifactSet) : List String :=
  (a.delegate.ofKind .accessor).flatMap (fun member => [
    s!"    def {member.name}(self) -> {member.typeText}:",
    s!"        return self._{propertyOf member}_channel.hide()"]) ++
  (a.delegate.ofKind .mutator).flatMap (fun member => [
    s!"    def {member.name}(self, value: {member.typeText}) -> None:",
    s!"        self._{propertyOf member}_channel.push({eventClassOf member}(value))"])

/-- A keyword argument that peeks at the channel of a property. -/
def peekLine (property : String) : String :=
  s!"            {property}=self._{property}_channel.value.peek(),"

/-- The method that rebuilds the state record. -/
def currentStateLines (a : ArtifactSet) : List String :=
  (a.delegate.ofKind .currentState).flatMap fun member =>
    [s!"    def {member.name}(self) -> {member.typeText}:",
      "        \"\"\"Rebuild the state record from the channels without consuming events.\"\"\""] ++
    (if a.schema.properties.isEmpty then [s!"        return {a.name}()"]
    else
      [s!"        return {a.name}("] ++ a.schema.properties.map (fun p => peekLine p.name) ++
        ["        )"])

/-- The method that saves a snapshot. -/
def saveLines (a : ArtifactSet) : List String :=
  (a.delegate.ofKind .saveSnapshot).flatMap fun member =>
    [s!"    def {member.name}(self, target: SnapshotStore | None) -> None:",
      "        value = " ++ a.snapshotName ++ "("] ++
    a.plan.restoredFields.map peekLine ++
    ["        )", "        if target is not None:",
      "            target.save_snapshot(self.SNAPSHOT_KEY, value)"]

/-- The type that holds the state. -/
def delegateLines (a : ArtifactSet) : List String :=
  [s!"class {a.delegate.name}({a.interface.name}):", s!"    \"\"\"Channels backing {a.name}.\"\"\""] ++
  (match a.snapshotKey with
    | some key => [s!"    SNAPSHOT_KEY: ClassVar[str] = \"{key}\""]
    | none => []) ++
  a.constructorLines ++ a.initialStateLines ++ a.propertyLines ++ a.currentStateLines ++
  a.saveLines

/-! ### The factory -/

/-- An argument of the delegate: the one of the call, or else the one of the factory. -/
def fallbackLines (a : ArtifactSet) (parameter : String) : List String :=
  if a.plan.parameters.contains parameter then
    [s!"            {parameter} if {parameter} is not None else self.{parameter},"]
  else []

/-- The type that builds delegates. -/
def factoryLines (a : ArtifactSet) : List String :=
  [s!"class {a.factory.name}(StateFactory[{a.delegate.name}]):",
    s!"    \"\"\"Builds {a.delegate.name} instances.\"\"\""] ++
  (match a.viewModel? with
    | some (_, path) => [s!"    view_model_type = {path}"]
    | none => []) ++
  (a.factory.ofKind .create).flatMap fun member =>
    [s!"    def {member.name}(", "        self,",
      "        snapshot_source: SnapshotStore | None = None,",
      s!"        state_input: {a.inputTypeText} = None,",
      s!"    ) -> {member.typeText}:", s!"        return {a.delegate.name}("] ++
    a.fallbackLines snapshotSourceName ++ a.fallbackLines stateInputName ++ ["        )"]

/-! ### The whole module -/

/-- The import path of the runtime unless another one is asked for. -/
def defaultRuntimeImport : String := "stategen.runtime"

/-- The text of the generated module in sections. -/
def moduleText (a : ArtifactSet) (runtimeImport : String) : ModuleText where
  title := a.titleLines
  standardImports := a.standardImportLines
  typeImports := a.typeImportLines
  runtimeImports := a.runtimeImportLines runtimeImport
  definitionImports := a.definitionImportLines
  interface := a.interfaceLines
  snapshot := a.snapshotLines
  input := a.inputLines
  delegate := a.delegateLines
  factory := a.factoryLines

/-- The text of the generated module. -/
def render (a : ArtifactSet) (runtimeImport : String) : String :=
  (a.moduleText runtimeImport).text

end ArtifactSet

end StateContainer
