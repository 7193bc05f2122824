/-
This file reads descriptions of modules: trees that say which classes a module
has, with their bases, their fields and their options, and which further names
are bound.

What a description leaves out takes its usual value: a class has no bases, no
fields and no options, and a field has no default. A field whose description
names markers is declared with these as its remark, and of a default and
something that makes one the default counts; a field whose description names only
a default carries the plain value.
-/

import StateContainer.Class.Module
import StateContainer.Json.Access
import StateContainer.Value.Tagged

namespace StateContainer

namespace Class

/-- The markers that a description sets. -/
def markersOfTree (tree : Json) : Markers :=
  ⟨tree.flagAt "single" false, tree.flagAt "persist" false, tree.flagAt "input" false⟩

/-- The names of the markers that there are. -/
def markerNames : List String := ["single", "persist", "input"]

/-- The name of a described marker that there is not. -/
def unknownMarker? (tree : Json) : Option String :=
  (tree.entries.map (·.1)).find? fun name => !markerNames.contains name

/-- What makes the default of a field, by its name. -/
def Factory.ofName : String → Factory
  | "list" => .list
  | "dict" => .dict
  | _ => .set

/-- The parts of a description that make it one of options and not of a plain default. -/
def optionKeys : List String := ["default_factory", "init", "kw_only", "metadata"]

/-- The attribute that a described field is declared with. -/
def DeclaredAttribute.ofTree (tree : Json) : DeclaredAttribute :=
  let default := (tree.field? "default").map Value.ofTagged
  let factory := (tree.textAt? "default_factory").map Factory.ofName
  match tree.field? "markers" with
  | some markers =>
    match unknownMarker? markers with
    | some name => .unknownMarker name
    | _ =>
      .options {
        default
        factory := if default.isSome then Option.none else factory
        remark := .markers (markersOfTree markers) }
  | _ =>
    if optionKeys.any tree.hasKey then
      .options {
        default, factory
        inConstructor := tree.flagAt "init" true
        byName := (tree.field? "kw_only").map Json.truth
        remark := if tree.hasKey "metadata" then .unresolvable else .absent }
    else
      match default with
      | some usual => .value usual
      | _ => .none

/-- A described field. -/
def DeclaredField.ofTree (tree : Json) : DeclaredField where
  name := tree.textAt "name"
  type := tree.textAt "type"
  quoted := tree.flagAt "quoted" false
  carried := .ofTree tree

/-- The names of the options of a record class. -/
def recordOptionNames : List String := [
  "init", "repr", "eq", "order", "unsafe_hash", "frozen", "match_args", "kw_only", "slots",
  "weakref_slot"]

/-- The described options of a record class. -/
def RecordOptions.ofTree (tree : Json) : RecordOptions where
  constructor := tree.flagAt "init" true
  frozen := tree.flagAt "frozen" false
  byName := tree.flagAt "kw_only" false
  equality := tree.flagAt "eq" true
  order := tree.flagAt "order" false
  shown := tree.flagAt "repr" true
  slotted := tree.flagAt "slots" false
  weakly := tree.flagAt "weakref_slot" false
  unknown := (tree.entries.map (·.1)).find? (!recordOptionNames.contains ·)

/-- The view model that a description names. -/
def DeclaredViewModel.ofTree (tree : Json) : DeclaredViewModel :=
  match tree.text?, tree.textAt? "class" with
  | some name, _ => .named name
  | _, some path => .atPath path
  | _, _ => .none

/-- A described class. The classes inside it are described by parts of its description, so that
reading them comes to an end. -/
def Declaration.ofTree (tree : Json) : Declaration :=
  { name := tree.textAt "name"
    moduleName := tree.textAt? "module"
    bases := (tree.itemsAt "bases").filterMap Json.text?
    fields := (tree.itemsAt "fields").map DeclaredField.ofTree
    constructor := tree.textAt? "init"
    isModel := tree.flagAt "model" false
    nested := (tree.itemsAt "nested").attach.map fun item => Declaration.ofTree item.1
    record :=
      match tree.field? "dataclass" with
      | some (.object options) => some (.ofTree (.object options))
      | _ => none
    state :=
      if tree.flagAt "state" false then
        some (.ofTree ((tree.field? "view_model").getD .null))
      else none }
termination_by sizeOf tree
decreasing_by exact Json.sizeOf_lt_of_mem_itemsAt item.2

end Class

namespace ClassModule

open StateContainer.Class

/-- The described further names of a module, each with the name that it is bound for. -/
def aliasesOfTree (tree : Json) : List (String × String) :=
  (tree.itemsAt "aliases").filterMap fun pair =>
    match pair with
    | .array [.text new, .text existing] => some (new, existing)
    | _ => none

/-- Builds a described module. -/
def ofDescription (tree : Json) : Except BuildError ClassModule :=
  build (tree.textAt "name") ((tree.itemsAt "classes").map Declaration.ofTree) (aliasesOfTree tree)

end ClassModule

end StateContainer
