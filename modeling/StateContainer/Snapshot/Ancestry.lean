/-
This file holds the ancestors that all classes of snapshots have, with the methods
that snapshots are written and read by. A field may hide one of them.
-/

import StateContainer.Class
import StateContainer.Hint.Construct

namespace StateContainer.Snapshot

open StateContainer.Class

/-- The methods of a class: those of its instances, and those of the class itself. -/
def methodsOf (owner : String) (ofInstances ofClass : List String) :
    List (String × Attribute) :=
  (ofInstances.map fun name => (name, .method (owner ++ "." ++ name) false)) ++
    (ofClass.map fun name => (name, .method (owner ++ "." ++ name) true))

/-- The name under which a class keeps how its fields are written. -/
def configurationName : String := "dataclass_json_config"

/-- The class of what is written as a tree. -/
def treeClass : ClassInfo where
  id := { moduleName := "dataclasses_json.api", path := "DataClassJsonMixin", metaName := "ABCMeta" }
  attributes := OrderedMap.ofList
    ((configurationName, .value .null) ::
      methodsOf "DataClassJsonMixin" ["to_json", "to_dict"] ["from_json", "from_dict", "schema"])

/-- The class of all snapshots. -/
def baseClass : ClassInfo where
  id := { moduleName := "stategen.runtime.snapshot", path := "Snapshot", metaName := "ABCMeta" }
  ancestors := [treeClass]
  attributes := OrderedMap.ofList
    (methodsOf "Snapshot" ["encode"] ["decode", "_resolve_field_types"])

/-- The path of a method of all snapshots. -/
def methodPath (name : String) : String :=
  match baseClass.attribute? name with
  | some (.method path _) => path
  | _ => name

/-- The value that hides a method of a class, if there is one. -/
def hidden? (c : ClassInfo) (name : String) : Option Value :=
  match c.attribute? name with
  | some (.method _ _) => none
  | some other => other.value? c.id
  | none => none

/-- Why a value cannot say how fields are written, if it cannot. -/
def configurationFault? (value : Value) : Option Hint.Fault :=
  match value with
  | .null => none
  | other =>
    match (Hint.makeMap { positional := [Hint.ofValue other] }).value {} with
    | .ok _ => none
    | .error fault => some fault

end StateContainer.Snapshot
