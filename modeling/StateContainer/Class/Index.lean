/-
This file says which modules there are and how one is found by its name.

A module is there if it was built, if it stands around one that was built, or if
it is there without being built. All modules around a module have to be there
too; the outermost one that is missing is reported.
-/

import StateContainer.Class.Module
import StateContainer.Text.Quoted

namespace StateContainer

/-- The modules that there are. -/
structure ModuleIndex where
  names : List String
  /-- Those that may hold further modules. -/
  packages : List String
deriving Repr

namespace ModuleIndex

/-- Why a module is not found. -/
inductive Error where
  | emptyName
  /-- A name that begins with a dot is relative to a module, and none is given. -/
  | relativeName (name : String)
  | absent (name : String)
  /-- A module that has no modules inside is asked for one. -/
  | noPackage (name parent : String)
deriving DecidableEq, Repr

/-- The name of the class of an error. -/
def Error.className : Error → String
  | emptyName => "ValueError"
  | relativeName _ => "TypeError"
  | absent _ => "ModuleNotFoundError"
  | noPackage _ _ => "ModuleNotFoundError"

/-- The wording of an error. -/
def Error.message : Error → String
  | emptyName => "Empty module name"
  | relativeName name =>
    "the 'package' argument is required to perform a relative import for " ++ Text.quoted name
  | absent name => "No module named " ++ Text.quoted name
  | noPackage name parent =>
    "No module named " ++ Text.quoted name ++ "; " ++ Text.quoted parent ++ " is not a package"

/-- The modules around a module, the outermost first, and the module itself. -/
def ancestors (name : String) : List String :=
  let parts := Text.dottedParts name
  (List.range parts.length).map fun count => Text.dotted (parts.take (count + 1))

/-- The index of the modules with the given names. What stands around them holds no others. -/
def ofNames (names : List String) : ModuleIndex :=
  { names := names.flatMap ancestors ++ Catalogue.names, packages := Catalogue.packages }

/-- Whether there is a module of a name. -/
def contains (index : ModuleIndex) (name : String) : Bool :=
  index.names.contains name

/-- Looks for a module and for those around it. -/
def find (index : ModuleIndex) (name : String) : Except Error Unit :=
  match (ancestors name).find? (!index.contains ·) with
  | none => .ok ()
  | some missing =>
    match (Text.dottedParts missing).dropLast with
    | [] => .error (.absent missing)
    | parts =>
      let parent := Text.dotted parts
      if index.packages.contains parent then .error (.absent missing)
      else .error (.noPackage missing parent)

/-- Looks for a module by a name that comes from outside. -/
def findGiven (index : ModuleIndex) (name : String) : Except Error Unit :=
  if name.toList.head? = some '.' then .error (.relativeName name)
  else if name = "" then .error .emptyName
  else index.find name

end ModuleIndex

end StateContainer
