/-
This file writes the annotation of a described type, and finds the modules that
the names in the annotation need.

Names of the basic and collection types of the JVM languages stand for their
counterparts, be they simple or qualified with a package of those languages;
names of built-in types lose their qualifier; all other names are written as
they are. A union is written with bars, and a nullable type as a union with the
null type.
-/

import StateContainer.Descriptor
import StateContainer.QualifiedName

namespace StateContainer.TypeText

/-! ### Names -/

/-- The simple names that have counterparts, with those counterparts. -/
def counterparts : List (String × String) := [
  ("String", "str"), ("Int", "int"), ("Long", "int"), ("Short", "int"), ("Byte", "int"),
  ("Float", "float"), ("Double", "float"), ("Boolean", "bool"), ("Any", "object"),
  ("Unit", "None"), ("List", "list"), ("MutableList", "list"), ("Set", "set"),
  ("MutableSet", "set"), ("Map", "dict"), ("MutableMap", "dict"), ("Pair", "tuple"),
  ("Triple", "tuple")]

/-- The packages whose types are known by their simple names, in the order in which they are
tried. -/
def knownPackages : List String :=
  ["kotlin.", "kotlin.collections.", "java.lang.", "java.util."]

/-- The qualifier of built-in types. -/
def builtinQualifier : String := "builtins."

/-- What follows a given beginning of a text. -/
def afterStart? (start text : String) : Option String :=
  if start.toList.isPrefixOf text.toList then
    some (String.ofList (text.toList.drop start.toList.length))
  else none

/-- The counterpart of a name, if it has one. -/
def counterpart? (name : String) : Option String :=
  (counterparts.lookup name).or
    (knownPackages.findSome? fun package =>
      (afterStart? package name).bind (counterparts.lookup ·))

/-- The name that is written for a qualified name. -/
def mapName (name : String) : String :=
  (counterpart? name).getD ((afterStart? builtinQualifier name).getD name)

/-- The name of unions. -/
def unionName : String := "typing.Union"

/-- The null type. -/
def nullName : String := "None"

/-! ### Annotations -/

/-- The annotation with the null type added, unless it is the null type already. -/
def orNull (nullable : Bool) (text : String) : String :=
  if nullable && text ≠ nullName then text ++ " | " ++ nullName else text

/-- The annotation of a type. -/
def write : Descriptor → String
  | ⟨name, nullable, arguments⟩ =>
    let written := writeAll arguments
    orNull nullable <|
      if name = unionName then " | ".intercalate written
      else if arguments.isEmpty then mapName name
      else mapName name ++ "[" ++ ", ".intercalate written ++ "]"
where
  /-- The annotations of several types. -/
  writeAll : List Descriptor → List String
    | [] => []
    | first :: others => write first :: writeAll others

/-- Each of several types is annotated by itself. -/
theorem writeAll_eq_map (types : List Descriptor) : write.writeAll types = types.map write := by
  induction types with
  | nil => rfl
  | cons first others inductionHypothesis =>
    rw [write.writeAll, inductionHypothesis, List.map_cons]

/-! ### Modules -/

/-- Inserts a name into an ascending list of names, unless it is there already. -/
def insertName (name : String) : List String → List String
  | [] => [name]
  | first :: others =>
    if name < first then name :: first :: others
    else if name = first then first :: others
    else first :: insertName name others

/-- The module that a name has to be imported from. A name that is written differently, a union
and a built-in name need none. -/
def moduleOf? (name : String) : Option String :=
  if name ≠ unionName && mapName name = name then
    match QualifiedName.split? name with
    | some (moduleName, _) => if moduleName = "builtins" then none else some moduleName
    | none => none
  else none

/-- Adds the modules that the names in a type need to an ascending list of modules. -/
def addModules : Descriptor → List String → List String
  | ⟨name, _, arguments⟩, modules =>
    addAllModules arguments
      (match moduleOf? name with
      | some moduleName => insertName moduleName modules
      | none => modules)
where
  /-- Adds the modules of several types. -/
  addAllModules : List Descriptor → List String → List String
    | [], modules => modules
    | first :: others, modules => addAllModules others (addModules first modules)

/-- The modules that the names in a type need, in ascending order. -/
def modules (t : Descriptor) : List String :=
  addModules t []

end StateContainer.TypeText
