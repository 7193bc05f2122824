/-
This file splits the qualified name of a class into the module it lives in and
the path of the class inside the module.

Modules are written in lower case and classes are capitalised, so the path
begins at the first of the capitalised parts at the end of the name. The last
part belongs to the path in any case: `a.b.Outer.Inner` is the path
`Outer.Inner` in the module `a.b`, and `a.b` is the path `b` in the module `a`.
-/

import StateContainer.Text.Case
import StateContainer.Text.Identifier
import StateContainer.Text.Pieces

namespace StateContainer.QualifiedName

/-- Whether a part of a name is capitalised. -/
def isCapitalised (part : String) : Bool :=
  (part.toList.head?.map Text.isUpper).getD false

/-- The parts that name the module, given all parts but the last. -/
def moduleParts (parts : List String) : List String :=
  (parts.reverse.dropWhile isCapitalised).reverse

/-- The module and the path of a qualified name. Nothing if the name has a single part or a part
that is no identifier, or if every part but the last is capitalised. -/
def split? (name : String) : Option (String × String) :=
  let parts := Text.dottedParts name
  if parts.length < 2 || !parts.all Text.isIdentifier then none
  else
    match moduleParts parts.dropLast with
    | [] => none
    | first :: others =>
      let modulePath := first :: others
      some (Text.dotted modulePath, Text.dotted (parts.drop modulePath.length))

/-- The outermost class of a path inside a module. -/
def outermost (path : String) : String :=
  String.ofList (Text.beforeFirst '.' path.toList)

/-- What stands before the last dot of a module name. -/
def package (moduleName : String) : String :=
  String.ofList (Text.beforeLast '.' moduleName.toList)

end StateContainer.QualifiedName
