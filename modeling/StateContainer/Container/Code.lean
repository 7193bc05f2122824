/-
This file reads and writes the text of a generated module as far as it depends on
names and annotations.

A generated class keeps its annotations as texts, with one blank where an operator
or a comma asks for it, and every literal in its plain form. An annotation that is
made of anything but names, literals, brackets and bars is kept as it is written.

A text cannot be read because of names that cannot be names of the module, and of
annotations that are no expressions. The first line that cannot be read is
reported.
-/

import StateContainer.Hint.Reader
import StateContainer.ModuleText

namespace StateContainer.Annotation

/-- An operand, in brackets if it has an operator of its own. -/
def enclosed (operand : Hint.Expression) (text : String) : String :=
  match operand with
  | .binary _ _ _ => "(" ++ text ++ ")"
  | _ => text

/-- The items of a tuple. A single one has a comma after it. -/
def itemsText (items : List String) : String :=
  ", ".intercalate items ++ (if items.length = 1 then "," else "")

mutual

/-- The text of an expression, if it is made of names, literals, brackets and bars. -/
def text? : Hint.Expression → Option String
  | .name identifier => some identifier
  | .value literal => some literal.literal
  | .ellipsis => some "..."
  | .attribute base identifier => do return enclosed base (← text? base) ++ "." ++ identifier
  | .subscript base (.tuple (first :: others)) => do
    let parts ← texts? (first :: others)
    return enclosed base (← text? base) ++ "[" ++ itemsText parts ++ "]"
  | .subscript base index => do
    return enclosed base (← text? base) ++ "[" ++ (← text? index) ++ "]"
  | .tuple items => do return "(" ++ itemsText (← texts? items) ++ ")"
  | .list items => do return "[" ++ ", ".intercalate (← texts? items) ++ "]"
  | .binary "|" left right => do return (← text? left) ++ " | " ++ enclosed right (← text? right)
  | _ => none

/-- The texts of several expressions. -/
def texts? : List Hint.Expression → Option (List String)
  | [] => some []
  | first :: others => do return (← text? first) :: (← texts? others)

end

/-- An annotation the way a class keeps it. -/
def kept (written : String) : String :=
  match Hint.Reader.read written with
  | .ok expression => (text? expression).getD written
  | .error _ => written

end StateContainer.Annotation

namespace StateContainer.Code

/-- Why the text of a module cannot be read, and on which line. -/
structure Flaw where
  text : String
  line : Nat
deriving DecidableEq, Repr

/-- The name that texts of generated modules have in messages. -/
def sourceName : String := "generated_state"

/-- The wording of a flaw. -/
def Flaw.message (f : Flaw) : String :=
  f.text ++ s!" ({sourceName}, line {f.line})"

/-! ### Names -/

/-- Whether a name can be written: it is an identifier and no reserved word. -/
def isWritable (name : String) : Bool :=
  Text.isIdentifier name && !Hint.Token.keywords.contains name

/-- Whether a name with dots can be written. -/
def isPathWritable (path : String) : Bool :=
  (Text.dottedParts path).all isWritable

/-- The name that a class gives to a name inside of it that begins with two underscores. -/
def insideName (className name : String) : String :=
  let bare := className.toList.dropWhile (· = '_')
  let isPrivate := ['_', '_'].isPrefixOf name.toList && !(['_', '_'].isSuffixOf name.toList)
  if isPrivate && !bare.isEmpty then "_" ++ String.ofList bare ++ name else name

/-! ### Lines -/

/-- The lines of a module up to and with the import of the runtime. -/
def linesBefore (a : ArtifactSet) : Nat :=
  a.titleLines.length + a.standardImportLines.length + a.typeImportLines.length +
    (a.runtimeImportLines "").length

/-- The modules of types that cannot be imported, with their lines. -/
def typeImportFlaws (a : ArtifactSet) : List Flaw :=
  let start := a.titleLines.length + a.standardImportLines.length + 2
  (a.typeImports.zipIdx).filterMap fun (name, place) =>
    if isPathWritable name then none else some ⟨"invalid syntax", start + place⟩

/-- The imports of the definition and of its view model that cannot be read. -/
def definitionFlaws (a : ArtifactSet) : List Flaw :=
  let start := linesBefore a + 1
  let viewModel := a.viewModel?.toList.map fun (moduleName, path) =>
    (moduleName, QualifiedName.outermost path)
  (((a.schema.definition.moduleName, a.name) :: viewModel).zipIdx).filterMap
    fun ((moduleName, name), place) =>
      if isPathWritable moduleName && isWritable name then none
      else some ⟨"invalid syntax", start + place⟩

/-- Whether a problem is one of the characters of a text and not of their order. -/
def isOfCharacters : Hint.ProblemCause → Bool
  | .misplaced => false
  | .commaMissing => false
  | .alternativeMissing => false
  | .misordered _ => false
  | .outsideFunction _ => false
  | .unclosed _ => false
  | .malformedFormat => false
  | _ => true

/-- The annotations of accessors that are no expressions. Where one is none, the end of the line
is missed before it. -/
def annotationFlaws (a : ArtifactSet) : List Flaw :=
  let start := linesBefore a + a.definitionImportLines.length + 3
  ((a.interface.ofKind .accessor).zipIdx).filterMap fun (member, place) =>
    match Hint.Reader.read member.typeText with
    | .ok _ => none
    | .error problem =>
      let text := if isOfCharacters problem.cause then problem.cause.message else "expected ':'"
      some ⟨text, start + place⟩

/-- The first flaw of the text of a module. -/
def flaw? (a : ArtifactSet) : Option Flaw :=
  (typeImportFlaws a ++ definitionFlaws a ++ annotationFlaws a).head?

end StateContainer.Code
