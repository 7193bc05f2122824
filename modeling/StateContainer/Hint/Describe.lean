/-
This file describes what an annotation evaluates to as a type with a name,
nullability and arguments.

A union with the null type is nullable, and a union of one more type is that
type. The arguments of the type of functions and of literal types, and the
remarks on a type, are dropped, and so is the ellipsis among arguments. A text
is read as a signature. What has no name is called by its text.
-/

import StateContainer.Hint.Fault
import StateContainer.Signature.Parser
import StateContainer.TypeText

namespace StateContainer.Hint

/-- Why something cannot be described. -/
inductive DescriptionError where
  /-- A text is no signature. -/
  | signature (error : Signature.ParseError)
  /-- A number is too long to be written. -/
  | tooLong
deriving Repr

/-- The name of something: the qualified one, or its text if it has none. -/
def qualifiedName : Hint → String
  | moduleRef name => name
  | classRef id => id.qualifiedName
  | function m path => m ++ "." ++ path
  | method path _ => path
  | closure _ _ _ _ => "<lambda>"
  | series _ _ => "<genexpr>"
  | thing t =>
    match t.moduleName, t.path with
    | some m, some path => m ++ "." ++ path
    | _, _ => t.text
  | form name => typingName name
  | newType m name _ => m ++ "." ++ name
  | other => other.written

/-- Whether the arguments of a class are dropped: they are for the classes of functions. -/
def dropsArguments (id : ClassId) : Bool :=
  "Callable".toList.isSuffixOf id.qualifiedName.toList

mutual

/-- The description of an evaluated annotation. -/
def describe : Hint → Except DescriptionError Descriptor
  | value .null => .ok ⟨TypeText.nullName, false, []⟩
  | value (.text text) => (Signature.parse text).mapError .signature
  | typeVariable v => .ok ⟨v.name, false, []⟩
  | union _ members => do
    let described ← describeMembers members
    let nullable := members.any isNullType
    match described with
    | [only] => return only.asNullable nullable
    | several => return ⟨TypeText.unionName, nullable, several⟩
  | standIn _ origin _ => .ok ⟨origin.qualifiedName, false, []⟩
  | applied _ origin arguments =>
    if dropsArguments origin then .ok ⟨origin.qualifiedName, false, []⟩
    else do return ⟨origin.qualifiedName, false, ← describeArguments arguments⟩
  | unpacked generic => describe generic
  | literal _ => .ok ⟨typingName "Literal", false, []⟩
  | annotated _ _ => .ok ⟨annotatedClass.qualifiedName, false, []⟩
  | qualified name arguments => do
    return ⟨typingName name, false, ← describeArguments arguments⟩
  | classRef id =>
    .ok ⟨if id = nullClass then TypeText.nullName else id.qualifiedName, false, []⟩
  | other =>
    if other.isTooLong then .error .tooLong else .ok ⟨other.qualifiedName, false, []⟩

/-- The descriptions of the members of a union other than the null type. -/
def describeMembers : List Hint → Except DescriptionError (List Descriptor)
  | [] => .ok []
  | first :: others =>
    if first.isNullType then describeMembers others
    else do
      let first ← describe first
      let others ← describeMembers others
      return first :: others

/-- The descriptions of arguments other than the ellipsis. -/
def describeArguments : List Hint → Except DescriptionError (List Descriptor)
  | [] => .ok []
  | first :: others =>
    if first.isEllipsis then describeArguments others
    else do
      let first ← describe first
      let others ← describeArguments others
      return first :: others

end

end StateContainer.Hint
