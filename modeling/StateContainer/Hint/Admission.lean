/-
This file checks what may stand among types.

Null stands for its type there, and a text for the type that is known by it. The
text has to be an expression. Forms without arguments, qualifiers and tuples are
no types.
-/

import StateContainer.Hint.Memory
import StateContainer.Hint.Reader

namespace StateContainer.Hint

/-! ### Texts -/

/-- The expression that a text stands for. A text that begins with a star is read as the one item
of a tuple. -/
def readText (text : String) : Except Problem Expression :=
  match text.toList with
  | '*' :: _ => Reader.read ("(" ++ text ++ ",)[0]")
  | _ => Reader.read text

/-- The expression that a text among types stands for. -/
def expressionOf (text : String) : Evaluation Expression :=
  if text.isEmpty then throw .emptyText
  else
    match readText text with
    | .ok expression => return expression
    | .error ⟨.nullByte, line⟩ => throw (.malformed ⟨.nullByte, line⟩)
    | .error _ => throw (.malformedText text)

/-- A type that is known by a text. -/
def forwardOf (text : String) : Evaluation Hint := do
  let _ ← expressionOf text
  return forward text

/-- Takes null as the null type and a text as a type that is known by it. -/
def convert : Hint → Evaluation Hint
  | value .null => return nullType
  | value (.text text) => forwardOf text
  | other => return other

/-! ### Types -/

/-- The forms that are types by themselves. -/
def typeForms : List String := ["LiteralString", "NoReturn", "Never", "Self", "TypeAlias"]

/-- What may stand among types. -/
structure Admission where
  /-- The qualifiers of fields are admitted. -/
  qualifiers : Bool := false
  /-- The type is an argument of another one. -/
  argument : Bool := true

/-- Whether a form with arguments is refused. -/
def Admission.refuses (admission : Admission) (form : String) : Bool :=
  form = "Generic" || form = "Protocol" ||
    (!admission.qualifiers && (form = "ClassVar" || (admission.argument && form = "Final")))

/-- Checks that something may be a type; the message is for a tuple. -/
def checkType (admission : Admission) (message : String) (given : Hint) : Evaluation Hint := do
  let hint ← convert given
  match hint with
  | qualified name _ =>
    if admission.refuses name then misused (.qualifierArgument hint.written) else return hint
  | annotated (form name) _ =>
    if admission.refuses name then misused (.qualifierArgument hint.written) else return hint
  | form name =>
    if typeForms.contains name then return hint
    else if admission.qualifiers && (name = "ClassVar" || name = "Final") then return hint
    else misused (.plainForm hint.written)
  | classRef id =>
    if id.moduleName = "typing" && (id.path = "Generic" || id.path = "Protocol") then
      misused (.plainForm hint.written)
    else return hint
  | tuple _ => misused (.tupleArgument message hint.written)
  | _ => return hint

/-- Checks an argument of a generic type. -/
def checkArgument (message : String) (given : Hint) : Evaluation Hint :=
  checkType {} message given

/-- Checks the number of arguments. -/
def checkCount (text : String) (actual expected : Nat) : Evaluation Unit :=
  if expected = 0 then misused (.notGeneric text)
  else if actual = expected then return ()
  else misused (.argumentCount text actual expected)

/-- Refuses what cannot be a key. -/
def checkKey (hint : Hint) : Evaluation Unit :=
  match unhashable? hint with
  | some kind => misused (.unhashable kind)
  | none => return ()

end StateContainer.Hint
