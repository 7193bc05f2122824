/-
This file writes a description of a type as a signature: the name, the arguments
in brackets with a comma and a blank between them, and a question mark behind a
nullable type.
-/

import StateContainer.Descriptor
import StateContainer.Signature.Token

namespace StateContainer.Signature

/-- The characters around a list of arguments. -/
structure Delimiters where
  opening : Char
  closing : Char
deriving DecidableEq, Repr

/-- The delimiters of a kind of brackets. -/
def Bracket.delimiters (bracket : Bracket) : Delimiters :=
  ⟨bracket.opening, bracket.closing⟩

/-- Why a text does not give delimiters. -/
inductive DelimiterError where
  /-- It has fewer than two characters. -/
  | tooFew (count : Nat)
  /-- It has more than two characters. -/
  | tooMany
deriving DecidableEq, Repr

/-- The wording of an error. -/
def DelimiterError.message : DelimiterError → String
  | tooFew count => s!"not enough values to unpack (expected 2, got {count})"
  | tooMany => "too many values to unpack (expected 2)"

/-- The delimiters that a text of two characters gives. -/
def Delimiters.ofString (text : String) : Except DelimiterError Delimiters :=
  match text.toList with
  | [opening, closing] => .ok ⟨opening, closing⟩
  | [] => .error (.tooFew 0)
  | [_] => .error (.tooFew 1)
  | _ :: _ :: _ :: _ => .error .tooMany

mutual

/-- The characters of the signature of a type. -/
def renderChars (delimiters : Delimiters) : Descriptor → List Char
  | ⟨name, nullable, arguments⟩ =>
    name.toList ++ renderArguments delimiters arguments ++ (if nullable then ['?'] else [])

/-- The list of arguments with its delimiters; nothing if there are no arguments. -/
def renderArguments (delimiters : Delimiters) : List Descriptor → List Char
  | [] => []
  | first :: others =>
    delimiters.opening :: renderChars delimiters first ++ renderOthers delimiters others ++
      [delimiters.closing]

/-- The arguments after the first one, each behind a comma. -/
def renderOthers (delimiters : Delimiters) : List Descriptor → List Char
  | [] => []
  | next :: others =>
    ',' :: ' ' :: renderChars delimiters next ++ renderOthers delimiters others

end

/-- The signature of a type. -/
def render (delimiters : Delimiters) (t : Descriptor) : String :=
  String.ofList (renderChars delimiters t)

/-- The signature of a type with angle brackets. -/
def renderAngled (t : Descriptor) : String :=
  render Bracket.angle.delimiters t

end StateContainer.Signature
