/-
This file holds the trees that the text of a snapshot stands for: null, truth
values, numbers, texts, arrays and objects.

Integers and floating-point numbers are kept apart. The entries of an object are
a list, so that an object can be written whatever its keys are; where an object
is read, a key that is repeated keeps its first place and takes its last value.
-/

import StateContainer.Number.Notation

namespace StateContainer

/-- A tree of the interchange format. -/
inductive Json where
  | null
  | bool (value : Bool)
  | int (value : Int)
  | float (value : Binary64)
  | text (value : String)
  | array (items : List Json)
  | object (entries : List (String × Json))
deriving Inhabited, Repr

namespace Json

/-- The spelling of numbers that are not finite. -/
def numberSpelling : Binary64.Spelling := ⟨"NaN", "Infinity", "-Infinity"⟩

/-- The value of a key of an object. -/
def field? (key : String) : Json → Option Json
  | object entries => entries.lookup key
  | _ => none

end Json

end StateContainer
