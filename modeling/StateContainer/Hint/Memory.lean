/-
This file holds what evaluating annotations remembers.

A form or a generic type that is applied to equal arguments again stands for the
very type that it stood for first, so that the order of the members of a union is
that of its first occurrence. Names that an expression binds are remembered, too.
-/

import StateContainer.Hint.Fault
import StateContainer.OrderedMap

namespace StateContainer.Hint

/-- What is applied to which arguments. -/
structure Application where
  base : Hint
  arguments : List Hint
  /-- Arguments of different classes are told apart even if they are equal. -/
  typed : Bool := false
deriving Repr, Inhabited

/-- Whether two applications have one result. -/
def Application.matches (first second : Application) : Bool :=
  same first.base second.base && sameAll first.arguments second.arguments &&
    (!first.typed ||
      (first.arguments.zip second.arguments).all fun (one, other) => one.isOfClass other)

/-- Whether an application can be found again. -/
def Application.isKey (a : Application) : Bool :=
  (unhashable? a.base).isNone && (unhashableIn? a.arguments).isNone

/-- What is remembered. -/
structure Memory where
  results : List (Application × Hint) := []
  bindings : OrderedMap String Hint := {}
  /-- How many variables have been made. -/
  variableCount : Nat := 0
deriving Inhabited

/-- The value of an annotation, or why there is none, and what is remembered. -/
abbrev Evaluation := ExceptT Fault (StateM Memory)

/-- The result of an evaluation that begins with the given memory. -/
def Evaluation.value {α : Type} (evaluation : Evaluation α) (memory : Memory) : Except Fault α :=
  (evaluation.run memory).1

/-- The memory after an evaluation. -/
def Evaluation.after {α : Type} (evaluation : Evaluation α) (memory : Memory) : Memory :=
  (evaluation.run memory).2

/-- Reports a misuse. -/
def misused {α : Type} (cause : Misuse) : Evaluation α :=
  throw (.misuse cause)

/-- Takes the result of an application, unless it is remembered. -/
def remembering (application : Application) (make : Evaluation Hint) : Evaluation Hint := do
  if !application.isKey then make
  else
    match (← get).results.find? (application.matches ·.1) with
    | some (_, result) => return result
    | none =>
      let result ← make
      modify fun memory => { memory with results := memory.results ++ [(application, result)] }
      return result

/-- Binds a name. -/
def bindName (name : String) (hint : Hint) : Evaluation Unit :=
  modify fun memory => { memory with bindings := memory.bindings.insert name hint }

/-- The number of a new variable. -/
def nextSerial : Evaluation Nat := do
  modify fun memory => { memory with variableCount := memory.variableCount + 1 }
  return (← get).variableCount

end StateContainer.Hint
