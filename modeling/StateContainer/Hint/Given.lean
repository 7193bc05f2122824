/-
This file holds the arguments of calls and how functions take them apart.

A function that is not written with parameters of its own kind counts its
arguments by itself, and has its own wordings for too few and too many of them.
-/

import StateContainer.Hint.Binding
import StateContainer.Hint.Subscript

namespace StateContainer.Hint

/-- The arguments of a call. -/
structure Given where
  positional : List Hint := []
  named : List (String × Hint) := []

/-- Raises an error in a value. -/
def invalid {α : Type} (text : String) : Evaluation α :=
  throw (.raised "ValueError" text)

/-! ### Counts of arguments -/

/-- The plain wording of a number of arguments. -/
def amount (count : Nat) : String :=
  if count = 1 then s!"{count} argument" else s!"{count} arguments"

/-- Refuses arguments by name. -/
def checkUnnamed (title : String) (given : Given) : Evaluation Unit :=
  if given.named.isEmpty then return ()
  else misused (.other s!"{title}() takes no keyword arguments")

/-- The single argument of a function. -/
def single (title : String) (given : Given) : Evaluation Hint := do
  checkUnnamed title given
  match given.positional with
  | [only] => return only
  | others =>
    let count := others.length
    misused (.other s!"{title}() takes exactly one argument ({count} given)")

/-- The two arguments of a function. -/
def pair (title : String) (given : Given) : Evaluation (Hint × Hint) := do
  checkUnnamed title given
  match given.positional with
  | [first, second] => return (first, second)
  | others =>
    let count := others.length
    misused (.other s!"{title} expected 2 arguments, got {count}")

/-- The argument of a constructor, if there is one. -/
def atMostOne (title : String) (given : Given) : Evaluation (Option Hint) := do
  checkUnnamed title given
  match given.positional with
  | [] => return none
  | [only] => return some only
  | others =>
    let count := others.length
    misused (.other s!"{title} expected at most 1 argument, got {count}")

/-- The arguments of a function with the given parameters. -/
def bindGiven (header : Header) (given : Given) : Evaluation (Bound Hint) :=
  match header.bind given.positional given.named with
  | .ok bound => return bound
  | .error error => misused (.other error.message)

/-! ### Arguments one after the other -/

/-- Refuses more arguments than there may be. -/
def refuseCount {α : Type} (title : String) (most : Nat) (manner : String) (count : Nat) :
    Evaluation α :=
  let ending := plural most
  misused (.other s!"{title} takes at most {most} {manner}argument{ending} ({count} given)")

/-- Takes the arguments one after the other in the order of the parameters, and reads each one
before the next one is taken. The first parameters are required, and the last ones are given by
name alone. -/
def takeInOrder {α : Type} (title : String) (parameters : List String) (required byName : Nat)
    (read : String → Hint → Evaluation α) (given : Given) : Evaluation (List (String × α)) := do
  let most := parameters.length
  let byPosition := most - byName
  let count := given.positional.length + given.named.length
  if most < count then
    refuseCount title most (if given.positional.isEmpty then "keyword " else "") count
  let taken ← parameters.zipIdx.filterMapM fun (name, place) => do
    let position := place + 1
    match given.positional[place]?, given.named.lookup name with
    | some _, some _ =>
      misused (.other s!"argument for {title} given by name ('{name}') and position ({position})")
    | some only, none =>
      if byPosition ≤ place then
        refuseCount title byPosition "positional " given.positional.length
      else return some (name, ← read name only)
    | none, some only => return some (name, ← read name only)
    | none, none =>
      if place < required then
        misused (.other s!"{title} missing required argument '{name}' (pos {position})")
      else return none
  match given.named.find? fun (name, _) => !parameters.contains name with
  | some (name, _) =>
    let owner := if title = "function" then "this function" else title
    misused (.other s!"'{name}' is an invalid keyword argument for {owner}")
  | none => return taken

/-! ### Integers -/

/-- An integer that is an argument. -/
def integerGiven (hint : Hint) : Evaluation Int :=
  match index? hint with
  | some n => return n
  | none =>
    misused (.other ("'" ++ hint.kindName ++ "' object cannot be interpreted as an integer"))

/-- An integer of a machine word of so many bits that is an argument. -/
def wordGiven (hint : Hint) : Evaluation Int := do
  let n ← integerGiven hint
  if twoPower 63 ≤ n || n < -twoPower 63 then
    throw (.raised "OverflowError" "Python int too large to convert to C long")
  else if twoPower 31 ≤ n then throw (.raised "OverflowError" "signed integer is greater than maximum")
  else if n < -twoPower 31 then throw (.raised "OverflowError" "signed integer is less than minimum")
  else return n

end StateContainer.Hint
