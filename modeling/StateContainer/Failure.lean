/-
This file holds the failures that the operations of channels and containers
report, and those that observers raise themselves.
-/

import StateContainer.Class.Instance
import StateContainer.Snapshot.Store

namespace StateContainer

/-- Why an operation failed. -/
inductive Failure where
  /-- An observer, or the user of a subscription, raised an error with a text. -/
  | raised (text : String)
  /-- An observer broke off everything that was going on. -/
  | broken (text : String)
  /-- A thing of a class lacks an attribute. -/
  | missing (className attributeName : String)
  /-- A map is read without a key. -/
  | keyMissing
  /-- Nothing is kept under a name. -/
  | unknown (name : String)
  /-- The arguments of a constructor cannot be bound. -/
  | binding (error : Hint.BindingError)
  /-- A function does not take an argument of that name. -/
  | unexpected (functionName argument : String)
  /-- An instance does not have what is asked for. -/
  | state (error : Instance.InstanceError)
  /-- A snapshot cannot be read. -/
  | snapshot (error : SnapshotError)
  /-- A snapshot cannot be written. -/
  | encoding (error : Snapshot.EncodingError)
  /-- Something is evaluated that has no value. -/
  | failed (cause : Hint.Fault)
  /-- A factory has no view model to make. -/
  | noViewModel (factoryName : String)
  /-- A method is left to those who specialise the class. -/
  | abstract (text : String)
deriving Repr

namespace Failure

/-- The name of the class of a failure. -/
def className : Failure → String
  | raised _ => "ValueError"
  | broken _ => "Abort"
  | missing _ _ => "AttributeError"
  | keyMissing => "TypeError"
  | unknown _ => "KeyError"
  | binding _ => "TypeError"
  | unexpected _ _ => "TypeError"
  | state error => error.className
  | snapshot error => error.className
  | encoding error => error.className
  | failed cause => cause.className
  | noViewModel _ => "TypeError"
  | abstract _ => "NotImplementedError"

/-- What a failure was made with. -/
def subject : Failure → String
  | raised text => text
  | broken text => text
  | missing className attributeName =>
    "'" ++ Text.shortName 50 className ++ s!"' object has no attribute '{attributeName}'"
  | keyMissing => "get expected at least 1 argument, got 0"
  | unknown name => name
  | binding error => error.message
  | unexpected functionName argument =>
    s!"{functionName}() got an unexpected keyword argument '{argument}'"
  | state error => error.message
  | snapshot error => error.message
  | encoding error => error.message
  | failed cause => cause.message
  | noViewModel factoryName => factoryName ++ " has no view model type"
  | abstract text => text

/-- The wording of a failure. A name that is not known is quoted. -/
def message (f : Failure) : String :=
  match f with
  | unknown name => Text.quoted name
  | _ => f.subject

/-- A failure as it is shown in the log. -/
def literal (f : Failure) : String :=
  f.className ++ "(" ++ Text.quoted f.subject ++ ")"

/-- The failure of reading a value that is no event. Of all values maps alone can be read, by a
key. -/
def unreadable : Value → Failure
  | .dict _ => keyMissing
  | value => missing value.className "get"

end Failure

end StateContainer
