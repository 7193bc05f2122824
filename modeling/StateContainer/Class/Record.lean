/-
This file makes records of what the names of a module are bound to.

An instance of a class of the module is constructed, and values are assigned to
it. Anything else is called, too, so that the call fails in its own way; what it
gives is no record in any case.
-/

import StateContainer.Class.Instance
import StateContainer.Class.Module
import StateContainer.Hint.Call

namespace StateContainer

/-- Why a record cannot be made. -/
inductive RecordError where
  /-- What is called is no class of the module, and the call fails. -/
  | call (fault : Hint.Fault)
  /-- The instance cannot be made or changed in that way. -/
  | handling (error : Instance.InstanceError)

/-- The name of the class of an error. -/
def RecordError.className : RecordError → String
  | call fault => fault.className
  | .handling error => error.className

/-- The wording of an error. -/
def RecordError.message : RecordError → String
  | call fault => fault.message
  | .handling error => error.message

/-- What a record is made from: arguments by position and by name, and what is assigned to fields
afterwards. -/
structure RecordPlan where
  positional : List Value := []
  named : List (String × Value) := []
  assigned : List (String × Value) := []
deriving Repr, Inhabited

namespace RecordPlan

/-- The instance of a class that is made by a plan. -/
def instanceOf (plan : RecordPlan) (c : ClassInfo) : Except Instance.InstanceError Instance := do
  let made ← Instance.make c plan.positional plan.named
  plan.assigned.foldlM (fun (i : Instance) (name, value) => i.set name value) made

/-- The record that is made by a plan of something that a name of a module is bound to. -/
def make (plan : RecordPlan) (m : ClassModule) (found : Hint) : Except RecordError Instance :=
  let built : Option ClassInfo :=
    match found with
    | .classRef id => m.classOf? id
    | _ => none
  match built with
  | some c => (plan.instanceOf c).mapError .handling
  | none => do
    let given : Hint.Given :=
      { positional := plan.positional.map Hint.ofValue
        named := plan.named.map fun (name, value) => (name, Hint.ofValue value) }
    let call := Hint.callKnown Hint.commonScope m.name (fun _ _ => return .null) found given
    let _ ← (call.value m.memory).mapError .call
    throw (.handling .noRecord)

end RecordPlan

end StateContainer
