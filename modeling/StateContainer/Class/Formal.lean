/-
This file holds the constructors of classes: their parameters, how they are read
from the text of a parameter list, and how the arguments of a call are bound to
them.

A constructor takes the instance as its first argument by position.
-/

import StateContainer.Hint.Evaluate

namespace StateContainer.Class

/-! ### Parameters -/

/-- A formal parameter. -/
structure Formal where
  name : String
  kind : Hint.ParameterKind := .either
  type : Option Hint := none
  hasDefault : Bool := false
deriving Repr, Inhabited

/-- A formal parameter as far as arguments are bound to it. -/
def Formal.parameter (f : Formal) : Hint.Parameter :=
  { name := f.name, kind := f.kind, hasDefault := f.hasDefault }

/-- A constructor: the path of the class that it is written in, the parameter that takes the
instance, if there is one of its own, and the other parameters. -/
structure Constructor where
  owner : String
  receiver : Option Formal := some { name := "self" }
  formals : List Formal
deriving Repr, Inhabited

/-- Whether the instance has a place among the arguments by position. -/
def Constructor.takesInstance (c : Constructor) : Bool :=
  c.receiver.isSome || (c.formals.head?.map (·.kind)) = some .rest

/-- What a constructor is called in messages, and all its parameters. -/
def Constructor.header (c : Constructor) : Hint.Header :=
  { title := c.owner ++ ".__init__"
    parameters := (c.receiver.toList ++ c.formals).map Formal.parameter }

/-! ### Binding -/

/-- Binds the arguments of a call. The instance comes first, and is left out of the result, as
are the parameters that take their default. -/
def Constructor.bind {α : Type} (c : Constructor) (arguments : List α) (named : List (String × α)) :
    Except Hint.BindingError (List (String × α)) := do
  let bound ← c.header.bind (none :: arguments.map some) (named.map fun (name, a) => (name, some a))
  return bound.single.filterMap fun (name, a) => a.map (name, ·)

/-! ### Reading parameters -/

/-- The parameters of a hand-written constructor. Defaults are evaluated before annotations. -/
def evaluateFormals (scope : Hint.Scope) (written : List Hint.WrittenParameter) :
    Hint.Evaluation (List Formal) := do
  let _ ← (written.filterMap (·.default)).mapM (Hint.evaluateIn scope)
  written.mapM fun p => do
    let type ← match p.annotation with
      | some expression => some <$> Hint.evaluateIn scope expression
      | none => pure none
    return { name := p.name, kind := p.kind, type, hasDefault := p.default.isSome }

/-- The constructor with the given parameters, of which the first one by position takes the
instance. -/
def Constructor.ofFormals (owner : String) : List Formal → Constructor
  | [] => { owner, receiver := none, formals := [] }
  | first :: others =>
    if first.kind = .position || first.kind = .either then
      { owner, receiver := some first, formals := others }
    else { owner, receiver := none, formals := first :: others }

end StateContainer.Class
