/-
This file binds the arguments of a call to the parameters of a function.

Arguments are first bound by position, then by name; only then is it checked
that there were not too many by position and that none is missing. The first
thing that is wrong is reported.
-/

import StateContainer.Hint.Expression
import StateContainer.Text.Quoted

namespace StateContainer.Hint

/-! ### Parameters -/

/-- A parameter of a function. -/
structure Parameter where
  name : String
  kind : ParameterKind := .either
  hasDefault : Bool := false
deriving DecidableEq, Repr, Inhabited

/-- A function as far as its arguments matter: what it is called in messages, and its parameters. -/
structure Header where
  title : String
  parameters : List Parameter
deriving DecidableEq, Repr, Inhabited

/-- The parameters that take an argument by position. -/
def Header.positional (h : Header) : List Parameter :=
  h.parameters.filter fun p => p.kind = .position || p.kind = .either

/-- The parameters that take an argument by name alone. -/
def Header.named (h : Header) : List Parameter :=
  h.parameters.filter (·.kind = .name)

/-- Whether there is a parameter of a kind. -/
def Header.hasKind (h : Header) (kind : ParameterKind) : Bool :=
  h.parameters.any (·.kind = kind)

/-! ### Errors -/

/-- Why arguments cannot be bound. -/
inductive BindingError where
  | unexpectedName (title name : String)
  | repeatedArgument (title name : String)
  | positionAsName (title : String) (names : List String)
  /-- There are more arguments by position than parameters. Parameters with a default are counted
  in `optional`, and arguments that were given by name alone in `named`. -/
  | tooMany (title : String) (parameters optional given named : Nat)
  | missing (title : String) (byName : Bool) (names : List String)
  /-- A class takes no arguments. -/
  | noArguments (name : String)
deriving DecidableEq, Repr

/-- Names in a sentence: with a comma and an `and`, as their number demands. -/
def enumerated (names : List String) : String :=
  match names.map Text.quoted with
  | [] => ""
  | [only] => only
  | [first, second] => first ++ " and " ++ second
  | several => ", ".intercalate several.dropLast ++ ", and " ++ several.getLastD ""

/-- The plural ending. -/
def plural (count : Nat) : String := if count = 1 then "" else "s"

/-- The wording of an error. -/
def BindingError.message : BindingError → String
  | unexpectedName title name => title ++ "() got an unexpected keyword argument " ++ s!"'{name}'"
  | repeatedArgument title name => title ++ "() got multiple values for argument " ++ s!"'{name}'"
  | positionAsName title names =>
    title ++ "() got some positional-only arguments passed as keyword arguments: '" ++
      ", ".intercalate names ++ "'"
  | tooMany title parameters optional given named =>
    let least := parameters - optional
    let range := if optional = 0 then s!"{parameters}" else s!"from {least} to {parameters}"
    let ending := if optional = 0 then plural parameters else "s"
    let more := plural given
    let most := plural named
    let extra :=
      if named = 0 then "" else s!" positional argument{more} (and {named} keyword-only argument{most})"
    let verb := if given = 1 && named = 0 then "was" else "were"
    s!"{title}() takes {range} positional argument{ending} but {given}{extra} {verb} given"
  | missing title byName names =>
    let manner := if byName then "keyword-only" else "positional"
    let count := names.length
    let ending := plural count
    s!"{title}() missing {count} required {manner} argument{ending}: " ++ enumerated names
  | noArguments name => Text.shortName 200 name ++ "() takes no arguments"

/-! ### Binding -/

/-- The arguments of a call as the parameters take them. -/
structure Bound (α : Type) where
  /-- The arguments of parameters that take one. -/
  single : List (String × α) := []
  /-- The further arguments by position. -/
  rest : List α := []
  /-- The further arguments by name. -/
  names : List (String × α) := []
deriving Repr, Inhabited

variable {α : Type}

/-- Whether a parameter takes an argument by a name. -/
def Parameter.takesName (p : Parameter) (name : String) : Bool :=
  p.name = name && (p.kind = .either || p.kind = .name)

/-- Binds one argument by its name, given the names of all arguments by name. -/
def Header.bindName (h : Header) (given : List String) (bound : Bound α) (argument : String × α) :
    Except BindingError (Bound α) :=
  let (name, item) := argument
  if h.parameters.any (·.takesName name) then
    if bound.single.any (·.1 = name) then .error (.repeatedArgument h.title name)
    else .ok { bound with single := bound.single ++ [(name, item)] }
  else if h.hasKind .names then .ok { bound with names := bound.names ++ [(name, item)] }
  else
    match h.parameters.filter fun p => p.kind = .position && given.contains p.name with
    | [] => .error (.unexpectedName h.title name)
    | several => .error (.positionAsName h.title (several.map (·.name)))

/-- The names of the parameters that have neither an argument nor a default. -/
def unbound (parameters : List Parameter) (bound : Bound α) : List String :=
  (parameters.filter fun p => !p.hasDefault && !bound.single.any (·.1 = p.name)).map (·.name)

/-- Binds the arguments of a call. Parameters that take their default are left out of the
result. -/
def Header.bind (h : Header) (arguments : List α) (named : List (String × α)) :
    Except BindingError (Bound α) := do
  let positional := h.positional
  let byPosition : Bound α :=
    { single := (positional.map (·.name)).zip arguments
      rest := arguments.drop positional.length }
  let bound ← named.foldlM (h.bindName (named.map (·.1))) byPosition
  if positional.length < arguments.length && !h.hasKind .rest then
    let given := (h.named.filter fun p => bound.single.any (·.1 = p.name)).length
    let optional := (positional.filter (·.hasDefault)).length
    throw (.tooMany h.title positional.length optional arguments.length given)
  match unbound positional bound with
  | [] => pure ()
  | names => throw (.missing h.title false names)
  match unbound h.named bound with
  | [] => return bound
  | names => throw (.missing h.title true names)

end StateContainer.Hint
