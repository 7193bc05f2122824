/-
This file holds what can go wrong when an annotation is evaluated, with the
wording of each error.
-/

import StateContainer.Hint.Problem
import StateContainer.Hint.Written

namespace StateContainer.Hint

/-- A misuse of types or values. -/
inductive Misuse where
  /-- A class takes no arguments. -/
  | closedClass (name : String)
  /-- Something that is no class takes no arguments. -/
  | notSubscriptable (kind : String)
  /-- A form takes no arguments. -/
  | formWithoutArguments (text : String)
  /-- A text or a list is subscripted by something that is no integer. -/
  | indexKind (collection index : String)
  /-- A type has no parameters left that arguments could replace. -/
  | notGeneric (text : String)
  /-- The number of arguments differs from the number of parameters. -/
  | argumentCount (text : String) (actual expected : Nat)
  /-- A form does not take a tuple. -/
  | tupleArgument (message text : String)
  /-- A form without arguments is no type. -/
  | plainForm (text : String)
  /-- A qualifier of a field is no type. -/
  | qualifierArgument (text : String)
  /-- A union has no members. -/
  | emptyUnion
  /-- The type of functions takes a list of parameters and a result. -/
  | functionForm
  /-- The parameters of a function are no list. -/
  | functionParameters (text : String)
  /-- A type with remarks needs a remark. -/
  | remarksMissing
  /-- The parameters of a generic class have to be variables. -/
  | parametersNoVariables (form : String)
  /-- A generic class has no parameters. -/
  | parametersMissing (form : String)
  /-- The parameters of a generic class are not unique. -/
  | parametersRepeated (form : String)
  /-- A generic class has its parameters already. -/
  | alreadyApplied (text : String)
  /-- The last parameter has to be open. -/
  | concatenationEnd
  /-- There are no parameters to concatenate. -/
  | emptyConcatenation
  | unsupportedOperands (operator left right : String)
  | unsupportedOperand (operator kind : String)
  | notComparable (operator left right : String)
  | notIterable (kind : String)
  /-- A star stands before something that holds no items. -/
  | notSpreadable (kind : String)
  | notCallable (kind : String)
  | unhashable (kind : String)
  /-- Something cannot be gone through. -/
  | notIterated (kind : String)
  /-- A form or a class has no instances. -/
  | notInstantiated (text : String)
  /-- Another misuse, as it is worded. -/
  | other (text : String)
deriving DecidableEq, Repr

/-- The wording of a misuse. -/
def Misuse.message : Misuse → String
  | closedClass name => "type '" ++ Text.shortName 200 name ++ "' is not subscriptable"
  | notSubscriptable kind => s!"'{kind}' object is not subscriptable"
  | formWithoutArguments text => s!"{text} is not subscriptable"
  | indexKind collection index =>
    if collection = "string" then s!"string indices must be integers, not '{index}'"
    else s!"{collection} indices must be integers or slices, not {index}"
  | notGeneric text => s!"{text} is not a generic class"
  | argumentCount text actual expected =>
    let amount := if expected < actual then "many" else "few"
    s!"Too {amount} arguments for {text}; actual {actual}, expected {expected}"
  | tupleArgument message text => s!"{message} Got {String.ofList (text.toList.take 100)}."
  | plainForm text => s!"Plain {text} is not valid as type argument"
  | qualifierArgument text => s!"{text} is not valid as type argument"
  | emptyUnion => "Cannot take a Union of no types."
  | functionForm => "Callable must be used as Callable[[arg, ...], result]."
  | functionParameters text =>
    s!"Expected a list of types, an ellipsis, ParamSpec, or Concatenate. Got {text}"
  | remarksMissing =>
    "Annotated[...] should be used with at least two arguments (a type and an annotation)."
  | parametersMissing name => s!"Parameter list to {name}[...] cannot be empty"
  | parametersNoVariables name =>
    s!"Parameters to {name}[...] must all be type variables or parameter specification variables."
  | parametersRepeated name => s!"Parameters to {name}[...] must all be unique"
  | alreadyApplied text => s!"Cannot subscript already-subscripted {text}"
  | emptyConcatenation => "Cannot take a Concatenate of no types."
  | concatenationEnd =>
    "The last parameter to Concatenate should be a ParamSpec variable or ellipsis."
  | unsupportedOperands operator left right =>
    let shown := if operator = "**" then "** or pow()" else operator
    s!"unsupported operand type(s) for {shown}: '{left}' and '{right}'"
  | unsupportedOperand operator kind => s!"bad operand type for unary {operator}: '{kind}'"
  | notComparable operator left right =>
    s!"'{operator}' not supported between instances of '{left}' and '{right}'"
  | notIterable kind => s!"argument of type '{kind}' is not iterable"
  | notSpreadable kind => s!"Value after * must be an iterable, not {kind}"
  | notCallable kind => s!"'{kind}' object is not callable"
  | unhashable kind => s!"unhashable type: '{kind}'"
  | notIterated kind => s!"'{kind}' object is not iterable"
  | notInstantiated text => s!"Cannot instantiate {text}"
  | other text => text

/-- Why an annotation has no value. -/
inductive Fault where
  /-- A name is not bound. -/
  | unknownName (name : String)
  /-- A module, a class or a value has no such attribute. -/
  | unknownAttribute (owner name : String)
  /-- A form has no attributes. -/
  | attributeOfForm (name : String)
  /-- A text among the arguments of a type is no expression. -/
  | malformedText (text : String)
  /-- A text among the arguments of a type is empty. -/
  | emptyText
  /-- The annotation itself is no expression. -/
  | malformed (problem : Problem)
  | misuse (cause : Misuse)
  /-- An index is outside of a list or a tuple. -/
  | outOfRange (collection : String)
  /-- A map has no such key. -/
  | unknownKey (text : String)
  /-- Texts refer to each other without an end. -/
  | endless
  /-- A number is divided by zero. -/
  | zeroDivisor (text : String)
  /-- Another error, with its class and its wording. -/
  | raised (className text : String)
deriving DecidableEq, Repr

/-- The name of the class of an error. -/
def Fault.className : Fault → String
  | unknownName _ => "NameError"
  | unknownAttribute _ _ => "AttributeError"
  | attributeOfForm _ => "AttributeError"
  | malformedText _ => "SyntaxError"
  | malformed problem => problem.className
  | emptyText => "IndexError"
  | misuse _ => "TypeError"
  | outOfRange _ => "IndexError"
  | unknownKey _ => "KeyError"
  | endless => "RecursionError"
  | zeroDivisor _ => "ZeroDivisionError"
  | raised className _ => className

/-- The wording of an error. -/
def Fault.message : Fault → String
  | unknownName name => "name '" ++ Text.shortName 200 name ++ "' is not defined"
  | unknownAttribute owner name => s!"{owner} has no attribute '{name}'"
  | attributeOfForm name => name
  | malformedText text => "Forward reference must be an expression -- got " ++ Text.quoted text
  | emptyText => "string index out of range"
  | malformed problem => problem.message
  | misuse cause => cause.message
  | outOfRange collection => s!"{collection} index out of range"
  | unknownKey text => text
  | endless => "maximum recursion depth exceeded"
  | zeroDivisor text => text
  | raised _ text => text

/-- An integer has more digits than are written. -/
def tooLong : Fault :=
  .raised "ValueError"
    ("Exceeds the limit (4300 digits) for integer string conversion; " ++
      "use sys.set_int_max_str_digits() to increase the limit")

end StateContainer.Hint
