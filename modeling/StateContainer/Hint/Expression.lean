/-
This file holds the expressions that annotations are written with: names,
attributes and subscripts of them, literals, displays of tuples, lists, sets and
maps, and the operators, of which the bar between the members of a union is the
one that annotations need. Calls, functions and collections that are made item by
item may be written, too.
-/

import StateContainer.Value

namespace StateContainer.Hint

/-- How a parameter takes its argument. -/
inductive ParameterKind where
  /-- By position alone. -/
  | position
  /-- By position or by name. -/
  | either
  /-- Takes all further arguments by position. -/
  | rest
  /-- By name alone. -/
  | name
  /-- Takes all further arguments by name. -/
  | names
deriving DecidableEq, Repr, Inhabited

/-- How an argument is given. -/
inductive ArgumentKind where
  | position
  /-- It stands for several arguments by position. -/
  | spread
  | named (name : String)
  /-- It stands for several arguments by name. -/
  | spreadNames
deriving DecidableEq, Repr, Inhabited

/-- What is made item by item. -/
inductive CollectionKind where
  | list
  | set
  | generator
deriving DecidableEq, Repr, Inhabited

/-- An expression. -/
inductive Expression where
  | name (identifier : String)
  | value (literal : Value)
  /-- A multiple of the imaginary unit. -/
  | imaginary (x : Binary64)
  | ellipsis
  | attribute (base : Expression) (identifier : String)
  | subscript (base index : Expression)
  | slice (lower upper step : Option Expression)
  | call (function : Expression) (arguments : List (ArgumentKind × Expression))
  | tuple (items : List Expression)
  | list (items : List Expression)
  | set (items : List Expression)
  /-- The entries of a map; one without a key is a map whose entries are taken over. -/
  | dict (entries : List (Option Expression × Expression))
  /-- An item that stands for several ones. -/
  | starred (operand : Expression)
  | unary (operator : String) (operand : Expression)
  | binary (operator : String) (left right : Expression)
  | compare (first : Expression) (others : List (String × Expression))
  | conjunction (left right : Expression)
  | disjunction (left right : Expression)
  | conditional (condition positive negative : Expression)
  | lambda (parameters : List (String × ParameterKind × Option Expression)) (body : Expression)
  /-- Each loop has a target, what is gone through, and conditions. -/
  | collect (kind : CollectionKind) (item : Expression)
      (loops : List (Expression × Expression × List Expression))
  | collectEntries (key item : Expression) (loops : List (Expression × Expression × List Expression))
  /-- Binds a name to a value and stands for the value. -/
  | assign (identifier : String) (item : Expression)
  /-- A text put together of parts. -/
  | formatted (parts : List Expression)
  /-- A part of a text that shows a value. -/
  | shown (part : Expression) (conversion : Option Char) (form : List Expression)
deriving Inhabited, Repr

/-- Whether an expression has the same value everywhere, so that it is evaluated in advance. -/
def Expression.isConstant : Expression → Bool
  | .value _ => true
  | .imaginary _ => true
  | .ellipsis => true
  | .tuple items => areConstant items
  | .unary _ operand => operand.isConstant
  | .binary _ left right => left.isConstant && right.isConstant
  | _ => false
where
  /-- Whether this is so for all of several expressions. -/
  areConstant : List Expression → Bool
    | [] => true
    | first :: others => first.isConstant && areConstant others

/-- A parameter as it is written: its annotation and its default are expressions. -/
structure WrittenParameter where
  name : String
  kind : ParameterKind
  annotation : Option Expression := none
  default : Option Expression := none
deriving Inhabited, Repr

end StateContainer.Hint
