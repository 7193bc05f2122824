/-
This file reads what stands behind the equals sign of a tag for an action, which
begins with an at sign: the arguments of the action as a literal, or the name of
the action and its arguments between brackets.
-/

import StateContainer.Hint.Reader
import StateContainer.Text.Blank
import StateContainer.Text.Identifier

namespace StateContainer.Console

open Hint (Expression Problem)

/-! ### Literals -/

/-- Whether an expression is a number, perhaps with a sign. -/
def isNumber : Expression → Bool
  | .value (.int _) => true
  | .value (.float _) => true
  | .imaginary _ => true
  | .unary operator operand => ["+", "-"].contains operator && isNumber operand
  | _ => false

mutual

/-- Whether an expression is a literal: a scalar, a collection of literals, or the sum of a real
and an imaginary number. -/
def isLiteral : Expression → Bool
  | .value _ => true
  | .imaginary _ => true
  | .ellipsis => true
  | .tuple items => areLiterals items
  | .list items => areLiterals items
  | .set items => areLiterals items
  | .dict entries => areEntries entries
  | .call (.name "set") [] => true
  | .unary operator operand => isNumber (.unary operator operand)
  | .binary operator left right => ["+", "-"].contains operator && isNumber left && isNumber right
  | _ => false

/-- Whether several expressions are literals. -/
def areLiterals : List Expression → Bool
  | [] => true
  | first :: others => isLiteral first && areLiterals others

/-- Whether the keys and the values of entries are literals. -/
def areEntries : List (Option Expression × Expression) → Bool
  | [] => true
  | (some key, item) :: others => isLiteral key && isLiteral item && areEntries others
  | (none, _) :: _ => false

end

/-! ### Arguments -/

/-- What is read as the arguments of an action: what stands between brackets behind its name, or
nothing behind a lone name; anything else is read as it is. -/
def argumentsOf (parameters : List Char) : List Char :=
  match parameters.dropWhile fun c => Text.isWordChar c || c = '.' with
  | [] => ['(', ')']
  | '(' :: rest =>
    if rest.getLast? = some ')' && !rest.contains '\n' then '(' :: rest else parameters
  | _ => parameters

/-- Why the parameters of an action cannot be read, if they cannot. -/
def actionProblem? (parameters : List Char) : Option String :=
  let whole := Text.quoted (String.ofList parameters)
  let read := argumentsOf (Text.trim parameters)
  let content := String.ofList (read.dropWhile fun c => c = ' ' || c = '\t')
  match Hint.Reader.read content with
  | .ok expression =>
    if isLiteral expression then none
    else some ("error parsing " ++ whole ++ "; malformed node or string on line 1")
  | .error problem =>
    let cause := problem.cause.message
    if problem.cause = .nullByte then some ("error parsing " ++ whole ++ "; " ++ cause)
    else
      some ("error parsing " ++ Text.quoted (String.ofList read) ++ " in " ++ whole ++ "; " ++ cause)

end StateContainer.Console
