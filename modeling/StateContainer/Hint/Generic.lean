/-
This file applies generic types to arguments.

A class is applied in one of two ways: a built-in one takes any arguments as they
are, while a name of the typing vocabulary checks that there are as many as it
needs and that each may be a type, and turns texts into types that are known by
their text only. A generic type with variables among its arguments can be applied
again, which replaces the variables. The bar makes a union of two types.
-/

import StateContainer.Hint.Admission
import StateContainer.Hint.Vocabulary

namespace StateContainer.Hint

/-! ### Names in messages -/

/-- The classes, besides those of dates and times, that carry their module in messages. -/
def qualifiedInMessages : List String := [
  "collections.OrderedDict", "collections.defaultdict", "collections.deque", "decimal.Context",
  "decimal.Decimal", "re.Match", "re.Pattern"]

/-- The name of a class in messages. -/
def ClassId.messageName (c : ClassId) : String :=
  let isOfDates := c.moduleName = "datetime" && Vocabulary.dateClasses.contains c.path
  if isOfDates || qualifiedInMessages.contains c.qualifiedName then c.qualifiedName
  else c.simpleName

/-- The name of the class of something in messages. -/
def kindMessageName (hint : Hint) : String :=
  match hint.kindName with
  | "datetime" => "datetime.datetime"
  | "Decimal" => "decimal.Decimal"
  | "deque" => "collections.deque"
  | other => other

/-- How an owner of attributes is called in messages. -/
def ownerText : Hint → String
  | moduleRef name => s!"module '{name}'"
  | classRef id => "type object '" ++ Text.shortName 50 id.messageName ++ "'"
  | other => "'" ++ Text.shortName 50 other.kindMessageName ++ "' object"

/-- Whether something belongs to a module. Values and collections of them do not. -/
def hasModule : Hint → Bool
  | value _ => false
  | complex _ _ => false
  | ellipsis => false
  | list _ => false
  | tuple _ => false
  | set _ _ => false
  | dict _ => false
  | slice _ => false
  | range _ _ _ => false
  | series _ _ => false
  | moduleRef _ => false
  | _ => true

/-! ### Arguments -/

/-- The class of tuples. -/
def tupleClass : ClassId := builtinClass "tuple" .free

/-- The arguments that an index stands for. -/
def arguments : Hint → List Hint
  | tuple items => items
  | single => [single]

/-- The last argument is the ellipsis. -/
def endsOpen (items : List Hint) : Bool :=
  (items.getLast?.map isEllipsis).getD false

/-- The arguments of a tuple type that stands for them, unless their number is open. -/
def unpackedArguments? : Hint → Option (List Hint)
  | unpacked (applied _ origin items) =>
    if origin = tupleClass && !endsOpen items then some items else none
  | qualified "Unpack" [applied (.typing _) origin items] =>
    if origin = tupleClass && !endsOpen items then some items else none
  | _ => none

/-- The arguments, with those that stand for several ones taken apart. -/
def unpackAll (items : List Hint) : List Hint :=
  items.flatMap fun item => (unpackedArguments? item).getD [item]

/-! ### Forms -/

/-- The values of a literal type; literal types among them are taken apart. -/
def literalValues (items : List Hint) : List Hint :=
  let flat := items.flatMap fun item => match item with | literal values => values | other => [other]
  let isKept (kept : List Hint) (item : Hint) : Bool :=
    kept.any fun other => item.isOfClass other && same item other
  if (unhashableIn? flat).isSome then flat
  else flat.foldl (fun kept item => if isKept kept item then kept else kept ++ [item]) []

/-- The union of the typing vocabulary. -/
def applyUnion (items : List Hint) : Evaluation Hint :=
  remembering { base := form "Union", arguments := [tuple items] } do
    if items.isEmpty then misused .emptyUnion
    let given ← items.mapM (checkArgument "Union[arg, ...]: each arg must be a type.")
    let flat := given.flatMap members
    match unhashableIn? flat with
    | some kind => misused (.unhashable kind)
    | none => return unite false flat

/-- What the form of functions whose first parameters are told makes of its arguments. -/
def applyConcatenate (items : List Hint) : Evaluation Hint := do
  let isOpen : Hint → Bool
    | ellipsis => true
    | typeVariable v => v.kind = .parameters
    | _ => false
  match items.getLast? with
  | none => misused .emptyConcatenation
  | some last =>
    if isOpen last then
      let given ←
        items.dropLast.mapM (checkArgument "Concatenate[arg, ...]: each arg must be a type.")
      return qualified "Concatenate" (given ++ [last])
    else misused .concatenationEnd

/-- A form of the typing vocabulary with arguments. -/
def applyForm (name : String) (index : Hint) : Evaluation Hint := do
  let text := typingName name
  if name = "Literal" then
    remembering { base := form name, arguments := arguments index, typed := true } do
      return literal (literalValues (arguments index))
  else
    match name, index with
    | "Union", tuple items => applyUnion items
    | _, _ =>
      remembering { base := form name, arguments := [index] } do
        if name = "Optional" then
          let given ← checkArgument s!"{text} requires a single type." index
          applyUnion [given, nullType]
        else if name = "Union" then applyUnion [index]
        else if typeForms.contains name then misused (.formWithoutArguments text)
        else if name = "Concatenate" then applyConcatenate (arguments index)
        else if name = "Required" || name = "NotRequired" then
          return qualified name [← checkArgument s!"{name} accepts only a single type." index]
        else return qualified name [← checkArgument s!"{text} accepts only single type." index]

/-! ### Unions with bars -/

/-- Whether the bar makes a plain union of this. -/
def isPlainMember : Hint → Bool
  | value .null => true
  | classRef _ => true
  | applied .plain _ _ => true
  | unpacked _ => true
  | union true _ => true
  | _ => false

/-- Whether the bar makes a union of the typing vocabulary with this. -/
def isTypingMember : Hint → Bool
  | form _ => true
  | standIn _ _ _ => true
  | typeVariable v => v.kind ≠ .types
  | newType _ _ _ => true
  | forward _ => true
  | applied (.typing _) _ _ => true
  | applied .declared _ _ => true
  | union false _ => true
  | literal _ => true
  | annotated _ _ => true
  | qualified _ _ => true
  | _ => false

/-- The union of two types, if the bar makes one. -/
def unionOf? (left right : Hint) : Option (Evaluation Hint) :=
  let bothNull := kindName left = "NoneType" && kindName right = "NoneType"
  if isPlainMember left && isPlainMember right && !bothNull then
    some (return unite true [left, right])
  else if isTypingMember left || isTypingMember right then
    some (applyForm "Union" (tuple [left, right]))
  else none

/-- The union of two types with a bar. -/
def unionOf (left right : Hint) : Evaluation Hint :=
  match unionOf? left right with
  | some made => made
  | none => misused (.unsupportedOperands "|" left.kindName right.kindName)

/-! ### Variables -/

mutual

/-- The variables in a type, in the order of their first occurrence. -/
def variablesOf (found : List TypeVariable) : Hint → List TypeVariable
  | typeVariable v => if found.contains v then found else found ++ [v]
  | applied _ _ arguments => variablesOfAll found arguments
  | unpacked generic => variablesOf found generic
  | union _ members => variablesOfAll found members
  | literal values => variablesOfAll found values
  | annotated base _ => variablesOf found base
  | qualified _ arguments => variablesOfAll found arguments
  | _ => found

/-- The variables in several types. -/
def variablesOfAll (found : List TypeVariable) : List Hint → List TypeVariable
  | [] => found
  | first :: others => variablesOfAll (variablesOf found first) others

end

/-- A type like the given one with other arguments. -/
def withArguments : Hint → List Hint → Evaluation Hint
  | applied spelling origin _, given => return applied spelling origin given
  | unpacked (applied spelling origin _), given => return unpacked (applied spelling origin given)
  | union true _, first :: others => others.foldlM unionOf first
  | union false _, given => applyForm "Union" (tuple given)
  | literal _, given => return literal given
  | annotated _ remarks, [annotated base earlier] => return annotated base (earlier ++ remarks)
  | annotated _ remarks, [base] => return annotated base remarks
  | qualified "Concatenate" _, given =>
    match given.getLast? with
    | some (list items) => return tuple (given.dropLast ++ items)
    | some (tuple items) => return tuple (given.dropLast ++ items)
    | some (qualified "Concatenate" items) =>
      return qualified "Concatenate" (given.dropLast ++ items)
    | _ => return qualified "Concatenate" given
  | qualified name _, given => return qualified name given
  | other, _ => return other

/-- What replaces a variable. -/
def replacementOf (v : TypeVariable) (given : Hint) : Evaluation Hint := do
  match v.kind with
  | .type =>
    let hint ← checkArgument "Parameters to generic types must be types." given
    match hint with
    | unpacked _ => misused (.qualifierArgument hint.written)
    | qualified "Unpack" _ => misused (.qualifierArgument hint.written)
    | _ => return hint
  | .parameters =>
    match given with
    | list items => return tuple (← items.mapM (checkArgument "Expected a type."))
    | tuple items => return tuple (← items.mapM (checkArgument "Expected a type."))
    | other =>
      if standsForParameters other then return other
      else misused (.functionParameters other.written)
  | .types => misused (.other "Substitution of bare TypeVarTuple is not supported")

/-- Whether the results of applying a generic type are remembered. -/
def isRemembered : Hint → Bool
  | applied .plain _ _ => false
  | unpacked _ => false
  | union true _ => false
  | _ => true

/-- Takes the result of applying a generic type again. -/
def reapplying (generic : Hint) (given : List Hint) (make : Evaluation Hint) : Evaluation Hint :=
  if isRemembered generic then remembering { base := generic, arguments := [tuple given] } make
  else make

/-- The arguments of the class of functions take a whole list of parameters apart. -/
def spliced (generic : Hint) (items : List Hint) : List Hint :=
  match generic with
  | applied _ origin _ =>
    if origin = callableClass then
      items.flatMap fun item => match item with | tuple inner => inner | other => [other]
    else items
  | _ => items

/-- The arguments that replace the given variables. -/
def givenFor (replacement : List (TypeVariable × Hint)) (wanted : List TypeVariable) : List Hint :=
  wanted.filterMap fun v => replacement.lookup v

mutual

/-- The type with its variables replaced. -/
def replaceVariables (replacement : List (TypeVariable × Hint)) (hint : Hint) : Evaluation Hint :=
  let inside (generic : Hint) (items : Evaluation (List Hint)) : Evaluation Hint :=
    match variablesOf [] generic with
    | [] => return generic
    | wanted =>
      reapplying generic (givenFor replacement wanted) do
        withArguments generic (spliced generic (← items))
  match hint with
  | typeVariable v =>
    match replacement.lookup v with
    | some given => replacementOf v given
    | none => return typeVariable v
  | applied spelling origin items =>
    inside (applied spelling origin items) (replaceAllVariables replacement items)
  | unpacked (applied spelling origin items) =>
    inside (unpacked (applied spelling origin items)) (replaceAllVariables replacement items)
  | union bars items => inside (union bars items) (replaceAllVariables replacement items)
  | literal items => inside (literal items) (replaceAllVariables replacement items)
  | annotated base remarks =>
    inside (annotated base remarks) (do return [← replaceVariables replacement base])
  | qualified name items => inside (qualified name items) (replaceAllVariables replacement items)
  | other => return other

/-- Several types with their variables replaced. -/
def replaceAllVariables (replacement : List (TypeVariable × Hint)) :
    List Hint → Evaluation (List Hint)
  | [] => return []
  | first :: others => do
    let first ← replaceVariables replacement first
    let others ← replaceAllVariables replacement others
    return first :: others

end

/-- Whether a generic type has its parameters for good. -/
def isDeclaration : Hint → Bool
  | qualified name _ => name = "Generic" || name = "Protocol"
  | _ => false

/-- The arguments for variables, of which a single one for the parameters of a function takes all
arguments. -/
def preparedArguments (wanted : List TypeVariable) (given : List Hint) : List Hint :=
  match wanted, given with
  | [only], first :: _ =>
    if only.kind = .parameters && !standsForParameters first then [tuple given] else given
  | _, _ => given

/-- Replaces the variables of a generic type by arguments. -/
def specialise (generic index : Hint) : Evaluation Hint :=
  let work : Evaluation Hint := do
    if isDeclaration generic then misused (.alreadyApplied generic.written)
    let wanted := variablesOf [] generic
    if wanted.isEmpty then misused (.notGeneric generic.written)
    let converted ←
      if isRemembered generic then (arguments index).mapM convert else pure (arguments index)
    let given := preparedArguments wanted (unpackAll converted)
    checkCount generic.written given.length wanted.length
    let replaced : List (TypeVariable × Hint) := wanted.zip given
    match generic with
    | applied _ _ items =>
      withArguments generic (spliced generic (← replaceAllVariables replaced items))
    | unpacked (applied _ _ items) =>
      withArguments generic (← replaceAllVariables replaced items)
    | union _ items => withArguments generic (← replaceAllVariables replaced items)
    | literal items => withArguments generic (← replaceAllVariables replaced items)
    | qualified _ items => withArguments generic (← replaceAllVariables replaced items)
    | annotated base _ => withArguments generic [← replaceVariables replaced base]
    | other => return other
  if isRemembered generic then remembering { base := generic, arguments := [index] } work else work

/-! ### Functions -/

/-- The type of functions. -/
def applyCallable (index : Hint) : Evaluation Hint :=
  let made (items : List Hint) : Evaluation Hint := return applied .plain callableClass items
  match index with
  | tuple [.list parameters, result] => made (parameters ++ [result])
  | tuple [.tuple parameters, result] => made (parameters ++ [result])
  | tuple [value (.text text), _] => misused (.functionParameters text)
  | tuple [parameters, result] =>
    if standsForParameters parameters then made [parameters, result]
    else misused (.functionParameters parameters.written)
  | _ => misused .functionForm

/-- The type of functions in the typing vocabulary. -/
def applyTypingCallable (index : Hint) : Evaluation Hint :=
  let made (items : List Hint) : Hint := applied (.typing "Callable") callableClass items
  match index with
  | tuple [parameters, result] =>
    let whole := match parameters with | list items => tuple items | other => other
    let base := standIn "Callable" callableClass none
    remembering { base, arguments := [whole, result] } do
      let result ← checkArgument "Callable[args, result]: result must be a type." result
      match whole with
      | ellipsis => return made [ellipsis, result]
      | tuple items => return made ((← items.mapM convert) ++ [result])
      | single => return made [← convert single, result]
  | _ => misused .functionForm

/-! ### Classes -/

/-- A type with remarks. -/
def applyAnnotated (index : Hint) : Evaluation Hint :=
  remembering { base := classRef annotatedClass, arguments := arguments index, typed := true } do
    match arguments index with
    | base :: remark :: remarks =>
      match ← checkType { qualifiers := true } "Annotated[t, ...]: t must be a type." base with
      | annotated inner earlier => return annotated inner (earlier ++ remark :: remarks)
      | inner =>
        if inner.hasModule then return annotated inner (remark :: remarks)
        else throw (.unknownAttribute inner.ownerText "__module__")
    | _ => misused .remarksMissing

/-- Whether something is a variable for types, or stands for one of any number of types. -/
def isVariable : Hint → Bool
  | typeVariable v => v.kind ≠ .types
  | qualified "Unpack" [typeVariable v] => v.kind = .types
  | _ => false

/-- The declaration of the parameters of a generic class. -/
def applyDeclaration (name : String) (index : Hint) : Evaluation Hint :=
  let base := classRef { moduleName := "typing", path := name }
  remembering { base, arguments := [index] } do
    let given ← (arguments index).mapM convert
    if given.isEmpty then misused (.parametersMissing name)
    else if !given.all isVariable then misused (.parametersNoVariables name)
    else if (distinct given).length ≠ given.length then misused (.parametersRepeated name)
    else return qualified name given

/-- A class with arguments. -/
def applyClass (id : ClassId) (index : Hint) : Evaluation Hint := do
  if id = annotatedClass then applyAnnotated index
  else if id.moduleName = "typing" && (id.path = "Generic" || id.path = "Protocol") then
    applyDeclaration id.path index
  else if id = callableClass then applyCallable index
  else
    match id.arity with
    | .closed => misused (.closedClass id.messageName)
    | .free => return applied .plain id (arguments index)
    | .checked count =>
      remembering { base := classRef id, arguments := [index] } do
        let given ← (arguments index).mapM convert
        checkCount (classRef id).written given.length count
        return applied .declared id given

/-- A name of the typing vocabulary for a class, with arguments. -/
def applyAlias (name : String) (origin : ClassId) (parameters : Option Nat) (index : Hint) :
    Evaluation Hint :=
  if name = "Callable" then applyTypingCallable index
  else
    remembering { base := standIn name origin parameters, arguments := [index] } do
      let items := arguments index
      match parameters with
      | some count =>
        let given ← items.mapM (checkArgument "Parameters to generic types must be types.")
        checkCount (typingName name) given.length count
        return applied (.typing name) origin given
      | none =>
        if 2 ≤ items.length && endsOpen items then
          let given ← items.dropLast.mapM (checkArgument "Tuple[t, ...]: t must be a type.")
          return applied (.typing name) origin (given ++ [ellipsis])
        else
          let given ← items.mapM (checkArgument "Tuple[t0, t1, ...]: each t must be a type.")
          return applied (.typing name) origin given

end StateContainer.Hint
