/-
This file holds the rules that the values of stored fields are checked by, and
makes the rule of an annotation.

A rule tells scalars, lists, tuples and maps apart; a union is kept with its
members, of which a value picks one. An annotation that none of this says
anything about admits everything. Null is admitted where the annotation is a
union with null, or any other type that has the null type among its arguments.
Where an annotation has the wrong number of arguments, no rule can be made.
-/

import StateContainer.Class
import StateContainer.Hint.Call

namespace StateContainer.Snapshot

open Hint (Fault Header Misuse)

/-! ### Rules -/

/-- How a value is checked. -/
inductive Rule where
  | text
  | integer
  | number
  | truth
  /-- A moment, which is stored as a number of seconds. -/
  | moment
  | decimal
  | identifier
  /-- Any value but null. -/
  | anything
  | list (item : Rule)
  | tuple (items : List Rule)
  | map (key value : Option Rule)
  | union (members : List (Hint × Rule))
  /-- Null is admitted, too. -/
  | orNull (rule : Rule)
deriving Inhabited, Repr

/-! ### Parts of annotations -/

/-- The arguments of an annotation. -/
def argumentsOf (type : Hint) : List Hint :=
  (Hint.argumentsOf? type).getD []

/-- The class or the form that an annotation is made of, or else the annotation itself. -/
def originOf (type : Hint) : Hint :=
  (Hint.originOf? type).getD type

/-- Whether an annotation has the null type among its arguments, or is the type of everything. -/
def admitsNull (type : Hint) : Bool :=
  match type with
  | .classRef id => id = Hint.anyClass
  | other => (argumentsOf other).any Hint.isNullType

/-- Whether an annotation is a union. -/
def isUnion : Hint → Bool
  | .union _ _ => true
  | .form name => name = "Union"
  | _ => false

/-! ### Making rules -/

/-- The parameters that a rule is made with: its parts, and whatever options. -/
def partsHeader (title : String) (parts : List (String × Bool)) : Header :=
  { title
    parameters := { name := "self" } ::
      (parts.map fun (name, hasDefault) => { name, hasDefault }) ++
      [{ name := "kwargs", kind := .names }] }

/-- The parameters of a rule without parts. -/
def plainHeader : Header :=
  { title := "Field.__init__"
    parameters := { name := "self" } ::
      (["default", "required", "allow_none"].map fun name =>
        { name, kind := .name, hasDefault := true }) }

/-- Checks the number of the parts of a rule. -/
def checkParts (header : Header) (options : List String) (parts : List (Option Rule)) :
    Except Fault Unit :=
  match header.bind (List.replicate (parts.length + 1) ()) (options.map (·, ())) with
  | .ok _ => .ok ()
  | .error error => .error (.misuse (.other error.message))

/-- The reason why something is no part of a rule. -/
def noPart (what : String) : Fault :=
  .raised "ValueError" (what ++ " of marshmallow.base.FieldABC.")

/-- A part of a rule that has to be a rule itself. -/
def requirePart (what : String) : Option Rule → Except Fault Rule
  | some rule => .ok rule
  | none => .error (noPart what)

/-- The rule of a list. -/
def listRule (options : List String) (parts : List (Option Rule)) : Except Fault Rule := do
  checkParts (partsHeader "List.__init__" [("cls_or_instance", false)]) options parts
  return .list (← requirePart "The list elements must be a subclass or instance"
    ((parts.head?).getD none))

/-- The rule of a tuple with a rule for each item. -/
def tupleRule (parts : List (Option Rule)) : Except Fault Rule := do
  return .tuple (← parts.mapM
    (requirePart "Elements of \"tuple_fields\" must be subclasses or instances"))

/-- The rule of a map. -/
def mapRule (options : List String) (parts : List (Option Rule)) : Except Fault Rule := do
  checkParts (partsHeader "Mapping.__init__" [("keys", true), ("values", true)]) options parts
  let part (name : String) (given : Option (Option Rule)) : Except Fault (Option Rule) :=
    given.mapM (requirePart ("\"" ++ name ++ "\" must be a subclass or instance"))
  return .map (← part "keys" parts[0]?) (← part "values" parts[1]?)

/-- The rule of a scalar class, and the parameters that such a rule is made with. -/
def scalarRule? (id : Hint.ClassId) : Option (Rule × Header) :=
  match id.qualifiedName with
  | "builtins.str" => some (.text, plainHeader)
  | "builtins.int" => some (.integer, partsHeader "Integer.__init__" [])
  | "builtins.float" => some (.number, partsHeader "Float.__init__" [])
  | "builtins.bool" => some (.truth, partsHeader "Boolean.__init__" [])
  | "typing.Any" => some (.anything, plainHeader)
  | "datetime.datetime" => some (.moment, plainHeader)
  | "uuid.UUID" => some (.identifier, plainHeader)
  | "decimal.Decimal" =>
    some (.decimal, partsHeader "Decimal.__init__" [("places", true), ("rounding", true)])
  | _ => none

/-- The rule of a class that is applied to arguments with the given rules. -/
def classRule (id : Hint.ClassId) (options : List String) (parts : List (Option Rule)) :
    Except Fault Rule :=
  match id.qualifiedName, parts with
  | "builtins.tuple", [item, none] => listRule options [item]
  | "builtins.tuple", items => tupleRule items
  | "builtins.list", items => listRule options items
  | "builtins.dict", items => mapRule options items
  | _, items =>
    match scalarRule? id with
    | some (rule, header) => do
      checkParts header options items
      return rule
    | none => .ok .anything

/-- The rule of an annotation whose arguments have the given rules, apart from null. -/
def ruleWith (type : Hint) (options : List String) (parts : List (Option Rule)) :
    Except Fault Rule := do
  let origin := originOf type
  match Hint.unhashable? origin with
  | some kind => throw (.misuse (.unhashable kind))
  | none =>
    match origin with
    | .classRef id => classRule id options parts
    | _ =>
      if isUnion type then
        let members := (argumentsOf type).filter (!·.isNullType)
        return .union (members.zip (parts.map (·.getD .anything)))
      else return .anything

/-- The rule of an annotation, with null where it is admitted. -/
def ruleOrNull (type : Hint) (options : List String) (parts : List (Option Rule)) :
    Except Fault (Option Rule) := do
  let options :=
    if admitsNull type && !options.contains "allow_none" then options ++ ["allow_none"] else options
  let rule ← ruleWith type options parts
  return some (if options.contains "allow_none" then .orNull rule else rule)

mutual

/-- The rule of an annotation that is made with the given options. The ellipsis has none. -/
def ruleOf (options : List String) : Hint → Except Fault (Option Rule)
  | .ellipsis => .ok none
  | .applied spelling origin arguments => do
    ruleOrNull (.applied spelling origin arguments) options (← rulesOf arguments)
  | .union bars members => do ruleOrNull (.union bars members) options (← rulesOf members)
  | .literal values => do ruleOrNull (.literal values) options (← rulesOf values)
  | .qualified form arguments => do
    ruleOrNull (.qualified form arguments) options (← rulesOf arguments)
  | .annotated base remarks => do
    let part ← ruleOf [] base
    let parts := if base.isNullType then [] else [part]
    ruleOrNull (.annotated base remarks) options parts
  | other => ruleOrNull other options []

/-- The rules of several annotations but the null type. -/
def rulesOf : List Hint → Except Fault (List (Option Rule))
  | [] => .ok []
  | first :: others => do
    let rule ← ruleOf [] first
    let rules ← rulesOf others
    return if first.isNullType then rules else rule :: rules

end

/-! ### Fields -/

/-- The rule of a field. -/
structure FieldRule where
  rule : Rule
  /-- A stored text has to have a value. -/
  required : Bool
deriving Inhabited, Repr

/-- The annotation that the rule of a field is made from: that of an annotation with null and one
other argument is the other argument. -/
def fieldType (type : Hint) : Except Fault Hint :=
  if !admitsNull type then .ok type
  else
    match type, argumentsOf type with
    | .classRef _, _ => .error (.unknownAttribute "type object 'Any'" "__args__")
    | _, [first, second] =>
      if !first.isNullType then .ok first
      else if !second.isNullType then .ok second
      else .error (.outOfRange "list")
    | other, _ => .ok other

/-- The rule of a field with an annotation. A field that is the ellipsis has none: it is not read. -/
def fieldRule? (field : Class.Field) (type : Hint) : Except Fault (Option FieldRule) := do
  let isNull := match field.default with | some .null => true | _ => false
  let options := [if field.hasDefault then "default" else "required"]
  let options := if isNull || admitsNull type then options ++ ["allow_none"] else options
  let rule? ← ruleOf options (← fieldType type)
  return rule?.map fun rule => { rule, required := !field.hasDefault }

end StateContainer.Snapshot
