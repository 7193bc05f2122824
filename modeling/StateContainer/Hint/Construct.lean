/-
This file calls classes: the built-in ones make values of what they are given,
those of the typing vocabulary make variables, copies of types and types that are
known by a text only.
-/

import StateContainer.Hint.Attribute
import StateContainer.Hint.Identifier
import StateContainer.Hint.Moment

namespace StateContainer.Hint

/-! ### Collections -/

/-- The items of the argument of a constructor, if there is one. -/
def givenItems (title : String) (given : Given) : Evaluation (List Hint) := do
  match ← atMostOne title given with
  | none => return []
  | some only => itemsOf .notIterated only

/-- A set of items. -/
def makeSet (frozen : Bool) (items : List Hint) : Evaluation Hint := do
  for item in items do checkKey item
  return setOf frozen items

/-- An entry of a map from a pair. -/
def entryOf (place : Nat) (hint : Hint) : Evaluation (Hint × Hint) := do
  let items ← itemsOf
    (fun _ => .other s!"cannot convert dictionary update sequence element #{place} to a sequence") hint
  match items with
  | [key, item] =>
    checkKey key
    return (key, item)
  | others =>
    let count := others.length
    invalid s!"dictionary update sequence element #{place} has length {count}; 2 is required"

/-- A map of pairs and of arguments by name. -/
def makeMap (given : Given) : Evaluation Hint := do
  let entries ←
    match given.positional with
    | [] => pure []
    | [dict entries] => pure entries
    | [only] =>
      let items ← itemsOf .notIterated only
      items.zipIdx.mapM fun (item, place) => entryOf place item
    | others =>
      let count := others.length
      misused (.other s!"dict expected at most 1 argument, got {count}")
  let named := given.named.map fun (name, item) => (text name, item)
  return dict ((entries ++ named).foldl (fun made (key, item) => insertEntry made key item) [])

/-- Bytes of integers, or so many zeros. -/
def makeBytes (given : Given) : Evaluation Hint := do
  match given.positional with
  | [] => return value (.bytes [])
  | [value (.bytes bytes)] => return value (.bytes bytes)
  | value (.text text) :: others =>
    if others.isEmpty && given.named.isEmpty then misused (.other "string argument without an encoding")
    else return value (.bytes text.toUTF8.toList)
  | only :: _ =>
    match index? only with
    | some n =>
      if n < 0 then invalid "negative count" else return value (.bytes (List.replicate n.toNat 0))
    | none =>
      let items ← itemsOf
        (fun kind => .other s!"cannot convert '{kind}' object to bytes") only
      let bytes ← items.mapM fun item =>
        match index? item with
        | some n =>
          if 0 ≤ n && n < 256 then return UInt8.ofNat n.toNat
          else invalid "bytes must be in range(0, 256)"
        | none =>
          misused (.other ("'" ++ item.kindName ++ "' object cannot be interpreted as an integer"))
      return value (.bytes bytes)

/-- A range of integers. -/
def makeRange (given : Given) : Evaluation Hint := do
  checkUnnamed "range" given
  let bounds ← given.positional.mapM fun bound =>
    match index? bound with
    | some n => return n
    | none =>
      misused (.other ("'" ++ bound.kindName ++ "' object cannot be interpreted as an integer"))
  match bounds with
  | [] => misused (.other "range expected at least 1 argument, got 0")
  | [stop] => return range 0 stop 1
  | [start, stop] => return range start stop 1
  | [start, stop, step] =>
    if step = 0 then invalid "range() arg 3 must not be zero" else return range start stop step
  | others =>
    let count := others.length
    misused (.other s!"range expected at most 3 arguments, got {count}")

/-- A slice. -/
def makeSlice (given : Given) : Evaluation Hint := do
  checkUnnamed "slice" given
  match given.positional with
  | [] => misused (.other "slice expected at least 1 argument, got 0")
  | [stop] => return slice [null, stop, null]
  | [start, stop] => return slice [start, stop, null]
  | [start, stop, step] => return slice [start, stop, step]
  | others =>
    let count := others.length
    misused (.other s!"slice expected at most 3 arguments, got {count}")

/-! ### Types -/

/-- A type that is known by a text. -/
def makeForward (given : Given) : Evaluation Hint := do
  let header : Header :=
    { title := "ForwardRef.__init__"
      parameters := [{ name := "self" }, { name := "arg" }, { name := "is_argument", hasDefault := true },
        { name := "module", hasDefault := true },
        { name := "is_class", kind := .name, hasDefault := true }] }
  let bound ← bindGiven header { given with positional := null :: given.positional }
  match bound.single.lookup "arg" with
  | some (value (.text content)) => forwardOf content
  | other =>
    misused (.other
      ("Forward reference must be a string -- got " ++ ((other.map written).getD "")))

/-- The name that a variable or a copy of a type is given. -/
def nameGiven (hint : Hint) : String :=
  match hint with
  | value (.text content) => content
  | other => other.written

/-- A variable for types. -/
def makeVariable (kind : VariableKind) (given : Given) : Evaluation Hint := do
  let title :=
    match kind with
    | .type => "TypeVar"
    | .parameters => "ParamSpec"
    | .types => "TypeVarTuple"
  let options : List Parameter :=
    match kind with
    | .types => []
    | _ => ["bound", "covariant", "contravariant"].map fun name =>
        { name, kind := .name, hasDefault := true }
  let constraints : List Parameter :=
    match kind with
    | .type => [{ name := "constraints", kind := .rest }]
    | _ => []
  let header : Header :=
    { title := title ++ ".__init__"
      parameters := [{ name := "self" }, { name := "name" }] ++ constraints ++ options }
  let bound ← bindGiven header { given with positional := null :: given.positional }
  let isSet (name : String) : Bool := ((bound.single.lookup name).map truth).getD false
  if bound.rest.length = 1 then misused (.other "A single constraint is not allowed")
  else if isSet "covariant" && isSet "contravariant" then
    invalid "Bivariant types are not supported."
  else
    let sign :=
      if kind = .types then ""
      else if isSet "covariant" then "+"
      else if isSet "contravariant" then "-"
      else "~"
    return typeVariable
      { name := nameGiven ((bound.single.lookup "name").getD null), kind, sign
        serial := ← nextSerial }

/-- A named copy of a type, made in a module. -/
def makeNewType (moduleName : String) (given : Given) : Evaluation Hint := do
  let header : Header :=
    { title := "NewType.__init__"
      parameters := [{ name := "self" }, { name := "name" }, { name := "tp" }] }
  let bound ← bindGiven header { given with positional := null :: given.positional }
  return newType moduleName (nameGiven ((bound.single.lookup "name").getD null))
    ((bound.single.lookup "tp").getD null)

/-! ### Classes -/

/-- An instance of which no more is known than how it is written. -/
def instanceOf (id : ClassId) (content : String) : Hint :=
  thing ⟨id.messageName, content, none, none⟩

/-- Whether a class is one of the built-in errors. -/
def isError (id : ClassId) : Bool :=
  id.moduleName = "builtins" &&
    (id.path = "BaseException" || (Vocabulary.ancestors id).contains "BaseException")

/-- Arguments as they are written in a call. -/
def writtenGiven (given : List Hint) : String :=
  "(" ++ ", ".intercalate (given.map written) ++ ")"

/-- What a built-in class makes of arguments, if it is known. -/
def constructBuiltin? (path : String) (given : Given) : Option (Evaluation Hint) :=
  match path with
  | "object" =>
    some (if given.positional.isEmpty && given.named.isEmpty then
        return thing ⟨"object", "<object object>", none, none⟩
      else misused (.other "object() takes no arguments"))
  | "NoneType" =>
    some (if given.positional.isEmpty && given.named.isEmpty then return null
      else misused (.other "NoneType takes no arguments"))
  | "bool" => some (do return bool ((← atMostOne "bool" given).map truth |>.getD false))
  | "int" => some (makeInteger given)
  | "float" => some (makeReal given)
  | "complex" => some (makeComplex given)
  | "str" =>
    some (
      match given.positional with
      | [] => return text ""
      | only :: _ => do return text (← shownText only))
  | "list" => some (do return list (← givenItems "list" given))
  | "tuple" => some (do return tuple (← givenItems "tuple" given))
  | "set" => some (do makeSet false (← givenItems "set" given))
  | "frozenset" => some (do makeSet true (← givenItems "frozenset" given))
  | "dict" => some (makeMap given)
  | "bytes" => some (makeBytes given)
  | "range" => some (makeRange given)
  | "slice" => some (makeSlice given)
  | "type" =>
    some (
      match given.positional with
      | [only] => return classOf only
      | _ => misused (.other "type() takes 1 or 3 arguments"))
  | _ => none

/-- What a class of another module makes of arguments, if it is known. -/
def constructOther? (moduleName : String) (id : ClassId) (given : Given) :
    Option (Evaluation Hint) :=
  let shownItems (head : String) : Evaluation Hint := do
    let items ← givenItems id.path given
    return instanceOf id (if items.isEmpty then head ++ "([])" else head ++ writtenGiven [list items])
  match id.qualifiedName with
  | "typing.Any" => some (misused (.other "Any cannot be instantiated"))
  | "typing.Annotated" => some (misused (.other "Type Annotated cannot be instantiated."))
  | "typing.Protocol" => some (misused (.other "Protocols cannot be instantiated"))
  | "typing.ForwardRef" => some (makeForward given)
  | "typing.TypeVar" => some (makeVariable .type given)
  | "typing.ParamSpec" => some (makeVariable .parameters given)
  | "typing.TypeVarTuple" => some (makeVariable .types given)
  | "typing.NewType" => some (makeNewType moduleName given)
  | "collections.deque" => some (shownItems "deque")
  | "collections.OrderedDict" =>
    some (do
      match ← makeMap given with
      | dict [] => return instanceOf id "OrderedDict()"
      | dict entries =>
        let pairs := entries.map fun (key, item) => tuple [key, item]
        return instanceOf id ("OrderedDict" ++ writtenGiven [list pairs])
      | other => return other)
  | "datetime.date" => some (makeDate given)
  | "datetime.time" => some (makeTime given)
  | "datetime.datetime" => some (makeMoment given)
  | "datetime.timedelta" => some (makeDuration given)
  | "decimal.Decimal" => some (makeDecimal given)
  | "uuid.UUID" => some (makeIdentifier given)
  | _ => none

/-- What a class makes of arguments. The module is the one in which it is called. -/
def construct (moduleName : String) (id : ClassId) (given : Given) : Evaluation Hint :=
  let known :=
    if id.moduleName = "builtins" then constructBuiltin? id.path given
    else constructOther? moduleName id given
  match known with
  | some made => made
  | none =>
    if isError id then
      return thing ⟨id.path, id.path ++
        (match given.positional with
          | [only] => "(" ++ only.written ++ ")"
          | several => writtenGiven several), none, none⟩
    else if given.positional.isEmpty && given.named.isEmpty then
      return instanceOf id ("<" ++ id.qualifiedName ++ " object>")
    else
      let name := id.messageName
      misused (.other s!"{name}() takes no arguments")

end StateContainer.Hint
