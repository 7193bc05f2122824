/-
This file holds what annotations evaluate to: classes, generic types applied to
arguments, unions, the forms of the typing vocabulary, and the plain values,
collections and functions that an annotation may also be.

Two spellings of a generic type are told apart, the plain one (`list[int]`) and
the one of the typing vocabulary (`List[int]`), since they treat the texts among
their arguments differently and differ in how they are shown.
-/

import StateContainer.Hint.Expression

namespace StateContainer

namespace Hint

/-- How a class takes type arguments. -/
inductive Arity where
  /-- It takes none. -/
  | closed
  /-- It takes any number of arguments of any kind. -/
  | free
  /-- It takes as many types as it declares. -/
  | checked (count : Nat)
deriving DecidableEq, Repr, Inhabited

/-- A class: the module it belongs to and its path there. Classes that were declared one after the
other at the same path differ by their editions. -/
structure ClassId where
  moduleName : String
  path : String
  edition : Nat := 0
  arity : Arity := .closed
  /-- The name of the class of this class. -/
  metaName : String := "type"
deriving DecidableEq, Repr, Inhabited

/-- A class of the built-in module. -/
def builtinClass (path : String) (arity : Arity) : ClassId :=
  { moduleName := "builtins", path, arity }

/-- The class of the null value. -/
def nullClass : ClassId := builtinClass "NoneType" .closed

/-- The class that admits every value. -/
def anyClass : ClassId := { moduleName := "typing", path := "Any", metaName := "_AnyMeta" }

/-- The class of types with remarks. -/
def annotatedClass : ClassId := { moduleName := "typing", path := "Annotated" }

/-- The class of functions. -/
def callableClass : ClassId :=
  { moduleName := "collections.abc", path := "Callable", arity := .free, metaName := "ABCMeta" }

/-- The name of a class with its module. -/
def ClassId.qualifiedName (c : ClassId) : String :=
  c.moduleName ++ "." ++ c.path

/-- The spelling of a generic type. -/
inductive Spelling where
  /-- The class itself is applied. -/
  | plain
  /-- A name of the typing vocabulary is applied. -/
  | typing (name : String)
  /-- A class that declares its parameters is applied. -/
  | declared
deriving DecidableEq, Repr, Inhabited

/-- What a variable for types stands for. -/
inductive VariableKind where
  | type
  /-- The parameters of a function. -/
  | parameters
  /-- Any number of types. -/
  | types
deriving DecidableEq, Repr, Inhabited

/-- A variable for types. -/
structure TypeVariable where
  name : String
  kind : VariableKind := .type
  /-- The sign that is written in front of the name. -/
  sign : String := "~"
  /-- Variables that are made later have other numbers. -/
  serial : Nat := 0
deriving DecidableEq, Repr, Inhabited

/-- Something of which no more is known than its class and what it is called. -/
structure Thing where
  kind : String
  text : String
  moduleName : Option String := none
  path : Option String := none
deriving DecidableEq, Repr, Inhabited

end Hint

/-- What an annotation evaluates to. -/
inductive Hint where
  /-- Null, a truth value, a number, a text or bytes. -/
  | value (value : Value)
  | complex (real imaginary : Binary64)
  | ellipsis
  | list (items : List Hint)
  | tuple (items : List Hint)
  | set (frozen : Bool) (items : List Hint)
  | dict (entries : List (Hint × Hint))
  | slice (bounds : List Hint)
  /-- The integers from one to another one in steps. -/
  | range (start stop step : Int)
  /-- Items that are made one by one, and the class and the wording of the error that ends them. -/
  | series (items : List Hint) (failure : Option (String × String))
  | moduleRef (name : String)
  | classRef (id : Hint.ClassId)
  | function (moduleName path : String)
  /-- A method, and what it belongs to, if it belongs to something. -/
  | method (path : String) (receiver : List Hint)
  /-- A function without a name, with what the names in it are bound to. -/
  | closure (parameters : List (String × Hint.ParameterKind)) (defaults : List (String × Hint))
      (body : Hint.Expression) (bound : List (String × Hint))
  | thing (thing : Hint.Thing)
  /-- A form of the typing vocabulary without arguments, such as `Optional`. -/
  | form (name : String)
  /-- A name of the typing vocabulary for a class, such as `List`. -/
  | standIn (name : String) (origin : Hint.ClassId) (parameters : Option Nat)
  | typeVariable (id : Hint.TypeVariable)
  /-- A named copy of another type. -/
  | newType (moduleName name : String) (base : Hint)
  /-- A type that is known by its text only. -/
  | forward (text : String)
  /-- A class applied to arguments. Those of the class of functions are the types of the parameters
  and the type of the result, or what stands for all parameters and the type of the result. -/
  | applied (spelling : Hint.Spelling) (origin : Hint.ClassId) (arguments : List Hint)
  /-- A generic type that stands for its arguments. -/
  | unpacked (generic : Hint)
  /-- A union, written with bars or by its name. -/
  | union (bars : Bool) (members : List Hint)
  /-- One of several literal values. -/
  | literal (values : List Hint)
  /-- A type with remarks. -/
  | annotated (base : Hint) (remarks : List Hint)
  /-- Another form of the typing vocabulary with arguments, such as `ClassVar[int]`. -/
  | qualified (form : String) (arguments : List Hint)
deriving Inhabited, Repr

namespace Hint

/-- A text. -/
def text (s : String) : Hint := value (.text s)

/-- An integer. -/
def int (n : Int) : Hint := value (.int n)

/-- A truth value. -/
def bool (b : Bool) : Hint := value (.bool b)

/-- Null. -/
def null : Hint := value .null

/-- The null type as a member of a union or an argument of a type. -/
def nullType : Hint := classRef nullClass

/-- Whether this is the null type. -/
def isNullType : Hint → Bool
  | classRef id => id == nullClass
  | _ => false

/-- Whether this is the ellipsis. -/
def isEllipsis : Hint → Bool
  | ellipsis => true
  | _ => false

mutual

/-- A value of a field as what an annotation may evaluate to. -/
def ofValue : Value → Hint
  | .list items => list (ofValues items)
  | .tuple items => tuple (ofValues items)
  | .set items => set false (ofValues items)
  | .dict entries => dict (ofEntries entries)
  | other => value other

/-- The same for several values. -/
def ofValues : List Value → List Hint
  | [] => []
  | first :: others => ofValue first :: ofValues others

/-- The same for the entries of a map. -/
def ofEntries : List (Value × Value) → List (Hint × Hint)
  | [] => []
  | (key, item) :: others => (ofValue key, ofValue item) :: ofEntries others

end

/-! ### Kinds -/

/-- The name of the class of something. -/
def kindName : Hint → String
  | value v => v.className
  | complex _ _ => "complex"
  | ellipsis => "ellipsis"
  | list _ => "list"
  | tuple _ => "tuple"
  | set frozen _ => if frozen then "frozenset" else "set"
  | dict _ => "dict"
  | slice _ => "slice"
  | range _ _ _ => "range"
  | series _ _ => "generator"
  | moduleRef _ => "module"
  | classRef id => id.metaName
  | function m _ => if m = "builtins" then "builtin_function_or_method" else "function"
  | method _ receiver =>
    if receiver.isEmpty then "method_descriptor" else "builtin_function_or_method"
  | closure _ _ _ _ => "function"
  | thing t => t.kind
  | form name => if name = "Literal" then "_LiteralSpecialForm" else "_SpecialForm"
  | standIn name _ _ =>
    if name = "Tuple" then "_TupleType"
    else if name = "Callable" then "_CallableType"
    else "_SpecialGenericAlias"
  | typeVariable v =>
    match v.kind with
    | .type => "TypeVar"
    | .parameters => "ParamSpec"
    | .types => "TypeVarTuple"
  | newType _ _ _ => "NewType"
  | forward _ => "ForwardRef"
  | applied .plain origin _ =>
    if origin == callableClass then "_CallableGenericAlias" else "types.GenericAlias"
  | applied _ origin _ => if origin == callableClass then "_CallableGenericAlias" else "_GenericAlias"
  | unpacked _ => "types.GenericAlias"
  | union true _ => "types.UnionType"
  | union false _ => "_UnionGenericAlias"
  | literal _ => "_LiteralGenericAlias"
  | annotated _ _ => "_AnnotatedAlias"
  | qualified name _ =>
    if name = "Unpack" then "_UnpackGenericAlias"
    else if name = "Concatenate" then "_ConcatenateGenericAlias"
    else "_GenericAlias"

/-! ### Equality -/

/-- Whether two things are of one class. -/
def isOfClass (first second : Hint) : Bool :=
  first.kindName == second.kindName

/-- Whether a complex number is equal to a real one. -/
def isReal (real imaginary : Binary64) (v : Value) : Bool :=
  imaginary.isZero && (Value.float real).same v

mutual

/-- Whether two evaluated annotations are equal. The order of the members of a union and of the
values of a literal type does not count, nor does the spelling of a union. -/
def same : Hint → Hint → Bool
  | value v, value w => v.same w
  | value v, complex x y => isReal x y v
  | complex x y, value v => isReal x y v
  | complex x y, complex x' y' => x.sameValue x' && y.sameValue y'
  | ellipsis, ellipsis => true
  | list items, list items' => sameAll items items'
  | tuple items, tuple items' => sameAll items items'
  | set _ items, set _ items' => items.length == items'.length && allIn items items'
  | dict entries, dict entries' => entries.length == entries'.length && entriesIn entries entries'
  | slice bounds, slice bounds' => sameAll bounds bounds'
  | range a b c, range a' b' c' => a == a' && b == b' && c == c'
  | moduleRef name, moduleRef name' => name == name'
  | classRef id, classRef id' => id == id'
  | function m p, function m' p' => m == m' && p == p'
  | method p receiver, method p' receiver' => p == p' && sameAll receiver receiver'
  | thing t, thing t' => t == t'
  | form name, form name' => name == name'
  | standIn name _ _, standIn name' _ _ => name == name'
  | typeVariable v, typeVariable v' => v == v'
  | newType m n _, newType m' n' _ => m == m' && n == n'
  | forward text, forward text' => text == text'
  | applied spelling origin arguments, applied spelling' origin' arguments' =>
    (spelling == .plain) == (spelling' == .plain) && origin == origin' &&
      sameAll arguments arguments'
  | unpacked generic, unpacked generic' => same generic generic'
  | union _ members, union _ members' =>
    members.length == members'.length && allIn members members'
  | literal values, literal values' =>
    values.length == values'.length && allLiteralsIn values values'
  | annotated base remarks, annotated base' remarks' => same base base' && sameAll remarks remarks'
  | qualified name arguments, qualified name' arguments' =>
    name == name' && sameAll arguments arguments'
  | _, _ => false

/-- Whether two lists are equal item by item. -/
def sameAll : List Hint → List Hint → Bool
  | [], [] => true
  | first :: others, first' :: others' => same first first' && sameAll others others'
  | _, _ => false

/-- Whether every item is among the given ones. -/
def allIn : List Hint → List Hint → Bool
  | [], _ => true
  | first :: others, given => given.any (same first ·) && allIn others given

/-- Whether every literal is among the given ones. A truth value is no number here. -/
def allLiteralsIn : List Hint → List Hint → Bool
  | [], _ => true
  | first :: others, given =>
    given.any (fun other => first.isOfClass other && same first other) && allLiteralsIn others given

/-- Whether every entry is among the given ones. -/
def entriesIn : List (Hint × Hint) → List (Hint × Hint) → Bool
  | [], _ => true
  | (key, item) :: others, given =>
    given.any (fun (key', item') => same key key' && same item item') && entriesIn others given

end

/-- Whether two evaluated annotations are one and the same. What can be changed, and what is made
anew whenever it is written, is never the same as something else. -/
def identical (first second : Hint) : Bool :=
  match first with
  | list _ => false
  | set _ _ => false
  | dict _ => false
  | slice _ => false
  | applied .plain _ _ => false
  | unpacked _ => false
  | union true _ => false
  | other => other.isOfClass second && same other second

/-! ### Keys -/

mutual

/-- The name of the class of a part that keeps something from being a key, if there is one. -/
def unhashable? : Hint → Option String
  | value v => v.unhashable?
  | list _ => some "list"
  | dict _ => some "dict"
  | set false _ => some "set"
  | slice _ => some "slice"
  | tuple items => unhashableIn? items
  | applied _ _ arguments => unhashableIn? arguments
  | unpacked generic => unhashable? generic
  | union _ members => unhashableIn? members
  | literal values => unhashableIn? values
  | annotated base remarks => (unhashable? base).or (unhashableIn? remarks)
  | qualified _ arguments => unhashableIn? arguments
  | _ => none

/-- The same for the first of several things that cannot be keys. -/
def unhashableIn? : List Hint → Option String
  | [] => none
  | first :: others => (unhashable? first).or (unhashableIn? others)

end

/-- The entries with one more, which replaces the value of one with an equal key. -/
def insertEntry (entries : List (Hint × Hint)) (key item : Hint) : List (Hint × Hint) :=
  if entries.any fun (present, _) => same present key then
    entries.map fun (present, old) => (present, if same present key then item else old)
  else entries ++ [(key, item)]

/-! ### Unions -/

/-- The members of a union; anything else is its own single member. -/
def members : Hint → List Hint
  | union _ members => members
  | value .null => [nullType]
  | other => [other]

/-- The items without those that are equal to an earlier one. -/
def distinct (items : List Hint) : List Hint :=
  items.foldl (fun kept item => if kept.any (same item ·) then kept else kept ++ [item]) []

/-- The union of several types: unions among them are taken apart, repeated members are dropped,
and a single member stands for itself. -/
def unite (bars : Bool) (items : List Hint) : Hint :=
  match distinct (items.flatMap members) with
  | [only] => only
  | several => union bars several

end Hint

end StateContainer
