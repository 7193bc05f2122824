/-
This file holds the vocabulary of annotations: the names that are bound
everywhere, the members of the modules that annotations refer to, how each class
takes type arguments, and what members the classes have.

The built-in classes, the typing vocabulary, the collections and their abstract
classes, and the classes of dates, decimals and identifiers are known by name;
besides these there is one module of sample classes.
-/

import StateContainer.Hint.MemberTable
import StateContainer.Hint.Written

namespace StateContainer.Hint.Vocabulary

/-! ### Built-in names -/

/-- The built-in classes that take no arguments. -/
def builtinClasses : List String := [
  "ArithmeticError", "AssertionError", "AttributeError", "BaseException", "BlockingIOError",
  "BrokenPipeError", "BufferError", "BytesWarning", "ChildProcessError", "ConnectionAbortedError",
  "ConnectionError", "ConnectionRefusedError", "ConnectionResetError", "DeprecationWarning",
  "EOFError", "EncodingWarning", "Exception", "FileExistsError", "FileNotFoundError",
  "FloatingPointError", "FutureWarning", "GeneratorExit", "ImportError", "ImportWarning",
  "IndentationError", "IndexError", "InterruptedError", "IsADirectoryError", "KeyError",
  "KeyboardInterrupt", "LookupError", "MemoryError", "ModuleNotFoundError", "NameError",
  "NotADirectoryError", "NotImplementedError", "OSError", "OverflowError",
  "PendingDeprecationWarning", "PermissionError", "ProcessLookupError", "RecursionError",
  "ReferenceError", "ResourceWarning", "RuntimeError", "RuntimeWarning", "StopAsyncIteration",
  "StopIteration", "SyntaxError", "SyntaxWarning", "SystemError", "SystemExit", "TabError",
  "TimeoutError", "TypeError", "UnboundLocalError", "UnicodeDecodeError", "UnicodeEncodeError",
  "UnicodeError", "UnicodeTranslateError", "UnicodeWarning", "UserWarning", "ValueError",
  "Warning", "ZeroDivisionError", "bool", "bytearray", "bytes", "classmethod", "complex",
  "filter", "float", "int", "map", "memoryview", "object", "property", "range", "reversed",
  "slice", "staticmethod", "str", "super", "zip"]

/-- The built-in classes that take arguments. -/
def builtinGenerics : List String := [
  "BaseExceptionGroup", "ExceptionGroup", "dict", "enumerate", "frozenset", "list", "set",
  "tuple", "type"]

/-- The built-in functions. -/
def builtinFunctions : List String := [
  "abs", "aiter", "all", "anext", "any", "ascii", "bin", "breakpoint", "callable", "chr",
  "compile", "delattr", "dir", "divmod", "eval", "exec", "format", "getattr", "globals",
  "hasattr", "hash", "hex", "id", "input", "isinstance", "issubclass", "iter", "len", "locals",
  "max", "min", "next", "oct", "ord", "pow", "print", "repr", "round", "setattr", "sorted", "sum",
  "vars"]

/-- What a built-in name is bound to. -/
def builtin? (name : String) : Option Hint :=
  if builtinClasses.contains name then some (.classRef (builtinClass name .closed))
  else if builtinGenerics.contains name then some (.classRef (builtinClass name .free))
  else if name = "EnvironmentError" || name = "IOError" then
    some (.classRef (builtinClass "OSError" .closed))
  else if builtinFunctions.contains name then some (.function "builtins" name)
  else if name = "open" then some (.function "io" name)
  else if name = "Ellipsis" then some .ellipsis
  else if name = "NotImplemented" then some (.thing ⟨"NotImplementedType", name, none, none⟩)
  else if name = "__debug__" then some (.bool true)
  else none

/-! ### The typing vocabulary -/

/-- The forms. -/
def forms : List String := [
  "ClassVar", "Concatenate", "Final", "Literal", "Optional", "Union", "LiteralString", "Never",
  "NoReturn", "NotRequired", "Required", "Self", "TypeAlias", "TypeGuard", "Unpack"]

/-- The names that stand for classes of other modules, each with the module, the class and the
number of arguments, where that is fixed. -/
def aliases : List (String × String × String × Option Nat) := [
  ("Callable", "collections.abc", "Callable", none), ("Tuple", "builtins", "tuple", none),
  ("Type", "builtins", "type", some 1), ("AbstractSet", "collections.abc", "Set", some 1),
  ("ByteString", "collections.abc", "ByteString", some 0),
  ("Container", "collections.abc", "Container", some 1),
  ("ContextManager", "contextlib", "AbstractContextManager", some 1),
  ("Hashable", "collections.abc", "Hashable", some 0),
  ("ItemsView", "collections.abc", "ItemsView", some 2),
  ("Iterable", "collections.abc", "Iterable", some 1),
  ("Iterator", "collections.abc", "Iterator", some 1),
  ("KeysView", "collections.abc", "KeysView", some 1),
  ("Mapping", "collections.abc", "Mapping", some 2),
  ("MappingView", "collections.abc", "MappingView", some 1),
  ("MutableMapping", "collections.abc", "MutableMapping", some 2),
  ("MutableSequence", "collections.abc", "MutableSequence", some 1),
  ("MutableSet", "collections.abc", "MutableSet", some 1),
  ("Sequence", "collections.abc", "Sequence", some 1),
  ("Sized", "collections.abc", "Sized", some 0),
  ("ValuesView", "collections.abc", "ValuesView", some 1),
  ("Awaitable", "collections.abc", "Awaitable", some 1),
  ("AsyncIterator", "collections.abc", "AsyncIterator", some 1),
  ("AsyncIterable", "collections.abc", "AsyncIterable", some 1),
  ("Coroutine", "collections.abc", "Coroutine", some 3),
  ("Collection", "collections.abc", "Collection", some 1),
  ("AsyncGenerator", "collections.abc", "AsyncGenerator", some 2),
  ("AsyncContextManager", "contextlib", "AbstractAsyncContextManager", some 1),
  ("Reversible", "collections.abc", "Reversible", some 1),
  ("ChainMap", "collections", "ChainMap", some 2), ("Counter", "collections", "Counter", some 1),
  ("Deque", "collections", "deque", some 1), ("Dict", "builtins", "dict", some 2),
  ("DefaultDict", "collections", "defaultdict", some 2), ("List", "builtins", "list", some 1),
  ("OrderedDict", "collections", "OrderedDict", some 2), ("Set", "builtins", "set", some 1),
  ("FrozenSet", "builtins", "frozenset", some 1),
  ("Generator", "collections.abc", "Generator", some 3), ("Match", "re", "Match", some 1),
  ("Pattern", "re", "Pattern", some 1)]

/-- The classes that take no arguments. -/
def typingClasses : List String := [
  "ForwardRef", "Generic", "ParamSpec", "Protocol", "TypeVar", "TypeVarTuple", "NewType",
  "ParamSpecArgs", "ParamSpecKwargs"]

/-- The classes that declare parameters, with the number of these. -/
def typingGenerics : List (String × Nat) := [
  ("SupportsAbs", 1), ("SupportsBytes", 0), ("SupportsComplex", 0), ("SupportsFloat", 0),
  ("SupportsIndex", 0), ("SupportsInt", 0), ("SupportsRound", 1), ("BinaryIO", 0), ("IO", 1),
  ("TextIO", 0)]

/-- The functions. -/
def typingFunctions : List String := [
  "NamedTuple", "TypedDict", "assert_type", "assert_never", "cast", "clear_overloads",
  "dataclass_transform", "final", "get_args", "get_origin", "get_overloads", "get_type_hints",
  "is_typeddict", "no_type_check", "no_type_check_decorator", "overload", "reveal_type",
  "runtime_checkable"]

/-- The variables, with the signs that are written in front of them. -/
def typingVariables : List (String × String) := [
  ("AnyStr", "~"), ("T", "~"), ("KT", "~"), ("VT", "~"), ("T_co", "+"), ("V_co", "+"),
  ("VT_co", "+"), ("T_contra", "-"), ("CT_co", "+")]

/-- The modules that are members. -/
def typingModules : List String := [
  "abc", "collections", "contextlib", "functools", "operator", "sys", "types", "warnings"]

/-- The class that an alias stands for. -/
def aliasOrigin (moduleName path : String) : ClassId :=
  if moduleName = "builtins" then builtinClass path .free
  else
    { moduleName, path
      arity := if path = "Hashable" || path = "Sized" then .closed else .free
      metaName := if moduleName = "collections.abc" then "ABCMeta" else "type" }

/-- What a name of the typing vocabulary is bound to. -/
def typing? (name : String) : Option Hint :=
  if forms.contains name then some (.form name)
  else if name = "Any" then some (.classRef anyClass)
  else if name = "Annotated" then some (.classRef annotatedClass)
  else if name = "Text" then some (.classRef (builtinClass "str" .closed))
  else if typingModules.contains name then some (.moduleRef name)
  else if name = "io" || name = "re" then some (.moduleRef ("typing." ++ name))
  else if name = "stdlib_re" then some (.moduleRef "re")
  else if name = "ABCMeta" then some (.classRef { moduleName := "abc", path := name })
  else if name = "abstractmethod" then some (.function "abc" name)
  else if name = "defaultdict" then
    some (.classRef { moduleName := "collections", path := name, arity := .free })
  else if name = "GenericAlias" then some (.classRef { moduleName := "types", path := name })
  else if name = "NamedTupleMeta" then some (.classRef { moduleName := "typing", path := name })
  else if name = "TYPE_CHECKING" then some (.value (.bool false))
  else if typingFunctions.contains name then some (.function "typing" name)
  else if typingClasses.contains name then
    let metaName := if name = "Protocol" then "_ProtocolMeta" else "type"
    some (.classRef { moduleName := "typing", path := name, metaName })
  else
    match typingGenerics.lookup name, aliases.lookup name, typingVariables.lookup name with
    | some count, _, _ =>
      let metaName := if "Supports".isPrefixOf name then "_ProtocolMeta" else "type"
      some (.classRef { moduleName := "typing", path := name, arity := .checked count, metaName })
    | none, some (moduleName, path, count), _ =>
      some (.standIn name (aliasOrigin moduleName path) count)
    | none, none, some sign => some (.typeVariable { name, sign })
    | none, none, none => none

/-! ### Other modules -/

/-- The abstract classes of collections that take arguments. -/
def abstractGenerics : List String := [
  "AsyncGenerator", "AsyncIterable", "AsyncIterator", "Awaitable", "ByteString", "Callable",
  "Collection", "Container", "Coroutine", "Generator", "ItemsView", "Iterable", "Iterator",
  "KeysView", "Mapping", "MappingView", "MutableMapping", "MutableSequence", "MutableSet",
  "Reversible", "Sequence", "Set", "ValuesView"]

/-- The abstract classes of collections that take none. -/
def abstractClasses : List String := ["Hashable", "Sized"]

/-- An abstract class of collections. -/
def abstract? (name : String) : Option Hint :=
  let id (arity : Arity) : Hint :=
    .classRef { moduleName := "collections.abc", path := name, arity, metaName := "ABCMeta" }
  if abstractGenerics.contains name then some (id .free)
  else if abstractClasses.contains name then some (id .closed)
  else none

/-- The collections, with the class of each. -/
def collectionClasses : List (String × String) := [
  ("ChainMap", "ABCMeta"), ("Counter", "type"), ("OrderedDict", "type"), ("UserDict", "ABCMeta"),
  ("UserList", "ABCMeta"), ("UserString", "ABCMeta"), ("defaultdict", "type"), ("deque", "type")]

/-- A member of the module of collections. -/
def collection? (name : String) : Option Hint :=
  if name = "abc" then some (.moduleRef "collections.abc")
  else if name = "namedtuple" then some (.function "collections" name)
  else
    (collectionClasses.lookup name).map fun metaName =>
      .classRef { moduleName := "collections", path := name, arity := .free, metaName }

/-- The classes of dates and times. -/
def dateClasses : List String := [
  "date", "datetime", "time", "timedelta", "timezone", "tzinfo"]

/-- The classes of decimal numbers. -/
def decimalClasses : List String := [
  "Clamped", "Context", "ConversionSyntax", "Decimal", "DecimalException", "DivisionByZero",
  "DivisionImpossible", "DivisionUndefined", "FloatOperation", "Inexact", "InvalidContext",
  "InvalidOperation", "Overflow", "Rounded", "Subnormal", "Underflow"]

/-- The names of the ways to round a decimal number. -/
def decimalRoundings : List String := [
  "ROUND_05UP", "ROUND_CEILING", "ROUND_DOWN", "ROUND_FLOOR", "ROUND_HALF_DOWN",
  "ROUND_HALF_EVEN", "ROUND_HALF_UP", "ROUND_UP"]

/-- The limits of decimal numbers, and what the module is built with. -/
def decimalConstants : List (String × Value) := [
  ("MAX_PREC", .int 999999999999999999), ("MAX_EMAX", .int 999999999999999999),
  ("MIN_EMIN", .int (-999999999999999999)), ("MIN_ETINY", .int (-1999999999999999997)),
  ("HAVE_CONTEXTVAR", .bool true), ("HAVE_THREADS", .bool true)]

/-- Greenwich time. -/
def greenwich : Hint := .thing ⟨"datetime.timezone", "datetime.timezone.utc", none, none⟩

/-- A member of the module of dates and times. -/
def date? (name : String) : Option Hint :=
  if dateClasses.contains name then some (.classRef { moduleName := "datetime", path := name })
  else if name = "MINYEAR" then some (.value (.int 1))
  else if name = "MAXYEAR" then some (.value (.int 9999))
  else if name = "UTC" then some greenwich
  else if name = "sys" then some (.moduleRef name)
  else none

/-- A member of the module of decimal numbers. -/
def decimal? (name : String) : Option Hint :=
  if decimalClasses.contains name then some (.classRef { moduleName := "decimal", path := name })
  else if decimalRoundings.contains name then some (.value (.text name))
  else if ["getcontext", "localcontext", "setcontext"].contains name then
    some (.function "decimal" name)
  else (decimalConstants.lookup name).map Hint.value

/-- A known identifier. -/
def knownIdentifier (text : String) : Hint :=
  .value (.wrapped "UUID" ("UUID('" ++ text ++ "')") (.text text))

/-- The identifiers and the texts of the module of identifiers. -/
def identifierConstants : List (String × Hint) := [
  ("NAMESPACE_DNS", knownIdentifier "6ba7b810-9dad-11d1-80b4-00c04fd430c8"),
  ("NAMESPACE_URL", knownIdentifier "6ba7b811-9dad-11d1-80b4-00c04fd430c8"),
  ("NAMESPACE_OID", knownIdentifier "6ba7b812-9dad-11d1-80b4-00c04fd430c8"),
  ("NAMESPACE_X500", knownIdentifier "6ba7b814-9dad-11d1-80b4-00c04fd430c8"),
  ("RESERVED_NCS", .value (.text "reserved for NCS compatibility")),
  ("RFC_4122", .value (.text "specified in RFC 4122")),
  ("RESERVED_MICROSOFT", .value (.text "reserved for Microsoft compatibility")),
  ("RESERVED_FUTURE", .value (.text "reserved for future definition")),
  ("bytes_", .classRef (builtinClass "bytes" .closed)),
  ("int_", .classRef (builtinClass "int" .closed)),
  ("Enum", .classRef { moduleName := "enum", path := "Enum", metaName := "EnumType" }),
  ("os", .moduleRef "os"), ("platform", .moduleRef "platform"), ("sys", .moduleRef "sys")]

/-- A member of the module of identifiers. -/
def identifier? (name : String) : Option Hint :=
  if name = "UUID" then some (.classRef { moduleName := "uuid", path := name })
  else if name = "SafeUUID" then
    some (.classRef { moduleName := "uuid", path := name, metaName := "EnumType" })
  else if ["getnode", "uuid1", "uuid3", "uuid4", "uuid5"].contains name then
    some (.function "uuid" name)
  else identifierConstants.lookup name

/-! ### Sample classes -/

/-- The name of the module of sample classes. -/
def sampleModule : String := "lib.shapes"

/-- A sample class with one parameter. -/
def sampleGeneric (path : String) : ClassId :=
  { moduleName := sampleModule, path, arity := .checked 1 }

/-- A sample class. -/
def sampleClass (path : String) : ClassId :=
  { moduleName := sampleModule, path }

/-- The sample variable for types. -/
def sampleVariable : Hint := .typeVariable { name := "T" }

/-- The sample copy of the integers. -/
def sampleNewType : Hint :=
  .newType sampleModule "UserId" (.classRef (builtinClass "int" .closed))

/-- A member of the module of sample classes. -/
def sample? : String → Option Hint
  | "Box" => some (.classRef (sampleGeneric "Box"))
  | "MyCallable" => some (.classRef (sampleGeneric "MyCallable"))
  | "Outer" => some (.classRef (sampleClass "Outer"))
  | _ => none

/-! ### Names and members -/

/-- The names of the typing vocabulary that are bound without their qualifier. -/
def unqualified : List String := [
  "Any", "Optional", "Union", "Callable", "Literal", "Annotated", "ClassVar", "Final", "List",
  "Dict", "Set", "FrozenSet", "Tuple", "Type", "Sequence", "Mapping", "Iterable"]

/-- The modules that are bound by their names. -/
def boundModules : List String :=
  ["typing", "datetime", "decimal", "uuid", "collections", "lib"]

/-- All names that are bound in every module, in order. -/
def globalNames : List String :=
  unqualified ++ boundModules ++ ["T", "UserId"]

/-- What a name is bound to in every module. -/
def global? (name : String) : Option Hint :=
  if unqualified.contains name then typing? name
  else if boundModules.contains name then some (.moduleRef name)
  else if name = "T" then some sampleVariable
  else if name = "UserId" then some sampleNewType
  else none

/-- A member of a module. -/
def member? (moduleName name : String) : Option Hint :=
  match moduleName with
  | "typing" => typing? name
  | "collections" => collection? name
  | "collections.abc" => abstract? name
  | "datetime" => date? name
  | "decimal" => decimal? name
  | "uuid" => identifier? name
  | "lib" => if name = "shapes" then some (.moduleRef sampleModule) else none
  | "lib.shapes" => sample? name
  | _ => none

/-! ### Members of classes -/

/-- What the lines of a table that begin with a name list. -/
def listed (table : List String) (name : String) : List String :=
  table.flatMap fun line =>
    match Text.spacedWords line with
    | first :: others => if first = name then others else []
    | [] => []

/-- What the entries of a table pair a name with. -/
def paired (table : List (String × List String)) (name : String) : List String :=
  table.flatMap fun (first, others) => if first = name then others else []

/-- The methods that a class of the given name has itself. -/
def methodsOf (name : String) : List String :=
  if name = "object" then objectMethods
  else if name = "type" then typeMethods
  else listed methodLines name

/-- The ancestors of a class, by their names, in the order in which members are looked up. -/
def ancestors (id : ClassId) : List String :=
  if id.moduleName = "builtins" && id.path = "object" then []
  else if id = sampleGeneric "Box" || id = sampleGeneric "MyCallable" then ["typing.Generic", "object"]
  else paired lineages id.partText ++ ["object"]

/-- A member that a class of the given name has itself. -/
def ownMember? (owner name : String) : Option Hint :=
  let path := String.ofList (Text.afterLast '.' owner.toList) ++ "." ++ name
  if (methodsOf owner).contains name then some (.method path [])
  else if (listed functionLines owner).contains name then
    some (.function (String.ofList (Text.beforeLast '.' owner.toList)) path)
  else none

/-- The first and the last day and moment, and the shortest and the longest duration. -/
def dateMember? (owner name : String) : Option Hint :=
  let found : Option String :=
    match owner, name with
    | "datetime.date", "min" => some "datetime.date(1, 1, 1)"
    | "datetime.date", "max" => some "datetime.date(9999, 12, 31)"
    | "datetime.date", "resolution" => some "datetime.timedelta(days=1)"
    | "datetime.datetime", "min" => some "datetime.datetime(1, 1, 1, 0, 0)"
    | "datetime.datetime", "max" => some "datetime.datetime(9999, 12, 31, 23, 59, 59, 999999)"
    | "datetime.datetime", "resolution" => some "datetime.timedelta(microseconds=1)"
    | "datetime.time", "min" => some "datetime.time(0, 0)"
    | "datetime.time", "max" => some "datetime.time(23, 59, 59, 999999)"
    | "datetime.time", "resolution" => some "datetime.timedelta(microseconds=1)"
    | "datetime.timedelta", "min" => some "datetime.timedelta(days=-999999999)"
    | "datetime.timedelta", "max" =>
      some "datetime.timedelta(days=999999999, seconds=86399, microseconds=999999)"
    | "datetime.timedelta", "resolution" => some "datetime.timedelta(microseconds=1)"
    | "datetime.timezone", "utc" => some "datetime.timezone.utc"
    | "datetime.timezone", "min" =>
      some "datetime.timezone(datetime.timedelta(days=-1, seconds=60))"
    | "datetime.timezone", "max" => some "datetime.timezone(datetime.timedelta(seconds=86340))"
    | _, _ => none
  found.map fun text => .thing ⟨owner, text, none, none⟩

/-- The members of identifiers that tell how safe they are. -/
def safetyMember? (name : String) : Option Hint :=
  match name with
  | "safe" => some (.thing ⟨"SafeUUID", "<SafeUUID.safe: 0>", some "uuid", none⟩)
  | "unsafe" => some (.thing ⟨"SafeUUID", "<SafeUUID.unsafe: -1>", some "uuid", none⟩)
  | "unknown" => some (.thing ⟨"SafeUUID", "<SafeUUID.unknown: None>", some "uuid", none⟩)
  | _ => none

/-- A member of a class. -/
def classMember? (id : ClassId) (name : String) : Option Hint :=
  if id = sampleClass "Outer" && name = "Inner" then some (.classRef (sampleClass "Outer.Inner"))
  else if id.qualifiedName = "uuid.SafeUUID" && (safetyMember? name).isSome then safetyMember? name
  else
    ((dateMember? id.qualifiedName name).or
      ((id.partText :: ancestors id).findSome? fun owner => ownMember? owner name)).or
      (if typeMethods.contains name then
        some (.method (id.path ++ "." ++ name) [.classRef id])
      else none)

end StateContainer.Hint.Vocabulary
