/-
This file writes what an annotation evaluates to as text, the form in which
messages show it, and which stands for the name of something that has none.
-/

import StateContainer.Hint
import StateContainer.Number.Reader
import StateContainer.Text.Pieces

namespace StateContainer.Hint

/-- The part of a class's path after its last dot. -/
def ClassId.simpleName (c : ClassId) : String :=
  String.ofList (Text.afterLast '.' c.path.toList)

/-- A class as it is written inside a type: the qualifier of built-in classes is left out. -/
def ClassId.partText (c : ClassId) : String :=
  if c.moduleName = "builtins" then c.path else c.qualifiedName

/-- A name of the typing vocabulary with its qualifier. -/
def typingName (name : String) : String := "typing." ++ name

/-- Texts between brackets. -/
def bracketed (head : String) (items : List String) : String :=
  head ++ "[" ++ ", ".intercalate items ++ "]"

/-- Texts between brackets; the list of no arguments is written as an empty tuple. -/
def bracketedArguments (head : String) (items : List String) : String :=
  if items.isEmpty then head ++ "[()]" else bracketed head items

/-- A union of two types of which one is the null type is written as an optional type. -/
def writtenUnion (members : List Hint) (parts : List String) : String :=
  match members, parts with
  | [first, second], [firstText, secondText] =>
    if first.isNullType then bracketed (typingName "Optional") [secondText]
    else if second.isNullType then bracketed (typingName "Optional") [firstText]
    else bracketed (typingName "Union") parts
  | _, _ => bracketed (typingName "Union") parts

/-- What a spelling of a generic class is written as. -/
def Spelling.head (spelling : Spelling) (origin : ClassId) : String :=
  match spelling with
  | typing name => typingName name
  | _ => origin.partText

/-- Whether something stands for all parameters of a function. -/
def standsForParameters : Hint → Bool
  | ellipsis => true
  | list _ => true
  | tuple _ => true
  | typeVariable v => v.kind = .parameters
  | qualified name _ => name = "Concatenate"
  | _ => false

/-- Whether the arguments of the class of functions are what stands for all parameters and the
result. -/
def hasWholeParameters : List Hint → Bool
  | [parameters, _] => standsForParameters parameters
  | _ => false

/-- The arguments of a class between brackets. The types of the parameters of a function have
brackets of their own. -/
def writtenArguments (head : String) (origin : ClassId) (arguments : List Hint)
    (items : List String) : String :=
  if origin = callableClass && !hasWholeParameters arguments then
    bracketed head ["[" ++ ", ".intercalate items.dropLast ++ "]", items.getLastD ""]
  else bracketedArguments head items

/-- A number without the fraction of an integer. -/
def bareNumber (x : Binary64) : String :=
  let shown := (x.text .plain).toList
  if ['.', '0'].isSuffixOf shown then String.ofList (shown.take (shown.length - 2))
  else String.ofList shown

/-- A complex number: the imaginary part alone, or both parts. -/
def complexText (real imaginary : Binary64) : String :=
  if real.isZero && !real.isNegative then bareNumber imaginary ++ "j"
  else
    let sign := if imaginary.isNegative then "" else "+"
    "(" ++ bareNumber real ++ sign ++ bareNumber imaginary ++ "j)"

/-- A range of integers. -/
def rangeText (start stop step : Int) : String :=
  let bounds := [Value.decimalText start, Value.decimalText stop]
  "range(" ++ ", ".intercalate (bounds ++ if step = 1 then [] else [Value.decimalText step]) ++ ")"

/-- A method of a class. -/
def methodText (path : String) : String :=
  match Text.dottedParts path with
  | [owner, name] => "<method '" ++ name ++ "' of '" ++ owner ++ "' objects>"
  | _ => "<method '" ++ path ++ "'>"

/-- A class outside of a type. -/
def ClassId.wholeText (c : ClassId) : String :=
  if c = anyClass then "typing.Any"
  else if c.metaName = "EnumType" then "<enum '" ++ c.simpleName ++ "'>"
  else "<class '" ++ c.partText ++ "'>"

/-- A function outside of a type. -/
def functionText (moduleName path : String) : String :=
  if moduleName = "builtins" then "<built-in function " ++ path ++ ">"
  else "<function " ++ path ++ ">"

/-- A function inside a type. -/
def functionPartText (moduleName path : String) : String :=
  if moduleName = "builtins" then path else moduleName ++ "." ++ path

mutual

/-- The text of an evaluated annotation. Inside a type, classes and functions are written by
their names alone. -/
def writtenAs (inside : Bool) : Hint → String
  | value v => v.literal
  | complex x y => complexText x y
  | ellipsis => if inside then "..." else "Ellipsis"
  | list items => "[" ++ ", ".intercalate (writtenAll false items) ++ "]"
  | tuple items =>
    "(" ++ ", ".intercalate (writtenAll false items) ++ (if items.length = 1 then ",)" else ")")
  | set frozen items =>
    let shown := "\x7b" ++ ", ".intercalate (writtenAll false items) ++ "\x7d"
    if frozen then "frozenset(" ++ (if items.isEmpty then "" else shown) ++ ")"
    else if items.isEmpty then "set()"
    else shown
  | dict entries => "\x7b" ++ ", ".intercalate (writtenEntries entries) ++ "\x7d"
  | slice bounds => "slice(" ++ ", ".intercalate (writtenAll false bounds) ++ ")"
  | range start stop step => rangeText start stop step
  | series _ _ => "<generator object <genexpr>>"
  | moduleRef name => "<module '" ++ name ++ "'>"
  | classRef id => if inside then id.partText else id.wholeText
  | function m path => if inside then functionPartText m path else functionText m path
  | method path _ => methodText path
  | closure _ _ _ _ => "<function <lambda>>"
  | thing t => t.text
  | form name => typingName name
  | standIn name _ _ => typingName name
  | typeVariable v => v.sign ++ v.name
  | newType m name _ => m ++ "." ++ name
  | forward text => "ForwardRef(" ++ Text.quoted text ++ ")"
  | applied spelling origin arguments =>
    writtenArguments (spelling.head origin) origin arguments (writtenAll true arguments)
  | unpacked generic => "*" ++ writtenAs true generic
  | union true members => " | ".intercalate (writtenMembers members)
  | union false members => writtenUnion members (writtenAll true members)
  | literal values => bracketedArguments "typing.Literal" (writtenAll true values)
  | annotated base remarks =>
    bracketed "typing.Annotated" (writtenAs true base :: writtenAll false remarks)
  | qualified name arguments =>
    if name = "Unpack" then "*" ++ ", ".intercalate (writtenAll false arguments)
    else bracketed (typingName name) (writtenAll true arguments)

/-- The texts of several evaluated annotations. -/
def writtenAll (inside : Bool) : List Hint → List String
  | [] => []
  | first :: others => writtenAs inside first :: writtenAll inside others

/-- The texts of the entries of a map. -/
def writtenEntries : List (Hint × Hint) → List String
  | [] => []
  | (key, item) :: others =>
    (writtenAs false key ++ ": " ++ writtenAs false item) :: writtenEntries others

/-- The texts of the members of a union with bars. -/
def writtenMembers : List Hint → List String
  | [] => []
  | first :: others =>
    (if first.isNullType then "None" else writtenAs true first) :: writtenMembers others

end

/-- The text of an evaluated annotation that stands alone. -/
def written (hint : Hint) : String :=
  writtenAs false hint

/-! ### Numbers that are too long -/

mutual

/-- Whether the text would hold an integer with more digits than are written. -/
def isTooLong : Hint → Bool
  | value (.int n) => !Number.isWritable n
  | list items => anyTooLong items
  | tuple items => anyTooLong items
  | set _ items => anyTooLong items
  | dict entries => anyEntryTooLong entries
  | slice bounds => anyTooLong bounds
  | applied _ _ arguments => anyTooLong arguments
  | literal values => anyTooLong values
  | annotated _ remarks => anyTooLong remarks
  | _ => false

/-- Whether this is so for one of several. -/
def anyTooLong : List Hint → Bool
  | [] => false
  | first :: others => isTooLong first || anyTooLong others

/-- Whether this is so for one of the entries of a map. -/
def anyEntryTooLong : List (Hint × Hint) → Bool
  | [] => false
  | (key, item) :: others => isTooLong key || isTooLong item || anyEntryTooLong others

end

/-! ### Values -/

mutual

/-- The value that something is; what is no value is kept by its class and its wording. -/
def toValue : Hint → Value
  | value v => v
  | list items => .list (toValues items)
  | tuple items => .tuple (toValues items)
  | set _ items => .set (toValues items)
  | dict entries => .dict (toEntries entries)
  | other => .object (String.ofList (Text.afterLast '.' other.kindName.toList)) other.written

/-- The values that several things are. -/
def toValues : List Hint → List Value
  | [] => []
  | first :: others => toValue first :: toValues others

/-- The entries of a map of values. -/
def toEntries : List (Hint × Hint) → List (Value × Value)
  | [] => []
  | (key, item) :: others => (toValue key, toValue item) :: toEntries others

end

end StateContainer.Hint
