/-
This file holds the values that fields take and events carry: null, truth
values, integers, floating-point numbers, texts, bytes, and lists, tuples, maps
and sets of values.

A value is shown in messages as a literal. Two values are the same key of a map
if they are equal as numbers or as texts, so that one, one point zero and true
are a single key.
-/

import StateContainer.Number.Notation
import StateContainer.Text.Quoted

namespace StateContainer

/-- A value of a field. The entries of a map are in the order of their insertion. -/
inductive Value where
  | null
  | bool (value : Bool)
  | int (value : Int)
  | float (value : Binary64)
  | text (value : String)
  | bytes (value : List UInt8)
  | list (items : List Value)
  | tuple (items : List Value)
  | dict (entries : List (Value × Value))
  | set (items : List Value)
  /-- Something of which no more is known than its class and its literal. -/
  | object (kind literal : String)
  /-- Something of a further class, with the value that stored texts have for it. -/
  | wrapped (kind literal : String) (content : Value)
deriving Inhabited, Repr

namespace Value

/-! ### Literals -/

/-- The text of an integer. -/
def decimalText : Int → String
  | .ofNat n => String.ofList (Text.decimal n)
  | .negSucc n => String.ofList ('-' :: Text.decimal (n + 1))

mutual

/-- The literal of a value. -/
def literal : Value → String
  | null => "None"
  | bool true => "True"
  | bool false => "False"
  | int n => decimalText n
  | float x => x.text .plain
  | text s => Text.quoted s
  | bytes b => Text.quotedBytes b
  | list items => "[" ++ ", ".intercalate (literals items) ++ "]"
  | tuple items => "(" ++ ", ".intercalate (literals items) ++ (if items.length = 1 then ",)" else ")")
  | dict entries => "\x7b" ++ ", ".intercalate (entryLiterals entries) ++ "\x7d"
  | set items =>
    if items.isEmpty then "set()" else "\x7b" ++ ", ".intercalate (literals items) ++ "\x7d"
  | object _ shown => shown
  | wrapped _ shown _ => shown

/-- The literals of several values. -/
def literals : List Value → List String
  | [] => []
  | first :: others => literal first :: literals others

/-- The literals of the entries of a map. -/
def entryLiterals : List (Value × Value) → List String
  | [] => []
  | (key, value) :: others => (literal key ++ ": " ++ literal value) :: entryLiterals others

end

/-! ### Equality of values -/

/-- The number that a truth value or an integer is. -/
def integer? : Value → Option Int
  | bool b => some (if b then 1 else 0)
  | int n => some n
  | _ => none

mutual

/-- Whether two values are equal. Truth values, integers and floating-point numbers are compared
as numbers, sequences item by item, and maps and sets regardless of order. -/
def same : Value → Value → Bool
  | null, null => true
  | float x, float y => x.sameValue y
  | float x, other =>
    match other.integer? with
    | some n => x.sameAsInt n
    | none => false
  | other, float y =>
    match other.integer? with
    | some n => y.sameAsInt n
    | none => false
  | text s, text t => s == t
  | bytes b, bytes c => b == c
  | list items, list items' => sameAll items items'
  | tuple items, tuple items' => sameAll items items'
  | dict entries, dict entries' =>
    entries.length == entries'.length && entriesIn entries entries'
  | set items, set items' => items.length == items'.length && allIn items items'
  | object kind shown, object kind' shown' => kind == kind' && shown == shown'
  | wrapped kind _ content, wrapped kind' _ content' => kind == kind' && same content content'
  | first, second =>
    match first.integer?, second.integer? with
    | some n, some m => n == m
    | _, _ => false

/-- Whether two sequences are equal item by item. -/
def sameAll : List Value → List Value → Bool
  | [], [] => true
  | first :: others, first' :: others' => same first first' && sameAll others others'
  | _, _ => false

/-- Whether every item is among the given ones. -/
def allIn : List Value → List Value → Bool
  | [], _ => true
  | first :: others, given => given.any (same first ·) && allIn others given

/-- Whether every entry is among the given ones. -/
def entriesIn : List (Value × Value) → List (Value × Value) → Bool
  | [], _ => true
  | (key, value) :: others, given =>
    given.any (fun (key', value') => same key key' && same value value') && entriesIn others given

end

/-! ### Truth -/

/-- Whether a value counts as true: zero, the empty text and empty collections do not. -/
def truth : Value → Bool
  | null => false
  | bool b => b
  | int n => n != 0
  | float x => !x.isZero
  | text s => s != ""
  | bytes b => !b.isEmpty
  | list items => !items.isEmpty
  | tuple items => !items.isEmpty
  | dict entries => !entries.isEmpty
  | set items => !items.isEmpty
  | object _ _ => true
  | wrapped _ _ content =>
    match content with
    | list items => !items.isEmpty
    | _ => true

/-! ### Kinds -/

/-- The name of the class of a value. -/
def className : Value → String
  | null => "NoneType"
  | bool _ => "bool"
  | int _ => "int"
  | float _ => "float"
  | text _ => "str"
  | bytes _ => "bytes"
  | list _ => "list"
  | tuple _ => "tuple"
  | dict _ => "dict"
  | set _ => "set"
  | object kind _ => kind
  | wrapped kind _ _ => kind

/-! ### Maps -/

/-- The entries of a map with a key bound to a value. A key that is there keeps its place and
its spelling. -/
def bindEntry (key value : Value) : List (Value × Value) → List (Value × Value)
  | [] => [(key, value)]
  | (key', value') :: rest =>
    if same key' key then (key', value) :: rest else (key', value') :: bindEntry key value rest

/-- The map that binds the entries one after the other. -/
def dictOf (entries : List (Value × Value)) : Value :=
  dict (entries.foldl (fun bound (key, value) => bindEntry key value bound) [])

/-- The first item that cannot be the key of a map: a list, a map or a set, or another collection
that can be changed, also within a tuple. -/
def unhashable? : Value → Option String
  | list _ => some "list"
  | dict _ => some "dict"
  | set _ => some "set"
  | tuple items => firstUnhashable items
  | wrapped "deque" _ _ => some "collections.deque"
  | wrapped "UserList" _ _ => some "UserList"
  | wrapped "UserDict" _ _ => some "UserDict"
  | wrapped "bytearray" _ _ => some "bytearray"
  | _ => none
where
  /-- The first of several items that cannot be a key. -/
  firstUnhashable : List Value → Option String
    | [] => none
    | first :: others => (unhashable? first).or (firstUnhashable others)

end Value

end StateContainer
