/-
This file writes the fields of a snapshot as a text.

Collections of every kind are written as arrays, bytes as an array of numbers,
and maps as objects, whose keys are written as texts. A map with a key that is a
collection cannot be written, since such a key becomes an array first. A snapshot
is written by its own methods, which its fields may hide.
-/

import StateContainer.Class.Instance
import StateContainer.Json.Writer
import StateContainer.Snapshot.Ancestry

namespace StateContainer.Snapshot

/-- Why a value cannot be written. -/
inductive EncodingError where
  /-- A key of a map is a collection. -/
  | unhashableKey
  /-- A key of a map is neither a text nor a number nor null. -/
  | unwritableKey (className : String)
  /-- A value is neither a scalar nor a collection. -/
  | unwritable (className : String)
  /-- A field hides a method. -/
  | notCallable (className : String)
  /-- A field holds the method that it hides, which is not bound to the snapshot. -/
  | receiverMissing (path : String)
  /-- A field hides how fields are written. -/
  | misconfigured (fault : Hint.Fault)
  | state (error : Instance.InstanceError)
deriving Repr

/-- The name of the class of an error. -/
def EncodingError.className : EncodingError → String
  | misconfigured fault => fault.className
  | state error => error.className
  | _ => "TypeError"

/-- The wording of an error. -/
def EncodingError.message : EncodingError → String
  | unhashableKey => "unhashable type: 'list'"
  | unwritableKey className => s!"keys must be str, int, float, bool or None, not {className}"
  | unwritable className => s!"Object of type {className} is not JSON serializable"
  | notCallable className => s!"'{className}' object is not callable"
  | receiverMissing path => s!"{path}() missing 1 required positional argument: 'self'"
  | misconfigured fault => fault.message
  | state error => error.message

/-! ### Keys -/

/-- Whether a key is a collection. -/
def isCollectionKey : Value → Bool
  | .tuple _ => true
  | .set _ => true
  | _ => false

mutual

/-- Whether some map in a value has a collection as a key. -/
def hasCollectionKey : Value → Bool
  | .list items => anyHasCollectionKey items
  | .tuple items => anyHasCollectionKey items
  | .set items => anyHasCollectionKey items
  | .dict entries => anyEntryHasCollectionKey entries
  | _ => false

/-- Whether this is so for one of several values. -/
def anyHasCollectionKey : List Value → Bool
  | [] => false
  | first :: others => hasCollectionKey first || anyHasCollectionKey others

/-- Whether this is so for one of the entries of a map. -/
def anyEntryHasCollectionKey : List (Value × Value) → Bool
  | [] => false
  | (key, value) :: others =>
    isCollectionKey key || hasCollectionKey value || anyEntryHasCollectionKey others

end

/-- The text that a key is written as. -/
def keyText : Value → Except EncodingError String
  | .text s => .ok s
  | .int n => .ok (Value.decimalText n)
  | .bool true => .ok "true"
  | .bool false => .ok "false"
  | .null => .ok "null"
  | .float x => .ok (x.text Json.numberSpelling)
  | other => .error (.unwritableKey other.className)

/-! ### Values -/

mutual

/-- The tree that a value is written as. -/
def storedTree : Value → Except EncodingError Json
  | .null => .ok .null
  | .bool b => .ok (.bool b)
  | .int n => .ok (.int n)
  | .float x => .ok (.float x)
  | .text s => .ok (.text s)
  | .bytes b => .ok (.array (b.map fun byte => .int byte.toNat))
  | .list items => do return .array (← storedTrees items)
  | .tuple items => do return .array (← storedTrees items)
  | .set items => do return .array (← storedTrees items)
  | .dict entries => do return .object (← storedEntries entries)
  | .object kind _ => .error (.unwritable kind)
  | .wrapped _ _ content => storedTree content

/-- The trees that several values are written as. -/
def storedTrees : List Value → Except EncodingError (List Json)
  | [] => .ok []
  | first :: others => do
    let tree ← storedTree first
    let trees ← storedTrees others
    return tree :: trees

/-- The entries that the entries of a map are written as. -/
def storedEntries : List (Value × Value) → Except EncodingError (List (String × Json))
  | [] => .ok []
  | (key, value) :: others => do
    let name ← keyText key
    let tree ← storedTree value
    let entries ← storedEntries others
    return (name, tree) :: entries

end

/-- The text of named values. -/
def encode (fields : List (String × Value)) : Except EncodingError String := do
  if fields.any fun field => hasCollectionKey field.2 then throw .unhashableKey
  let entries ← fields.mapM fun (name, value) => do return (name, ← storedTree value)
  return (Json.object entries).write

/-! ### Snapshots -/

/-- Checks that a snapshot has a method and that nothing hides it. -/
def checkMethod (i : Instance) (name : String) : Except EncodingError Unit :=
  match i.values.get? name with
  | some (.object "function" _) => .error (.receiverMissing (methodPath name))
  | some value => .error (.notCallable value.className)
  | none =>
    match hidden? i.ofClass name, i.ofClass.attribute? name with
    | some value, _ => .error (.notCallable value.className)
    | none, some (.method _ _) => .ok ()
    | none, _ => .error (.state (.unknownAttribute (Text.shortName 50 i.ofClass.name) name))

/-- Checks how the fields of a snapshot are written. -/
def checkConfiguration (i : Instance) : Except EncodingError Unit :=
  match i.get configurationName with
  | .error _ => .ok ()
  | .ok value =>
    match configurationFault? value with
    | some fault => .error (.misconfigured fault)
    | none => .ok ()

/-- The text of a snapshot. -/
def encodeInstance (i : Instance) : Except EncodingError String := do
  ["encode", "to_json", "to_dict"].forM (checkMethod i)
  checkConfiguration i
  encode (← i.entries.mapError .state)

end StateContainer.Snapshot
