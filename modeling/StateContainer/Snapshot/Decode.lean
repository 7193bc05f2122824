/-
This file reads snapshots: from a text to the values of the fields of a snapshot
class.

The text has to be an object. First all fields are checked, and the complaints
about all of them are collected, with those about unknown keys at the end. Then
each field is converted, and the first value that cannot be converted ends the
reading. A field that is not in the text takes its default, which is converted,
too. The annotations that are texts are resolved before the check, and all
annotations once more before the conversion.
-/

import StateContainer.Class.Metadata
import StateContainer.Class.Instance
import StateContainer.Json.Reader
import StateContainer.Snapshot.Ancestry
import StateContainer.Snapshot.Check
import StateContainer.Snapshot.Convert
import StateContainer.Text.Encoding

namespace StateContainer

open StateContainer.Class

/-! ### Errors -/

/-- Why a stored text gives no snapshot. -/
inductive SnapshotError where
  /-- The text does not fit the class. -/
  | undecodable (className detail : String)
  /-- Reading itself fails. -/
  | failed (cause : Hint.Fault)
deriving DecidableEq, Repr

namespace SnapshotError

/-- The name of the class of an error. -/
def className : SnapshotError → String
  | undecodable _ _ => "SnapshotDecodeError"
  | failed cause => cause.className

/-- The wording of an error. -/
def message : SnapshotError → String
  | undecodable className detail => className ++ ": " ++ detail
  | failed cause => cause.message

end SnapshotError

namespace Snapshot

/-- What is wrong with a text that is no object. -/
def malformed : String := "blob is not valid JSON"
def notAnObject : String := "expected a JSON object"

/-- Whether a fault counts as one of the stored text. -/
def isTaken (fault : Hint.Fault) : Bool :=
  ["NameError", "TypeError", "ValueError", "KeyError", "AttributeError"].contains fault.className

end Snapshot

/-! ### Stored texts -/

/-- What a store may hold under a key: a text, its bytes, or something that cannot be read. -/
inductive Blob where
  | text (text : String)
  | bytes (bytes : List UInt8)
  | other (value : Value)
deriving Repr, Inhabited

/-- Whether a store holds nothing in spite of the key. -/
def Blob.isAbsent : Blob → Bool
  | .other .null => true
  | _ => false

/-- The tree that a stored text stands for. -/
def Blob.read? : Blob → Option Json
  | .text written => Json.read? written
  | .bytes written => (Text.decodeBytes written).bind Json.readChars
  | .other _ => none

namespace Value

mutual

/-- The value that a tree stands for. -/
def ofJson : Json → Value
  | .null => null
  | .bool b => bool b
  | .int n => int n
  | .float x => float x
  | .text s => text s
  | .array items => list (ofItems items)
  | .object entries => dict (ofEntries entries)

/-- The values that several trees stand for. -/
def ofItems : List Json → List Value
  | [] => []
  | first :: others => ofJson first :: ofItems others

/-- The entries that the entries of an object stand for. -/
def ofEntries : List (String × Json) → List (Value × Value)
  | [] => []
  | (key, item) :: others => (text key, ofJson item) :: ofEntries others

end

end Value

/-! ### Snapshot classes -/

/-- A class of snapshots: a record class of a module. -/
structure SnapshotClass where
  surroundings : ClassModule
  info : ClassInfo
deriving Inhabited

namespace SnapshotClass

/-- The name of the class. -/
def name (s : SnapshotClass) : String :=
  s.info.name

/-- The fields of the snapshots. -/
def fields (s : SnapshotClass) : List Field :=
  (s.info.record?.map (·.fields)).getD []

/-- The types of the fields as all annotations resolve. -/
def resolvedTypes (s : SnapshotClass) : Hint.Evaluation (List Hint) := do
  let types ← s.surroundings.resolvedTypes s.info
  return s.fields.map fun field => (types.get? field.name).getD field.type

/-- Whether an annotation was written as a text. -/
def isText : Hint → Bool
  | .value (.text _) => true
  | _ => false

/-- The types that stored values are checked against. Annotations that are no texts are taken as
they were evaluated. -/
def checkedTypes (s : SnapshotClass) : Hint.Evaluation (List Hint) := do
  let given := s.fields.map (·.type)
  if given.any isText then
    return (given.zip (← s.resolvedTypes)).map fun (type, resolved) =>
      if isText type then resolved else type
  else return given

/-! ### Reading -/

/-- The error of a snapshot that does not fit the class. -/
def undecodable {α : Type} (s : SnapshotClass) (detail : String) : Except SnapshotError α :=
  .error (.undecodable s.name detail)

/-- Takes a fault as an error of the snapshot. -/
def ofFault {α : Type} (s : SnapshotClass) : Except Hint.Fault α → Except SnapshotError α
  | .ok result => .ok result
  | .error fault =>
    if Snapshot.isTaken fault then s.undecodable fault.message else .error (.failed fault)

/-- Takes a fault of an evaluation as an error of the snapshot. -/
def ofEvaluation {α : Type} (s : SnapshotClass) (evaluation : Hint.Evaluation α) :
    Except SnapshotError α :=
  s.ofFault (evaluation.value s.surroundings.memory)

/-- Checks that the class has a method and that no field hides it. -/
def checkMethod (s : SnapshotClass) (name : String) : Except Hint.Fault Unit :=
  match Snapshot.hidden? s.info name with
  | some value => .error (.misuse (.notCallable value.className))
  | none =>
    if (s.info.attribute? name).isSome then .ok ()
    else .error (.unknownAttribute (Hint.ownerText (.classRef s.info.id)) name)

/-- Checks how the class says that its fields are written. -/
def checkConfiguration (s : SnapshotClass) : Except Hint.Fault Unit :=
  match Snapshot.hidden? s.info Snapshot.configurationName with
  | none => .ok ()
  | some value =>
    match Snapshot.configurationFault? value, value with
    | some fault, _ => .error fault
    | none, .text _ => .error (.misuse (.indexKind "string" "str"))
    | none, .tuple _ => .error (.misuse (.indexKind "tuple" "str"))
    | none, _ => .ok ()

/-- Checks the value of a field; nothing if it is not there and need not be. -/
def checkField (entries : List (String × Value)) (name : String) (rule : Snapshot.FieldRule) :
    Snapshot.Checking (Option Value) :=
  match entries.lookup name with
  | none => if rule.required then Snapshot.refuse Snapshot.Complaint.missing else .ok none
  | some value => some <$> Snapshot.checkValue rule.rule value

/-- Checks all fields. What is wrong is collected. -/
def checkFields (entries : List (String × Value)) :
    List (String × Snapshot.FieldRule) →
      Except Hint.Fault (List (String × Value) × List (Value × Snapshot.Complaint))
  | [] => .ok ([], [])
  | (name, rule) :: others => do
    match checkField entries name rule with
    | .error (.uncheckable fault) => .error fault
    | .error (.complaint complaint) =>
      let (checked, complaints) ← checkFields entries others
      return (checked, (.text name, complaint) :: complaints)
    | .ok none => checkFields entries others
    | .ok (some value) =>
      let (checked, complaints) ← checkFields entries others
      return ((name, value) :: checked, complaints)

/-- The complaints about keys that are no fields with a rule. -/
def unknownKeys (rules : List (String × Snapshot.FieldRule)) (entries : List (String × Value)) :
    List (Value × Snapshot.Complaint) :=
  (entries.filter fun entry => !rules.any (·.1 = entry.1)).map fun entry =>
    (.text entry.1, .whole Snapshot.Complaint.unknownField)

/-- The rules of the fields that have one. -/
def rules (s : SnapshotClass) : Except SnapshotError (List (String × Snapshot.FieldRule)) := do
  s.ofFault (s.checkMethod "_resolve_field_types")
  let types ← s.ofEvaluation s.checkedTypes
  s.ofFault (s.checkMethod "schema")
  s.ofFault s.checkConfiguration
  let rules ← (s.fields.zip types).mapM fun (field, type) => do
    return (field.name, ← s.ofFault (Snapshot.fieldRule? field type))
  return rules.filterMap fun (name, rule?) => rule?.map (name, ·)

/-- The checked values of the fields. -/
def checked (s : SnapshotClass) (entries : List (String × Value)) :
    Except SnapshotError (List (String × Value)) := do
  let rules ← s.rules
  let (values, complaints) ← s.ofFault (checkFields entries rules)
  match complaints ++ unknownKeys rules entries with
  | [] => return values
  | wrong => s.undecodable (Snapshot.Complaint.places wrong).literal

/-- Converts the value of a field. Null stays. -/
def convertField (type : Hint) (value : Value) : Hint.Evaluation Value :=
  match value with
  | .null => return .null
  | present => do return Hint.toValue (← Snapshot.convert type (Hint.ofValue present))

/-- The converted values of the fields that are given to the constructor. -/
def converted (s : SnapshotClass) (values : List (String × Value)) :
    Except SnapshotError (List (String × Value)) := do
  let types ← s.ofEvaluation s.resolvedTypes
  let given := (s.fields.zip types).filter (·.1.inConstructor)
  given.mapM fun (field, type) => do
    match (values.lookup field.name).or field.defaultValue? with
    | some value => return (field.name, ← s.ofEvaluation (convertField type value))
    | none => s.undecodable (Text.quoted field.name)

/-- What a stored text is read as: a snapshot, or values that no snapshot was made of. -/
inductive Decoded where
  | snapshot (snapshot : Instance)
  | values (values : List (String × Value))
deriving Inhabited

/-- Whether a field hides the step that makes a snapshot of values. -/
def hidesMaking (s : SnapshotClass) : Bool :=
  let name := "make_" ++ String.ofList (Text.lower s.name.toList)
  s.fields.any (·.name = name)

/-- What a stored text is read as. -/
def decode (s : SnapshotClass) (blob : Blob) : Except SnapshotError Decoded := do
  (s.checkMethod "decode").mapError .failed
  match blob.read? with
  | none => s.undecodable Snapshot.malformed
  | some (.object entries) =>
    let values ← s.checked (entries.map fun (key, item) => (key, Value.ofJson item))
    if s.hidesMaking then return .values values
    else
      match Instance.make s.info [] (← s.converted values) with
      | .ok snapshot => return .snapshot snapshot
      | .error error => s.undecodable error.message
  | some _ => s.undecodable Snapshot.notAnObject

end SnapshotClass

end StateContainer
