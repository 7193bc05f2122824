/-
This file checks stored values by the rules that are made of annotations.

A check goes through the whole value and collects everything that is wrong with
it, so that a complaint is a tree: under each place that is wrong, what is wrong
there. The result of a check is the value as the type has it, with the texts of
numbers read and fractions cut off. Members of a union are told apart by the
class of the value, and a value of no member's class is left as it is, as is a
map.
-/

import StateContainer.Hint.Identifier
import StateContainer.Hint.Moment
import StateContainer.Snapshot.Rule

namespace StateContainer.Snapshot

/-! ### Complaints -/

/-- What is wrong with a value. -/
inductive Complaint where
  /-- The value itself is wrong. -/
  | whole (text : String)
  /-- Some places in the value are wrong. -/
  | places (places : List (Value × Complaint))
deriving Inhabited, Repr

namespace Complaint

mutual

/-- The wording of a complaint. -/
def literal : Complaint → String
  | whole text => "[" ++ Text.quoted text ++ "]"
  | places entries => "\x7b" ++ ", ".intercalate (placeLiterals entries) ++ "\x7d"

/-- The wording for each place. -/
def placeLiterals : List (Value × Complaint) → List String
  | [] => []
  | (place, complaint) :: others =>
    (place.literal ++ ": " ++ literal complaint) :: placeLiterals others

end

/-- A complaint about one of several parts, after those about the earlier ones. -/
def add (place : Value) (complaint : Complaint) (earlier : List (Value × Complaint)) :
    List (Value × Complaint) :=
  earlier ++ [(place, complaint)]

end Complaint

/-- Why a value is refused. -/
inductive Refusal where
  | complaint (complaint : Complaint)
  /-- The check itself cannot be done. -/
  | uncheckable (fault : Hint.Fault)
deriving Inhabited, Repr

/-- The result of a check. -/
abbrev Checking := Except Refusal

/-- Refuses a value as a whole. -/
def refuse {α : Type} (text : String) : Checking α :=
  .error (.complaint (.whole text))

/-! ### Wordings -/

namespace Complaint

/-- The wordings of complaints about a value itself. -/
def missing : String := "Missing data for required field."
def unknownField : String := "Unknown field."
def null : String := "Field may not be null."
def notText : String := "Not a valid string."
def notInteger : String := "Not a valid integer."
def notNumber : String := "Not a valid number."
def notTruth : String := "Not a valid boolean."
def notList : String := "Not a valid list."
def notTuple : String := "Not a valid tuple."
def notMap : String := "Not a valid mapping type."
def tooLarge : String := "Number too large."
def notFinite : String := "Special numeric values (nan or infinity) are not permitted."
def notIdentifier : String := "Not a valid UUID."
def wrongLength (length : Nat) : String := s!"Length must be {length}."

end Complaint

/-! ### Scalars -/

/-- Reads a value as a text. -/
def checkText : Value → Checking Value
  | .text s => .ok (.text s)
  | _ => refuse Complaint.notText

/-- Reads a value as an integer: a number is cut off, and a text is read. -/
def checkInteger : Value → Checking Value
  | .int n => .ok (.int n)
  | .float x =>
    match x.truncate? with
    | some n => .ok (.int n)
    | none => refuse (if x.isInfinite then Complaint.tooLarge else Complaint.notInteger)
  | .text s =>
    match Number.readInteger s with
    | .ok n => .ok (.int n)
    | .error _ => refuse Complaint.notInteger
  | _ => refuse Complaint.notInteger

/-- Reads a value as a floating-point number. -/
def checkNumber (value : Value) : Checking Value := do
  let x ←
    match value with
    | .int n =>
      match Binary64.ofInt? n with
      | some x => pure x
      | none => refuse Complaint.tooLarge
    | .float x => pure x
    | .text s =>
      match Number.readBinary64? s with
      | some x => pure x
      | none => refuse Complaint.notNumber
    | _ => refuse Complaint.notNumber
  if x.isFinite then return .float x else refuse Complaint.notFinite

/-- The words for true. -/
def trueWords : List String :=
  ["t", "T", "true", "True", "TRUE", "on", "On", "ON", "y", "Y", "yes", "Yes", "YES", "1"]

/-- The words for false. -/
def falseWords : List String :=
  ["f", "F", "false", "False", "FALSE", "off", "Off", "OFF", "n", "N", "no", "No", "NO", "0"]

/-- Reads a value as a truth value: one and zero, and some words for them. -/
def checkTruth (value : Value) : Checking Value :=
  match value with
  | .text s =>
    if trueWords.contains s then .ok (.bool true)
    else if falseWords.contains s then .ok (.bool false)
    else refuse Complaint.notTruth
  | other =>
    if other.same (.int 1) then .ok (.bool true)
    else if other.same (.int 0) then .ok (.bool false)
    else refuse Complaint.notTruth

/-- Reads a value as a moment. -/
def checkMoment (value : Value) : Checking Value :=
  match (Hint.toMoment (Hint.ofValue value)).value {} with
  | .ok made => .ok (Hint.toValue made)
  | .error fault => .error (.uncheckable fault)

/-- Reads a value as a decimal number. -/
def checkDecimal (value : Value) : Checking Value :=
  match value with
  | .bool _ => refuse Complaint.notNumber
  | other =>
    match DecimalNumber.read? (match other with | .text s => s | _ => other.literal) with
    | none => refuse Complaint.notNumber
    | some d =>
      if d.isFinite then .ok (Hint.toValue (Hint.ofDecimal d)) else refuse Complaint.notFinite

/-- Reads a value as an identifier. -/
def checkIdentifier (value : Value) : Checking Value :=
  match (Hint.toIdentifier (Hint.ofValue value)).value {} with
  | .ok made => .ok (Hint.toValue made)
  | .error _ => refuse Complaint.notIdentifier

/-! ### Classes of values -/

/-- Whether a value is an instance of the class of a member of a union, if that can be told. -/
def isInstance (value : Value) (member : Hint) : Checking Bool :=
  let holds := Hint.isInstance (Hint.ofValue value)
  match (Hint.isInstanceOf "isinstance" holds (originOf member)).value {} with
  | .ok result => .ok result
  | .error fault => .error (.uncheckable fault)

/-! ### Checks -/

/-- Checks the items of a list with the same check. -/
def checkItems (check : Value → Checking Value) (position : Nat) :
    List Value → Checking (List Value × List (Value × Complaint))
  | [] => .ok ([], [])
  | first :: others =>
    match check first with
    | .error (.uncheckable fault) => .error (.uncheckable fault)
    | .error (.complaint complaint) => do
      let (values, complaints) ← checkItems check (position + 1) others
      return (values, (.int position, complaint) :: complaints)
    | .ok value => do
      let (values, complaints) ← checkItems check (position + 1) others
      return (value :: values, complaints)

/-- The checked parts of a value, unless there is a complaint about one of them. -/
def unlessWrong {α : Type} : α × List (Value × Complaint) → Checking α
  | (parts, []) => .ok parts
  | (_, complaints) => .error (.complaint (.places complaints))

/-- A checked key or value of a map, or the complaint about it. -/
abbrev CheckedPart := Except Complaint Value

/-- The result of a check as a part of a map. -/
def asPart : Checking Value → Checking CheckedPart
  | .ok value => .ok (.ok value)
  | .error (.complaint complaint) => .ok (.error complaint)
  | .error (.uncheckable fault) => .error (.uncheckable fault)

/-- The complaints about an entry of a map. -/
def entryComplaints (key value : CheckedPart) : List (Value × Complaint) :=
  (match key with | .error complaint => [(.text "key", complaint)] | .ok _ => []) ++
    (match value with | .error complaint => [(.text "value", complaint)] | .ok _ => [])

/-- Checks the entries of a map: first all keys, then all values. The complaints about entries
with a wrong key come first. -/
def checkEntries (checkKey checkValue : Value → Checking Value) (entries : List (Value × Value)) :
    Checking Value := do
  let keys ← entries.mapM fun (key, _) => asPart (checkKey key)
  let values ← entries.mapM fun (_, value) => asPart (checkValue value)
  let checked := entries.zip (keys.zip values)
  let wrong := checked.filterMap fun ((place, _), (key, value)) =>
    match entryComplaints key value with
    | [] => none
    | complaints => some (key.toOption.isNone, place, Complaint.places complaints)
  if wrong.isEmpty then
    let made := (keys.zip values).filterMap fun
      | (.ok key, .ok value) => some (key, value)
      | _ => none
    match made.findSome? fun (key, _) => key.unhashable? with
    | some kind => .error (.uncheckable (.misuse (.unhashable kind)))
    | none => return Value.dictOf made
  else
    .error (.complaint (.places ((wrong.filter (·.1) ++ wrong.filter (!·.1)).map (·.2))))

/-- What a union makes of a map: a map that names its class is taken for an instance of it, and
there is no such class. -/
def unionMap (entries : List (Value × Value)) : Value :=
  if entries.any fun (key, _) => key.same (.text "__type") then .null else .dict entries

mutual

/-- Checks a value by a rule. -/
def checkValue : Rule → Value → Checking Value
  | .orNull rule, value =>
    match value with
    | .null => .ok .null
    | present => checkValue rule present
  | _, .null => refuse Complaint.null
  | .text, value => checkText value
  | .integer, value => checkInteger value
  | .number, value => checkNumber value
  | .truth, value => checkTruth value
  | .moment, value => checkMoment value
  | .decimal, value => checkDecimal value
  | .identifier, value => checkIdentifier value
  | .anything, value => .ok value
  | .list item, value =>
    match value with
    | .list items => do return .list (← unlessWrong (← checkItems (checkValue item) 0 items))
    | _ => refuse Complaint.notList
  | .tuple rules, value =>
    match value with
    | .list items =>
      if items.length = rules.length then do
        return .tuple (← unlessWrong (← checkEach rules 0 items))
      else refuse (Complaint.wrongLength rules.length)
    | _ => refuse Complaint.notTuple
  | .map key item, value =>
    match value with
    | .dict entries => checkEntries (checkPart key) (checkPart item) entries
    | _ => refuse Complaint.notMap
  | .union members, value =>
    match value with
    | .dict entries => .ok (unionMap entries)
    | present => checkMember members present

/-- Checks a part of a map, for which there may be no rule. -/
def checkPart : Option Rule → Value → Checking Value
  | some rule, value => checkValue rule value
  | none, value => .ok value

/-- Checks each item of a tuple by a rule of its own. -/
def checkEach : List Rule → Nat → List Value →
    Checking (List Value × List (Value × Complaint))
  | rule :: rules, position, value :: values =>
    match checkValue rule value with
    | .error (.uncheckable fault) => .error (.uncheckable fault)
    | .error (.complaint complaint) => do
      let (checked, complaints) ← checkEach rules (position + 1) values
      return (checked, (.int position, complaint) :: complaints)
    | .ok checkedValue => do
      let (checked, complaints) ← checkEach rules (position + 1) values
      return (checkedValue :: checked, complaints)
  | _, _, _ => .ok ([], [])

/-- Checks a value by the rule of the first member that it is an instance of. -/
def checkMember : List (Hint × Rule) → Value → Checking Value
  | [], value => .ok value
  | (member, rule) :: others, value => do
    if ← isInstance value member then checkValue rule value
    else checkMember others value

end

theorem checkPart_some (rule : Rule) (value : Value) :
    checkPart (some rule) value = checkValue rule value :=
  rfl

theorem checkValue_orNull (rule : Rule) {value : Value} (present : value ≠ .null) :
    checkValue (.orNull rule) value = checkValue rule value := by
  cases value with
  | null => exact absurd rfl present
  | _ => rfl

/-- Where null is allowed, a value passes either as null or by the rule. -/
theorem checkValue_orNull_cases (rule : Rule) {given made : Value}
    (checked : checkValue (.orNull rule) given = .ok made) :
    given = .null ∧ made = .null ∨ given ≠ .null ∧ checkValue rule given = .ok made := by
  by_cases null : given = .null
  · subst null
    cases checked
    exact Or.inl ⟨rfl, rfl⟩
  · rw [checkValue_orNull _ null] at checked
    exact Or.inr ⟨null, checked⟩

end StateContainer.Snapshot
