/-
This file proves that the annotations of persisted fields are checked by the rules that their
types have, and that such a check admits exactly the values of the type: a value of the type
passes unchanged, and whatever passes is made a value of the type.
-/

import StateContainer.Snapshot.Check
import StateContainer.Proofs.Except
import StateContainer.Proofs.Snapshot.StoredType

namespace StateContainer

open Snapshot

/-! ### Rules of annotations -/

namespace StoredType

theorem isNullType_hint (type : StoredType) : type.hint.isNullType = false := by
  cases type with
  | list item => rfl
  | map item => rfl
  | _ => decide

theorem admitsNull_hint (type : StoredType) : admitsNull type.hint = false := by
  cases type with
  | list item =>
    have part := isNullType_hint item
    simp [hint, admitsNull, argumentsOf, Hint.argumentsOf?, part]
  | map item =>
    have part := isNullType_hint item
    have key := isNullType_hint text
    rw [hint] at key
    simp [hint, admitsNull, argumentsOf, Hint.argumentsOf?, part, key]
  | _ => decide

/-- The options that the rule of a field without a default is made with. -/
def fieldOptions (nullable : Bool) : List String :=
  "required" :: if nullable then ["allow_none"] else []

/-- The options that rules of such types are made with. -/
def AreUsual (options : List String) : Prop :=
  options = [] ∨ ∃ nullable, options = fieldOptions nullable

/-- A rule with the given options admits null if they say so. -/
def withOptions (options : List String) (rule : Rule) : Rule :=
  if options.contains "allow_none" then .orNull rule else rule

theorem checkParts_plain {options : List String} (usual : AreUsual options) :
    checkParts plainHeader options [] = .ok () := by
  obtain rfl | ⟨nullable, rfl⟩ := usual
  · rfl
  · cases nullable <;> rfl

theorem checkParts_scalar {options : List String} (usual : AreUsual options) (title : String) :
    checkParts (partsHeader title []) options [] = .ok () := by
  obtain rfl | ⟨nullable, rfl⟩ := usual
  · rfl
  · cases nullable <;> rfl

theorem checkParts_list {options : List String} (usual : AreUsual options) (part : Option Rule) :
    checkParts (partsHeader "List.__init__" [("cls_or_instance", false)]) options [part] =
      .ok () := by
  obtain rfl | ⟨nullable, rfl⟩ := usual
  · rfl
  · cases nullable <;> rfl

theorem checkParts_map {options : List String} (usual : AreUsual options)
    (key value : Option Rule) :
    checkParts (partsHeader "Mapping.__init__" [("keys", true), ("values", true)]) options
      [key, value] = .ok () := by
  obtain rfl | ⟨nullable, rfl⟩ := usual
  · rfl
  · cases nullable <;> rfl

/-- A rule is made by the class of an annotation. -/
theorem ruleOrNull_of_origin {type : Hint} {id : Hint.ClassId} (origin : originOf type = .classRef id)
    (notNull : admitsNull type = false) {options : List String} {parts : List (Option Rule)}
    {rule : Rule} (made : classRule id options parts = .ok rule) :
    ruleOrNull type options parts = .ok (some (withOptions options rule)) := by
  have made' : ruleWith type options parts = .ok rule := by
    rw [ruleWith, origin]
    exact made
  rw [ruleOrNull, notNull, Bool.false_and, if_neg Bool.false_ne_true, made']
  rfl

/-- The rule of a scalar class that such a rule is made without parts for. -/
theorem classRule_scalar (header : Hint.Header) {id : Hint.ClassId} {options : List String}
    {rule : Rule}
    (scalar : classRule id options [] = do checkParts header options []; return rule)
    (checked : checkParts header options [] = .ok ()) : classRule id options [] = .ok rule := by
  rw [scalar, checked]
  rfl

/-- The rule of the annotation of a type. -/
theorem ruleOf_hint (type : StoredType) {options : List String} (usual : AreUsual options) :
    ruleOf options type.hint = .ok (some (withOptions options type.rule)) := by
  induction type generalizing options with
  | text =>
    exact ruleOrNull_of_origin rfl (admitsNull_hint text)
      (classRule_scalar plainHeader rfl (checkParts_plain usual))
  | integer =>
    exact ruleOrNull_of_origin rfl (admitsNull_hint integer)
      (classRule_scalar (partsHeader "Integer.__init__" []) rfl
        (checkParts_scalar usual _))
  | truth =>
    exact ruleOrNull_of_origin rfl (admitsNull_hint truth)
      (classRule_scalar (partsHeader "Boolean.__init__" []) rfl
        (checkParts_scalar usual _))
  | list item inductionHypothesis =>
    have part : ruleOf [] item.hint = .ok (some item.rule) := inductionHypothesis (Or.inl rfl)
    have parts : rulesOf [item.hint] = .ok [some item.rule] := by
      rw [rulesOf, part, rulesOf, isNullType_hint]
      rfl
    have made : classRule listClass options [some item.rule] = .ok (list item).rule := by
      have applied : classRule listClass options [some item.rule] =
          listRule options [some item.rule] := rfl
      rw [applied, listRule, checkParts_list usual]
      rfl
    rw [hint, ruleOf, parts]
    exact ruleOrNull_of_origin rfl (admitsNull_hint (list item)) made
  | map item inductionHypothesis =>
    have part : ruleOf [] item.hint = .ok (some item.rule) := inductionHypothesis (Or.inl rfl)
    have key : ruleOf [] (.classRef textClass) = .ok (some .text) :=
      ruleOrNull_of_origin rfl (admitsNull_hint text)
        (classRule_scalar plainHeader rfl (checkParts_plain (Or.inl rfl)))
    have notNull : (Hint.classRef textClass).isNullType = false := isNullType_hint text
    have parts : rulesOf [.classRef textClass, item.hint] = .ok [some .text, some item.rule] := by
      rw [rulesOf, key, rulesOf, part, rulesOf, isNullType_hint, notNull]
      rfl
    have made : classRule mapClass options [some .text, some item.rule] = .ok (map item).rule := by
      have applied : classRule mapClass options [some .text, some item.rule] =
          mapRule options [some .text, some item.rule] := rfl
      rw [applied, mapRule, checkParts_map usual]
      rfl
    rw [hint, ruleOf, parts]
    exact ruleOrNull_of_origin rfl (admitsNull_hint (map item)) made

end StoredType

/-! ### Rules of fields -/

section
variable {type : Hint} (nullable : Bool)

theorem admitsNull_orNull (notNull : admitsNull type = false) :
    admitsNull (if nullable then .union true [type, Hint.nullType] else type) = nullable := by
  cases nullable with
  | false => exact notNull
  | true =>
    have null : Hint.nullType.isNullType = true := by decide
    simp [admitsNull, argumentsOf, Hint.argumentsOf?, null]

/-- The rule of a field is made from its type without null. -/
theorem fieldType_orNull (single : type.isNullType = false) (notNull : admitsNull type = false) :
    fieldType (if nullable then .union true [type, Hint.nullType] else type) = .ok type := by
  have null := admitsNull_orNull nullable notNull
  cases nullable with
  | false =>
    show fieldType type = _
    unfold fieldType
    rw [notNull]
    rfl
  | true =>
    have first : (!type.isNullType) = true := by
      rw [single]
      rfl
    show fieldType (Hint.union true [type, Hint.nullType]) = _
    change admitsNull (Hint.union true [type, Hint.nullType]) = true at null
    unfold fieldType
    rw [null]
    exact if_pos first

/-- The rule of a field that has no default is that of its type, with null if it is admitted. -/
theorem fieldRule?_orNull {rule : Rule} (single : type.isNullType = false)
    (notNull : admitsNull type = false)
    (made : ∀ {options}, StoredType.AreUsual options →
      ruleOf options type = .ok (some (StoredType.withOptions options rule)))
    {declared : Class.Field} (plain : declared.default = none) (noFactory : declared.factory = none) :
    fieldRule? declared (if nullable then .union true [type, Hint.nullType] else type) =
      .ok (some { rule := if nullable then .orNull rule else rule, required := true }) := by
  have required : declared.hasDefault = false := by
    rw [Class.Field.hasDefault, plain, noFactory]
    rfl
  have options : (if nullable then ["required"] ++ ["allow_none"] else ["required"]) =
      StoredType.fieldOptions nullable := by
    cases nullable <;> rfl
  have own : StoredType.withOptions (StoredType.fieldOptions nullable) rule =
      if nullable then .orNull rule else rule := by
    cases nullable <;> rfl
  have made : ruleOf (if nullable then ["required"] ++ ["allow_none"] else ["required"]) type =
      .ok (some (if nullable then .orNull rule else rule)) := by
    rw [options, made (Or.inr ⟨nullable, rfl⟩), own]
  unfold fieldRule?
  simp only [plain, required, fieldType_orNull nullable single notNull,
    admitsNull_orNull nullable notNull, Bool.false_or, bind, Except.bind]
  exact made ▸ rfl

end

theorem FieldType.fieldRule?_hint (field : FieldType) {declared : Class.Field}
    (plain : declared.default = none) (noFactory : declared.factory = none) :
    fieldRule? declared field.hint = .ok (some { rule := field.rule, required := true }) :=
  fieldRule?_orNull field.nullable field.type.isNullType_hint field.type.admitsNull_hint
    field.type.ruleOf_hint plain noFactory

/-! ### Maps from texts -/

namespace Value

theorem same_text (first second : String) : (text first).same (text second) = (first == second) := by
  rw [same]

/-- Binding a text is binding the name that it is. -/
theorem bindEntry_textEntries (name : String) (value : Value) (pairs : List (String × Value)) :
    bindEntry (text name) value (textEntries pairs) =
      textEntries (OrderedMap.bind name value pairs) := by
  induction pairs with
  | nil => rfl
  | cons pair others inductionHypothesis =>
    have unfolded : textEntries (pair :: others) = (text pair.1, pair.2) :: textEntries others :=
      rfl
    rw [unfolded, bindEntry, OrderedMap.bind, same_text]
    by_cases same : pair.1 = name
    · rw [if_pos (beq_iff_eq.mpr same), if_pos same]
      rfl
    · rw [if_neg (by simpa using same), if_neg same]
      exact congrArg _ inductionHypothesis

theorem foldl_bindEntry_textEntries (pairs bound : List (String × Value)) :
    (textEntries pairs).foldl (fun made (key, value) => bindEntry key value made)
        (textEntries bound) =
      textEntries (pairs.foldl (fun (m : OrderedMap String Value) pair => m.insert pair.1 pair.2)
        ⟨bound⟩).entries := by
  induction pairs generalizing bound with
  | nil => rfl
  | cons pair others inductionHypothesis =>
    have unfolded : textEntries (pair :: others) = (text pair.1, pair.2) :: textEntries others :=
      rfl
    rw [unfolded, List.foldl_cons, List.foldl_cons]
    show List.foldl _ (bindEntry (text pair.1) pair.2 (textEntries bound)) _ = _
    rw [bindEntry_textEntries, inductionHypothesis]
    rfl

/-- The map that texts are bound in one after the other. -/
theorem dictOf_textEntries (pairs : List (String × Value)) :
    dictOf (textEntries pairs) = dict (textEntries (OrderedMap.ofList pairs).entries) :=
  congrArg dict (foldl_bindEntry_textEntries pairs [])

theorem unhashable?_textEntries (pairs : List (String × Value)) :
    (textEntries pairs).findSome? (fun (key, _) => key.unhashable?) = none := by
  rw [List.findSome?_eq_none_iff]
  rintro entry member
  obtain ⟨pair, _, rfl⟩ := List.mem_map.mp member
  rfl

end Value

/-! ### Lists and maps under a check -/

namespace Snapshot

/-- If every item passes unchanged, the list does. -/
theorem checkItems_of_forall {check : Value → Checking Value} {items : List Value}
    (passes : ∀ item ∈ items, check item = .ok item) (position : Nat) :
    checkItems check position items = .ok (items, []) := by
  induction items generalizing position with
  | nil => rfl
  | cons first others inductionHypothesis =>
    rw [checkItems, passes first List.mem_cons_self,
      inductionHypothesis (fun item member => passes item (List.mem_cons_of_mem _ member))]
    rfl

/-- If there is no complaint, every checked item is the result of a check. -/
theorem exists_of_checkItems {check : Value → Checking Value} {items made : List Value}
    {position : Nat} (checked : checkItems check position items = .ok (made, [])) :
    ∀ part ∈ made, ∃ item ∈ items, check item = .ok part := by
  induction items generalizing made position with
  | nil =>
    cases checked
    intro part member
    cases member
  | cons first others inductionHypothesis =>
    rw [checkItems] at checked
    cases found : check first with
    | error refusal =>
      rw [found] at checked
      cases refusal with
      | uncheckable fault => cases checked
      | complaint complaint =>
        cases behind : checkItems check (position + 1) others with
        | error refusal => rw [behind] at checked; cases checked
        | ok pair => rw [behind] at checked; cases checked
    | ok value =>
      rw [found] at checked
      cases behind : checkItems check (position + 1) others with
      | error refusal => rw [behind] at checked; cases checked
      | ok pair =>
        rw [behind] at checked
        obtain ⟨values, complaints⟩ := pair
        cases checked
        intro part member
        rcases List.mem_cons.mp member with rfl | later
        · exact ⟨first, List.mem_cons_self, found⟩
        · obtain ⟨item, inside, same⟩ := inductionHypothesis behind part later
          exact ⟨item, List.mem_cons_of_mem _ inside, same⟩

theorem checkPart_text (s : String) : checkPart (some .text) (.text s) = .ok (.text s) :=
  rfl

/-- Whatever passes as a text is one. -/
theorem exists_of_checkPart_text {given made : Value}
    (checked : checkPart (some .text) given = .ok made) : ∃ s, made = .text s := by
  cases given with
  | text s =>
    cases (checkPart_text s).symm.trans checked
    exact ⟨s, rfl⟩
  | _ => cases checked

/-- The keys and the values that passed a check. -/
def passedKeys (entries : List (Value × Value)) : List CheckedPart :=
  entries.map fun entry => .ok entry.1
def passedValues (entries : List (Value × Value)) : List CheckedPart :=
  entries.map fun entry => .ok entry.2

theorem filterMap_passed {keep : CheckedPart × CheckedPart → Option (Value × Value)}
    (kept : ∀ key value, keep (.ok key, .ok value) = some (key, value))
    (entries : List (Value × Value)) :
    ((passedKeys entries).zip (passedValues entries)).filterMap keep = entries := by
  rw [passedKeys, passedValues, List.zip_map', List.filterMap_map]
  refine Eq.trans ?_ List.filterMap_some
  exact List.filterMap_congr fun entry _ => kept entry.1 entry.2

theorem filterMap_passed_eq_nil {α : Type}
    {wrong : (Value × Value) × CheckedPart × CheckedPart → Option α}
    (right : ∀ entry key value, wrong (entry, .ok key, .ok value) = none)
    (entries : List (Value × Value)) :
    (entries.zip ((passedKeys entries).zip (passedValues entries))).filterMap wrong = [] := by
  rw [passedKeys, passedValues, List.zip_map', List.filterMap_eq_nil_iff]
  rintro ⟨entry, parts⟩ member
  obtain ⟨other, _, rfl⟩ := List.mem_map.mp (List.of_mem_zip member).2
  exact right entry other.1 other.2

/-- If every value passes unchanged, a map from texts does. -/
theorem checkEntries_of_forall {check : Value → Checking Value} {pairs : List (String × Value)}
    (distinct : (pairs.map (·.1)).Nodup) (passes : ∀ pair ∈ pairs, check pair.2 = .ok pair.2) :
    checkEntries (checkPart (some .text)) check (Value.textEntries pairs) =
      .ok (.dict (Value.textEntries pairs)) := by
  have keys : (Value.textEntries pairs).mapM (fun (key, _) => asPart (checkPart (some .text) key)) =
      .ok (passedKeys (Value.textEntries pairs)) := by
    refine mapM_eq_pure_of_forall fun entry member => ?_
    obtain ⟨pair, _, rfl⟩ := List.mem_map.mp member
    show asPart (checkPart (some .text) (.text pair.1)) = _
    rw [checkPart_text]
    rfl
  have values : (Value.textEntries pairs).mapM (fun (_, value) => asPart (check value)) =
      .ok (passedValues (Value.textEntries pairs)) := by
    refine mapM_eq_pure_of_forall fun entry member => ?_
    obtain ⟨pair, inside, rfl⟩ := List.mem_map.mp member
    show asPart (check pair.2) = _
    rw [passes pair inside]
    rfl
  unfold checkEntries
  simp only [keys, values, bind, Except.bind]
  rw [filterMap_passed_eq_nil (fun _ _ _ => rfl), filterMap_passed (fun _ _ => rfl)]
  simp only [List.isEmpty_nil, if_true, Value.unhashable?_textEntries, Value.dictOf_textEntries,
    OrderedMap.entries_ofList distinct]
  rfl

theorem exists_eq_textEntries {entries : List (Value × Value)}
    (texts : ∀ entry ∈ entries, ∃ s, entry.1 = .text s) :
    ∃ pairs, entries = Value.textEntries pairs := by
  induction entries with
  | nil => exact ⟨[], rfl⟩
  | cons first others inductionHypothesis =>
    obtain ⟨key, value⟩ := first
    obtain ⟨s, rfl⟩ := texts (key, value) List.mem_cons_self
    obtain ⟨pairs, rfl⟩ := inductionHypothesis fun entry member =>
      texts entry (List.mem_cons_of_mem _ member)
    exact ⟨(s, value) :: pairs, rfl⟩

/-- A part of a map passed the check that it was put to. -/
theorem exists_of_mem_parts {check : Value → Checking Value} {part : Value × Value → Value}
    {entries : List (Value × Value)} {parts : List CheckedPart}
    (checked : entries.mapM (fun entry => asPart (check (part entry))) = .ok parts) {value : Value}
    (member : .ok value ∈ parts) : ∃ entry ∈ entries, check (part entry) = .ok value := by
  obtain ⟨entry, inside, passed⟩ := exists_of_mem_mapM checked member
  refine ⟨entry, inside, ?_⟩
  cases found : check (part entry) with
  | ok other =>
    rw [found] at passed
    cases passed
    rfl
  | error refusal =>
    rw [found] at passed
    cases refusal with
    | complaint complaint => cases passed
    | uncheckable fault => cases passed

/-- The map that is made of the parts that passed. -/
theorem exists_of_parts {check : Value → Checking Value} {entries : List (Value × Value)}
    {keys values : List CheckedPart}
    (checkedKeys : entries.mapM (fun entry => asPart (checkPart (some .text) entry.1)) = .ok keys)
    (checkedValues : entries.mapM (fun entry => asPart (check entry.2)) = .ok values)
    {keep : CheckedPart × CheckedPart → Option (Value × Value)}
    (kept : ∀ parts entry, keep parts = some entry → parts = (.ok entry.1, .ok entry.2)) :
    ∃ pairs, Value.dictOf ((keys.zip values).filterMap keep) = .dict (Value.textEntries pairs) ∧
      (pairs.map (·.1)).Nodup ∧ ∀ pair ∈ pairs, ∃ entry ∈ entries, check entry.2 = .ok pair.2 := by
  have fromParts : ∀ entry ∈ (keys.zip values).filterMap keep,
      .ok entry.1 ∈ keys ∧ .ok entry.2 ∈ values := by
    intro entry member
    obtain ⟨parts, inside, same⟩ := List.mem_filterMap.mp member
    cases kept parts entry same
    exact List.of_mem_zip inside
  have texts : ∀ entry ∈ (keys.zip values).filterMap keep, ∃ s, entry.1 = .text s := by
    intro entry member
    obtain ⟨_, _, passed⟩ := exists_of_mem_parts checkedKeys (fromParts entry member).1
    exact exists_of_checkPart_text passed
  obtain ⟨pairs, same⟩ := exists_eq_textEntries texts
  rw [same] at fromParts ⊢
  refine ⟨(OrderedMap.ofList pairs).entries, Value.dictOf_textEntries pairs,
    OrderedMap.nodup_keys_ofList pairs, fun pair member => ?_⟩
  have inside : (Value.text pair.1, pair.2) ∈ Value.textEntries pairs :=
    List.mem_map_of_mem (OrderedMap.mem_of_mem_ofList member)
  exact exists_of_mem_parts checkedValues (fromParts _ inside).2

/-- What a map from texts is made of passed the check. -/
theorem exists_of_checkEntries {check : Value → Checking Value} {entries : List (Value × Value)}
    {made : Value} (checked : checkEntries (checkPart (some .text)) check entries = .ok made) :
    ∃ pairs, made = .dict (Value.textEntries pairs) ∧ (pairs.map (·.1)).Nodup ∧
      ∀ pair ∈ pairs, ∃ entry ∈ entries, check entry.2 = .ok pair.2 := by
  unfold checkEntries at checked
  cases foundKeys : entries.mapM (fun entry => asPart (checkPart (some .text) entry.1)) with
  | error refusal => simp [foundKeys, bind, Except.bind] at checked
  | ok keys =>
    cases foundValues : entries.mapM (fun entry => asPart (check entry.2)) with
    | error refusal => simp [foundKeys, foundValues, bind, Except.bind] at checked
    | ok values =>
      simp only [foundKeys, foundValues, bind, Except.bind] at checked
      split at checked
      · split at checked
        · cases checked
        · cases checked
          refine exists_of_parts foundKeys foundValues fun parts entry same => ?_
          obtain ⟨key, value⟩ := parts
          cases key with
          | error complaint => cases same
          | ok key =>
            cases value with
            | error complaint => cases same
            | ok value =>
              cases same
              rfl
      · cases checked

end Snapshot

/-! ### Values under a check -/

namespace StoredType

/-- A value of a type passes unchanged. -/
theorem checkValue_of_admits {type : StoredType} {given : Value} (admitted : type.Admits given) :
    checkValue type.rule given = .ok given := by
  induction type generalizing given with
  | text =>
    obtain ⟨s, rfl⟩ := admitted
    rw [rule, checkValue, checkText]; simp
  | integer =>
    obtain ⟨n, rfl⟩ := admitted
    rw [rule, checkValue, checkInteger]; simp
  | truth =>
    obtain ⟨b, rfl⟩ := admitted
    cases b with
    | false => simp [rule, checkValue, checkTruth, Value.same, Value.integer?]
    | true => simp [rule, checkValue, checkTruth, Value.same, Value.integer?]
  | list item inductionHypothesis =>
    obtain ⟨items, rfl, admitted⟩ := admitted
    have items : checkItems (checkValue item.rule) 0 items = .ok (items, []) :=
      checkItems_of_forall (fun part member => inductionHypothesis (admitted part member)) 0
    rw [rule, checkValue, items]
    rfl
  | map item inductionHypothesis =>
    obtain ⟨pairs, rfl, distinct, admitted⟩ := admitted
    have passes : ∀ pair ∈ pairs, checkPart (some item.rule) pair.2 = .ok pair.2 := by
      intro pair member
      rw [checkPart_some]
      exact inductionHypothesis (admitted pair member)
    rw [rule, checkValue, checkEntries_of_forall distinct passes]

/-- Whatever passes is made a value of the type. -/
theorem admits_of_checkValue {type : StoredType} {given made : Value}
    (checked : checkValue type.rule given = .ok made) : type.Admits made := by
  induction type generalizing given made with
  | text => exact exists_of_checkPart_text checked
  | integer =>
    cases given with
    | int n => simp [rule, checkValue, checkInteger] at checked; exact ⟨n, checked.symm⟩
    | float x =>
      simp only [rule, checkValue, checkInteger] at checked
      split at checked
      · cases checked
        exact ⟨_, rfl⟩
      · cases checked
    | text s =>
      simp only [rule, checkValue, checkInteger] at checked
      split at checked
      · cases checked
        exact ⟨_, rfl⟩
      · cases checked
    | _ => simp [rule, checkValue, checkInteger, refuse] at checked
  | truth =>
    have result : checkTruth given = .ok made → ∃ b, made = .bool b := by
      intro passed
      unfold checkTruth at passed
      split at passed
      all_goals
        split at passed
        · cases passed
          exact ⟨true, rfl⟩
        · split at passed
          · cases passed
            exact ⟨false, rfl⟩
          · cases passed
    cases given with
    | null => simp [rule, checkValue, refuse] at checked
    | _ => exact result (by rw [rule, checkValue] at checked <;> simp_all)
  | list item inductionHypothesis =>
    cases given with
    | list items =>
      rw [rule, checkValue] at checked
      cases found : checkItems (checkValue item.rule) 0 items with
      | error refusal => rw [found] at checked; cases checked
      | ok pair =>
        obtain ⟨values, complaints⟩ := pair
        rw [found] at checked
        cases complaints with
        | cons first others => cases checked
        | nil =>
          cases checked
          refine ⟨values, rfl, fun part member => ?_⟩
          obtain ⟨_, _, passed⟩ := exists_of_checkItems found part member
          exact inductionHypothesis passed
    | _ => simp [rule, checkValue, refuse] at checked
  | map item inductionHypothesis =>
    cases given with
    | dict entries =>
      rw [rule, checkValue] at checked
      obtain ⟨pairs, rfl, distinct, passed⟩ := exists_of_checkEntries checked
      refine ⟨pairs, rfl, distinct, fun pair member => ?_⟩
      obtain ⟨_, _, passed⟩ := passed pair member
      rw [checkPart_some] at passed
      exact inductionHypothesis passed
    | _ => simp [rule, checkValue, refuse] at checked

end StoredType

namespace FieldType

/-- A value of the type of a field passes unchanged. -/
theorem checkValue_of_admits {field : FieldType} {given : Value} (admitted : field.Admits given) :
    checkValue field.rule given = .ok given := by
  obtain ⟨type, nullable⟩ := field
  rcases admitted with ⟨null, rfl⟩ | admitted
  · cases null
    rfl
  · have passes := StoredType.checkValue_of_admits admitted
    cases nullable with
    | false => exact passes
    | true =>
      show checkValue (.orNull type.rule) given = _
      rw [checkValue_orNull _ admitted.ne_null]
      exact passes

/-- Whatever passes is made a value of the type of the field. -/
theorem admits_of_checkValue {field : FieldType} {given made : Value}
    (checked : checkValue field.rule given = .ok made) : field.Admits made := by
  obtain ⟨type, nullable⟩ := field
  cases nullable with
  | false => exact Or.inr (StoredType.admits_of_checkValue checked)
  | true =>
    obtain ⟨-, rfl⟩ | ⟨-, checked⟩ := checkValue_orNull_cases type.rule checked
    · exact Or.inl ⟨rfl, rfl⟩
    · exact Or.inr (StoredType.admits_of_checkValue checked)

end FieldType

end StateContainer
