/-
This file proves that named values are read as they were written, if they are values of the fields of
a class of snapshots.

A text of such values is read as an object of them. Each value passes the check of its field
unchanged, there is nothing to complain about, and the conversion leaves each value as it is. So the
constructor of the class is called with these values again.

What is written of the values of persisted fields stands for these values. A value of a type of
persisted fields is written as a tree from which it can be told again, and the tree itself is read
as it is written. So the text of named values is read as an object whose entries stand for them.
-/

import StateContainer.Proofs.Class.Making
import StateContainer.Proofs.Except
import StateContainer.Proofs.Snapshot.Check
import StateContainer.Proofs.Snapshot.Convert
import StateContainer.Proofs.Snapshot.Decoding
import StateContainer.Proofs.Snapshot.StoredType
import StateContainer.Snapshot.Decode
import StateContainer.Snapshot.Encode

namespace StateContainer

open Snapshot Json

namespace Snapshot

/-! ### Trees -/

/-- Whether a value is written as a tree from which it can be told again. -/
structure IsWrittenAs (given : Value) (tree : Json) : Prop where
  written : storedTree given = .ok tree
  restorable : IsRestorable tree
  read : Value.ofJson tree = given
  keys : hasCollectionKey given = false

theorem exists_storedTrees {items : List Value} (each : ∀ part ∈ items, ∃ tree, IsWrittenAs part tree) :
    ∃ trees, storedTrees items = .ok trees ∧ AreRestorable trees ∧ Value.ofItems trees = items ∧
      anyHasCollectionKey items = false := by
  induction items with
  | nil => exact ⟨[], rfl, trivial, rfl, rfl⟩
  | cons first others inductionHypothesis =>
    obtain ⟨⟨tree, own⟩, each⟩ := List.forall_mem_cons.mp each
    obtain ⟨trees, written, restorable, read, keys⟩ := inductionHypothesis each
    refine ⟨tree :: trees, ?_, ⟨own.restorable, restorable⟩, ?_, ?_⟩
    · rw [storedTrees, own.written, written]
      rfl
    · rw [Value.ofItems, own.read, read]
    · rw [anyHasCollectionKey, own.keys, keys]
      rfl

/-- The entries of a map from texts are written one by one. -/
theorem exists_storedEntries {pairs : List (String × Value)}
    (names : ∀ pair ∈ pairs, HalvesApart pair.1.toList)
    (each : ∀ pair ∈ pairs, ∃ tree, IsWrittenAs pair.2 tree) :
    ∃ entries, storedEntries (Value.textEntries pairs) = .ok entries ∧
      entries.map (·.1) = pairs.map (·.1) ∧ EntriesAreRestorable entries ∧
      Value.ofEntries entries = Value.textEntries pairs ∧
      anyEntryHasCollectionKey (Value.textEntries pairs) = false := by
  induction pairs with
  | nil => exact ⟨[], rfl, rfl, trivial, rfl, rfl⟩
  | cons first others inductionHypothesis =>
    obtain ⟨name, names⟩ := List.forall_mem_cons.mp names
    obtain ⟨⟨tree, own⟩, each⟩ := List.forall_mem_cons.mp each
    obtain ⟨entries, written, same, restorable, read, keys⟩ := inductionHypothesis names each
    have unfolded : Value.textEntries (first :: others) =
        (.text first.1, first.2) :: Value.textEntries others := rfl
    rw [unfolded]
    refine ⟨(first.1, tree) :: entries, ?_, ?_, ⟨name, own.restorable, restorable⟩, ?_, ?_⟩
    · rw [storedEntries, own.written, written]
      rfl
    · rw [List.map_cons, List.map_cons, same]
    · rw [Value.ofEntries, own.read, read]
    · rw [anyEntryHasCollectionKey, own.keys, keys]
      rfl

end Snapshot

/-! ### Values of types -/

namespace Value

theorem isStorable_of_mem {items : List Value} (storable : AreStorable items) {part : Value}
    (member : part ∈ items) : part.IsStorable := by
  induction items with
  | nil => cases member
  | cons first others inductionHypothesis =>
    rcases List.mem_cons.mp member with rfl | member
    · exact storable.1
    · exact inductionHypothesis storable.2 member

theorem isStorable_of_mem_textEntries {pairs : List (String × Value)}
    (storable : EntriesAreStorable (textEntries pairs)) {pair : String × Value} (member : pair ∈ pairs) :
    HalvesApart pair.1.toList ∧ pair.2.IsStorable := by
  induction pairs with
  | nil => cases member
  | cons first others inductionHypothesis =>
    rcases List.mem_cons.mp member with rfl | member
    · exact ⟨storable.1, storable.2.1⟩
    · exact inductionHypothesis storable.2.2 member

end Value

/-- A value of a type that can be stored is told again from its tree. -/
theorem StoredType.exists_isWrittenAs {type : StoredType} {given : Value} (admitted : type.Admits given)
    (storable : given.IsStorable) : ∃ tree, IsWrittenAs given tree := by
  induction type generalizing given with
  | text =>
    obtain ⟨s, rfl⟩ := admitted
    exact ⟨.text s, rfl, storable, rfl, rfl⟩
  | integer =>
    obtain ⟨n, rfl⟩ := admitted
    exact ⟨.int n, rfl, storable, rfl, rfl⟩
  | truth =>
    obtain ⟨b, rfl⟩ := admitted
    exact ⟨.bool b, rfl, trivial, rfl, rfl⟩
  | list item inductionHypothesis =>
    obtain ⟨items, rfl, admitted⟩ := admitted
    obtain ⟨trees, written, restorable, read, keys⟩ := exists_storedTrees fun part member =>
      inductionHypothesis (admitted part member) (Value.isStorable_of_mem storable member)
    refine ⟨.array trees, ?_, restorable, ?_, keys⟩
    · rw [storedTree, written]
      rfl
    · rw [Value.ofJson, read]
  | map item inductionHypothesis =>
    obtain ⟨pairs, rfl, distinct, admitted⟩ := admitted
    obtain ⟨entries, written, names, restorable, read, keys⟩ := exists_storedEntries
      (fun pair member => (Value.isStorable_of_mem_textEntries storable member).1)
      fun pair member => inductionHypothesis (admitted pair member)
        (Value.isStorable_of_mem_textEntries storable member).2
    refine ⟨.object entries, ?_, ⟨names ▸ distinct, restorable⟩, ?_, keys⟩
    · rw [storedTree, written]
      rfl
    · rw [Value.ofJson, read]

theorem FieldType.exists_isWrittenAs {field : FieldType} {given : Value} (admitted : field.Admits given)
    (storable : given.IsStorable) : ∃ tree, IsWrittenAs given tree := by
  rcases admitted with ⟨-, rfl⟩ | admitted
  · exact ⟨.null, rfl, trivial, rfl, rfl⟩
  · exact StoredType.exists_isWrittenAs admitted storable

/-! ### Texts -/

namespace Snapshot

/-- Named values are written one by one. -/
theorem exists_mapM_storedTree {named : List (String × Value)}
    (names : ∀ entry ∈ named, HalvesApart entry.1.toList)
    (each : ∀ entry ∈ named, ∃ tree, IsWrittenAs entry.2 tree) :
    ∃ entries, (named.mapM fun entry => do return (entry.1, ← storedTree entry.2)) = .ok entries ∧
      entries.map (·.1) = named.map (·.1) ∧ EntriesAreRestorable entries ∧
      entries.map (fun entry => (entry.1, Value.ofJson entry.2)) = named := by
  induction named with
  | nil => exact ⟨[], rfl, rfl, trivial, rfl⟩
  | cons first others inductionHypothesis =>
    obtain ⟨name, names⟩ := List.forall_mem_cons.mp names
    obtain ⟨⟨tree, own⟩, each⟩ := List.forall_mem_cons.mp each
    obtain ⟨entries, written, same, restorable, read⟩ := inductionHypothesis names each
    refine ⟨(first.1, tree) :: entries, ?_, ?_, ⟨name, own.restorable, restorable⟩, ?_⟩
    · rw [List.mapM_cons, own.written, written]
      rfl
    · rw [List.map_cons, List.map_cons, same]
    · rw [List.map_cons, read, own.read]

/-- Named values are written as an object whose entries stand for them. -/
theorem exists_encode {named : List (String × Value)} (distinct : (named.map (·.1)).Nodup)
    (names : ∀ entry ∈ named, HalvesApart entry.1.toList)
    (each : ∀ entry ∈ named, ∃ tree, IsWrittenAs entry.2 tree) :
    ∃ text entries, encode named = .ok text ∧ Json.read? text = some (.object entries) ∧
      entries.map (fun entry => (entry.1, Value.ofJson entry.2)) = named := by
  have bare : (named.any fun entry => hasCollectionKey entry.2) = false := by
    rw [List.any_eq_false]
    intro entry member
    obtain ⟨tree, own⟩ := each entry member
    rw [own.keys]
    exact Bool.false_ne_true
  obtain ⟨entries, written, same, restorable, read⟩ := exists_mapM_storedTree names each
  have whole : IsRestorable (.object entries) := ⟨same ▸ distinct, restorable⟩
  refine ⟨(Json.object entries).write, entries, ?_, read?_write whole, read⟩
  rw [encode, bare]
  exact bind_eq_of_eq_ok written rfl

end Snapshot

/-- A field of a class of snapshots with its type and a value. -/
structure KeptField where
  field : Class.Field
  type : FieldType
  value : Value

/-- The value under the name of the field. -/
def KeptField.entry (kept : KeptField) : String × Value :=
  (kept.field.name, kept.value)

/-- The rule that the value is checked by. -/
def KeptField.rule (kept : KeptField) : String × FieldRule :=
  (kept.field.name, { rule := kept.type.rule, required := true })

namespace SnapshotClass

variable {s : SnapshotClass} {rows : List KeptField}

/-- Whether the fields of a class have the types and the values of some rows: the annotations are
texts for the types, no field has a default, and the values are of the types. -/
structure Holds (s : SnapshotClass) (rows : List KeptField) : Prop where
  fields : s.fields = rows.map (·.field)
  quoted : ∀ field ∈ s.fields, isText field.type = true
  resolved : s.resolvedTypes.value s.surroundings.memory = .ok (rows.map (·.type.hint))
  plain : ∀ row ∈ rows, row.field.default = none ∧ row.field.factory = none
  given : ∀ row ∈ rows, row.field.inConstructor = true
  distinct : (rows.map (·.field.name)).Nodup
  admitted : ∀ row ∈ rows, row.type.Admits row.value
  /-- Nothing hides what snapshots are read by. -/
  methods : ∀ name ∈ ["decode", "_resolve_field_types", "schema"], s.checkMethod name = .ok ()
  configuration : s.checkConfiguration = .ok ()
  making : s.hidesMaking = false

namespace Holds

theorem map_fst_entries : (rows.map KeptField.entry).map (·.1) = rows.map (·.field.name) := by
  rw [List.map_map]
  rfl

/-- The fields with their types. -/
theorem zip_eq (holds : s.Holds rows) : s.fields.zip (rows.map (·.type.hint)) =
    rows.map fun row => (row.field, row.type.hint) := by
  rw [holds.fields, List.zip_map']

/-- What is found under the name of a field is its value. -/
theorem lookup_eq (holds : s.Holds rows) {row : KeptField} (member : row ∈ rows) :
    (rows.map KeptField.entry).lookup row.field.name = some row.value := by
  refine lookup_eq_some_of_mem ?_ (List.mem_map_of_mem member)
  rw [map_fst_entries]
  exact holds.distinct

/-- The rules of the fields are those of their types. -/
theorem rules_eq (holds : s.Holds rows) : s.rules = .ok (rows.map KeptField.rule) := by
  have types : s.ofEvaluation s.checkedTypes = .ok (rows.map (·.type.hint)) := by
    rw [ofEvaluation, checkedTypes_eq_of_texts holds.quoted holds.resolved, ofFault]
  have each : (rows.map fun row => (row.field, row.type.hint)).mapM
      (fun pair => do return (pair.1.name, ← s.ofFault (fieldRule? pair.1 pair.2))) =
      .ok (rows.map fun row => (row.field.name, some row.rule.2)) := by
    rw [List.mapM_map]
    refine mapM_eq_pure_of_forall fun row member => ?_
    obtain ⟨noDefault, noFactory⟩ := holds.plain row member
    show (s.ofFault (fieldRule? row.field row.type.hint) >>= _) = _
    rw [row.type.fieldRule?_hint noDefault noFactory]
    rfl
  have rule : (rows.map fun row => (row.field.name, some row.rule.2)).filterMap
      (fun named => named.2.map (named.1, ·)) = rows.map KeptField.rule := by
    rw [List.filterMap_map, ← List.filterMap_eq_map]
    rfl
  rw [rules, holds.methods _ (by simp), types, holds.methods _ (by simp), holds.configuration]
  refine bind_eq_of_eq_ok rfl (bind_eq_of_eq_ok rfl (bind_eq_of_eq_ok rfl (bind_eq_of_eq_ok rfl ?_)))
  rw [holds.zip_eq]
  exact bind_eq_of_eq_ok each (congrArg Except.ok rule)

/-- Values that pass their rules unchanged pass the check of all fields. -/
theorem checkFields_eq {entries : List (String × Value)}
    (each : ∀ row ∈ rows, entries.lookup row.field.name = some row.value ∧
      row.type.Admits row.value) :
    checkFields entries (rows.map KeptField.rule) = .ok (rows.map KeptField.entry, []) := by
  induction rows with
  | nil => rfl
  | cons row others inductionHypothesis =>
    obtain ⟨⟨found, admitted⟩, each⟩ := List.forall_mem_cons.mp each
    have own : checkField entries row.field.name { rule := row.type.rule, required := true } =
        .ok (some row.value) := by
      rw [checkField, found]
      show some <$> checkValue row.type.rule row.value = _
      rw [FieldType.checkValue_of_admits admitted]
      rfl
    rw [List.map_cons, List.map_cons, KeptField.rule, checkFields, own, inductionHypothesis each]
    rfl

/-- There is nothing to complain about. -/
theorem checked_eq (holds : s.Holds rows) :
    s.checked (rows.map KeptField.entry) = .ok (rows.map KeptField.entry) := by
  have checks := checkFields_eq fun row member => ⟨holds.lookup_eq member, holds.admitted row member⟩
  have unknown : unknownKeys (rows.map KeptField.rule) (rows.map KeptField.entry) = [] := by
    rw [unknownKeys, List.map_eq_nil_iff, List.filter_eq_nil_iff]
    intro entry member strange
    obtain ⟨row, inside, rfl⟩ := List.mem_map.mp member
    rw [Bool.not_eq_true', List.any_eq_false] at strange
    exact strange row.rule (List.mem_map_of_mem inside) (decide_eq_true rfl)
  rw [checked, holds.rules_eq]
  refine bind_eq_of_eq_ok rfl ?_
  rw [checks]
  refine bind_eq_of_eq_ok rfl ?_
  dsimp only
  rw [unknown]
  rfl

/-- The conversion leaves the values as they are. -/
theorem converted_eq (holds : s.Holds rows) :
    s.converted (rows.map KeptField.entry) = .ok (rows.map KeptField.entry) := by
  have types : s.ofEvaluation s.resolvedTypes = .ok (rows.map (·.type.hint)) := by
    rw [ofEvaluation, holds.resolved, ofFault]
  have all : (rows.map fun row => (row.field, row.type.hint)).filter (·.1.inConstructor) =
      rows.map fun row => (row.field, row.type.hint) := by
    refine List.filter_eq_self.mpr fun pair member => ?_
    obtain ⟨row, inside, rfl⟩ := List.mem_map.mp member
    exact holds.given row inside
  rw [converted, types]
  refine bind_eq_of_eq_ok rfl ?_
  dsimp only
  rw [holds.zip_eq, all, List.mapM_map]
  refine mapM_eq_pure_of_forall fun row member => ?_
  dsimp only [Function.comp]
  rw [holds.lookup_eq member, Option.some_or]
  show (s.ofEvaluation (convertField row.type.hint row.value) >>= _) = _
  rw [FieldType.convertField_of_admits (holds.admitted row member)]
  rfl

/-- What was written of the values of the fields is read as the snapshot that is made of them. -/
theorem decode_eq (holds : s.Holds rows) {text : String} {entries : List (String × Json)}
    (read : Json.read? text = some (.object entries))
    (same : entries.map (fun entry => (entry.1, Value.ofJson entry.2)) = rows.map KeptField.entry)
    {snapshot : Instance} (makes : Instance.make s.info [] (rows.map KeptField.entry) = .ok snapshot) :
    s.decode (.text text) = .ok (.snapshot snapshot) := by
  rw [decode, holds.methods _ (by simp)]
  refine bind_eq_of_eq_ok rfl ?_
  rw [Blob.read?, read]
  dsimp only
  rw [same]
  refine bind_eq_of_eq_ok holds.checked_eq ?_
  rw [holds.making, if_neg Bool.false_ne_true]
  refine bind_eq_of_eq_ok holds.converted_eq ?_
  rw [makes]
  rfl

end Holds

end SnapshotClass

end StateContainer
