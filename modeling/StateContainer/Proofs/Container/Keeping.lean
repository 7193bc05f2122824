/-
This file says which text a delegate is kept as when it is saved.

The text is an object whose keys are the names of the persisted properties, in order. The fields of a
class of snapshots take the names that their class gives to them, and an instance is made with the
names of the properties. A class never shortens a name, so that the names of all fields must be those
of the properties if an instance can be made at all.

A definition may take the place of the class of all snapshots. Nothing writes its instances then.
-/

import Mathlib.Algebra.Order.BigOperators.Group.List
import Mathlib.Algebra.Order.Group.Nat
import StateContainer.Proofs.Class.Naming
import StateContainer.Proofs.Container.Effect
import StateContainer.Proofs.Container.Saving

namespace StateContainer

open StateContainer.Class

/-! ### Names inside of classes -/

/-- A class leaves a name as it is or makes it longer. -/
theorem Code.insideName_eq_or_lt (className name : String) :
    insideName className name = name ∨ name.length < (insideName className name).length := by
  rw [insideName]
  split
  · refine Or.inr ?_
    rw [String.length_append, String.length_append]
    have one : ("_" : String).length = 1 := rfl
    omega
  · exact Or.inl rfl

/-- Names that are all among those which they may be changed to, and are never shortened, are not
changed. -/
theorem eq_of_sublist_map {names fields : List String} {change : String → String}
    (changes : ∀ name, change name = name ∨ name.length < (change name).length)
    (distinct : names.Nodup) (sublist : fields.Sublist (names.map change))
    (within : ∀ name ∈ names, name ∈ fields) : fields = names := by
  have subperm : names.Subperm fields := List.subperm_of_subset distinct within
  have all : fields = names.map change :=
    sublist.eq_of_length_le (by rw [List.length_map]; exact subperm.length_le)
  rw [all] at subperm ⊢
  have perm : names.Perm (names.map change) := subperm.perm_of_length_le (List.length_map _).le
  have lengths := (perm.map String.length).sum_eq
  rw [List.map_map] at lengths
  refine (List.map_congr_left fun name member => ?_).trans (List.map_id names)
  refine (changes name).resolve_right fun longer => lengths.not_lt ?_
  refine List.sum_lt_sum _ _ (fun other _ => ?_) ⟨name, member, longer⟩
  rcases changes other with same | longer
  · exact (congrArg String.length same).ge
  · exact longer.le

/-! ### Instances of generated classes -/

section
variable {c base : ClassInfo} {names : List String} {named : List (String × Value)}
  {snapshot : Instance}

/-- A generated class is a record class of its own fields. -/
theorem Class.IsGeneratedFrom.exists_record (generated : IsGeneratedFrom c base names) :
    ∃ record, c.record? = some record ∧ c.MadeFromFields record ∧
      ((∀ ancestor ∈ base.lineage, ancestor.record? = none) →
        (record.fields.map (·.name)).Sublist names) := by
  obtain ⟨record, own, fromFields, sublist⟩ := generated.record
  refine ⟨record, ?_, fromFields, fun plain => sublist fun ancestor member =>
    plain ancestor (generated.ancestors ancestor member)⟩
  rw [ClassInfo.record?, ClassInfo.lineage, List.findSome?_cons, own]

/-- If an instance of a generated class is made with some names, which the class may change, its fields
have these names. -/
theorem Class.IsGeneratedFrom.keys_of_entries {change : String → String}
    (generated : IsGeneratedFrom c base ((named.map (·.1)).map change))
    (changes : ∀ name, change name = name ∨ name.length < (change name).length)
    (plain : ∀ ancestor ∈ base.lineage, ancestor.record? = none)
    (makes : Instance.make c [] named = .ok snapshot) {entries : List (String × Value)}
    (reads : snapshot.entries = .ok entries) : entries.map (·.1) = named.map (·.1) := by
  obtain ⟨record, isRecord, fromFields, sublist⟩ := generated.exists_record
  obtain ⟨kind, make⟩ := fromFields.make_eq
  have binds := makes
  rw [make] at binds
  obtain ⟨bound, binds, -⟩ := exists_of_bind_eq_ok binds
  obtain ⟨-, distinct, known, -⟩ := bind_constructorOf_eq_ok (mapError_eq_ok_iff.mp binds)
  have fields : record.fields.map (·.name) = named.map (·.1) := by
    refine eq_of_sublist_map changes distinct (sublist plain) fun name member => ?_
    obtain ⟨argument, inside, rfl⟩ := List.mem_map.mp member
    obtain ⟨field, own, same, -⟩ := known argument inside
    exact same ▸ List.mem_map_of_mem own
  rw [Instance.entries, Instance.fields, fromFields.ofClass_of_make makes, isRecord] at reads
  have kept : EndsAs (fun entries => entries.map (·.1) = record.fields.map (·.name)) (fun _ => True)
      (record.fields.mapM fun field => do return (field.name, ← snapshot.get field.name)) := by
    refine endsAs_mapM_map Prod.fst Field.name fun field _ => ?_
    cases snapshot.get field.name with
    | error _ => trivial
    | ok value => rfl
  exact (kept.of_ok reads).trans fields

/-- An instance of a generated class has a method only if one of the ancestors has it. -/
theorem Class.IsGeneratedFrom.exists_method (generated : IsGeneratedFrom c base names)
    {name path : String} {ofClass : Bool} (found : c.attribute? name = some (.method path ofClass)) :
    ∃ ancestor ∈ base.lineage, ancestor.attributes.get? name = some (.method path ofClass) := by
  obtain ⟨ancestor, member, own⟩ := List.exists_of_findSome?_eq_some found
  rcases List.mem_cons.mp member with rfl | inherited
  · exact absurd rfl (generated.hasNoMethod _ (OrderedMap.mem_of_get?_eq_some own) path ofClass)
  · exact ⟨ancestor, generated.ancestors ancestor inherited, own⟩

end

/-! ### Texts -/

namespace Snapshot

variable {snapshot : Instance} {text : String}

/-- What values are written as is an object with their names as keys. -/
theorem exists_object_of_encode {fields : List (String × Value)} (writes : encode fields = .ok text) :
    ∃ entries, text = (Json.object entries).write ∧ entries.map (·.1) = fields.map (·.1) := by
  rw [encode] at writes
  split at writes
  · cases writes
  · obtain ⟨entries, trees, writes⟩ := exists_of_bind_eq_ok writes
    cases writes
    refine ⟨entries, rfl, ?_⟩
    refine map_eq_of_mapM_eq_ok Prod.fst Prod.fst (fun field _ => ?_) trees
    obtain ⟨name, value⟩ := field
    dsimp only
    cases storedTree value with
    | error _ => trivial
    | ok tree => rfl

/-- Nothing hides a method of a snapshot that can be called, and its class has it. -/
theorem exists_method_of_checkMethod {name : String} (checks : checkMethod snapshot name = .ok ()) :
    ∃ path ofClass, snapshot.ofClass.attribute? name = some (.method path ofClass) := by
  rw [checkMethod] at checks
  split at checks
  · cases checks
  · cases checks
  · split at checks
    · cases checks
    · next found => exact ⟨_, _, found⟩
    · cases checks

/-- A snapshot is written by a method of its class, as its fields. -/
theorem exists_entries_of_encodeInstance (writes : encodeInstance snapshot = .ok text) :
    (∃ path ofClass, snapshot.ofClass.attribute? "encode" = some (.method path ofClass)) ∧
      ∃ entries, snapshot.entries = .ok entries ∧ encode entries = .ok text := by
  rw [encodeInstance] at writes
  obtain ⟨_, methods, writes⟩ := exists_of_bind_eq_ok writes
  obtain ⟨_, -, writes⟩ := exists_of_bind_eq_ok writes
  obtain ⟨entries, reads, writes⟩ := exists_of_bind_eq_ok writes
  obtain ⟨_, first, -⟩ := exists_of_bind_eq_ok methods
  exact ⟨exists_method_of_checkMethod first, entries, mapError_eq_ok_iff.mp reads, writes⟩

end Snapshot

/-! ### Saving -/

namespace Container

variable {m : ClassModule} {definition : ClassInfo} {schema : Schema} {c : Container}

/-- Whether no class that takes the place of the class of all snapshots has a method to write them
with. Classes that are declared have no methods at all. -/
def LeavesWriting (c : Container) : Prop :=
  ∀ found, c.standIns.get? "Snapshot" = some found →
    ∀ ancestor ∈ found.lineage, ∀ path ofClass,
      ancestor.attributes.get? "encode" ≠ some (.method path ofClass)

/-- How saving the persisted fields to a store ends: with a text that is kept under a key. -/
def keptText (c : Container) (values : List (String × Value)) : Except Failure (String × String) :=
  match c.snapshotClass, c.artifacts.snapshotKey with
  | some snapshotClass, some key => do
    let snapshot ← (Instance.make snapshotClass.info [] values).mapError .state
    let text ← (Snapshot.encodeInstance snapshot).mapError .encoding
    return (key, text)
  | _, _ => .error (.missing c.artifacts.delegate.name ContainerSession.saveMember)

/-- Saving to a store keeps a text there under a key. -/
theorem saving_eq_map_keptText (number : Nat) (values : List (String × Value)) :
    c.saving (some number) values = (c.keptText values).map fun (key, text) stores =>
      stores.modify number (·.save key (.text text)) := by
  rw [saving, keptText]
  cases c.snapshotClass with
  | none => rfl
  | some snapshotClass =>
    cases c.artifacts.snapshotKey with
    | none => rfl
    | some key =>
      dsimp only
      cases (Instance.make snapshotClass.info [] values).mapError Failure.state with
      | error _ => rfl
      | ok snapshot =>
        show ((Snapshot.encodeInstance snapshot).mapError Failure.encoding).bind _ =
          Except.map _ (((Snapshot.encodeInstance snapshot).mapError Failure.encoding).bind _)
        cases (Snapshot.encodeInstance snapshot).mapError Failure.encoding <;> rfl

/-- What is kept of a definition stands under the key of the definition. It is an object, and its keys
are the names of the persisted properties, in order. -/
theorem exists_object_of_keptText (loaded : load m definition schema.synthesize = .ok c)
    (leaves : c.LeavesWriting) {values : List (String × Value)} {key text : String}
    (names : values.map (·.1) = schema.persisted.map (·.name))
    (keeps : c.keptText values = .ok (key, text)) :
    key = snapshotKey schema.name ∧ ∃ entries, text = (Json.object entries).write ∧
      entries.map (·.1) = schema.persisted.map (·.name) := by
  obtain ⟨artifacts, -, generated, declared, surroundings, snapshot, declares, snapshotClass⟩ :=
    load_eq_ok loaded
  rw [keptText, snapshotClass, artifacts] at keeps
  cases persisted : schema.hasPersisted with
  | false =>
    have noKey : schema.synthesize.snapshotKey = none := if_neg (by rw [persisted]; exact nofun)
    rw [noKey] at keeps
    cases snapshot <;> cases keeps
  | true =>
  have isKey : schema.synthesize.snapshotKey = some (snapshotKey schema.name) := if_pos persisted
  have isType : schema.synthesize.snapshot =
      some ⟨schema.name ++ "Snapshot", .snapshot, schema.persisted.map (·.field)⟩ :=
    if_pos persisted
  rw [isType] at declares
  obtain ⟨info, rfl, isGenerated⟩ := exists_isGeneratedFrom declares
  rw [isKey] at keeps
  obtain ⟨snapshot, makes, keeps⟩ := exists_of_bind_eq_ok keeps
  obtain ⟨written, writes, keeps⟩ := exists_of_bind_eq_ok keeps
  cases keeps
  have makes := mapError_eq_ok_iff.mp makes
  obtain ⟨⟨path, ofClass, found⟩, entries, reads, writes⟩ :=
    Snapshot.exists_entries_of_encodeInstance (mapError_eq_ok_iff.mp writes)
  obtain ⟨record, -, fromFields, -⟩ := isGenerated.exists_record
  rw [fromFields.ofClass_of_make makes] at found
  obtain ⟨ancestor, member, own⟩ := isGenerated.exists_method found
  -- What stands in for the class of all snapshots would bring no method to write them.
  have usual : c.standIns.get? "Snapshot" = none := by
    rw [Option.eq_none_iff_forall_ne_some]
    intro found standsIn
    rw [standsIn] at member
    exact leaves found standsIn ancestor member path ofClass own
  obtain ⟨trees, rfl, keys⟩ := Snapshot.exists_object_of_encode writes
  refine ⟨rfl, trees, rfl, keys.trans (Eq.trans ?_ names)⟩
  have annotations : (GeneratedType.annotations ⟨schema.name ++ "Snapshot", .snapshot,
      schema.persisted.map (·.field)⟩).map (·.1) =
        (values.map (·.1)).map (Code.insideName (schema.name ++ "Snapshot")) := by
    rw [names, GeneratedType.annotations, List.map_map, List.map_map, List.map_map]
    rfl
  rw [usual, annotations] at isGenerated
  refine isGenerated.keys_of_entries (Code.insideName_eq_or_lt _) (fun ancestor member => ?_) makes reads
  rcases List.mem_pair.mp member with rfl | rfl <;> rfl

/-- Where the persisted properties are of plain types and have names of their own, whatever can be
written is kept. -/
theorem IsOf.keptText_eq {s : SnapshotClass} {types : List Hint}
    (known : c.IsOf m definition schema s types) {values : List (String × Value)}
    (names : values.map (·.1) = schema.persisted.map (·.name)) :
    c.keptText values =
      ((Snapshot.encode values).mapError .encoding).map (snapshotKey schema.name, ·) := by
  obtain ⟨record, isRecord, -, properties, -⟩ := known.exists_madeFromFields
  obtain ⟨annotations, isSnapshot, names', length, -⟩ := known.exists_isSnapshotOf
  obtain ⟨own, fromFields, isOwn, fields, annotated⟩ := exists_record_of_isSnapshotOf isSnapshot
    (names' ▸ known.nodup_persisted) known.resolved (known.each.trans length.symm)
  have fieldNames : own.fields.map (·.name) = schema.persisted.map (·.name) := by
    rw [← fields, annotated.map_name, names']
  have each {field : Field} (member : field ∈ own.fields) :
      ∃ p ∈ schema.persisted, p.name = field.name := by
    rw [← List.mem_map, ← fieldNames]
    exact List.mem_map_of_mem member
  obtain ⟨snapshot, makes⟩ := exists_make_of_isSnapshotOf isSnapshot fromFields isOwn
    (fun field member => by
      obtain ⟨p, inside, same⟩ := each member
      have isField : p.name ∈ record.fields.map (·.name) := by
        rw [← properties]
        exact List.mem_map_of_mem (List.mem_of_mem_filter inside)
      obtain ⟨other, there, named⟩ := List.mem_map.mp isField
      exact (named.trans same) ▸ known.leaves record isRecord other there)
    (names.trans fieldNames.symm) fun field member => by
      obtain ⟨_, -, _, rfl⟩ := annotated.exists_of_mem (fields ▸ member)
      rfl
  have writes := encodeInstance_eq isSnapshot fromFields isOwn (names.trans fieldNames.symm)
    (fun field member => by
      obtain ⟨p, inside, same⟩ := each member
      exact same ▸ (known.kept.free p inside).1) makes
  have isKey : c.artifacts.snapshotKey = some (snapshotKey schema.name) := by
    rw [known.artifacts_eq]
    exact if_pos known.kept.some
  rw [keptText, known.snapshotClass, isKey]
  refine bind_eq_of_eq_ok (mapError_eq_ok_iff.mpr makes) ?_
  rw [writes]
  cases Snapshot.encode values <;> rfl

end Container

end StateContainer
