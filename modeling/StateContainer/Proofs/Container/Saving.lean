/-
This file proves that a delegate can be restored from what another one has saved.

What a delegate saves is a text under the key of the container. If the persisted fields hold values of
their types, the text is read as the very snapshot that was written. So a delegate that is built
from the store afterwards begins with the persisted fields of the first one, and with everything else
as if there had been no store: the fields of the input with its values, and all others with their
defaults.
-/

import StateContainer.Proofs.Container.Loading
import StateContainer.Proofs.Container.Refinement
import StateContainer.Proofs.Snapshot.RoundTrip

namespace StateContainer

open StateContainer.Class Snapshot

/-! ### Snapshots -/

section
variable {s : SnapshotClass} {annotations : List (String × Hint)} {record : RecordInfo}
  {named : List (String × Value)} {snapshot : Instance}

/-- Nothing hides the methods of a class of snapshots. -/
theorem SnapshotClass.checkMethod_of_isSnapshotOf (known : s.info.IsSnapshotOf annotations) :
    ∀ name ∈ ["decode", "_resolve_field_types", "schema"], s.checkMethod name = .ok () := by
  intro name member
  rw [SnapshotClass.checkMethod, hidden?, Container.attribute?_of_isSnapshotOf known]
  simp only [List.mem_cons, List.not_mem_nil, or_false] at member
  rcases member with rfl | rfl | rfl <;> rfl

theorem SnapshotClass.checkConfiguration_of_isSnapshotOf (known : s.info.IsSnapshotOf annotations) :
    s.checkConfiguration = .ok () := by
  rw [SnapshotClass.checkConfiguration, hidden?, Container.attribute?_of_isSnapshotOf known]
  rfl

/-- Every field of a snapshot can be set. -/
theorem exists_set_of_isSnapshotOf (known : s.info.IsSnapshotOf annotations) {i : Instance}
    (ofClass : i.ofClass = s.info) (name : String) (value : Value) :
    ∃ j, i.set name value = .ok j := by
  obtain ⟨record, _, own, changeable, -⟩ := known.record
  have lineage : i.ofClass.lineage = [s.info, baseClass, treeClass] := by
    rw [ofClass, ClassInfo.lineage, known.ancestors]
  have free : i.refusal? name = none := by
    simp only [Instance.refusal?, lineage, List.findSome?_cons, own, changeable]
    rfl
  have unslotted : i.ofClass.isSlotted = false := by
    rw [ClassInfo.isSlotted, lineage, List.all_cons, List.all_cons]
    exact Bool.and_false _
  refine ⟨{ i with values := i.values.insert name value }, ?_⟩
  rw [Instance.set, free, unslotted]
  rfl

/-- A snapshot can be made of values for all fields. -/
theorem exists_make_of_isSnapshotOf (known : s.info.IsSnapshotOf annotations)
    (fromFields : s.info.MadeFromFields record) (isRecord : s.info.record? = some record)
    (leaves : LeavesReceiver record.fields) (names : named.map (·.1) = record.fields.map (·.name))
    (taken : ∀ field ∈ record.fields, field.inConstructor = true) :
    ∃ snapshot, Instance.make s.info [] named = .ok snapshot := by
  obtain ⟨kind, make⟩ := fromFields.make_eq
  have changeable : record.frozen = false := by
    obtain ⟨own, _, ownRecord, changeable, -⟩ := known.record
    rw [ClassInfo.record?, ClassInfo.lineage, List.findSome?_cons, ownRecord] at isRecord
    cases isRecord
    exact changeable
  have binds : (constructorOf kind record.fields).bind [] named = .ok named := by
    refine bind_constructorOf_of_whole leaves (names ▸ fromFields.distinct) (fun entry member => ?_)
      fun field member _ _ => names ▸ List.mem_map_of_mem member
    have inside : entry.1 ∈ named.map (·.1) := List.mem_map_of_mem member
    rw [names] at inside
    obtain ⟨field, there, same⟩ := List.mem_map.mp inside
    exact ⟨field, there, same, taken field there⟩
  have sets : ∀ i : Instance, i.ofClass = s.info → ∀ name value,
      ∃ j, i.start record.frozen name value = .ok j := by
    intro i own name value
    rw [Instance.start, changeable]
    exact exists_set_of_isSnapshotOf known own name value
  obtain ⟨made, done⟩ := Instance.exists_ofFields sets named
  refine ⟨made, ?_⟩
  rw [make, binds]
  exact done

/-- The entries of a snapshot are the values that it was made of. -/
theorem entries_eq_of_make (fromFields : s.info.MadeFromFields record)
    (isRecord : s.info.record? = some record) (names : named.map (·.1) = record.fields.map (·.name))
    (makes : Instance.make s.info [] named = .ok snapshot) : snapshot.entries = .ok named := by
  have fields : snapshot.fields = .ok record.fields := by
    rw [Instance.fields, fromFields.ofClass_of_make makes, isRecord]
  have each : (record.fields.map (·.name)).mapM (fun name => do return (name, ← snapshot.get name)) =
      .ok named := by
    rw [← names, List.mapM_map]
    refine mapM_eq_pure_of_fixed fun entry member => ?_
    show (snapshot.get entry.1 >>= _) = _
    rw [fromFields.get_of_make makes member]
    rfl
  rw [List.mapM_map] at each
  rw [Instance.entries, fields]
  exact each

/-- A snapshot is written by its values if no field has a name that all snapshots have something
under. -/
theorem encodeInstance_eq (known : s.info.IsSnapshotOf annotations)
    (fromFields : s.info.MadeFromFields record) (isRecord : s.info.record? = some record)
    (names : named.map (·.1) = record.fields.map (·.name))
    (free : ∀ field ∈ record.fields, baseClass.attribute? field.name = none)
    (makes : Instance.make s.info [] named = .ok snapshot) :
    encodeInstance snapshot = encode named := by
  have ofClass := fromFields.ofClass_of_make makes
  have unset {name : String} (taken : (baseClass.attribute? name).isSome = true) :
      snapshot.values.get? name = none := by
    refine (fromFields.get?_of_make makes).1 name fun inside => ?_
    obtain ⟨field, member, rfl⟩ := List.mem_map.mp inside
    rw [free field member] at taken
    cases taken
  have method : ∀ name ∈ ["encode", "to_json", "to_dict"], checkMethod snapshot name = .ok () := by
    intro name member
    simp only [List.mem_cons, List.not_mem_nil, or_false] at member
    rcases member with rfl | rfl | rfl <;>
    · rw [checkMethod, unset (by decide), ofClass, hidden?, Container.attribute?_of_isSnapshotOf known]
      rfl
  have configuration : checkConfiguration snapshot = .ok () := by
    rw [checkConfiguration, Instance.get, unset (by decide), ofClass,
      Container.attribute?_of_isSnapshotOf known]
    rfl
  have methods : ["encode", "to_json", "to_dict"].forM (checkMethod snapshot) = .ok () := by
    show (checkMethod snapshot _ >>= fun _ => checkMethod snapshot _ >>= fun _ =>
      checkMethod snapshot _ >>= fun _ => pure ()) = _
    rw [method _ (by simp), method _ (by simp), method _ (by simp)]
    rfl
  rw [encodeInstance, methods, configuration, entries_eq_of_make fromFields isRecord names makes]
  rfl

end

/-! ### Declared classes of snapshots -/

/-- Whether a class of snapshots has fields of declared types, whose annotations are texts for these
types, and whose names are not taken. -/
structure SnapshotClass.IsDeclaredBy (s : SnapshotClass) (annotations : List (String × Hint))
    (declared : List FieldType) : Prop where
  isSnapshot : s.info.IsSnapshotOf annotations
  distinct : (annotations.map (·.1)).Nodup
  texts : ∀ entry ∈ annotations, isText entry.2 = true
  resolved : s.resolvedTypes.value s.surroundings.memory = .ok (declared.map (·.hint))
  length : declared.length = annotations.length
  making : s.hidesMaking = false
  free : ∀ entry ∈ annotations, baseClass.attribute? entry.1 = none
  leaves : ∀ entry ∈ annotations, entry.1 ≠ "__dataclass_self__"
  apart : ∀ entry ∈ annotations, Json.HalvesApart entry.1.toList

namespace SnapshotClass

variable {s : SnapshotClass} {annotations : List (String × Hint)} {declared : List FieldType}

/-- The fields with their types and with some values. -/
def rowsOf (s : SnapshotClass) (declared : List FieldType) (value : String → Value) : List KeptField :=
  (s.fields.zip declared).map fun pair => ⟨pair.1, pair.2, value pair.1.name⟩

/-- The values by the names of the fields. -/
def valuesBy (s : SnapshotClass) (value : String → Value) : List (String × Value) :=
  s.fields.map fun field => (field.name, value field.name)

theorem IsDeclaredBy.map_entry_rowsOf (known : s.IsDeclaredBy annotations declared)
    (annotated : AreAnnotated annotations s.fields) (value : String → Value) :
    (s.rowsOf declared value).map KeptField.entry = s.valuesBy value := by
  have length : s.fields.length ≤ declared.length :=
    (annotated.length_eq.symm.trans known.length.symm).le
  have fields : (s.fields.zip declared).map Prod.fst = s.fields := List.map_fst_zip length
  have values : s.valuesBy value =
      ((s.fields.zip declared).map Prod.fst).map fun field => (field.name, value field.name) := by
    rw [fields, valuesBy]
  rw [values, rowsOf, List.map_map, List.map_map]
  rfl

/-- Values of the declared types are held by the fields. -/
theorem IsDeclaredBy.holds (known : s.IsDeclaredBy annotations declared)
    (annotated : AreAnnotated annotations s.fields) {value : String → Value}
    (admitted : ∀ pair ∈ (s.fields.map (·.name)).zip declared, pair.2.Admits (value pair.1)) :
    s.Holds (s.rowsOf declared value) := by
  have length : s.fields.length = declared.length :=
    annotated.length_eq.symm.trans known.length.symm
  have fields : (s.rowsOf declared value).map (·.field) = s.fields := by
    rw [rowsOf, List.map_map]
    exact List.map_fst_zip length.le
  have types : (s.rowsOf declared value).map (·.type) = declared := by
    rw [rowsOf, List.map_map]
    exact List.map_snd_zip length.ge
  have plain {row : KeptField} (member : row ∈ s.rowsOf declared value) :
      ∃ entry ∈ annotations, ∃ ofClass,
        row.field = { name := entry.1, type := entry.2, ofClass } := by
    refine annotated.exists_of_mem ?_
    rw [← fields]
    exact List.mem_map_of_mem member
  exact {
    fields := fields.symm
    quoted := fun field member => by
      obtain ⟨entry, inside, _, rfl⟩ := annotated.exists_of_mem member
      exact known.texts entry inside
    resolved := by
      have hints : (s.rowsOf declared value).map (·.type.hint) = declared.map (·.hint) := by
        rw [← congrArg (List.map FieldType.hint) types, List.map_map]
        rfl
      rw [known.resolved, hints]
    plain := fun row member => by
      obtain ⟨_, -, _, same⟩ := plain member
      rw [same]
      exact ⟨rfl, rfl⟩
    given := fun row member => by
      obtain ⟨_, -, _, same⟩ := plain member
      rw [same]
    distinct := by
      have names : (s.rowsOf declared value).map (·.field.name) = annotations.map (·.1) := by
        rw [← annotated.map_name, ← fields, List.map_map]
        rfl
      rw [names]
      exact known.distinct
    admitted := fun row member => by
      obtain ⟨pair, inside, rfl⟩ := List.mem_map.mp member
      refine admitted (pair.1.name, pair.2) ?_
      rw [List.zip_map_left]
      exact List.mem_map_of_mem inside
    methods := checkMethod_of_isSnapshotOf known.isSnapshot
    configuration := checkConfiguration_of_isSnapshotOf known.isSnapshot
    making := known.making }

/-- Values of the declared types are written as a text that is read as the snapshot of them. -/
theorem IsDeclaredBy.exists_decode (known : s.IsDeclaredBy annotations declared)
    {value : String → Value}
    (fits : ∀ pair ∈ (annotations.map (·.1)).zip declared,
      pair.2.Admits (value pair.1) ∧ (value pair.1).IsStorable) :
    ∃ snapshot text, Instance.make s.info [] (s.valuesBy value) = .ok snapshot ∧
      encodeInstance snapshot = .ok text ∧ s.decode (.text text) = .ok (.snapshot snapshot) := by
  obtain ⟨record, fromFields, isRecord, fields, annotated⟩ :=
    Container.exists_record_of_isSnapshotOf known.isSnapshot known.distinct known.resolved
      ((List.length_map _).trans known.length)
  have names : (s.valuesBy value).map (·.1) = s.fields.map (·.name) := by
    rw [valuesBy, List.map_map]
    rfl
  have each {field : Field} (member : field ∈ s.fields) :
      ∃ entry ∈ annotations, entry.1 = field.name ∧ field.inConstructor = true := by
    obtain ⟨entry, inside, _, rfl⟩ := annotated.exists_of_mem member
    exact ⟨entry, inside, rfl, rfl⟩
  rw [← annotated.map_name] at fits
  obtain ⟨snapshot, makes⟩ := exists_make_of_isSnapshotOf known.isSnapshot fromFields isRecord
    (fun field member => by
      obtain ⟨entry, inside, same, -⟩ := each (fields ▸ member)
      exact same ▸ known.leaves entry inside)
    (fields ▸ names) fun field member => by
      obtain ⟨_, -, -, taken⟩ := each (fields ▸ member)
      exact taken
  have writes := encodeInstance_eq known.isSnapshot fromFields isRecord (fields ▸ names)
    (fun field member => by
      obtain ⟨entry, inside, same, -⟩ := each (fields ▸ member)
      exact same ▸ known.free entry inside) makes
  have holds := known.holds annotated fun pair member => (fits pair member).1
  have rows := known.map_entry_rowsOf annotated value
  have distinct : ((s.valuesBy value).map (·.1)).Nodup := by
    rw [names, annotated.map_name]
    exact known.distinct
  obtain ⟨text, entries, written, read, same⟩ := exists_encode distinct
    (fun entry member => by
      obtain ⟨field, there, rfl⟩ := List.mem_map.mp member
      obtain ⟨own, inside, same, -⟩ := each there
      exact same ▸ known.apart own inside)
    (fun entry member => by
      rw [← rows] at member
      obtain ⟨row, inside, rfl⟩ := List.mem_map.mp member
      obtain ⟨pair, there, rfl⟩ := List.mem_map.mp inside
      have paired : (pair.1.name, pair.2) ∈ (s.fields.map (·.name)).zip declared := by
        rw [List.zip_map_left]
        exact List.mem_map_of_mem there
      exact FieldType.exists_isWrittenAs (fits _ paired).1 (fits _ paired).2)
  refine ⟨snapshot, text, makes, writes.trans written, ?_⟩
  exact holds.decode_eq read (same.trans rows.symm) (rows ▸ makes)

end SnapshotClass

/-! ### Stores -/

namespace ContainerSession

variable {session : ContainerSession} {name store key text : String} {delegate number : Nat}
  {s : SnapshotClass} {snapshot : Instance}

/-- The session in which a text has been kept under a key of a store. -/
def keeping (session : ContainerSession) (number : Nat) (key text : String) : ContainerSession :=
  { session with stores := session.stores.modify number (·.save key (.text text)) }

theorem load_keeping (there : number < session.stores.length) :
    ((session.keeping number key text).storeAt number).load key = some (.text text) := by
  have kept : (session.keeping number key text).storeAt number =
      (session.storeAt number).save key (.text text) := by
    rw [storeAt, storeAt, keeping, List.getD_eq_getElem?_getD, List.getD_eq_getElem?_getD,
      List.getElem?_modify, List.getElem?_eq_getElem there]
    simp
  rw [kept, SnapshotStore.load, SnapshotStore.save, OrderedMap.get?_insert_self]
  rfl

/-- A delegate is saved to a store as the text of a snapshot of what it holds for the persisted
fields. -/
theorem run_save (delegates : session.holdings.get? name = some (.delegate delegate))
    (stores : session.holdings.get? store = some (.store number))
    (snapshotClass : session.container.snapshotClass = some s)
    (snapshotKey : session.container.artifacts.snapshotKey = some key)
    (makes : Instance.make s.info []
      (session.valuesOf delegate session.container.artifacts.plan.restoredFields) = .ok snapshot)
    (writes : encodeInstance snapshot = .ok text) :
    session.run (save name (some store)) = (.ok (), session.keeping number key text) := by
  have can : canSave session.container = true := by
    rw [canSave, snapshotClass, snapshotKey]
    rfl
  have saves : saveDelegate delegate (some (.store number)) session =
      .ok ((), session.keeping number key text) := by
    rw [saveDelegate, get_bind, snapshotClass, snapshotKey]
    simp only [bind_eq_ok_iff, lift_eq_ok_iff]
    exact ⟨_, _, ⟨mapError_eq_ok_iff.mpr makes, rfl⟩, _, _, ⟨mapError_eq_ok_iff.mpr writes, rfl⟩, rfl⟩
  rw [run_eq_ok_iff, save, bind_eq_ok_iff]
  refine ⟨_, _, named_eq delegates, ?_⟩
  dsimp only
  rw [get_bind, can, if_pos rfl, bind_eq_ok_iff]
  refine ⟨_, _, ?_, saves⟩
  rw [Option.mapM_some, map_eq_pure_bind, bind_eq_ok_iff]
  exact ⟨_, _, named_eq stores, rfl⟩

end ContainerSession

/-! ### Delegates -/

section
variable {session : ContainerSession} {name store : String} {delegate number : Nat} {m : ClassModule}
  {definition : ClassInfo} {schema : Schema} {s : SnapshotClass} {declared : List FieldType}

/-- The class of snapshots of a definition has a field for each persisted property. -/
theorem Container.IsOf.exists_isDeclaredBy {c : Container}
    (known : c.IsOf m definition schema s (declared.map (·.hint)))
    (apart : ∀ p ∈ schema.persisted, Json.HalvesApart p.name.toList) :
    ∃ annotations, annotations.map (·.1) = schema.persisted.map (·.name) ∧
      s.IsDeclaredBy annotations declared := by
  obtain ⟨record, isRecord, -, properties, -⟩ := known.exists_madeFromFields
  obtain ⟨annotations, isSnapshot, names, length, texts⟩ := known.exists_isSnapshotOf
  have each {entry : String × Hint} (member : entry ∈ annotations) :
      ∃ p ∈ schema.persisted, p.name = entry.1 := by
    rw [← List.mem_map, ← names]
    exact List.mem_map_of_mem member
  refine ⟨annotations, names, {
    isSnapshot
    distinct := names ▸ known.nodup_persisted
    texts
    resolved := known.resolved
    length := ?_
    making := known.making
    free := fun entry member => ?_
    leaves := fun entry member => ?_
    apart := fun entry member => ?_ }⟩
  · rw [length, ← known.each, List.length_map]
  · obtain ⟨p, inside, same⟩ := each member
    exact same ▸ (known.kept.free p inside).1
  · obtain ⟨p, inside, same⟩ := each member
    have isField : p.name ∈ record.fields.map (·.name) := by
      rw [← properties]
      exact List.mem_map_of_mem (List.mem_of_mem_filter inside)
    obtain ⟨field, there, named⟩ := List.mem_map.mp isField
    exact (named.trans same) ▸ known.leaves record isRecord field there
  · obtain ⟨p, inside, same⟩ := each member
    exact same ▸ apart p inside

/-- If what a delegate holds for the persisted properties is of the declared types, it can be saved,
and the text that is kept is read as a snapshot with these very values. -/
theorem exists_save (known : session.container.IsOf m definition schema s (declared.map (·.hint)))
    (apart : ∀ p ∈ schema.persisted, Json.HalvesApart p.name.toList)
    (delegates : session.holdings.get? name = some (.delegate delegate))
    (stores : session.holdings.get? store = some (.store number))
    (fits : ∀ pair ∈ schema.persisted.zip declared,
      pair.2.Admits (session.held delegate pair.1.name) ∧
        (session.held delegate pair.1.name).IsStorable) :
    ∃ snapshot text,
      session.run (ContainerSession.save name (some store)) =
        (.ok (), session.keeping number (snapshotKey schema.name) text) ∧
      s.decode (.text text) = .ok (.snapshot snapshot) ∧
      ∀ p ∈ schema.persisted, snapshot.get p.name = .ok (session.held delegate p.name) := by
  obtain ⟨_, _, keeps⟩ := known.keepsFields
  obtain ⟨annotations, names, isDeclared⟩ := known.exists_isDeclaredBy apart
  obtain ⟨record, fromFields, -, -, annotated⟩ :=
    Container.exists_record_of_isSnapshotOf isDeclared.isSnapshot isDeclared.distinct
      isDeclared.resolved ((List.length_map _).trans isDeclared.length)
  have each : ∀ pair ∈ (annotations.map (·.1)).zip declared,
      pair.2.Admits (session.held delegate pair.1) ∧
        (session.held delegate pair.1).IsStorable := by
    intro pair member
    rw [names, List.zip_map_left] at member
    obtain ⟨own, inside, rfl⟩ := List.mem_map.mp member
    exact fits own inside
  obtain ⟨snapshot, text, makes, writes, decodes⟩ := isDeclared.exists_decode each
  have values : s.valuesBy (session.held delegate) =
      session.valuesOf delegate session.container.artifacts.plan.restoredFields := by
    have fields : session.container.artifacts.plan.restoredFields = s.fields.map (·.name) := by
      rw [annotated.map_name, names, known.artifacts_eq, Schema.synthesize, Schema.plan]
    rw [ContainerSession.valuesOf_eq, fields, List.map_map]
    rfl
  refine ⟨snapshot, text, ?_, decodes, fun p member => ?_⟩
  · exact ContainerSession.run_save delegates stores keeps.snapshotClass keeps.snapshotKey
      (values ▸ makes) writes
  · have isField : p.name ∈ s.fields.map (·.name) := by
      rw [annotated.map_name, names]
      exact List.mem_map_of_mem member
    obtain ⟨field, there, same⟩ := List.mem_map.mp isField
    rw [← same]
    exact fromFields.get_of_make makes (List.mem_map.mpr ⟨field, there, rfl⟩)

end

end StateContainer
