/-
This file says which class a generated class of snapshots is.

Its fields are the members of the generated type, with their annotations as texts and without
defaults, as long as no ancestor has anything under their names. It is made a record class
with a constructor for these fields, and adds nothing else to its ancestors.
-/

import StateContainer.Container
import StateContainer.Proofs.Class.Building

namespace StateContainer

namespace Class

/-! ### Record classes -/

variable {surroundings : Surroundings} {c : ClassInfo}

/-- Whether neither a class nor any of its ancestors has anything under a name. -/
def IsFree (c : ClassInfo) (name : String) : Prop :=
  c.attribute? name = none ∧ commonAttribute? c.id name = none

/-- Whether fields are those of annotated names, without defaults. -/
def AreAnnotated (annotations : List (String × Hint)) (fields : List Field) : Prop :=
  List.Forall₂ (fun entry field => ∃ ofClass, field = { name := entry.1, type := entry.2, ofClass })
    annotations fields

theorem AreAnnotated.map_name {annotations : List (String × Hint)} {fields : List Field}
    (annotated : AreAnnotated annotations fields) : fields.map (·.name) = annotations.map (·.1) := by
  induction annotated with
  | nil => rfl
  | cons own _ inductionHypothesis =>
    obtain ⟨_, rfl⟩ := own
    exact congrArg _ inductionHypothesis

theorem AreAnnotated.exists_of_mem {annotations : List (String × Hint)} {fields : List Field}
    (annotated : AreAnnotated annotations fields) {field : Field} (member : field ∈ fields) :
    ∃ entry ∈ annotations, ∃ ofClass, field = { name := entry.1, type := entry.2, ofClass } := by
  induction annotated with
  | nil => cases member
  | cons own _ inductionHypothesis =>
    rcases List.mem_cons.mp member with rfl | later
    · exact ⟨_, List.mem_cons_self, own⟩
    · obtain ⟨entry, inside, same⟩ := inductionHypothesis later
      exact ⟨entry, List.mem_cons_of_mem _ inside, same⟩

/-- What is paired with an annotation is paired with its field. -/
theorem AreAnnotated.exists_of_mem_zip {α : Type} {annotations : List (String × Hint)}
    {fields : List Field} (annotated : AreAnnotated annotations fields) {others : List α}
    {pair : (String × Hint) × α} (member : pair ∈ annotations.zip others) :
    ∃ ofClass, ({ name := pair.1.1, type := pair.1.2, ofClass }, pair.2) ∈ fields.zip others := by
  induction annotated generalizing others with
  | nil => cases member
  | cons own _ inductionHypothesis =>
    cases others with
    | nil => cases member
    | cons other others =>
      obtain ⟨ofClass, rfl⟩ := own
      rcases List.mem_cons.mp member with rfl | later
      · exact ⟨ofClass, List.mem_cons_self⟩
      · obtain ⟨ofClass, inside⟩ := inductionHypothesis later
        exact ⟨ofClass, List.mem_cons_of_mem _ inside⟩

theorem gives_fieldOf {name : String} (free : IsFree c name) (type : Hint) :
    Gives (fieldOf surroundings false c name type) fun field =>
      ∃ ofClass, field = { name, type, ofClass } := by
  have options : optionsOf c.id name (c.attribute? name) = {} := by
    rw [free.1, optionsOf, free.2]
  rw [fieldOf, options]
  refine Gives.bind (fun memory => ?_ : Gives _ fun _ => True) fun ofClass _ => ?_
  · cases ((belongsToClass surroundings type).run memory).1 <;> trivial
  · cases ofClass
    · exact gives_pure ⟨false, rfl⟩
    · exact gives_pure ⟨true, rfl⟩

theorem gives_settleAttribute {field : Field} (free : IsFree c field.name) :
    Gives (settleAttribute c field) (· = c) := by
  rw [settleAttribute, free.1]
  exact gives_pure rfl

/-- Ancestors that are no record classes hand no fields on. -/
theorem inheritedFields_eq (plain : ∀ ancestor ∈ c.ancestors, ancestor.record? = none) :
    inheritedFields c = {} := by
  unfold inheritedFields
  have each : ∀ ancestor ∈ c.ancestors.reverse, ancestor.record? = none := fun ancestor member =>
    plain ancestor (List.mem_reverse.mp member)
  generalize c.ancestors.reverse = ancestors at each ⊢
  induction ancestors with
  | nil => rfl
  | cons first others inductionHypothesis =>
    obtain ⟨here, later⟩ := List.forall_mem_cons.mp each
    rw [List.foldl_cons, here]
    exact inductionHypothesis later

/-- If no ancestor is a record class, the fields of a record class are its own. -/
theorem values_recordOf {options : RecordOptions} {own : List Field}
    (plain : ∀ ancestor ∈ c.ancestors, ancestor.record? = none)
    (distinct : (own.map (·.name)).Nodup) : (recordOf options own c).allFields.values = own := by
  have entries : (own.foldl (fun all f => all.insert f.name f) ({} : OrderedMap String Field)).entries =
      own.map fun f => (f.name, f) := OrderedMap.entries_foldl {} distinct
  rw [recordOf, inheritedFields_eq plain, OrderedMap.values, entries, List.map_map]
  exact List.map_id own

/-- A class with annotations and nothing else, of which no ancestor is a record class, becomes one of
fields without defaults. -/
theorem gives_makeRecord_of_free (free : ∀ name ∈ c.annotations.keys, IsFree c name)
    (bare : c.ownConstructor = none) (plain : ∀ ancestor ∈ c.ancestors, ancestor.record? = none)
    (distinct : c.annotations.keys.Nodup) :
    Gives (makeRecord surroundings {} c) fun made => ∃ record : RecordInfo,
      made = { c with
        ownRecord := some record
        ownConstructor := some (constructorOf c record.fields) } ∧
      record.frozen = false ∧ AreAnnotated c.annotations.entries record.allFields.values := by
  have fields : ∀ entry ∈ c.annotations.entries,
      Gives (fieldOf surroundings ({} : RecordOptions).byName c entry.1 entry.2) fun field =>
        ∃ ofClass, field = { name := entry.1, type := entry.2, ofClass } := fun entry member =>
    gives_fieldOf (free entry.1 (List.mem_map_of_mem member)) entry.2
  have settles : ∀ own, AreAnnotated c.annotations.entries own →
      Gives (own.foldlM settleAttribute c) (· = c) := by
    refine fun own annotated => gives_foldlM rfl fun made same field member => ?_
    subst same
    refine gives_settleAttribute (free _ ?_)
    rw [OrderedMap.keys, ← annotated.map_name]
    exact List.mem_map_of_mem member
  refine (gives_makeRecord fields settles).weaken fun made given => ?_
  obtain ⟨own, settled, annotated, rfl, rfl⟩ := given
  have names : own.map (·.name) = settled.annotations.keys := AreAnnotated.map_name annotated
  refine ⟨recordOf {} own settled, ?_, rfl, ?_⟩
  · rw [asRecord, if_neg Bool.false_ne_true, if_pos rfl, bare, Option.none_or]
  · rw [values_recordOf plain (names ▸ distinct)]
    exact annotated

/-- What every class has under a name depends on the class of the class alone. -/
theorem commonAttribute?_eq_none {id other : Hint.ClassId} (same : id.metaName = other.metaName)
    {name : String} (absent : commonAttribute? other name = none) : commonAttribute? id name = none := by
  have both : (commonAttribute? id name).isSome = (commonAttribute? other name).isSome := by
    unfold commonAttribute?
    rw [same]
    split
    all_goals first | rfl | skip
    split
    · rfl
    · split
      · rfl
      · split <;> rfl
  rw [← Option.not_isSome_iff_eq_none, both, absent]
  exact Bool.false_ne_true

end Class

/-! ### Generated classes -/

open StateContainer.Class

theorem gives_declareFields {m : ClassModule} {fields : List DeclaredField}
    (texts : ∀ field ∈ fields, field.quoted = true ∧ field.carried = .none) (c : ClassInfo) :
    Gives (fields.foldlM m.declareField c) (· = { c with
      annotations := fields.foldl (fun all f => all.insert f.name (.text f.type)) c.annotations }) := by
  induction fields generalizing c with
  | nil => exact gives_pure (by cases c; rfl)
  | cons first others inductionHypothesis =>
    obtain ⟨⟨quoted, carried⟩, later⟩ := List.forall_mem_cons.mp texts
    rw [List.foldlM_cons]
    have own : Gives (m.declareField c first)
        (· = { c with annotations := c.annotations.insert first.name (.text first.type) }) := by
      rw [ClassModule.declareField, ClassModule.declaredType, ClassModule.declaredAttribute?,
        quoted, carried]
      exact gives_pure rfl
    refine own.bind fun made same => ?_
    subst same
    exact inductionHypothesis later _

theorem ancestorsOf_baseClass :
    ancestorsOf [Snapshot.baseClass] = pure [Snapshot.baseClass, Snapshot.treeClass] := rfl

/-- The fields of a class of snapshots, which can be set, and what it has besides them. -/
structure ClassInfo.IsSnapshotOf (c : ClassInfo) (annotations : List (String × Hint)) : Prop where
  record : ∃ record named, c.ownRecord = some record ∧ record.frozen = false ∧
    c.ownConstructor = some (constructorOf named record.fields) ∧
    AreAnnotated annotations record.allFields.values
  constructor : c.constructorIsWritten = false
  ancestors : c.ancestors = [Snapshot.baseClass, Snapshot.treeClass]
  attributes : c.attributes = {}

theorem gives_declareClass {m : ClassModule} {name : String} {fields : List DeclaredField}
    (texts : ∀ field ∈ fields, field.quoted = true ∧ field.carried = .none)
    (distinct : (fields.map (·.name)).Nodup)
    (free : ∀ field ∈ fields, IsFree Snapshot.baseClass field.name) :
    Gives (m.declareClass ""
        { name, fields, record := some {}, outside := [Snapshot.baseClass] }) fun made =>
      made.1 = m.keep made.2 ∧ made.2.IsSnapshotOf (fields.map fun f => (f.name, .text f.type)) := by
  rw [ClassModule.declareClass]
  dsimp only
  refine (gives_declareFields texts _).bind fun withFields same => ?_
  subst same
  dsimp only
  have entries : (fields.foldl (fun all f => all.insert f.name (Hint.text f.type))
      ({} : OrderedMap String Hint)).entries = fields.map fun f => (f.name, .text f.type) :=
    OrderedMap.entries_foldl {} distinct
  refine gives_bind_of_eq rfl (gives_bind_of_eq rfl (gives_bind fun _ => ?_))
  refine gives_bind_of_eq (ancestorsOf_baseClass : ancestorsOf _ = _) (gives_bind fun _ => ?_)
  refine gives_bind_of_eq (ClassModule.declareNested.eq_1 ..) ?_
  dsimp only [List.foldl_nil]
  refine Gives.bind (?_ : Gives _ fun made : ClassInfo =>
    made.IsSnapshotOf (fields.map fun f => (f.name, .text f.type))) fun made known =>
      gives_pure ⟨rfl, known⟩
  rw [ClassModule.finishClass]
  dsimp only
  rw [bind_pure]
  have keys : (fields.foldl (fun all f => all.insert f.name (Hint.text f.type))
      ({} : OrderedMap String Hint)).keys = fields.map (·.name) := by
    rw [OrderedMap.keys, entries, List.map_map]
    rfl
  refine (gives_makeRecord_of_free (fun name member => ?_) rfl (fun ancestor member => ?_) ?_).weaken ?_
  · obtain ⟨field, inside, rfl⟩ := List.mem_map.mp (keys ▸ member)
    obtain ⟨absent, usual⟩ := free field inside
    exact ⟨absent, commonAttribute?_eq_none (by rfl) usual⟩
  · rcases List.mem_pair.mp member with rfl | rfl <;> rfl
  · rw [keys]
    exact distinct
  · rintro _ ⟨record, rfl, changeable, annotated⟩
    exact ⟨⟨record, _, rfl, changeable, rfl, entries ▸ annotated⟩, rfl, rfl, rfl⟩

/-- The class that is declared is found under its name. -/
theorem gives_declare_of_declareClass {m : ClassModule} {declaration : Declaration}
    {known : ClassInfo → Prop} (gives : Gives (m.declareClass "" declaration) fun made =>
      made.1 = m.keep made.2 ∧ known made.2) :
    Gives (m.declare declaration) fun declared => ∃ c : ClassInfo,
      (declared.names.get? declaration.name).bind declared.classFor? = some c ∧ known c := by
  rw [ClassModule.declare]
  refine gives.bind ?_
  rintro ⟨next, c⟩ ⟨kept, own⟩
  dsimp only at kept own
  subst kept
  refine gives_pure ⟨c, ?_, own⟩
  show ((OrderedMap.insert _ _ (Hint.classRef c.id)).get? declaration.name).bind _ = some c
  rw [OrderedMap.get?_insert_self, Option.bind_some]
  show some (((OrderedMap.insert _ c.id c).get? c.id).getD _) = some c
  rw [OrderedMap.get?_insert_self]
  rfl

theorem gives_declare {m : ClassModule} {name : String} {fields : List DeclaredField}
    (texts : ∀ field ∈ fields, field.quoted = true ∧ field.carried = .none)
    (distinct : (fields.map (·.name)).Nodup)
    (free : ∀ field ∈ fields, IsFree Snapshot.baseClass field.name) :
    Gives (m.declare { name, fields, record := some {}, outside := [Snapshot.baseClass] })
      fun declared => ∃ c : ClassInfo, (declared.names.get? name).bind declared.classFor? = some c ∧
        c.IsSnapshotOf (fields.map fun f => (f.name, .text f.type)) :=
  gives_declare_of_declareClass (gives_declareClass texts distinct free)

/-- The fields of a generated type, by the names that the type gives to them. -/
def GeneratedType.annotations (type : GeneratedType) : List (String × Hint) :=
  type.members.map fun f => (Code.insideName type.name f.name, .text <| Annotation.kept f.typeText)

/-- What a declaration gives is found if it does not fail. -/
theorem Container.exists_of_run {m : ClassModule} {declaration : Declaration}
    {known : ClassInfo → Prop} {result : ClassModule × Option ClassInfo}
    (gives : Gives (m.declare declaration) fun declared => ∃ c : ClassInfo,
      (declared.names.get? declaration.name).bind declared.classFor? = some c ∧ known c)
    (builds : (match (m.declare declaration).run m.memory with
      | (.ok declared, memory) =>
        return ({ declared with memory },
          (declared.names.get? declaration.name).bind declared.classFor?)
      | (.error error, _) => throw (.build error) : Loading (ClassModule × Option ClassInfo)) =
        .ok result) :
    ∃ c, result.2 = some c ∧ known c := by
  split at builds
  · next declared memory run =>
    cases builds
    exact gives.of_run run
  · cases builds

/-- The class of a generated type with ancestors that leave the names of its fields alone. -/
theorem Container.exists_of_declareFields {standIns : OrderedMap String ClassInfo}
    {m generated : ClassModule} {type : GeneratedType} {snapshot : Option ClassInfo}
    (distinct : (type.annotations.map (·.1)).Nodup)
    (free : ∀ entry ∈ type.annotations, IsFree Snapshot.baseClass entry.1)
    (declares : declareFields standIns [Snapshot.baseClass] m (some type) = .ok (generated, snapshot)) :
    ∃ c, snapshot = some c ∧ c.IsSnapshotOf type.annotations := by
  have named : ((fieldsDeclaration type [Snapshot.baseClass]).fields.map (·.name)).Nodup := by
    rw [fieldsDeclaration, List.map_map]
    rw [GeneratedType.annotations, List.map_map] at distinct
    exact distinct
  have texts : ∀ field ∈ (fieldsDeclaration type [Snapshot.baseClass]).fields,
      field.quoted = true ∧ field.carried = .none := by
    intro field member
    obtain ⟨f, -, rfl⟩ := List.mem_map.mp member
    exact ⟨rfl, rfl⟩
  have fresh : ∀ field ∈ (fieldsDeclaration type [Snapshot.baseClass]).fields,
      IsFree Snapshot.baseClass field.name := by
    intro field member
    obtain ⟨f, inside, rfl⟩ := List.mem_map.mp member
    exact free _ (List.mem_map_of_mem inside)
  have gives := @gives_declare m (Text.normalName type.name) _ texts named fresh
  have annotated : ((fieldsDeclaration type [Snapshot.baseClass]).fields.map fun f =>
      (f.name, Hint.text f.type)) = type.annotations := by
    rw [fieldsDeclaration, List.map_map]
    rfl
  rw [annotated] at gives
  rw [declareFields] at declares
  dsimp only at declares
  -- Whatever stands for the decorator, the class is declared then.
  split at declares
  · obtain ⟨_, -, declares⟩ := exists_of_bind_eq_ok declares
    exact exists_of_run gives declares
  · exact exists_of_run gives declares

end StateContainer
