/-
This file says what a container has when the generated types of a definition have been loaded.

The properties of a definition are the fields of its record, one for each parameter of the
constructor. The class of snapshots has a field for each persisted property, so that the
container keeps its fields if their types are plain and their names are not taken.
-/

import StateContainer.Class.Metadata
import StateContainer.Proofs.Class.Declaring
import StateContainer.Proofs.Container.Restoring

namespace StateContainer

open StateContainer.Class

/-! ### Extracted properties -/

section
variable {δ ε : Type} {provider : Provider δ ε} {definition : δ}

theorem Provider.property_eq_ok {parameter : Parameter} {field : String} {property : Property}
    (extracts : provider.property definition parameter field = .ok property) :
    property.name = parameter.name ∧ property.name = field := by
  rw [Provider.property] at extracts
  dsimp only at extracts
  split at extracts
  · cases extracts
  · next same =>
    obtain ⟨markers, -, extracts⟩ := exists_of_bind_eq_ok extracts
    cases markers with
    | none => cases extracts
    | some markers =>
      dsimp only at extracts
      split at extracts
      · cases extracts
      · obtain ⟨type, -, extracts⟩ := exists_of_bind_eq_ok extracts
        cases extracts
        exact ⟨rfl, of_not_not same⟩

/-- Properties are named as the parameters and the fields that they are made of. -/
theorem Provider.properties_eq_ok {parameters : List Parameter} {fields : List String}
    {properties : List Property} (length : parameters.length = fields.length)
    (extracts : provider.properties definition parameters fields = .ok properties) :
    properties.map (·.name) = parameters.map (·.name) ∧ properties.map (·.name) = fields := by
  induction parameters generalizing fields properties with
  | nil =>
    cases fields with
    | nil => cases extracts; exact ⟨rfl, rfl⟩
    | cons => cases length
  | cons parameter others inductionHypothesis =>
    cases fields with
    | nil => cases length
    | cons field fields =>
      rw [Provider.properties] at extracts
      obtain ⟨first, here, extracts⟩ := exists_of_bind_eq_ok extracts
      obtain ⟨rest, later, extracts⟩ := exists_of_bind_eq_ok extracts
      cases extracts
      obtain ⟨one, other⟩ := Provider.property_eq_ok here
      obtain ⟨ones, others⟩ := inductionHypothesis (Nat.succ.inj length) later
      exact ⟨by rw [List.map_cons, List.map_cons, one, ones], by rw [List.map_cons, other, others]⟩

theorem Provider.schema_eq_ok {schema : Schema} (extracts : provider.schema definition = .ok schema) :
    schema.definition = provider.describe definition ∧
      ∃ parameters, provider.parameters definition = .ok (some parameters) ∧
        schema.properties.map (·.name) = parameters.map (·.name) ∧
        schema.properties.map (·.name) = provider.declaredFields definition := by
  rw [Provider.schema] at extracts
  obtain ⟨properties, extracting, classifies⟩ := exists_of_bind_eq_ok extracts
  cases classifies
  rw [Provider.extract] at extracting
  obtain ⟨parameters?, found, extracting⟩ := exists_of_bind_eq_ok extracting
  cases parameters? with
  | none => cases extracting
  | some parameters =>
    dsimp only at extracting
    split at extracting
    · cases extracting
    · next length =>
      exact ⟨rfl, parameters, found, Provider.properties_eq_ok (of_not_not length) extracting⟩

end

/-! ### Definitions -/

section
variable {m : ClassModule} {definition : ClassInfo} {schema : Schema} {record : RecordInfo}

theorem ClassModule.parameterOf_eq_ok {types : OrderedMap String Hint} {formal : Formal}
    {parameter : Parameter} (makes : parameterOf types formal = .ok parameter) :
    parameter.name = formal.name := by
  rw [parameterOf] at makes
  split at makes
  · cases makes
    rfl
  · split at makes <;> cases makes
    rfl

/-- The properties of a definition that is made from its fields are these fields, in order, and all
of them are fields of the constructor. -/
theorem ClassInfo.MadeFromFields.properties_of_schema (made : definition.MadeFromFields record)
    (isRecord : definition.record? = some record) (extracts : m.provider.schema definition = .ok schema) :
    schema.properties.map (·.name) = record.fields.map (·.name) ∧
      ∀ field ∈ record.fields, field.inConstructor = true := by
  obtain ⟨-, parameters, found, ones, others⟩ := Provider.schema_eq_ok extracts
  have fields : m.provider.declaredFields definition = record.fields.map (·.name) := by
    show ClassModule.declaredFields definition = _
    rw [ClassModule.declaredFields, isRecord]
  refine ⟨others.trans fields, fun field member => ?_⟩
  obtain ⟨owner, named, constructor, -⟩ := made.constructor
  obtain ⟨types, making⟩ : ∃ types,
      (formalsOf record.fields).mapM (ClassModule.parameterOf types) = .ok parameters := by
    change m.parameters definition = _ at found
    rw [ClassModule.parameters, isRecord, constructor] at found
    dsimp only at found
    obtain ⟨types, -, found⟩ := exists_of_bind_eq_ok found
    split at found
    · cases found
    · obtain ⟨_, making, found⟩ := exists_of_bind_eq_ok found
      cases found
      exact ⟨types, making⟩
  have named : EndsAs (fun made => made.map (·.name) = (formalsOf record.fields).map (·.name))
      (fun _ => True) ((formalsOf record.fields).mapM (ClassModule.parameterOf types)) := by
    refine endsAs_mapM_map Parameter.name Formal.name fun formal _ => ?_
    cases makes : ClassModule.parameterOf types formal with
    | error _ => trivial
    | ok parameter => exact ClassModule.parameterOf_eq_ok makes
  have taken : field.name ∈ (formalsOf record.fields).map (·.name) := by
    rw [← named.of_ok making, ← ones, others, fields]
    exact List.mem_map_of_mem member
  obtain ⟨formal, inside, same⟩ := List.mem_map.mp taken
  obtain ⟨other, known, given, rfl⟩ := mem_formalsOf.mp inside
  rw [← List.inj_on_of_nodup_map made.distinct known member same]
  exact given

end

/-! ### Loaded containers -/

namespace Container

variable {m : ClassModule} {definition : ClassInfo} {a : ArtifactSet} {c : Container}

/-- The definition is looked up by its name, and the class of snapshots is declared before whatever
follows. -/
theorem load_eq_ok (loaded : load m definition a = .ok c) : c.artifacts = a ∧
    (∃ found, importName m a.schema.definition.moduleName a.name = .ok found ∧
      c.record = (classOf? m found).getD definition) ∧
    ∃ generated declared surroundings snapshot,
      declareFields c.standIns [(c.standIns.get? "Snapshot").getD Snapshot.baseClass] generated
        a.snapshot = .ok (declared, snapshot) ∧
      c.snapshotClass = snapshot.map fun info => { surroundings, info } := by
  rw [load] at loaded
  dsimp only at loaded
  split at loaded
  · cases loaded
  · obtain ⟨_, -, loaded⟩ := exists_of_bind_eq_ok loaded
    obtain ⟨found, named, loaded⟩ := exists_of_bind_eq_ok loaded
    obtain ⟨root, -, loaded⟩ := exists_of_bind_eq_ok loaded
    obtain ⟨⟨declared, snapshot⟩, declares, loaded⟩ := exists_of_bind_eq_ok loaded
    obtain ⟨⟨generated, inputClass⟩, -, loaded⟩ := exists_of_bind_eq_ok loaded
    obtain ⟨_, -, loaded⟩ := exists_of_bind_eq_ok loaded
    obtain ⟨viewModel, -, loaded⟩ := exists_of_bind_eq_ok loaded
    cases loaded
    exact ⟨rfl, ⟨found, named, rfl⟩, _, declared, generated, snapshot, declares, rfl⟩

/-- If the name of a definition stands for it in its module, the states of its container are instances
of it. -/
theorem record_eq_of_load {schema : Schema} (loaded : load m definition schema.synthesize = .ok c)
    (extracted : m.provider.schema definition = .ok schema)
    (found : m.classOf? definition.id = some definition)
    (belongs : definition.id.moduleName = m.name)
    (bound : m.bound? (Text.normalName definition.name) = some (.classRef definition.id)) :
    c.record = definition := by
  obtain ⟨described, -⟩ := Provider.schema_eq_ok extracted
  obtain ⟨-, ⟨other, named, record⟩, -⟩ := load_eq_ok loaded
  change importName m schema.definition.moduleName schema.definition.name = .ok other at named
  have moduleName : schema.definition.moduleName = m.name := by
    rw [described]
    exact belongs
  have written : schema.definition.name = definition.name := by
    rw [described]
    rfl
  have member : memberOf m m.name (Text.normalName definition.name) =
      some (.classRef definition.id) := (if_pos rfl).trans bound
  rw [importName, moduleName, written] at named
  obtain ⟨_, -, named⟩ := exists_of_bind_eq_ok named
  dsimp only at named
  rw [member] at named
  cases named
  rw [record, classOf?, found]
  rfl

/-! ### Classes of snapshots -/

section
variable {s : SnapshotClass} {annotations : List (String × Hint)} {types : List Hint}

/-- A class of snapshots is made from its fields, which are those that are annotated if each of them
has a type. -/
theorem exists_record_of_isSnapshotOf (known : s.info.IsSnapshotOf annotations)
    (distinct : (annotations.map (·.1)).Nodup)
    (resolved : s.resolvedTypes.value s.surroundings.memory = .ok types)
    (length : types.length = annotations.length) :
    ∃ record, s.info.MadeFromFields record ∧ s.info.record? = some record ∧
      s.fields = record.fields ∧ AreAnnotated annotations s.fields := by
  obtain ⟨record, named, own, -, constructor, annotated⟩ := known.record
  have found : s.info.record? = some record := by
    rw [ClassInfo.record?, ClassInfo.lineage, List.findSome?_cons, own]
  have fields : s.fields = record.fields := by
    rw [SnapshotClass.fields, found]
    rfl
  have all : record.fields = record.allFields.values := by
    refine List.filter_sublist.eq_of_length ?_
    show record.fields.length = _
    rw [← fields, ← SnapshotClass.length_eq_of_resolved resolved, length]
    exact annotated.length_eq
  refine ⟨record, ⟨⟨s.info, named, ?_, known.constructor, own⟩, ?_⟩, found, fields, ?_⟩
  · rw [ClassInfo.constructor?, ClassInfo.lineage, List.findSome?_cons, constructor]
    rfl
  · rw [all, annotated.map_name]
    exact distinct
  · rw [fields, all]
    exact annotated

/-- What is found under a name that no generated class hides is what all classes of snapshots have. -/
theorem attribute?_of_isSnapshotOf (known : s.info.IsSnapshotOf annotations) (name : String) :
    s.info.attribute? name = Snapshot.baseClass.attribute? name := by
  rw [ClassInfo.attribute?, ClassInfo.lineage, known.ancestors, List.findSome?_cons, known.attributes]
  rfl

theorem isOfFields_of_isSnapshotOf (known : s.info.IsSnapshotOf annotations)
    (annotated : AreAnnotated annotations s.fields) (distinct : (annotations.map (·.1)).Nodup)
    (texts : ∀ entry ∈ annotations, SnapshotClass.isText entry.2 = true)
    (resolved : s.resolvedTypes.value s.surroundings.memory = .ok types)
    (plain : ∀ type ∈ types, Snapshot.IsFieldType True type) (making : s.hidesMaking = false) :
    s.IsOfFields types := by
  exact {
    quoted := fun field member => by
      obtain ⟨entry, inside, _, rfl⟩ := annotated.exists_of_mem member
      exact texts entry inside
    resolved
    known := plain
    required := fun field member => by
      obtain ⟨_, -, _, rfl⟩ := annotated.exists_of_mem member
      rfl
    distinct := by
      rw [annotated.map_name]
      exact distinct
    decodes := by
      rw [SnapshotClass.checkMethod, Snapshot.hidden?, attribute?_of_isSnapshotOf known]
      rfl
    making }

end

end Container

/-! ### Kept properties -/

/-- Whether the persisted properties of a schema can be fields of a class: there are some, no class
changes their names, and no class of snapshots has anything under them. -/
structure Schema.CanBeKept (schema : Schema) : Prop where
  some : schema.hasPersisted = true
  unchanged : ∀ p ∈ schema.persisted, ∀ className, Code.insideName className p.name = p.name
  free : ∀ p ∈ schema.persisted, IsFree Snapshot.baseClass p.name

theorem Schema.CanBeKept.snapshot?_eq {schema : Schema} (kept : schema.CanBeKept) :
    ∃ type, schema.snapshot? = Option.some type ∧
      type.annotations.map (·.1) = schema.persisted.map (·.name) ∧
      type.annotations.length = schema.persisted.length ∧
      ∀ entry ∈ type.annotations, SnapshotClass.isText entry.2 = true := by
  refine ⟨⟨schema.name ++ "Snapshot", .snapshot, schema.persisted.map (·.field)⟩, ?_, ?_, ?_,
    fun entry member => ?_⟩
  · rw [Schema.snapshot?, if_pos kept.some]
  · rw [GeneratedType.annotations, List.map_map, List.map_map]
    exact List.map_congr_left fun p member => kept.unchanged p member _
  · rw [GeneratedType.annotations, List.length_map, List.length_map]
  · obtain ⟨f, -, rfl⟩ := List.mem_map.mp member
    rfl

/-- Whether a container is that of a definition of a module that was built. The definition is a record
of its fields, and its persisted properties are of plain types and have names of their own. -/
structure Container.IsOf (c : Container) (m : ClassModule) (definition : ClassInfo) (schema : Schema)
    (s : SnapshotClass) (types : List Hint) : Prop where
  built : ∃ moduleName declarations aliases,
    ClassModule.build moduleName declarations aliases = .ok m
  found : m.classOf? definition.id = some definition
  /-- The constructor is not written by hand. -/
  made : definition.ownConstructor.isSome = true ∧ definition.constructorIsWritten = false
  leaves : ∀ record, definition.record? = some record → LeavesReceiver record.fields
  extracted : m.provider.schema definition = .ok schema
  loaded : load m definition schema.synthesize = .ok c
  /-- The name of the definition stands for it in its module, and neither this name nor that of its
  view model is one of the runtime that snapshots are read with. -/
  bound : definition.id.moduleName = m.name ∧
    m.bound? (Text.normalName definition.name) = some (.classRef definition.id)
  runtime : c.standIns.get? "Snapshot" = none ∧ c.standIns.get? "dataclasses" = none
  kept : schema.CanBeKept
  snapshotClass : c.snapshotClass = some s
  making : s.hidesMaking = false
  /-- The annotations of snapshots stand for plain types, one for each persisted property. -/
  resolved : s.resolvedTypes.value s.surroundings.memory = .ok types
  each : types.length = schema.persisted.length
  plain : ∀ type ∈ types, Snapshot.IsFieldType True type

namespace Container.IsOf

variable {c : Container} {m : ClassModule} {definition : ClassInfo} {schema : Schema}
  {s : SnapshotClass} {types : List Hint}

theorem artifacts_eq (known : c.IsOf m definition schema s types) :
    c.artifacts = schema.synthesize :=
  (load_eq_ok known.loaded).1

/-- The states of the container are instances of the definition. -/
theorem record_eq (known : c.IsOf m definition schema s types) : c.record = definition :=
  record_eq_of_load known.loaded known.extracted known.found known.bound.1 known.bound.2

/-- The container takes snapshots. -/
theorem mem_parameters (known : c.IsOf m definition schema s types) :
    snapshotSourceName ∈ c.artifacts.plan.parameters := by
  rw [known.artifacts_eq]
  show _ ∈ (if schema.hasPersisted then _ else _) ++ _
  rw [if_pos known.kept.some]
  exact List.mem_append_left _ List.mem_cons_self

/-- The definition is made from its fields, which are the properties. -/
theorem exists_madeFromFields (known : c.IsOf m definition schema s types) :
    ∃ record, definition.record? = some record ∧ definition.MadeFromFields record ∧
      schema.properties.map (·.name) = record.fields.map (·.name) ∧
      ∀ field ∈ record.fields, field.inConstructor = true := by
  obtain ⟨_, _, _, built⟩ := known.built
  obtain ⟨record, isRecord, made⟩ := (ClassModule.isRegular_of_build built).exists_madeFromFields
    known.found known.made.1 known.made.2
  exact ⟨record, isRecord, made, made.properties_of_schema isRecord known.extracted⟩

theorem nodup_persisted (known : c.IsOf m definition schema s types) :
    (schema.persisted.map (·.name)).Nodup := by
  obtain ⟨record, -, made, properties, -⟩ := known.exists_madeFromFields
  have all := made.distinct
  rw [← properties] at all
  exact (List.filter_sublist.map _).nodup all

/-- The class of snapshots has a field for each persisted property. -/
theorem exists_isSnapshotOf (known : c.IsOf m definition schema s types) :
    ∃ annotations, s.info.IsSnapshotOf annotations ∧
      annotations.map (·.1) = schema.persisted.map (·.name) ∧
      annotations.length = schema.persisted.length ∧
      ∀ entry ∈ annotations, SnapshotClass.isText entry.2 = true := by
  obtain ⟨type, snapshot, names, length, texts⟩ := known.kept.snapshot?_eq
  obtain ⟨-, -, _, _, surroundings, found, declares, same⟩ := load_eq_ok known.loaded
  rw [known.runtime.1] at declares
  change declareFields _ _ _ schema.snapshot? = _ at declares
  rw [snapshot] at declares
  have free : ∀ entry ∈ type.annotations, IsFree Snapshot.baseClass entry.1 := by
    intro entry member
    have taken : entry.1 ∈ type.annotations.map (·.1) := List.mem_map_of_mem member
    rw [names] at taken
    obtain ⟨p, inside, same⟩ := List.mem_map.mp taken
    exact same ▸ known.kept.free p inside
  obtain ⟨info, rfl, isSnapshot⟩ := exists_of_declareFields (names ▸ known.nodup_persisted) free declares
  rw [known.snapshotClass] at same
  cases same
  exact ⟨type.annotations, isSnapshot, names, length, texts⟩

/-- The persisted properties are fields of the snapshots and of the record. -/
theorem keepsFields (known : c.IsOf m definition schema s types) :
    ∃ kept record, c.KeepsFields s (snapshotKey schema.name) types kept record := by
  obtain ⟨record, isRecord, made, properties, taken⟩ := known.exists_madeFromFields
  obtain ⟨annotations, isSnapshot, names, length, texts⟩ := known.exists_isSnapshotOf
  have distinct := known.nodup_persisted
  obtain ⟨kept, madeFrom, -, fields, annotated⟩ := exists_record_of_isSnapshotOf isSnapshot
    (names ▸ distinct) known.resolved (known.each.trans length.symm)
  refine ⟨kept, record, ?_⟩
  have own (name : String) : name ∈ c.artifacts.plan.restoredFields ↔
      name ∈ schema.persisted.map (·.name) := by
    rw [known.artifacts_eq]
    exact Iff.rfl
  exact {
    snapshotClass := known.snapshotClass
    snapshotKey := by
      rw [known.artifacts_eq]
      exact if_pos known.kept.some
    reads := isOfFields_of_isSnapshotOf isSnapshot annotated (names ▸ distinct) texts known.resolved
      known.plain known.making
    snapshots := madeFrom
    stored := fun name member => by
      obtain ⟨p, inside, rfl⟩ := List.mem_map.mp ((own name).mp member)
      have taken : p.name ∈ s.fields.map (·.name) := by
        rw [annotated.map_name, names]
        exact List.mem_map_of_mem inside
      obtain ⟨field, there, same⟩ := List.mem_map.mp taken
      obtain ⟨_, -, _, rfl⟩ := annotated.exists_of_mem there
      exact ⟨_, there, same.trans (known.kept.unchanged p inside _).symm, rfl⟩
    records := known.record_eq.symm ▸ made
    isRecord := known.record_eq.symm ▸ isRecord
    leaves := known.leaves record isRecord
    restored := fun name member => by
      obtain ⟨p, inside, rfl⟩ := List.mem_map.mp ((own name).mp member)
      have present : p.name ∈ record.fields.map (·.name) := by
        rw [← properties]
        exact List.mem_map_of_mem (List.mem_of_mem_filter inside)
      obtain ⟨field, there, same⟩ := List.mem_map.mp present
      exact ⟨field, there, same, taken field there⟩
    distinct := by
      rw [known.artifacts_eq]
      exact distinct
    replaces := known.runtime.2 }

end Container.IsOf

/-! ### Stored texts -/

section
variable {session built : ContainerSession} {name : String} {input : Option (Option Container.Input)}
  {m : ClassModule} {definition : ClassInfo} {schema : Schema} {s : SnapshotClass} {types : List Hint}
  {number : Nat} {blob : Blob}

open ContainerSession

/-- Whatever is stored under the key of a definition, a delegate is built from it where one is built
without it, and either all persisted fields are taken from what is stored or none is. There is one
exception: if a union stands inside of the type of a field, a number may be too large. -/
theorem endsAs_newDelegate_of_stored (known : session.container.IsOf m definition schema s types)
    (plain : session.run (newDelegate name { input }) = (.ok (), built))
    (stored : (session.storeAt number).load (snapshotKey schema.name) = some blob) :
    ∃ state, Built name { input } session built state ∧
      ((∃ restored after,
          session.run (newDelegate name { source := some (some (.store number)), input }) =
            (.ok (), after) ∧
          Built name { source := some (some (.store number)), input } session after restored ∧
          AllOrNothing session.container s blob state restored) ∨
        ∃ fault, session.run (newDelegate name { source := some (some (.store number)), input }) =
            (.error (.snapshot (.failed fault)), session) ∧
          s.decode blob = .error (.failed fault) ∧ fault.IsOverflow ∧
          ∃ type ∈ types, ¬Snapshot.IsFieldType False type) := by
  obtain ⟨_, _, keeps⟩ := known.keepsFields
  exact endsAs_newDelegate keeps known.mem_parameters plain stored

end

/-! ### Definitions with a single field -/

/-- A definition with a single field, which is kept in snapshots, in a module of its own. -/
structure Keeper where
  moduleName : String := "app.state"
  name : String := "S"
  field : String := "x"
  type : String
  default : Option Value := none
  factory : Option Class.Factory := none

namespace Keeper

open ContainerSession

section
variable (keeper : Keeper)

def declaration : Declaration where
  name := keeper.name
  fields := [{
    name := keeper.field
    type := keeper.type
    carried := .options {
      default := keeper.default
      factory := keeper.factory
      remark := .markers { persist := true } } }]
  state := some .none

/-- The module, where it can be built. -/
def classModule : ClassModule :=
  (ClassModule.build keeper.moduleName [keeper.declaration] []).toOption.getD Inhabited.default

/-- The definition as a class of the module. -/
def classInfo : ClassInfo :=
  (keeper.classModule.classOf? { moduleName := keeper.moduleName, path := keeper.name }).getD
    Inhabited.default

def schema : Schema :=
  (keeper.classModule.provider.schema keeper.classInfo).toOption.getD Inhabited.default

/-- The container, or why it cannot be loaded. -/
def load : Loading Container :=
  Container.load keeper.classModule keeper.classInfo keeper.schema.synthesize

end

/-- Whether something is a class of some identity. -/
def isClassOf (id : Hint.ClassId) : Option Hint → Bool
  | some (.classRef other) => other = id
  | _ => false

theorem eq_of_isClassOf {id : Hint.ClassId} {found : Option Hint} (known : isClassOf id found = true) :
    found = some (.classRef id) := by
  unfold isClassOf at known
  split at known
  · rw [of_decide_eq_true known]
  · cases known

/-- Whether the container keeps the field of the definition and the annotation is one of a kind, as
far as it can be computed. -/
def keeps (keeper : Keeper) (isType : Hint → Bool) : Bool :=
  (ClassModule.build keeper.moduleName [keeper.declaration] []).toOption.isSome &&
  (keeper.classModule.classOf? { moduleName := keeper.moduleName, path := keeper.name }).isSome &&
  keeper.classInfo.id = { moduleName := keeper.moduleName, path := keeper.name } &&
  keeper.classInfo.ownConstructor.isSome && !keeper.classInfo.constructorIsWritten &&
  (keeper.classInfo.record?.map fun record => record.fields.map (·.name)) = some [keeper.field] &&
  isClassOf keeper.classInfo.id
    (keeper.classModule.bound? (Text.normalName keeper.classInfo.name)) &&
  keeper.classInfo.id.moduleName = keeper.classModule.name &&
  (keeper.classModule.provider.schema keeper.classInfo).toOption.isSome &&
  keeper.schema.persisted.map (·.name) = [keeper.field] && keeper.schema.hasPersisted &&
  !(['_', '_'].isPrefixOf keeper.field.toList) &&
  (Snapshot.baseClass.attribute? keeper.field).isNone &&
  (commonAttribute? Snapshot.baseClass.id keeper.field).isNone &&
  (keeper.load.toOption.bind fun c => c.snapshotClass.bind fun s =>
    (s.resolvedTypes.value s.surroundings.memory).toOption.map fun types =>
      (c.standIns.keys, s.hidesMaking, types.map isType)) = some ([], false, [true])

/-- No class changes a name that does not begin with two underscores. -/
theorem insideName_eq {name : String} (isPublic : ['_', '_'].isPrefixOf name.toList = false)
    (className : String) : Code.insideName className name = name := by
  rw [Code.insideName, isPublic]
  rfl

/-- The container of the definition is one of which the main statement speaks. -/
theorem exists_isOf {keeper : Keeper} {isType : Hint → Bool} {type : Hint}
    (isOne : ∀ found, isType found = true → found = type) (plain : Snapshot.IsFieldType True type)
    (kept : keeper.keeps isType = true) :
    ∃ c s, keeper.load = .ok c ∧
      c.IsOf keeper.classModule keeper.classInfo keeper.schema s [type] := by
  simp only [keeps, Bool.and_eq_true, decide_eq_true_eq, Bool.not_eq_true', and_assoc] at kept
  obtain ⟨built, found, own, constructor, unwritten, fields, bound, moduleName, extracted, persisted,
    some, isPublic, unused, uncommon, loads⟩ := kept
  obtain ⟨_, info⟩ := Option.isSome_iff_exists.mp found
  obtain ⟨c, loaded, loads⟩ := Option.bind_eq_some_iff.mp loads
  obtain ⟨s, snapshotClass, loads⟩ := Option.bind_eq_some_iff.mp loads
  obtain ⟨types, resolved, loads⟩ := Option.map_eq_some_iff.mp loads
  obtain ⟨standIns, making, hints⟩ : c.standIns.keys = [] ∧ s.hidesMaking = false ∧
      types.map isType = [true] := by
    simpa only [Prod.mk.injEq] using loads
  obtain ⟨only, others, rfl, known, rest⟩ := List.map_eq_cons_iff.mp hints
  obtain rfl := List.map_eq_nil_iff.mp rest
  obtain rfl := isOne only known
  have name {p : Property} (member : p ∈ keeper.schema.persisted) : p.name = keeper.field := by
    have inside := List.mem_map_of_mem (f := (·.name)) member
    rw [persisted] at inside
    exact List.mem_singleton.mp inside
  have noStandIn (name : String) : c.standIns.get? name = none :=
    OrderedMap.get?_eq_none_iff.mpr (by rw [standIns]; exact List.not_mem_nil)
  refine ⟨c, s, toOption_eq_some_iff.mp loaded, {
    built := ⟨_, _, _, eq_ok_getD_of_isSome built⟩
    found := ?_
    made := ⟨constructor, unwritten⟩
    leaves := ?_
    extracted := eq_ok_getD_of_isSome extracted
    loaded := toOption_eq_some_iff.mp loaded
    bound := ⟨moduleName, eq_of_isClassOf bound⟩
    runtime := ⟨noStandIn _, noStandIn _⟩
    kept := {
      some
      unchanged := fun p member => name member ▸ insideName_eq isPublic
      free := fun p member => name member ▸
        ⟨Option.isNone_iff_eq_none.mp unused, Option.isNone_iff_eq_none.mp uncommon⟩ }
    snapshotClass
    making
    resolved := toOption_eq_some_iff.mp resolved
    each := ?_
    plain := ?_ }⟩
  · rw [own]
    rw [Keeper.classInfo, info]
    rfl
  · intro record isRecord field member
    rw [isRecord] at fields
    have names : record.fields.map (·.name) = [keeper.field] := Option.some.inj fields
    have inside := List.mem_map_of_mem (f := (·.name)) member
    rw [names] at inside
    rw [List.mem_singleton.mp inside]
    rintro same
    rw [same] at isPublic
    exact absurd isPublic (by decide)
  · have length := congrArg List.length persisted
    rw [List.length_map] at length
    exact length.symm
  · intro type member
    rw [List.mem_singleton.mp member]
    exact plain

/-! ### A list that may hold null -/

/-- A definition that keeps a list of integers or nulls. -/
def numbers : Keeper := { type := "list[int | None]", factory := some .list }

/-- The annotation of its field. -/
def numbersHint : Hint :=
  .applied .plain StoredType.listClass [.union true [.classRef StoredType.integerClass, Hint.nullType]]

/-- Whether an annotation is that of the field. -/
def isNumbersHint : Hint → Bool
  | .applied .plain collection [.union true [.classRef item, .classRef other]] =>
    collection = StoredType.listClass && item = StoredType.integerClass && other = Hint.nullClass
  | _ => false

theorem eq_of_isNumbersHint (type : Hint) (known : isNumbersHint type = true) : type = numbersHint := by
  unfold isNumbersHint at known
  split at known
  · rw [Bool.and_eq_true, Bool.and_eq_true, decide_eq_true_eq, decide_eq_true_eq,
      decide_eq_true_eq] at known
    obtain ⟨⟨rfl, rfl⟩, rfl⟩ := known
    rfl
  · cases known

theorem isFieldType_numbersHint : Snapshot.IsFieldType True numbersHint := by
  refine .single (.list .plain (.union true trivial ⟨.classRef StoredType.integerClass, ?_, ?_⟩ ?_))
    nofun
  · exact List.mem_cons_self
  · exact Snapshot.ne_nullType (StoredType.isNullType_hint .integer)
  · intro member inside differs
    rcases List.mem_pair.mp inside with rfl | rfl
    · exact .scalar (by decide)
    · exact absurd rfl differs

theorem exists_isOf_numbers : ∃ c s, numbers.load = .ok c ∧
    c.IsOf numbers.classModule numbers.classInfo numbers.schema s [numbersHint] :=
  exists_isOf eq_of_isNumbersHint isFieldType_numbersHint (by decide +kernel)

/-- A session with a store that keeps a text under the key of the definition. -/
def keepingText (c : Container) (text : String) : ContainerSession :=
  { start c with stores := [{ blobs := ⟨[(snapshotKey numbers.name, .text text)]⟩ }] }

/-- The arguments for a delegate that is built from the store. -/
def fromStore : BuildArguments := { source := some (some (.store 0)), input := none }

theorem load_keepingText (c : Container) (text : String) :
    ((keepingText c text).storeAt 0).load (snapshotKey numbers.schema.name) = some (.text text) := by
  have same : numbers.schema.name = numbers.name := by decide +kernel
  rw [same]
  simp [keepingText, storeAt, SnapshotStore.load, OrderedMap.get?, OrderedMap.lookup, Blob.isAbsent]

/-- A stored list that fits, and one that holds infinity. -/
def fitting : String := "\x7b\"x\": [1, null]\x7d"
def infinite : String := "\x7b\"x\": [Infinity]\x7d"

/-- A stored list that fits is taken. -/
theorem newDelegate_of_fitting : ∃ c s state restored after, numbers.load = .ok c ∧
    (keepingText c fitting).run (newDelegate "d" fromStore) = (.ok (), after) ∧
    Built "d" fromStore (keepingText c fitting) after restored ∧
    AllOrNothing c s (.text fitting) state restored := by
  obtain ⟨c, s, loaded, known⟩ := exists_isOf_numbers
  have runs : (numbers.load.toOption.bind fun c => c.snapshotClass.map fun s =>
      ((s.decode (.text fitting)).toOption.isSome,
        ((keepingText c fitting).run (newDelegate "d" { input := none })).1.toOption)) =
      some (true, some ()) := by
    decide +kernel
  rw [loaded] at runs
  change c.snapshotClass.map _ = _ at runs
  rw [known.snapshotClass] at runs
  obtain ⟨decodes, plain⟩ := Prod.mk.inj (Option.some.inj runs)
  have plain : (keepingText c fitting).run (newDelegate "d" { input := none }) = (.ok (), _) :=
    Prod.ext (toOption_eq_some_iff.mp plain) rfl
  obtain ⟨state, -, ⟨restored, after, made, built, result⟩ | ⟨fault, -, fails, -⟩⟩ :=
    endsAs_newDelegate_of_stored known plain (load_keepingText c _)
  · exact ⟨c, s, state, restored, after, loaded, made, built, result⟩
  · rw [fails] at decodes
    cases decodes

/-- Where infinity is stored, no delegate is built. -/
theorem exists_newDelegate_overflows : ∃ c built failure after, numbers.load = .ok c ∧
    (keepingText c infinite).run (newDelegate "d" { input := none }) = (.ok (), built) ∧
    (keepingText c infinite).run (newDelegate "d" fromStore) = (.error failure, after) ∧
    failure.className = "OverflowError" := by
  have runs : (numbers.load.toOption.map fun c =>
      (((keepingText c infinite).run (newDelegate "d" { input := none })).1.toOption,
        ((keepingText c infinite).run (newDelegate "d" fromStore)).1.mapError Failure.className)) =
      some (some (), .error "OverflowError") := by
    decide +kernel
  obtain ⟨c, loaded, runs⟩ := Option.map_eq_some_iff.mp runs
  obtain ⟨plain, fails⟩ := Prod.mk.inj runs
  obtain ⟨failure, failed, named⟩ := mapError_eq_error_iff.mp fails
  exact ⟨c, _, failure, _, toOption_eq_some_iff.mp loaded,
    Prod.ext (toOption_eq_some_iff.mp plain) rfl, Prod.ext failed rfl, named⟩

end Keeper

end StateContainer
