/-
This file says what the initial state of a container is made of.

A container is faithful to a definition of a module if nothing is in its way: no names change inside of
the generated classes and nothing takes the place of the runtime. Its initial state then has, for each
property, the value that is read from a snapshot if the property is persisted, else the value that was
given for it, else the default of its field.
-/

import StateContainer.Proofs.Container.Conformance
import StateContainer.Proofs.Container.Keeping
import StateContainer.Proofs.Container.Resuming

namespace StateContainer

open StateContainer.Class ContainerSession

/-! ### Properties and their defaults -/

section
variable {δ ε : Type} {provider : Provider δ ε} {definition : δ}

theorem Provider.input_of_property_eq_ok {parameter : Parameter} {field : String} {p : Property}
    (extracts : provider.property definition parameter field = .ok p) :
    p.name = parameter.name ∧ p.hasDefault = parameter.hasDefault ∧
      (p.hasDefault = true ∨ p.input = true) := by
  rw [Provider.property] at extracts
  dsimp only at extracts
  split at extracts
  · cases extracts
  · obtain ⟨markers, -, extracts⟩ := exists_of_bind_eq_ok extracts
    cases markers with
    | none => cases extracts
    | some markers =>
      dsimp only at extracts
      split at extracts
      · cases extracts
      · next either =>
        obtain ⟨type, -, extracts⟩ := exists_of_bind_eq_ok extracts
        cases extracts
        rw [Bool.not_eq_true', Bool.not_eq_false, Bool.or_eq_true] at either
        exact ⟨rfl, rfl, either⟩

/-- Each property is made of a parameter; it has a default where the parameter has one, and is supplied
where it has none. -/
theorem Provider.exists_parameter_of_mem {parameters : List Parameter} {fields : List String}
    {properties : List Property}
    (extracts : provider.properties definition parameters fields = .ok properties) {p : Property}
    (member : p ∈ properties) : ∃ parameter ∈ parameters,
      p.name = parameter.name ∧ p.hasDefault = parameter.hasDefault ∧
        (p.hasDefault = true ∨ p.input = true) := by
  induction parameters generalizing fields properties with
  | nil =>
    rw [Provider.properties] at extracts
    · cases extracts
      cases member
    · rintro _ _ _ _ ⟨⟩
  | cons parameter others inductionHypothesis =>
    cases fields with
    | nil =>
      cases extracts
      cases member
    | cons field fields =>
      rw [Provider.properties] at extracts
      obtain ⟨first, here, extracts⟩ := exists_of_bind_eq_ok extracts
      obtain ⟨rest, later, extracts⟩ := exists_of_bind_eq_ok extracts
      cases extracts
      rcases List.mem_cons.mp member with rfl | member
      · exact ⟨parameter, List.mem_cons_self, Provider.input_of_property_eq_ok here⟩
      · obtain ⟨parameter, inside, known⟩ := inductionHypothesis later member
        exact ⟨parameter, List.mem_cons_of_mem _ inside, known⟩

end

theorem ClassModule.hasDefault_of_parameterOf {types : OrderedMap String Hint} {formal : Formal}
    {parameter : Parameter} (makes : ClassModule.parameterOf types formal = .ok parameter) :
    parameter.hasDefault = formal.hasDefault := by
  rw [parameterOf] at makes
  split at makes
  · cases makes
    rfl
  · split at makes <;> cases makes
    rfl

/-- A property of a definition that is made from its fields has a default where its field has one, and
is supplied where it has none. -/
theorem ClassInfo.MadeFromFields.exists_field_of_property {m : ClassModule} {definition : ClassInfo}
    {schema : Schema} {record : RecordInfo} (made : definition.MadeFromFields record)
    (isRecord : definition.record? = some record)
    (extracts : m.provider.schema definition = .ok schema) {p : Property}
    (member : p ∈ schema.properties) : ∃ field ∈ record.fields,
      field.name = p.name ∧ field.inConstructor = true ∧ field.hasDefault = p.hasDefault ∧
        (p.hasDefault = true ∨ p.input = true) := by
  rw [Provider.schema] at extracts
  obtain ⟨properties, extracting, classifies⟩ := exists_of_bind_eq_ok extracts
  cases classifies
  rw [Provider.extract] at extracting
  obtain ⟨parameters?, found, extracting⟩ := exists_of_bind_eq_ok extracting
  cases parameters? with
  | none => cases extracting
  | some parameters =>
  dsimp only at extracting
  split at extracting
  · cases extracting
  obtain ⟨parameter, inside, named, same, either⟩ := Provider.exists_parameter_of_mem extracting member
  obtain ⟨owner, kind, constructor, -⟩ := made.constructor
  change m.parameters definition = _ at found
  rw [ClassModule.parameters, isRecord, constructor] at found
  dsimp only at found
  obtain ⟨types, -, found⟩ := exists_of_bind_eq_ok found
  split at found
  · cases found
  obtain ⟨_, making, found⟩ := exists_of_bind_eq_ok found
  cases found
  obtain ⟨formal, there, makes⟩ := exists_of_mem_mapM making inside
  obtain ⟨field, own, taken, rfl⟩ := mem_formalsOf.mp there
  refine ⟨field, own, ?_, taken, ?_, either⟩
  · rw [named, ClassModule.parameterOf_eq_ok makes]
    rfl
  · rw [same, ClassModule.hasDefault_of_parameterOf makes]
    rfl

/-! ### Stored snapshots -/

/-- If no field hides how snapshots are made, whatever is read is a snapshot. -/
theorem SnapshotClass.exists_snapshot_of_decode {s : SnapshotClass} (making : s.hidesMaking = false)
    {blob : Blob} {decoded : Decoded} (decodes : s.decode blob = .ok decoded) :
    ∃ snapshot, decoded = .snapshot snapshot := by
  rw [decode] at decodes
  obtain ⟨_, -, decodes⟩ := exists_of_bind_eq_ok decodes
  split at decodes
  · cases decodes
  · obtain ⟨values, -, decodes⟩ := exists_of_bind_eq_ok decodes
    rw [making, if_neg Bool.false_ne_true] at decodes
    obtain ⟨named, -, decodes⟩ := exists_of_bind_eq_ok decodes
    split at decodes
    · cases decodes
      exact ⟨_, rfl⟩
    · cases decodes
  · cases decodes

/-- A snapshot that is read was made of values for all fields of its constructor. -/
theorem SnapshotClass.exists_make_of_decode {s : SnapshotClass} {blob : Blob} {snapshot : Instance}
    (decodes : s.decode blob = .ok (.snapshot snapshot)) :
    ∃ named, Instance.make s.info [] named = .ok snapshot ∧
      named.map (·.1) = (s.fields.filter (·.inConstructor)).map (·.name) := by
  rw [decode] at decodes
  obtain ⟨_, -, decodes⟩ := exists_of_bind_eq_ok decodes
  split at decodes
  · cases decodes
  · obtain ⟨values, -, decodes⟩ := exists_of_bind_eq_ok decodes
    split at decodes
    · cases decodes
    · obtain ⟨named, converts, decodes⟩ := exists_of_bind_eq_ok decodes
      split at decodes
      · next made makes =>
        cases decodes
        refine ⟨named, makes, ?_⟩
        rw [converted] at converts
        obtain ⟨types, resolved, converts⟩ := exists_of_bind_eq_ok converts
        have length := length_eq_of_resolved (ofFault_eq_ok resolved)
        have names : named.map (·.1) =
            ((s.fields.zip types).filter (·.1.inConstructor)).map (·.1.name) := by
          refine map_eq_of_mapM_eq_ok Prod.fst (fun pair : Field × Hint => pair.1.name)
            (fun pair _ => ?_) converts
          obtain ⟨field, type⟩ := pair
          dsimp only
          split
          · cases s.ofEvaluation (convertField type _) with
            | error _ => trivial
            | ok value => rfl
          · trivial
        have fields : ((s.fields.zip types).filter (·.1.inConstructor)).map (·.1) =
            s.fields.filter (·.inConstructor) := by
          have all : (s.fields.zip types).map Prod.fst = s.fields := List.map_fst_zip length.ge
          rw [← congrArg (List.filter (·.inConstructor)) all, List.filter_map]
          rfl
        rw [names, ← fields, List.map_map]
        rfl
      · cases decodes
  · cases decodes

namespace Container

/-- What is stored for a container in a source, with the class that reads it; nothing if the container
keeps nothing. -/
def storedIn (c : Container) (session : ContainerSession) (source : Option Nat) :
    Option (SnapshotClass × Blob) :=
  match c.snapshotClass, c.artifacts.snapshotKey, source with
  | some s, some key, some number => ((session.storeAt number).load key).map (s, ·)
  | _, _, _ => none

/-- What a container takes of a source: nothing if it keeps nothing. -/
def sourceIn (c : Container) (session : ContainerSession) (source : Option Nat) : Option Source :=
  if c.artifacts.plan.parameters.contains snapshotSourceName then
    source.map fun number => .store (session.storeAt number)
  else none

/-- The class that reads what is stored is that of the snapshots. -/
theorem storedIn_eq_some {c : Container} {session : ContainerSession} {source : Option Nat}
    {s other : SnapshotClass} {blob : Blob} (isClass : c.snapshotClass = some s)
    (stored : c.storedIn session source = some (other, blob)) : s = other := by
  unfold storedIn at stored
  rw [isClass] at stored
  split at stored
  · next known _ =>
    cases known
    obtain ⟨_, -, same⟩ := Option.map_eq_some_iff.mp stored
    exact congrArg Prod.fst same
  · cases stored

/-- The snapshots that sources lead to: none if nothing is stored or what is stored is refused. -/
inductive LeadsTo (c : Container) (session : ContainerSession) (source : Option Nat) :
    Option Instance → Prop
  | nothing (absent : c.storedIn session source = none) : LeadsTo c session source none
  | refused {s : SnapshotClass} {blob : Blob} {className detail : String}
      (stored : c.storedIn session source = some (s, blob))
      (complains : s.decode blob = .error (.undecodable className detail)) :
      LeadsTo c session source none
  | read {s : SnapshotClass} {blob : Blob} {snapshot : Instance}
      (stored : c.storedIn session source = some (s, blob))
      (decodes : s.decode blob = .ok (.snapshot snapshot)) :
      LeadsTo c session source (some snapshot)

end Container

/-- The value that a property begins with: that of the snapshot if there is one and the property is
persisted, else that of the input if it has one, else the default of its field. -/
def Property.beginning (p : Property) (snapshot : Option Instance) (given : List (String × Value))
    (record : RecordInfo) : Option Value :=
  (if p.persisted then snapshot.bind fun i => (i.get p.name).toOption else none).or
    ((given.lookup p.name).or
      ((record.fields.find? (·.name = p.name)).bind Field.defaultValue?))

/-! ### Faithful containers -/

/-- Whether a container is that of a definition of a module, and nothing is in its way: instances of
the definition are made from its fields, all names mean the same inside of the generated classes,
each persisted property is a field of the snapshots, no field hides how snapshots are made, and nothing
takes the place of the runtime. -/
structure Container.IsFaithful (c : Container) (m : ClassModule) (definition : ClassInfo)
    (schema : Schema) (record : RecordInfo) : Prop where
  found : m.classOf? definition.id = some definition
  belongs : definition.id.moduleName = m.name
  bound : m.bound? (Text.normalName definition.name) = some (.classRef definition.id)
  extracted : m.provider.schema definition = .ok schema
  loaded : load m definition schema.synthesize = .ok c
  isRecord : definition.record? = some record
  made : definition.MadeFromFields record
  leaves : LeavesReceiver record.fields
  instances : ∃ named i, Instance.make definition [] named = .ok i
  unmasked : c.standIns.keys = []
  unchanged : ∀ p ∈ schema.properties, ∀ className, Code.insideName className p.name = p.name
  stored : ∀ s, c.snapshotClass = some s → ∀ p ∈ schema.persisted,
    ∃ field ∈ s.fields, field.name = p.name ∧ field.inConstructor = true
  making : ∀ s, c.snapshotClass = some s → s.hidesMaking = false

namespace Container.IsFaithful

variable {c : Container} {m : ClassModule} {definition : ClassInfo} {schema : Schema}
  {record : RecordInfo} {given : List (String × Value)} {state : Instance}

theorem artifacts_eq (known : c.IsFaithful m definition schema record) :
    c.artifacts = schema.synthesize :=
  (load_eq_ok known.loaded).1

theorem record_eq (known : c.IsFaithful m definition schema record) : c.record = definition :=
  record_eq_of_load known.loaded known.extracted known.found known.belongs known.bound

theorem names_eq (known : c.IsFaithful m definition schema record) :
    schema.properties.map (·.name) = record.fields.map (·.name) :=
  (known.made.properties_of_schema known.isRecord known.extracted).1

theorem nodup_names (known : c.IsFaithful m definition schema record) :
    (schema.properties.map (·.name)).Nodup := by
  rw [known.names_eq]
  exact known.made.distinct

theorem standIns_eq (known : c.IsFaithful m definition schema record) (name : String) :
    c.standIns.get? name = none :=
  OrderedMap.get?_eq_none_iff.mpr (by rw [known.unmasked]; exact List.not_mem_nil)

theorem callStandIn_eq (known : c.IsFaithful m definition schema record) (name : String)
    (count : Nat) : c.callStandIn name count = .ok () := by
  rw [callStandIn, known.standIns_eq]

/-- Without values for properties that have no default, no record can be made. -/
theorem exists_makeRecord_eq_error (known : c.IsFaithful m definition schema record) {p : Property}
    (member : p ∈ schema.properties) (lacks : p.hasDefault = false) :
    ∃ failure, c.makeRecord [] = .error failure ∧ failure.className = "TypeError" := by
  obtain ⟨field, own, -, taken, same, -⟩ :=
    known.made.exists_field_of_property known.isRecord known.extracted member
  obtain ⟨kind, make⟩ := known.made.make_eq
  rw [makeRecord, known.record_eq, make]
  cases binds : (constructorOf kind record.fields).bind [] ([] : List (String × Value)) with
  | error error => exact ⟨.state (.binding error), rfl, rfl⟩
  | ok bound =>
    obtain ⟨-, -, -, whole⟩ := bind_constructorOf_eq_ok binds
    rcases whole field own taken (same.trans lacks) with receiver | absent
    · exact absurd receiver (known.leaves.ne_receiverName own)
    · cases absent

/-- With values for some properties, among them all that have no default, a record is made. -/
theorem exists_make (known : c.IsFaithful m definition schema record)
    (own : (given.map (·.1)).Sublist (schema.properties.map (·.name)))
    (whole : ∀ p ∈ schema.properties, p.hasDefault = false → p.name ∈ given.map (·.1)) :
    ∃ state, Instance.make definition [] given = .ok state := by
  obtain ⟨named, made, makes⟩ := known.instances
  have taken := (known.made.properties_of_schema known.isRecord known.extracted).2
  refine known.made.exists_make known.leaves makes (own.nodup known.nodup_names)
    (fun entry member => ?_) fun field member inside lacks => ?_
  · have isField := own.subset (List.mem_map_of_mem member)
    rw [known.names_eq] at isField
    obtain ⟨field, there, same⟩ := List.mem_map.mp isField
    exact ⟨field, there, same, taken field there⟩
  · have isProperty : field.name ∈ schema.properties.map (·.name) := by
      rw [known.names_eq]
      exact List.mem_map_of_mem member
    obtain ⟨p, there, named⟩ := List.mem_map.mp isProperty
    obtain ⟨other, own', named', -, same, -⟩ :=
      known.made.exists_field_of_property known.isRecord known.extracted there
    have : other = field :=
      List.inj_on_of_nodup_map known.made.distinct own' member (named'.trans named)
    subst this
    exact named ▸ whole p there (same.symm.trans lacks)

/-- A record begins with the values that it is made of, and else with the defaults. -/
theorem get_of_make (known : c.IsFaithful m definition schema record)
    (makes : Instance.make definition [] given = .ok state) (distinct : (given.map (·.1)).Nodup)
    {p : Property} (member : p ∈ schema.properties) :
    ∃ value, p.beginning none given record = some value ∧ state.get p.name = .ok value := by
  obtain ⟨field, own, named, taken, -⟩ :=
    known.made.exists_field_of_property known.isRecord known.extracted member
  have start : p.beginning none given record = (given.lookup p.name).or field.defaultValue? := by
    have only : record.fields.find? (·.name = p.name) = some field :=
      named ▸ find?_name_eq known.made.distinct own
    rw [Property.beginning, only, Option.bind_none, ite_self, Option.none_or, Option.bind_some]
  rw [start]
  by_cases given' : p.name ∈ given.map (·.1)
  · obtain ⟨⟨_, value⟩, inside, same⟩ := List.mem_map.mp given'
    dsimp only at same
    subst same
    exact ⟨value, by rw [lookup_eq_some_of_mem distinct inside, Option.some_or],
      known.made.get_of_make makes inside⟩
  · obtain ⟨value, default, found⟩ :=
      known.made.get_default_of_make known.leaves makes own taken (named ▸ given')
    have absent : given.lookup p.name = none := by
      refine List.lookup_eq_none_iff.mpr fun pair inside => ?_
      rw [bne_iff_ne]
      exact fun same => given' (same ▸ List.mem_map_of_mem inside)
    exact ⟨value, by rw [absent, Option.none_or, default], named ▸ found⟩

theorem insideName_eq (known : c.IsFaithful m definition schema record) {p : Property}
    (member : p ∈ schema.properties) : c.insideName p.name = p.name :=
  known.unchanged p member _

/-- A container keeps something if some property is persisted, and has a class of snapshots and a key
then. -/
theorem snapshotClass_cases (known : c.IsFaithful m definition schema record) :
    (schema.hasPersisted = false ∧ c.snapshotClass = none) ∨
      ∃ s, schema.hasPersisted = true ∧ c.snapshotClass = some s ∧
        c.artifacts.snapshotKey = some (snapshotKey schema.name) ∧
        c.artifacts.plan.parameters.contains snapshotSourceName = true ∧
        ∃ kept, c.CanReplace s kept record := by
  obtain ⟨artifacts, -, generated, declared, surroundings, snapshot, declares, snapshotClass⟩ :=
    load_eq_ok known.loaded
  cases persisted : schema.hasPersisted with
  | false =>
    have noType : schema.synthesize.snapshot = none := if_neg (by rw [persisted]; exact nofun)
    rw [noType] at declares
    cases declares
    exact Or.inl ⟨rfl, snapshotClass⟩
  | true =>
    have isType : schema.synthesize.snapshot =
        some ⟨schema.name ++ "Snapshot", .snapshot, schema.persisted.map (·.field)⟩ :=
      if_pos persisted
    rw [isType] at declares
    obtain ⟨info, rfl, isGenerated⟩ := exists_isGeneratedFrom declares
    obtain ⟨kept, -, snapshots, -⟩ := isGenerated.exists_record
    have stored := known.stored _ snapshotClass
    have own : c.artifacts.plan.restoredFields = schema.persisted.map (·.name) := by
      rw [artifacts]
      rfl
    have taken := (known.made.properties_of_schema known.isRecord known.extracted).2
    refine Or.inr ⟨_, rfl, snapshotClass, ?_, ?_, kept, ?_⟩
    · rw [artifacts]
      exact if_pos persisted
    · rw [artifacts, List.contains_iff_mem]
      show _ ∈ (if schema.hasPersisted then _ else _) ++ _
      rw [if_pos persisted]
      exact List.mem_append_left _ List.mem_cons_self
    · exact {
        snapshots
        stored := fun name member => by
          rw [own] at member
          obtain ⟨p, inside, rfl⟩ := List.mem_map.mp member
          rw [known.insideName_eq (List.mem_of_mem_filter inside)]
          exact stored p inside
        records := known.record_eq.symm ▸ known.made
        isRecord := known.record_eq.symm ▸ known.isRecord
        leaves := known.leaves
        restored := fun name member => by
          rw [own] at member
          obtain ⟨p, inside, rfl⟩ := List.mem_map.mp member
          obtain ⟨field, there, same, taken, -⟩ := known.made.exists_field_of_property
            known.isRecord known.extracted (List.mem_of_mem_filter inside)
          exact ⟨field, there, same, taken⟩
        distinct := by
          rw [own]
          exact (List.filter_sublist.map _).nodup known.nodup_names
        replaces := known.standIns_eq _ }

/-- The initial state is a record of the input, of which the persisted fields are replaced if what is
stored can be read. -/
theorem initialState_eq (known : c.IsFaithful m definition schema record)
    (session : ContainerSession) (source : Option Nat) {input : Option Input}
    (first : c.fromInput (if c.artifacts.input.isSome then input else none) = .ok state) :
    c.initialState (c.sourceIn session source) input =
      match c.storedIn session source with
      | none => .ok (state, [])
      | some (s, blob) =>
        match s.decode blob with
        | .ok restored => (c.replaceFields state restored).map (·, [])
        | .error (.undecodable className detail) =>
          .ok (state, [SnapshotClass.ignored (snapshotKey schema.name) (.undecodable className detail)])
        | .error (.failed fault) => .error (.snapshot (.failed fault)) := by
  rcases known.snapshotClass_cases with ⟨-, without⟩ | ⟨s, -, isClass, isKey, takes, -⟩
  · unfold storedIn
    rw [initialState, without]
    exact bind_eq_of_eq_ok first rfl
  · have found : c.storedIn session source = (source.bind fun number =>
        (session.storeAt number).load (snapshotKey schema.name)).map (s, ·) := by
      unfold storedIn
      rw [isClass, isKey]
      cases source <;> rfl
    have loads : (source.map session.storeAt).bind (·.load (snapshotKey schema.name)) =
        source.bind fun number => (session.storeAt number).load (snapshotKey schema.name) := by
      cases source <;> rfl
    have sources : (source.map fun number => Source.store (session.storeAt number)).mapM
        Source.store? = .ok (source.map session.storeAt) := by
      cases source <;> rfl
    rw [initialState, isClass, isKey, sourceIn, if_pos takes, found]
    refine bind_eq_of_eq_ok first ?_
    dsimp only
    refine bind_eq_of_eq_ok (known.callStandIn_eq _ _) (bind_eq_of_eq_ok sources ?_)
    rw [SnapshotClass.restore, loads]
    cases source.bind fun number => (session.storeAt number).load (snapshotKey schema.name) with
    | none => rfl
    | some blob =>
      dsimp only [Option.map_some]
      cases s.decode blob with
      | ok restored =>
        show (c.replaceFields state restored).bind _ = (c.replaceFields state restored).map (·, [])
        cases c.replaceFields state restored <;> rfl
      | error error => cases error <;> rfl

/-- The persisted fields of a state that is restored begin with the values of the snapshot, and all
others as they did. -/
theorem beginning_of_restores (known : c.IsFaithful m definition schema record)
    {snapshot restored : Instance} (restores : c.Restores state snapshot restored) {p : Property}
    (member : p ∈ schema.properties) {value : Value}
    (begins : p.beginning none given record = some value) (found : state.get p.name = .ok value) :
    ∃ value, p.beginning (some snapshot) given record = some value ∧
      restored.get p.name = .ok value := by
  have own : c.artifacts.plan.restoredFields = schema.persisted.map (·.name) := by
    rw [known.artifacts_eq]
    rfl
  cases persisted : p.persisted with
  | true =>
    have inside : p.name ∈ c.artifacts.plan.restoredFields := by
      rw [own]
      exact List.mem_map_of_mem (List.mem_filter.mpr ⟨member, persisted⟩)
    obtain ⟨value, read, found⟩ := restores.persisted p.name inside
    rw [known.insideName_eq member] at read
    refine ⟨value, ?_, found⟩
    rw [Property.beginning, if_pos persisted, Option.bind_some, read]
    rfl
  | false =>
    have outside : p.name ∉ c.artifacts.plan.restoredFields := by
      rw [own]
      intro inside
      obtain ⟨other, kept, same⟩ := List.mem_map.mp inside
      obtain ⟨there, isPersisted⟩ := List.mem_filter.mp kept
      rw [List.inj_on_of_nodup_map known.nodup_names there member same, persisted] at isPersisted
      cases isPersisted
    refine ⟨value, ?_, (restores.others p.name outside).trans found⟩
    rw [← begins, Property.beginning, Property.beginning, persisted]
    rfl

/-- What is read of a source comes before what a record begins with. -/
theorem exists_initialState (known : c.IsFaithful m definition schema record)
    {session : ContainerSession} {source : Option Nat} {snapshot : Option Instance}
    (leads : c.LeadsTo session source snapshot) {input : Option Input}
    (first : c.fromInput (if c.artifacts.input.isSome then input else none) = .ok state)
    (makes : Instance.make definition [] given = .ok state) (distinct : (given.map (·.1)).Nodup) :
    ∃ begun log, c.initialState (c.sourceIn session source) input = .ok (begun, log) ∧
      ∀ p ∈ schema.properties, ∃ value,
        p.beginning snapshot given record = some value ∧ begun.get p.name = .ok value := by
  rw [known.initialState_eq session source first]
  cases leads with
  | nothing absent =>
    rw [absent]
    exact ⟨state, [], rfl, fun p member => known.get_of_make makes distinct member⟩
  | refused stored complains =>
    rw [stored]
    dsimp only
    rw [complains]
    exact ⟨state, _, rfl, fun p member => known.get_of_make makes distinct member⟩
  | @read s blob snapshot stored decodes =>
    obtain ⟨named, snapshots, names⟩ := SnapshotClass.exists_make_of_decode decodes
    rcases known.snapshotClass_cases with ⟨-, without⟩ | ⟨_, -, isClass, -, -, kept, replaces⟩
    · unfold storedIn at stored
      rw [without] at stored
      cases stored
    · obtain rfl := storedIn_eq_some isClass stored
      obtain ⟨restored, replaced, restores⟩ :=
        replaces.exists_replaceFields (known.record_eq.symm ▸ makes) snapshots names
      rw [stored]
      dsimp only
      rw [decodes]
      dsimp only
      rw [replaced]
      refine ⟨restored, [], rfl, fun p member => ?_⟩
      obtain ⟨value, begins, found⟩ := known.get_of_make makes distinct member
      exact known.beginning_of_restores restores member begins found

end Container.IsFaithful

end StateContainer
