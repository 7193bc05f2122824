/-
This file says which value each property of a new delegate begins with.

A factory builds delegates. What a call gives takes precedence over what the factory was given, and
what is read from a snapshot takes precedence over the input, which takes precedence over the
defaults of the definition. A delegate is built unless there is no input and some property needs one.

There is one exception. Reading what is stored may fail with a fault that is no complaint about what
is stored, and then nothing is built.
-/

import StateContainer.Proofs.Container.Beginning

namespace StateContainer

open StateContainer.Class ContainerSession

/-! ### Inputs -/

namespace Container

/-- The inputs that have some values for the supplied properties of a schema: one with a value for each
of them, or none, without any values. -/
inductive Supplies (c : Container) (schema : Schema) : Option Input → List (String × Value) → Prop
  | nothing : Supplies c schema none []
  | values {input : Input} {given : List (String × Value)}
      (names : given.map (·.1) = schema.inputs.map (·.name))
      (each : ∀ entry ∈ given, input.get (c.insideName entry.1) = .ok entry.2) :
      Supplies c schema (some input) given

end Container

/-- Whether there is no input though some property needs one. -/
def Schema.MissesInput (schema : Schema) (input : Option Container.Input) : Prop :=
  input = none ∧ ∃ p ∈ schema.inputs, p.hasDefault = false

theorem Schema.inputs_eq_nil {schema : Schema} (without : schema.hasInput = false) :
    schema.inputs = [] :=
  List.filter_eq_nil_iff.mpr fun p member supplied =>
    Bool.false_ne_true (without.symm.trans (List.any_eq_true.mpr ⟨p, member, supplied⟩))

namespace Container.IsFaithful

variable {c : Container} {m : ClassModule} {definition : ClassInfo} {schema : Schema}
  {record : RecordInfo} {given : List (String × Value)} {input : Option Input}

/-- The record that the input makes is made of its values. -/
theorem fromInput_eq (known : c.IsFaithful m definition schema record)
    (supplies : c.Supplies schema input given) :
    c.fromInput (if c.artifacts.input.isSome then input else none) = c.makeRecord given := by
  have takes : c.artifacts.input.isSome = schema.hasInput := by
    rw [known.artifacts_eq]
    show schema.input?.isSome = _
    rw [Schema.input?]
    cases schema.hasInput <;> rfl
  cases supplies with
  | nothing => rw [ite_self, fromInput]
  | @values input given names each =>
    cases supplied : schema.hasInput with
    | true =>
      refine Takes.fromInput_eq (.opened (takes.trans supplied) ?_ each)
      rw [names, known.artifacts_eq, Schema.synthesize, Schema.plan]
    | false =>
      rw [Schema.inputs_eq_nil supplied, List.map_nil, List.map_eq_nil_iff] at names
      rw [takes, supplied, if_neg Bool.false_ne_true, fromInput, names]

/-- An input has values for some properties, and for all that have no default unless it is missing. -/
theorem sublist_of_supplies (known : c.IsFaithful m definition schema record)
    (supplies : c.Supplies schema input given) :
    (given.map (·.1)).Sublist (schema.properties.map (·.name)) ∧
      (¬schema.MissesInput input →
        ∀ p ∈ schema.properties, p.hasDefault = false → p.name ∈ given.map (·.1)) := by
  have needed {p : Property} (member : p ∈ schema.properties) (lacks : p.hasDefault = false) :
      p ∈ schema.inputs := by
    obtain ⟨field, -, -, -, -, either⟩ :=
      known.made.exists_field_of_property known.isRecord known.extracted member
    exact List.mem_filter.mpr
      ⟨member, either.resolve_left fun has => Bool.false_ne_true (lacks.symm.trans has)⟩
  cases supplies with
  | nothing =>
    exact ⟨List.nil_sublist _,
      fun enough p member lacks => absurd ⟨rfl, p, needed member lacks, lacks⟩ enough⟩
  | values names each =>
    rw [names]
    exact ⟨List.filter_sublist.map _,
      fun _ p member lacks => List.mem_map_of_mem (needed member lacks)⟩

/-- Every source leads to a snapshot or to none, unless reading what is stored fails. -/
theorem exists_leadsTo (known : c.IsFaithful m definition schema record)
    (session : ContainerSession) (source : Option Nat) :
    (∃ snapshot, c.LeadsTo session source snapshot) ∨
      ∃ s blob fault, c.storedIn session source = some (s, blob) ∧
        s.decode blob = .error (.failed fault) := by
  cases stored : c.storedIn session source with
  | none => exact Or.inl ⟨none, .nothing stored⟩
  | some found =>
    obtain ⟨s, blob⟩ := found
    cases decodes : s.decode blob with
    | error error =>
      cases error with
      | undecodable className detail => exact Or.inl ⟨none, .refused stored decodes⟩
      | failed fault => exact Or.inr ⟨s, blob, fault, rfl, decodes⟩
    | ok decoded =>
      rcases known.snapshotClass_cases with ⟨-, without⟩ | ⟨own, -, isClass, -⟩
      · unfold storedIn at stored
        rw [without] at stored
        cases stored
      · obtain rfl := storedIn_eq_some isClass stored
        obtain ⟨snapshot, rfl⟩ :=
          SnapshotClass.exists_snapshot_of_decode (known.making own isClass) decodes
        exact Or.inl ⟨some snapshot, .read stored decodes⟩

end Container.IsFaithful

/-! ### Factories -/

namespace ContainerSession

/-- The arguments that a factory builds a delegate of when it is called with some: what the call leaves
out is taken from the factory. -/
def effective (c : Container) (factory : Factory) (arguments : BuildArguments) : BuildArguments where
  source :=
    if c.artifacts.plan.parameters.contains snapshotSourceName then
      some ((arguments.source.getD none).or factory.source)
    else none
  input :=
    if c.artifacts.plan.parameters.contains stateInputName then
      some ((arguments.input.getD none).or factory.input)
    else none

variable {session : ContainerSession} {factory : Factory} {arguments : BuildArguments}

/-- A factory builds delegates like anybody else. -/
theorem run_create (session : ContainerSession) (factory : Factory) (name : String)
    (arguments : BuildArguments) : session.run (create factory name arguments) =
      session.run (newDelegate name (effective session.container factory arguments)) := by
  have same : create factory name arguments session =
      newDelegate name (effective session.container factory arguments) session := by
    rw [create, newDelegate, createBy]
    rfl
  rw [run, run, same]

/-- The constructor takes what factories give to it. -/
theorem requireParameters_effective (functionName : String) :
    requireParameters functionName (effective session.container factory arguments) session =
      .ok ((), session) := by
  rw [requireParameters, get_bind, effective]
  dsimp only
  cases session.container.artifacts.plan.parameters.contains snapshotSourceName <;>
    cases session.container.artifacts.plan.parameters.contains stateInputName <;> rfl

variable {m : ClassModule} {definition : ClassInfo} {schema : Schema} {record : RecordInfo}
  {given : List (String × Value)} {source : Option Nat} {input : Option Container.Input}

/-- The source that a factory builds a delegate of. -/
theorem sourceOf_effective
    (isSource : (arguments.source.getD none).or factory.source = source.map .store) :
    ((effective session.container factory arguments).source.getD none).map session.sourceOf =
      session.container.sourceIn session source := by
  rw [effective, Container.sourceIn, isSource]
  dsimp only
  split
  · rw [Option.getD_some, Option.map_map]
    rfl
  · rfl

/-- The record that a factory builds a delegate of. -/
theorem fromInput_effective (known : session.container.IsFaithful m definition schema record)
    (isInput : (arguments.input.getD none).or factory.input = input)
    (supplies : session.container.Supplies schema input given) :
    session.container.fromInput (if session.container.artifacts.input.isSome then
        (effective session.container factory arguments).input.getD none else none) =
      session.container.makeRecord given := by
  have same : session.container.artifacts.plan.parameters.contains stateInputName =
      session.container.artifacts.input.isSome := by
    rw [known.artifacts_eq]
    show ((if schema.hasPersisted then [_] else []) ++ (if schema.hasInput then [_] else [])).contains
      _ = schema.input?.isSome
    rw [Schema.input?]
    cases schema.hasPersisted <;> cases schema.hasInput <;> rfl
  rw [← known.fromInput_eq supplies, effective, isInput, same]
  cases session.container.artifacts.input.isSome <;> rfl

/-- If the initial state cannot be made, a factory builds nothing. -/
theorem run_create_eq_error {failure : Failure} {name : String}
    (isSource : (arguments.source.getD none).or factory.source = source.map .store)
    (fails : session.container.initialState (session.container.sourceIn session source)
      ((effective session.container factory arguments).input.getD none) = .error failure) :
    session.run (create factory name arguments) = (.error failure, session) := by
  rw [← sourceOf_effective isSource] at fails
  rw [run_create]
  exact newDelegate_eq_error (requireParameters_effective _) fails

/-- If the initial state has values for all properties, a factory builds a delegate that begins with
them. -/
theorem exists_run_create {state : Instance} {log : List String} {begins : Property → Option Value}
    (known : session.container.IsFaithful m definition schema record)
    (isSource : (arguments.source.getD none).or factory.source = source.map .store)
    (initial : session.container.initialState (session.container.sourceIn session source)
      ((effective session.container factory arguments).input.getD none) = .ok (state, log))
    (each : ∀ p ∈ schema.properties, ∃ value, begins p = some value ∧ state.get p.name = .ok value)
    (name : String) :
    ∃ built, session.run (create factory name arguments) = (.ok (), built) ∧
      built.holdings.get? name = some (.delegate session.built) ∧
      ∀ p ∈ schema.properties, begins p = some (built.held session.built p.name) := by
  rw [← sourceOf_effective isSource] at initial
  have properties : session.container.properties = schema.properties := by
    rw [Container.properties, known.artifacts_eq]
    rfl
  have found {p : Property} (member : p ∈ schema.properties) : ∃ value, begins p = some value ∧
      state.get (session.container.insideName p.name) = .ok value := by
    rw [known.insideName_eq member]
    exact each p member
  have starts := (initialState_eq_ok_iff
    (requireParameters_effective (constructorName session))).mpr ⟨log, initial, rfl⟩
  have builds : ∃ built, session.run (newDelegate name (effective session.container factory
      arguments)) = (.ok (), built) := by
    refine (exists_newDelegate_iff starts).mpr fun p member => ?_
    obtain ⟨value, -, inside⟩ := found (properties ▸ member)
    exact ⟨⟨value, inside⟩, known.callStandIn_eq _ _, known.callStandIn_eq _ _⟩
  obtain ⟨built, made⟩ := builds
  obtain ⟨other, isBuilt⟩ := newDelegate_eq_ok made
  obtain ⟨_, same⟩ := isBuilt.initialState
  cases same.symm.trans starts
  refine ⟨built, made, isBuilt.named, fun p member => ?_⟩
  obtain ⟨value, begun, inside⟩ := found member
  rw [begun, isBuilt.held_eq (properties.symm ▸ member) inside]

/-- A factory builds a delegate of what is given in the call, and else of what it was given itself,
unless there is no input and some property needs one. Each property begins with what was stored for
it, if it is persisted and that can be read, else with what the input has for it, else with the
default of its field. Nothing else keeps a delegate from being built than a fault in reading what is
stored that is no complaint about it. -/
theorem run_create_by_precedence (known : session.container.IsFaithful m definition schema record)
    (isSource : (arguments.source.getD none).or factory.source = source.map .store)
    (isInput : (arguments.input.getD none).or factory.input = input)
    (supplies : session.container.Supplies schema input given) (name : String) :
    (schema.MissesInput input → ∃ failure,
      session.run (create factory name arguments) = (.error failure, session) ∧
        failure.className = "TypeError") ∧
    (¬schema.MissesInput input →
      (∃ snapshot built, session.container.LeadsTo session source snapshot ∧
        session.run (create factory name arguments) = (.ok (), built) ∧
        built.holdings.get? name = some (.delegate session.built) ∧
        ∀ p ∈ schema.properties,
          p.beginning snapshot given record = some (built.held session.built p.name)) ∨
      ∃ s blob fault, session.container.storedIn session source = some (s, blob) ∧
        s.decode blob = .error (.failed fault) ∧
        session.run (create factory name arguments) =
          (.error (.snapshot (.failed fault)), session)) := by
  have first := fromInput_effective known isInput supplies
  refine ⟨fun misses => ?_, fun enough => ?_⟩
  · obtain ⟨rfl, p, member, lacks⟩ := misses
    cases supplies
    obtain ⟨failure, fails, isTypeError⟩ :=
      known.exists_makeRecord_eq_error (List.mem_of_mem_filter member) lacks
    refine ⟨failure, run_create_eq_error isSource ?_, isTypeError⟩
    rw [Container.initialState, first, fails]
    rfl
  · obtain ⟨own, whole⟩ := known.sublist_of_supplies supplies
    obtain ⟨state, makes⟩ := known.exists_make own (whole enough)
    rw [Container.makeRecord, known.record_eq, makes] at first
    change _ = Except.ok state at first
    rcases known.exists_leadsTo session source with ⟨snapshot, leads⟩ | ⟨s, blob, fault, stored, fails⟩
    · obtain ⟨begun, log, initial, each⟩ :=
        known.exists_initialState leads first makes (own.nodup known.nodup_names)
      obtain ⟨built, made, named, begins⟩ := exists_run_create known isSource initial each name
      exact Or.inl ⟨snapshot, built, leads, made, named, begins⟩
    · refine Or.inr ⟨s, blob, fault, stored, fails, run_create_eq_error isSource ?_⟩
      rw [known.initialState_eq session source first, stored]
      dsimp only
      rw [fails]

end ContainerSession

/-! ### Fields of all kinds -/

namespace Ledger

open Keeper

/-- A definition with a field that is supplied and kept, one that is supplied and has no default, one
that is kept, and one that is neither. -/
def declaration : Declaration where
  name := "S"
  fields := [
    { name := "both", type := "int"
      carried := .options {
        default := some (.int 1)
        remark := .markers { persist := true, input := true } } },
    { name := "given", type := "int", carried := .options { remark := .markers { input := true } } },
    { name := "kept", type := "int"
      carried := .options { default := some (.int 3), remark := .markers { persist := true } } },
    { name := "plain", type := "int", carried := .value (.int 4) }]
  state := some .none

def classModule : ClassModule :=
  (ClassModule.build "app.state" [declaration] []).toOption.getD Inhabited.default

def classInfo : ClassInfo :=
  (classModule.classOf? { moduleName := "app.state", path := "S" }).getD Inhabited.default

def schema : Schema :=
  (classModule.provider.schema classInfo).toOption.getD Inhabited.default

/-- The container, or why it cannot be loaded. -/
def load : Loading Container :=
  Container.load classModule classInfo schema.synthesize

/-- Two numbers that are kept. -/
def stored : String := "\x7b\"both\": 10, \"kept\": 30\x7d"

/-- A session with a store that keeps them. -/
def keepingTwo (c : Container) : ContainerSession :=
  { start c with
    stores := [{ blobs := ⟨[("S_BUNDLE_KEY", .text stored)]⟩ }] }

/-- A factory that has the store and some numbers, and a call that gives others. -/
def factory : Factory where
  source := some (.store 0)
  input := some (.attributes [("both", .int 7), ("given", .int 8)])

def supplied : List (String × Value) := [("both", .int 20), ("given", .int 21)]

def arguments : BuildArguments := { input := some (some (.attributes supplied)) }

/-- Whether a property is a field of snapshots that is given to the constructor. -/
def isKept (s : SnapshotClass) (p : Property) : Bool :=
  s.fields.any fun field => field.name = p.name && field.inConstructor

/-- Whether the container of the definition is faithful, as far as it can be computed. -/
def isFaithful (c : Container) (s : SnapshotClass) : Bool :=
  (ClassModule.build "app.state" [declaration] []).toOption.isSome &&
  (classModule.classOf? { moduleName := "app.state", path := "S" }).isSome &&
  classInfo.id = { moduleName := "app.state", path := "S" } &&
  classInfo.ownConstructor.isSome && !classInfo.constructorIsWritten &&
  classInfo.id.moduleName = classModule.name &&
  isClassOf classInfo.id (classModule.bound? (Text.normalName classInfo.name)) &&
  (classModule.provider.schema classInfo).toOption.isSome &&
  schema.properties.map (·.name) = ["both", "given", "kept", "plain"] &&
  (Instance.make classInfo [] supplied).toOption.isSome &&
  c.standIns.keys = [] && schema.persisted.all (isKept s) && !s.hidesMaking

/-- The number that a value is. -/
def number? : Value → Option Int
  | .int number => some number
  | _ => none

/-- What is stored can be read, and the properties begin with these numbers then. -/
def beginsWith (c : Container) (s : SnapshotClass) (record : RecordInfo) (numbers : List Int) : Bool :=
  match c.storedIn (keepingTwo c) (some 0), s.decode (.text stored) with
  | some (_, .text text), .ok (.snapshot snapshot) =>
    text = stored && schema.properties.map (fun p =>
      (p.beginning (some snapshot) supplied record).bind number?) = numbers.map some
  | _, _ => false

theorem container_isFaithful {c : Container} {s : SnapshotClass} {record : RecordInfo}
    (loaded : load = .ok c) (isClass : c.snapshotClass = some s)
    (isRecord : classInfo.record? = some record) (known : isFaithful c s = true) :
    c.IsFaithful classModule classInfo schema record := by
  simp only [isFaithful, Bool.and_eq_true, decide_eq_true_eq, Bool.not_eq_true', and_assoc] at known
  obtain ⟨built, found, own, constructor, unwritten, belongs, bound, extracts, names, instances,
    unmasked, kept, making⟩ := known
  obtain ⟨_, info⟩ := Option.isSome_iff_exists.mp found
  have found : classModule.classOf? classInfo.id = some classInfo := by
    rw [own, classInfo, info]
    rfl
  have built : ClassModule.build _ _ _ = .ok classModule := eq_ok_getD_of_isSome built
  obtain ⟨other, isOther, made⟩ :=
    (ClassModule.isRegular_of_build built).exists_madeFromFields found constructor unwritten
  obtain rfl := Option.some.inj (isRecord.symm.trans isOther)
  have extracted : classModule.provider.schema classInfo = .ok schema := eq_ok_getD_of_isSome extracts
  have fields := (made.properties_of_schema isRecord extracted).1
  obtain ⟨instance', makes⟩ := Option.isSome_iff_exists.mp instances
  exact {
    found
    belongs
    bound := eq_of_isClassOf bound
    extracted
    loaded
    isRecord
    made
    leaves := fun field member same => by
      have inside := List.mem_map_of_mem (f := (·.name)) member
      rw [← fields, names, same] at inside
      exact absurd inside (by decide)
    instances := ⟨supplied, instance', toOption_eq_some_iff.mp makes⟩
    unmasked
    unchanged := fun p member => by
      have inside := List.mem_map_of_mem (f := (·.name)) member
      rw [names] at inside
      have isPublic : ∀ name ∈ ["both", "given", "kept", "plain"],
          ['_', '_'].isPrefixOf name.toList = false := by decide
      exact insideName_eq (isPublic _ inside)
    stored := fun other isOther p member => by
      obtain rfl := Option.some.inj (isClass.symm.trans isOther)
      obtain ⟨field, inside, same⟩ := List.any_eq_true.mp (List.all_eq_true.mp kept p member)
      rw [Bool.and_eq_true, decide_eq_true_eq] at same
      exact ⟨field, inside, same⟩
    making := fun other isOther => Option.some.inj (isClass.symm.trans isOther) ▸ making }

theorem exists_read {c : Container} {s : SnapshotClass} {record : RecordInfo} {numbers : List Int}
    (isClass : c.snapshotClass = some s) (known : beginsWith c s record numbers = true) :
    ∃ snapshot, c.storedIn (keepingTwo c) (some 0) = some (s, .text stored) ∧
      s.decode (.text stored) = .ok (.snapshot snapshot) ∧
      schema.properties.map (fun p => (p.beginning (some snapshot) supplied record).bind number?) =
        numbers.map some := by
  unfold beginsWith at known
  split at known
  · next found decodes =>
    rw [Bool.and_eq_true, decide_eq_true_eq, decide_eq_true_eq] at known
    obtain ⟨rfl, beginnings⟩ := known
    obtain rfl := Container.storedIn_eq_some isClass found
    exact ⟨_, found, decodes, beginnings⟩
  · cases known

/-- What is kept comes before what is given in the call, which comes before what the factory has, and
that before the defaults. -/
theorem run_create_begins : ∃ c built, load = .ok c ∧
    (keepingTwo c).run (create factory "d" arguments) = (.ok (), built) ∧
    schema.properties.map (fun p => number? (built.held 0 p.name)) =
      [some 10, some 21, some 30, some 4] := by
  have runs : (load.toOption.bind fun c => c.snapshotClass.bind fun s => classInfo.record?.map
      fun record => (isFaithful c s, beginsWith c s record [10, 21, 30, 4])) = some (true, true) := by
    decide +kernel
  obtain ⟨c, loaded, runs⟩ := Option.bind_eq_some_iff.mp runs
  obtain ⟨s, isClass, runs⟩ := Option.bind_eq_some_iff.mp runs
  obtain ⟨record, isRecord, runs⟩ := Option.map_eq_some_iff.mp runs
  obtain ⟨faithful, numbers⟩ := Prod.mk.inj runs
  have loaded := toOption_eq_some_iff.mp loaded
  have known : (keepingTwo c).container.IsFaithful classModule classInfo schema record :=
    container_isFaithful loaded isClass isRecord faithful
  obtain ⟨snapshot, found, decodes, beginnings⟩ := exists_read isClass numbers
  have names : supplied.map (·.1) = schema.inputs.map (·.name) := by decide +kernel
  have supplies : (keepingTwo c).container.Supplies schema (some (.attributes supplied)) supplied := by
    refine .values names fun entry member => ?_
    have isPublic : ∀ entry ∈ supplied, ['_', '_'].isPrefixOf entry.1.toList = false := by
      decide
    rw [Container.insideName, insideName_eq (isPublic entry member)]
    rcases List.mem_pair.mp member with rfl | rfl <;> rfl
  have source : (arguments.source.getD none).or factory.source = (some 0).map .store := rfl
  obtain ⟨-, builds⟩ := run_create_by_precedence known source rfl supplies "d"
  rcases builds fun misses => nomatch misses.1 with
    ⟨other, built, leads, made, -, begins⟩ | ⟨_, _, _, inside, fails, -⟩
  · obtain rfl : other = some snapshot := by
      cases leads with
      | nothing absent => cases found.symm.trans absent
      | refused inside complains =>
        cases found.symm.trans inside
        cases decodes.symm.trans complains
      | read inside again =>
        cases found.symm.trans inside
        cases decodes.symm.trans again
        rfl
    refine ⟨c, built, loaded, made, (List.map_congr_left fun p member => ?_).trans beginnings⟩
    rw [begins p member]
    rfl
  · cases found.symm.trans inside
    cases decodes.symm.trans fails

end Ledger

/-! ### A list that holds infinity -/

namespace Keeper

/-- A factory that has a store. -/
def factoryWithStore : Factory := { source := some (.store 0), input := none }

/-- Where infinity is stored, a factory builds nothing, though no property needs an input. -/
theorem exists_create_overflows : numbers.schema.inputs = [] ∧
    ∃ c failure after, numbers.load = .ok c ∧
      (keepingText c infinite).run (create factoryWithStore "d" {}) = (.error failure, after) ∧
      failure.className = "OverflowError" := by
  have inputs : numbers.schema.inputs.map (·.name) = [] := by decide +kernel
  have runs : (numbers.load.toOption.map fun c =>
      ((keepingText c infinite).run (create factoryWithStore "d" {})).1.mapError Failure.className) =
      some (.error "OverflowError") := by
    decide +kernel
  obtain ⟨c, loaded, fails⟩ := Option.map_eq_some_iff.mp runs
  obtain ⟨failure, failed, named⟩ := mapError_eq_error_iff.mp fails
  exact ⟨List.map_eq_nil_iff.mp inputs, c, failure, _, toOption_eq_some_iff.mp loaded,
    Prod.ext failed rfl, named⟩

end Keeper

end StateContainer
