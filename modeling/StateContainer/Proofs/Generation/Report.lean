/-
This file says what a run of the generator makes of a list of definitions, if each of them has a
schema or faults of its own.

No fault ends such a run, and none touches another definition: the modules that are made and where
they go are those of the definitions with a schema, in order, each as if it were processed alone.
The faults are kept by the qualified names of their definitions, the last one of a name, and each of
them is logged. So definitions with faults may come and go anywhere in the list.
-/

import StateContainer.Batch
import StateContainer.Proofs.Generation.Place

namespace StateContainer

variable {δ ε σ : Type}

/-! ### Modules on their way -/

/-- A store that remembers all that it is given, in order. -/
def Sink.recorder : Sink (List Emission) :=
  ⟨fun emissions package moduleName body => emissions ++ [⟨package, moduleName, body⟩]⟩

/-! ### Single definitions -/

namespace Provider

/-- Whether a definition has a schema, or else faults of its own. -/
def IsRegular (provider : Provider δ ε) (definition : δ) : Prop :=
  ∀ error, provider.schema definition ≠ .error (.provider error)

/-- Whether a definition has a schema. -/
def hasSchema (provider : Provider δ ε) (definition : δ) : Bool :=
  (provider.schema definition).isOk

/-- The fault of a definition, if it has any. -/
def fault? (provider : Provider δ ε) (definition : δ) : Option String :=
  match provider.schema definition with
  | .error (.metadata error) => some error.message
  | .error (.signature error) => some error.message
  | _ => none

/-- What is reported about a definition with a fault: its name and the fault. -/
def failure? (provider : Provider δ ε) (definition : δ) : Option (String × String) :=
  (provider.fault? definition).map ((provider.describe definition).qualifiedName, ·)

/-- What is generated for a definition. -/
def artifacts? (provider : Provider δ ε) (definition : δ) : Option ArtifactSet :=
  (provider.schema definition).toOption.map (·.synthesize)

/-- The module of a definition on its way to a store. -/
def emission? (provider : Provider δ ε) (runtimeImport : String) (definition : δ) : Option Emission :=
  (provider.artifacts? definition).map fun a =>
    ⟨(provider.describe definition).package, a.moduleName, a.render runtimeImport⟩

/-- What a run makes of a definition alone. -/
def alone (provider : Provider δ ε) (runtimeImport : String) (definition : δ) :
    Batch (List Emission) :=
  (Batch.processAll { sink := [] } provider Sink.recorder runtimeImport [definition]).1

variable {provider : Provider δ ε} {definition : δ}

/-- A definition has a schema, or a fault, if nothing else is wrong with it. -/
theorem IsRegular.fault?_eq_none_iff (regular : provider.IsRegular definition) :
    provider.fault? definition = none ↔ ∃ schema, provider.schema definition = .ok schema := by
  unfold fault?
  cases found : provider.schema definition with
  | ok schema => simp
  | error cause =>
    cases cause with
    | metadata error => simp
    | signature error => simp
    | provider error => exact absurd found (regular error)

/-- What has no schema is not generated. -/
theorem artifacts?_eq_none (faulty : provider.hasSchema definition = false) :
    provider.artifacts? definition = none := by
  rw [hasSchema] at faulty
  rw [artifacts?]
  cases found : provider.schema definition with
  | ok schema => rw [found] at faulty; cases faulty
  | error cause => rfl

theorem emission?_eq_none (faulty : provider.hasSchema definition = false) (runtimeImport : String) :
    provider.emission? runtimeImport definition = none := by
  rw [emission?, artifacts?_eq_none faulty]
  rfl

end Provider

/-! ### Runs -/

namespace Batch

variable {provider : Provider δ ε} {destination : Sink σ} {runtimeImport : String} {definition : δ}
  {definitions : List δ}

/-- The line of the log for something that is reported. -/
def logLine (failure : String × String) : String :=
  failure.1 ++ ": " ++ failure.2

/-- What was made of definitions is added to a batch: what was generated, the faults, and the
modules. -/
def extend (batch : Batch σ) (destination : Sink σ) (generated : List ArtifactSet)
    (failures : List (String × String)) (emissions : List Emission) : Batch σ where
  generated := batch.generated ++ generated
  failures := failures.foldl (fun all failure => all.insert failure.1 failure.2) batch.failures
  log := batch.log ++ failures.map logLine
  sink := emissions.foldl destination.take batch.sink

theorem extend_extend (batch : Batch σ) (generated more : List ArtifactSet)
    (failures others : List (String × String)) (emissions further : List Emission) :
    (batch.extend destination generated failures emissions).extend destination more others further =
      batch.extend destination (generated ++ more) (failures ++ others) (emissions ++ further) := by
  simp only [extend, List.append_assoc, List.foldl_append, List.map_append]

/-- One definition adds what there is of it. -/
theorem process_eq (regular : provider.IsRegular definition) (batch : Batch σ) :
    batch.process provider destination runtimeImport definition =
      .ok (batch.extend destination (provider.artifacts? definition).toList
        (provider.failure? definition).toList (provider.emission? runtimeImport definition).toList) := by
  unfold process Provider.emission? Provider.failure? Provider.fault? Provider.artifacts?
  cases found : provider.schema definition with
  | ok schema =>
    simp [generate, extend, Sink.take, Except.toOption]
  | error cause =>
    cases cause with
    | metadata error => simp [fail, extend, logLine, Except.toOption]
    | signature error => simp [fail, extend, logLine, Except.toOption]
    | provider error => exact absurd found (regular error)

/-- What there is of the items of a list is that of the first one, and then that of the others. -/
theorem filterMap_cons_eq {α β : Type} (found : α → Option β) (first : α) (others : List α) :
    (first :: others).filterMap found = (found first).toList ++ others.filterMap found := by
  rw [List.filterMap_eq_flatMap_toList, List.flatMap_cons, ← List.filterMap_eq_flatMap_toList]

/-- A run over definitions adds what there is of each of them, in order. -/
theorem processAll_eq (regular : ∀ d ∈ definitions, provider.IsRegular d) (batch : Batch σ) :
    batch.processAll provider destination runtimeImport definitions =
      (batch.extend destination (definitions.filterMap provider.artifacts?)
        (definitions.filterMap provider.failure?)
        (definitions.filterMap (provider.emission? runtimeImport)), none) := by
  induction definitions generalizing batch with
  | nil => simp [processAll, extend]
  | cons first others inductionHypothesis =>
    obtain ⟨own, later⟩ := List.forall_mem_cons.mp regular
    rw [processAll, process_eq own]
    dsimp only
    rw [inductionHypothesis later, extend_extend, filterMap_cons_eq, filterMap_cons_eq,
      filterMap_cons_eq]

theorem alone_eq (regular : provider.IsRegular definition) (runtimeImport : String) :
    provider.alone runtimeImport definition =
      extend { sink := [] } Sink.recorder (provider.artifacts? definition).toList
        (provider.failure? definition).toList (provider.emission? runtimeImport definition).toList := by
  rw [Provider.alone, processAll_eq (List.forall_mem_singleton.mpr regular)]
  simp only [filterMap_cons_eq, List.filterMap_nil, List.append_nil]

/-- A recorder holds what it is given. -/
theorem foldl_recorder (emissions before : List Emission) :
    emissions.foldl Sink.recorder.take before = before ++ emissions := by
  induction emissions generalizing before with
  | nil => exact (List.append_nil before).symm
  | cons first others inductionHypothesis =>
    rw [List.foldl_cons, inductionHypothesis]
    exact List.append_assoc before [first] others

theorem generated_alone (regular : provider.IsRegular definition) :
    (provider.alone runtimeImport definition).generated = (provider.artifacts? definition).toList := by
  rw [alone_eq regular]
  rfl

theorem sink_alone (regular : provider.IsRegular definition) :
    (provider.alone runtimeImport definition).sink =
      (provider.emission? runtimeImport definition).toList := by
  rw [alone_eq regular]
  exact foldl_recorder _ []

/-- What definitions without a schema are left out of is the same without them. -/
theorem filterMap_filter_hasSchema {α : Type} {found : δ → Option α}
    (absent : ∀ d, provider.hasSchema d = false → found d = none) (definitions : List δ) :
    (definitions.filter provider.hasSchema).filterMap found = definitions.filterMap found := by
  rw [List.filterMap_filter]
  refine List.filterMap_congr fun d _ => ?_
  cases own : provider.hasSchema d with
  | false => exact (absent d own).symm
  | true => rfl

/-- The reports of definitions up to some of them, and what comes behind. -/
theorem filterMap_eq_append_cons_iff {α β : Type} {found : α → Option β} {items : List α}
    {middle : β} {holds : List β → Prop} :
    (∃ before after, items.filterMap found = before ++ middle :: after ∧ holds after) ↔
      ∃ earlier item later, items = earlier ++ item :: later ∧ found item = some middle ∧
        holds (later.filterMap found) := by
  constructor
  · rintro ⟨before, after, split, held⟩
    obtain ⟨earlier, rest, rfl, -, behind⟩ := List.filterMap_eq_append_iff.mp split
    obtain ⟨skipped, item, later, rfl, -, own, rfl⟩ := List.filterMap_eq_cons_iff.mp behind
    exact ⟨earlier ++ skipped, item, later, by simp, own, held⟩
  · rintro ⟨earlier, item, later, rfl, own, held⟩
    refine ⟨earlier.filterMap found, later.filterMap found, ?_, held⟩
    rw [List.filterMap_append, filterMap_cons_eq, own]
    rfl

/-! ### Reports -/

/-- What a run over definitions that starts with a store has to report. -/
structure Reports (provider : Provider δ ε) (destination : Sink σ) (runtimeImport : String) (store : σ)
    (definitions : List δ) (after : Batch σ) : Prop where
  /-- What is generated is what is generated of each definition alone, in order. -/
  generated : after.generated =
    definitions.flatMap fun d => (provider.alone runtimeImport d).generated
  /-- The modules go to the store as they do for each definition alone, in order. -/
  emitted : after.sink =
    (definitions.flatMap fun d => (provider.alone runtimeImport d).sink).foldl destination.take store
  /-- A definition with a schema alone gives its types and its module. -/
  successful : ∀ d ∈ definitions, ∀ schema, provider.schema d = .ok schema →
    (provider.alone runtimeImport d).generated = [schema.synthesize] ∧
    (provider.alone runtimeImport d).sink = [⟨(provider.describe d).package,
      schema.synthesize.moduleName, schema.synthesize.render runtimeImport⟩]
  /-- A definition without one alone gives nothing. -/
  faulty : ∀ d ∈ definitions, provider.hasSchema d = false →
    (provider.alone runtimeImport d).generated = [] ∧ (provider.alone runtimeImport d).sink = []
  /-- The failures are the faults of definitions, the last one of each name. -/
  failures : ∀ name reason, after.failures.get? name = some reason ↔
    ∃ earlier d later, definitions = earlier ++ d :: later ∧
      (provider.describe d).qualifiedName = name ∧ provider.fault? d = some reason ∧
      ∀ other ∈ later, (provider.describe other).qualifiedName = name → provider.fault? other = none
  distinct : after.failures.keys.Nodup
  /-- Every fault is logged, in order. -/
  log : after.log = definitions.filterMap fun d =>
    (provider.fault? d).map fun reason => logLine ((provider.describe d).qualifiedName, reason)
  ok_iff : after.ok = true ↔ ∀ d ∈ definitions, ∃ schema, provider.schema d = .ok schema
  /-- Definitions with faults may come and go. -/
  stable : ∀ others : List δ, (∀ d ∈ others, provider.IsRegular d) →
    others.filter provider.hasSchema = definitions.filter provider.hasSchema →
    ∃ other, processAll { sink := store } provider destination runtimeImport others = (other, none) ∧
      other.generated = after.generated ∧ other.sink = after.sink

theorem mem_failures_iff {name reason : String} :
    (OrderedMap.ofList (definitions.filterMap provider.failure?)).get? name = some reason ↔
      ∃ earlier d later, definitions = earlier ++ d :: later ∧
        (provider.describe d).qualifiedName = name ∧ provider.fault? d = some reason ∧
        ∀ other ∈ later, (provider.describe other).qualifiedName = name →
          provider.fault? other = none := by
  rw [OrderedMap.get?_ofList_eq_some_iff, filterMap_eq_append_cons_iff]
  refine exists_congr fun earlier => exists_congr fun d => exists_congr fun later =>
    and_congr_right fun _ => ?_
  have own : provider.failure? d = some (name, reason) ↔
      (provider.describe d).qualifiedName = name ∧ provider.fault? d = some reason := by
    rw [Provider.failure?, Option.map_eq_some_iff]
    constructor
    · rintro ⟨found, fault, same⟩
      obtain ⟨rfl, rfl⟩ := Prod.mk.inj same
      exact ⟨rfl, fault⟩
    · rintro ⟨rfl, fault⟩
      exact ⟨reason, fault, rfl⟩
  have behind : name ∉ (later.filterMap provider.failure?).map (·.1) ↔
      ∀ other ∈ later, (provider.describe other).qualifiedName = name →
        provider.fault? other = none := by
    constructor
    · intro absent other member same
      by_contra faulty
      obtain ⟨fault, found⟩ := Option.ne_none_iff_exists'.mp faulty
      refine absent (List.mem_map.mpr ⟨(name, fault), List.mem_filterMap.mpr ⟨other, member, ?_⟩, rfl⟩)
      rw [Provider.failure?, found, same]
      rfl
    · intro faultless member
      obtain ⟨failure, inside, rfl⟩ := List.mem_map.mp member
      obtain ⟨other, among, found⟩ := List.mem_filterMap.mp inside
      obtain ⟨fault, faulty, rfl⟩ := Option.map_eq_some_iff.mp found
      have absent := faultless other among rfl
      rw [faulty] at absent
      cases absent
  rw [own, behind, and_assoc]

/-- No fault ends a run, and what is reported of definitions with faults leaves the others alone. -/
theorem exists_reports_processAll (regular : ∀ d ∈ definitions, provider.IsRegular d)
    (destination : Sink σ) (store : σ) (runtimeImport : String) :
    ∃ after, processAll { sink := store } provider destination runtimeImport definitions =
        (after, none) ∧
      Reports provider destination runtimeImport store definitions after := by
  refine ⟨_, processAll_eq regular { sink := store }, ?_⟩
  have found {d : δ} (member : d ∈ definitions) (schema : Schema)
      (built : provider.schema d = .ok schema) : provider.artifacts? d = some schema.synthesize := by
    rw [Provider.artifacts?, built]
    rfl
  constructor
  case generated =>
    rw [extend, List.nil_append, List.filterMap_eq_flatMap_toList]
    exact List.flatMap_congr fun d member => (generated_alone (regular d member)).symm
  case emitted =>
    show (definitions.filterMap (provider.emission? runtimeImport)).foldl destination.take store = _
    rw [List.filterMap_eq_flatMap_toList]
    congr 1
    exact List.flatMap_congr fun d member => (sink_alone (regular d member)).symm
  case successful =>
    intro d member schema built
    rw [generated_alone (regular d member), sink_alone (regular d member), Provider.emission?,
      found member schema built]
    exact ⟨rfl, rfl⟩
  case faulty =>
    intro d member absent
    rw [generated_alone (regular d member), sink_alone (regular d member),
      Provider.artifacts?_eq_none absent, Provider.emission?_eq_none absent]
    exact ⟨rfl, rfl⟩
  case failures => exact fun _ _ => mem_failures_iff
  case distinct => exact OrderedMap.nodup_keys_ofList _
  case log =>
    rw [extend, List.nil_append, List.map_filterMap]
    simp only [Provider.failure?, Option.map_map]
    rfl
  case ok_iff =>
    show (OrderedMap.ofList (definitions.filterMap provider.failure?)).entries.isEmpty = true ↔ _
    rw [List.isEmpty_iff, OrderedMap.entries_ofList_eq_nil_iff, List.filterMap_eq_nil_iff]
    refine forall₂_congr fun d member => ?_
    rw [Provider.failure?, Option.map_eq_none_iff, (regular d member).fault?_eq_none_iff]
  case stable =>
    intro others regularOthers same
    refine ⟨_, processAll_eq regularOthers { sink := store }, ?_⟩
    have alike {α : Type} {found : δ → Option α}
        (absent : ∀ d, provider.hasSchema d = false → found d = none) :
        others.filterMap found = definitions.filterMap found := by
      rw [← filterMap_filter_hasSchema absent, same, filterMap_filter_hasSchema absent]
    rw [extend, extend, alike fun _ => Provider.artifacts?_eq_none,
      alike fun _ absent => Provider.emission?_eq_none absent runtimeImport]
    exact ⟨rfl, rfl⟩

/-- A provider of definitions without properties, some of which have no constructor. -/
def partialProvider : Provider (Definition × Bool) Unit where
  describe d := d.1
  declaredFields _ := []
  parameters d := .ok (if d.2 then some [] else none)
  markers _ _ := .ok none

/-- Two definitions with a schema around one without it, which is there twice. -/
def mixedDefinitions : List (Definition × Bool) :=
  [(⟨"S", "app.a", none⟩, true), (⟨"Broken", "app.b", none⟩, false), (⟨"T", "app.a", none⟩, true),
    (⟨"Broken", "app.b", none⟩, false)]

/-- The two are generated, and the other one is reported once and logged twice. -/
theorem reports_mixedDefinitions :
    (∀ d ∈ mixedDefinitions, partialProvider.IsRegular d) ∧
    ∃ after, processAll { sink := [] } partialProvider Sink.recorder "stategen.runtime"
        mixedDefinitions = (after, none) ∧
      after.generated.map (·.moduleName) = ["s_gen", "t_gen"] ∧
      after.failures.get? "app.b.Broken" = some "Broken has no primary constructor" ∧
      after.log.length = 2 ∧ after.ok = false := by
  have regular : ∀ d ∈ mixedDefinitions, partialProvider.IsRegular d := by
    rintro ⟨definition, _ | _⟩ _ error same <;> cases same
  obtain ⟨after, processed, reports⟩ :=
    exists_reports_processAll regular Sink.recorder [] "stategen.runtime"
  refine ⟨regular, after, processed, ?_, ?_, ?_, ?_⟩
  · rw [reports.generated]
    rfl
  · exact (reports.failures _ _).mpr
      ⟨mixedDefinitions.take 3, (⟨"Broken", "app.b", none⟩, false), [], rfl, by decide, rfl,
        List.forall_mem_nil _⟩
  · rw [reports.log]
    rfl
  · rw [← Bool.not_eq_true, reports.ok_iff]
    intro faultless
    obtain ⟨schema, built⟩ := faultless (⟨"Broken", "app.b", none⟩, false) (by simp [mixedDefinitions])
    cases built

end Batch

end StateContainer
