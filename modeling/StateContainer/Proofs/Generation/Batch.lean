/-
This file says what can be read of the modules that were generated for a list of definitions.

A definition without faults always gets a module, and the module goes to its place. Modules of
definitions that meet replace each other: what is read at a place in the end is the module of
the last definition there. The main statement draws the line for stores in memory and for
directory trees alike: of definitions with different qualified names, a module can still be read
exactly if no later definition meets its own one. Definitions of one name in two modules of a
package do meet, and so the module of the first one is lost.
-/

import StateContainer.Batch
import StateContainer.Proofs.Except
import StateContainer.Proofs.Generation.Heading

namespace StateContainer

variable {δ ε σ : Type}

/-! ### Reading stores -/

/-- What is read of a module in memory. -/
def MemorySink.read? (sink : MemorySink) (package moduleName : String) : Option String :=
  sink.get? (key package moduleName)

/-- What is read of a module in a directory. -/
def DirectorySink.read? (sink : DirectorySink) (package moduleName : String) : Option String :=
  sink.files.get? (sink.pathFor package moduleName).direct

/-- How a store is read as far as it fits: the module of a definition is found where it was put, and
replaces exactly the modules of the definitions that meet this one. -/
structure Sink.Shelves (destination : Sink σ) (read? : σ → String → String → Option String)
    (fits : σ → Prop) : Prop where
  fits_emit : ∀ {store package moduleName body}, fits store →
    fits (destination.emit store package moduleName body)
  read?_of_meets : ∀ {store body} {d other : Definition}, fits store → d.IsNamed → other.IsNamed →
    d.Meets other → read? (destination.emit store d.package d.fileName body) other.package
      other.fileName = some body
  read?_of_not_meets : ∀ {store body} {d other : Definition}, fits store → d.IsNamed →
    other.IsNamed → ¬ d.Meets other →
      read? (destination.emit store d.package d.fileName body) other.package other.fileName =
        read? store other.package other.fileName

theorem MemorySink.shelves : destination.Shelves read? fun _ => True where
  fits_emit _ := trivial
  read?_of_meets _ named namedOther meets := by
    rw [read?, ← (key_eq_iff named namedOther).mpr meets]
    exact OrderedMap.get?_insert_self _ _ _
  read?_of_not_meets _ named namedOther apart :=
    OrderedMap.get?_insert_of_ne _ _ fun same =>
      apart ((key_eq_iff named namedOther).mp same.symm)

theorem DirectorySink.shelves : destination.Shelves read? fun sink => sink.flat = false where
  fits_emit deep := deep
  read?_of_meets {store body d other} deep named namedOther meets := by
    show (store.files.insert (store.pathFor d.package d.fileName).direct body).get?
      (store.pathFor other.package other.fileName).direct = some body
    rw [(direct_pathFor_eq_iff deep named namedOther).mpr meets, OrderedMap.get?_insert_self]
  read?_of_not_meets deep named namedOther apart :=
    OrderedMap.get?_insert_of_ne _ _ fun same =>
      apart ((direct_pathFor_eq_iff deep named namedOther).mp same.symm)

/-! ### Processing -/

namespace Provider

variable {provider : Provider δ ε} {definition : δ} {schema : Schema}

/-- The schema of a definition is about this definition. -/
theorem definition_of_schema (found : provider.schema definition = .ok schema) :
    schema.definition = provider.describe definition := by
  obtain ⟨properties, -, classified⟩ := exists_of_bind_eq_ok found
  cases classified
  rfl

theorem moduleName_eq (found : provider.schema definition = .ok schema) :
    schema.synthesize.moduleName = (provider.describe definition).fileName := by
  rw [← definition_of_schema found]
  rfl

/-- The text of the module of a definition, if the definition has no faults. -/
def moduleText? (provider : Provider δ ε) (runtimeImport : String) (definition : δ) :
    Option String :=
  (provider.schema definition).toOption.map (·.synthesize.render runtimeImport)

/-- The last of some definitions that meets another one. -/
def lastMeeting? (provider : Provider δ ε) (other : Definition) (definitions : List δ) :
    Option δ :=
  definitions.reverse.find? fun definition => (provider.describe definition).Meets other

variable {definitions earlier later : List δ} {other : Definition}

/-- The last definition that meets another one is one of them, and meets it. -/
theorem of_lastMeeting?_eq_some (last : provider.lastMeeting? other definitions = some definition) :
    definition ∈ definitions ∧ (provider.describe definition).Meets other := by
  rw [lastMeeting?] at last
  have meets := List.find?_some last
  exact ⟨List.mem_reverse.mp (List.mem_of_find?_eq_some last), of_decide_eq_true meets⟩

theorem lastMeeting?_eq_none_iff : provider.lastMeeting? other definitions = none ↔
    ∀ definition ∈ definitions, ¬ (provider.describe definition).Meets other := by
  rw [lastMeeting?, List.find?_eq_none]
  simp only [List.mem_reverse, decide_eq_true_eq]

theorem lastMeeting?_append_cons : provider.lastMeeting? other (earlier ++ definition :: later) =
    ((provider.lastMeeting? other later).or (provider.lastMeeting? other [definition])).or
      (provider.lastMeeting? other earlier) := by
  rw [lastMeeting?, List.reverse_append, List.reverse_cons, List.find?_append, List.find?_append]
  rfl

/-- A definition meets itself. -/
theorem lastMeeting?_singleton (meets : (provider.describe definition).Meets other) :
    provider.lastMeeting? other [definition] = some definition :=
  List.find?_cons_of_pos (decide_eq_true meets)

theorem lastMeeting?_singleton_of_not (apart : ¬ (provider.describe definition).Meets other) :
    provider.lastMeeting? other [definition] = none :=
  lastMeeting?_eq_none_iff.mpr (List.forall_mem_singleton.mpr apart)

theorem moduleText?_eq (found : provider.schema definition = .ok schema) (runtimeImport : String) :
    provider.moduleText? runtimeImport definition =
      some (schema.synthesize.render runtimeImport) := by
  rw [moduleText?, found]
  rfl

/-- Definitions with different qualified names have modules with different texts. -/
theorem qualifiedName_eq {other : δ} {schemaOther : Schema} {runtimeImport : String}
    (found : provider.schema definition = .ok schema)
    (foundOther : provider.schema other = .ok schemaOther)
    (named : (provider.describe definition).IsNamed) (namedOther : (provider.describe other).IsNamed)
    (whole : '\n' ∉ runtimeImport.toList)
    (same : schema.synthesize.render runtimeImport = schemaOther.synthesize.render runtimeImport) :
    (provider.describe definition).qualifiedName = (provider.describe other).qualifiedName := by
  rw [← definition_of_schema found] at named ⊢
  rw [← definition_of_schema foundOther] at namedOther ⊢
  have typed (schema : Schema) : ∀ moduleName ∈ schema.synthesize.typeImports,
      '\n' ∉ moduleName.toList :=
    fun _ => Schema.not_mem_of_mem_typeImports
  exact ArtifactSet.definition_of_render_eq (a := schema.synthesize) (b := schemaOther.synthesize)
    named namedOther (typed schema) (typed schemaOther) whole same

end Provider

namespace Batch

variable {provider : Provider δ ε} {destination : Sink σ} {runtimeImport : String}
  {read? : σ → String → String → Option String} {fits : σ → Prop} {definitions : List δ}

/-- Definitions without faults are all processed, and the store is read like this afterwards: at the
place of a definition there is the module of the last one that meets it, or what was there before. -/
theorem exists_processAll (shelves : destination.Shelves read? fits) (batch : Batch σ)
    (fit : fits batch.sink) (named : ∀ d ∈ definitions, (provider.describe d).IsNamed)
    (faultless : ∀ d ∈ definitions, ∃ schema, provider.schema d = .ok schema)
    (runtimeImport : String) :
    ∃ after, batch.processAll provider destination runtimeImport definitions = (after, none) ∧
      ∀ other : Definition, other.IsNamed → read? after.sink other.package other.fileName =
        (provider.lastMeeting? other definitions).elim
          (read? batch.sink other.package other.fileName) (provider.moduleText? runtimeImport) := by
  induction definitions generalizing batch with
  | nil => exact ⟨batch, rfl, fun _ _ => rfl⟩
  | cons definition later inductionHypothesis =>
    rw [List.forall_mem_cons] at named faultless
    obtain ⟨⟨schema, found⟩, faultless⟩ := faultless
    obtain ⟨after, processed, reads⟩ := inductionHypothesis
      (batch.generate destination runtimeImport (provider.describe definition) schema)
      (shelves.fits_emit fit) named.2 faultless
    refine ⟨after, ?_, fun other namedOther => ?_⟩
    · rw [processAll, process, found]
      exact processed
    · rw [reads other namedOther, ← List.nil_append (definition :: later),
        Provider.lastMeeting?_append_cons]
      cases provider.lastMeeting? other later with
      | some last => rfl
      | none =>
        rw [generate]
        dsimp only [Option.elim]
        rw [Provider.moduleName_eq found]
        by_cases meets : (provider.describe definition).Meets other
        · rw [shelves.read?_of_meets fit named.1 namedOther meets,
            Provider.lastMeeting?_singleton meets, ← Provider.moduleText?_eq found]
          rfl
        · rw [shelves.read?_of_not_meets fit named.1 namedOther meets,
            Provider.lastMeeting?_singleton_of_not meets]
          rfl

/-- Of definitions with different qualified names, the module of one can still be read after all of
them were processed exactly if no later one meets it. -/
theorem exists_processAll_iff (shelves : destination.Shelves read? fits) (batch : Batch σ)
    (fit : fits batch.sink) (whole : '\n' ∉ runtimeImport.toList)
    (named : ∀ d ∈ definitions, (provider.describe d).IsNamed)
    (faultless : ∀ d ∈ definitions, ∃ schema, provider.schema d = .ok schema)
    (distinct : (definitions.map fun d => (provider.describe d).qualifiedName).Nodup) :
    ∃ after, batch.processAll provider destination runtimeImport definitions = (after, none) ∧
      ∀ earlier definition later schema, definitions = earlier ++ definition :: later →
        provider.schema definition = .ok schema →
        (read? after.sink (provider.describe definition).package schema.synthesize.moduleName =
            some (schema.synthesize.render runtimeImport) ↔
          ∀ other ∈ later, ¬ (provider.describe definition).Meets (provider.describe other)) := by
  obtain ⟨after, processed, reads⟩ :=
    exists_processAll shelves batch fit named faultless runtimeImport
  refine ⟨after, processed, ?_⟩
  rintro earlier definition later schema rfl found
  have namedOwn := named definition (List.mem_append_right _ List.mem_cons_self)
  rw [Provider.moduleName_eq found, reads _ namedOwn, Provider.lastMeeting?_append_cons,
    Provider.lastMeeting?_singleton ⟨rfl, rfl⟩]
  cases last : provider.lastMeeting? (provider.describe definition) later with
  | none =>
    refine iff_of_true (Provider.moduleText?_eq found runtimeImport) fun other member meets => ?_
    exact Provider.lastMeeting?_eq_none_iff.mp last other member meets.symm
  | some other =>
    obtain ⟨listed, meets⟩ := Provider.of_lastMeeting?_eq_some last
    refine iff_of_false (fun same => ?_) fun apart => apart other listed meets.symm
    have present : other ∈ earlier ++ definition :: later :=
      List.mem_append_right _ (List.mem_cons_of_mem _ listed)
    obtain ⟨schemaOther, foundOther⟩ := faultless other present
    have texts := (Provider.moduleText?_eq foundOther runtimeImport).symm.trans same
    have names := Provider.qualifiedName_eq foundOther found (named other present) namedOwn whole
      (Option.some.inj texts)
    rw [List.map_append, List.map_cons] at distinct
    have fresh := (List.nodup_cons.mp (List.nodup_append.mp distinct).2.1).1
    rw [← names] at fresh
    exact fresh (List.mem_map_of_mem listed)

/-- Definitions with different qualified names that are named by identifiers and have no faults are
all processed. In memory and in a directory tree, the module of each of them can be read under its
package and its name exactly if no later definition lies in the same package and has a name of the
same lowered words. -/
theorem read?_processAll_iff {memory : Batch MemorySink} {directory : Batch DirectorySink}
    (deep : directory.sink.flat = false) (whole : '\n' ∉ runtimeImport.toList)
    (named : ∀ d ∈ definitions, (provider.describe d).IsNamed)
    (faultless : ∀ d ∈ definitions, ∃ schema, provider.schema d = .ok schema)
    (distinct : (definitions.map fun d => (provider.describe d).qualifiedName).Nodup) :
    ∃ stored written,
      memory.processAll provider MemorySink.destination runtimeImport definitions =
        (stored, none) ∧
      directory.processAll provider DirectorySink.destination runtimeImport definitions =
        (written, none) ∧
      ∀ earlier definition later schema, definitions = earlier ++ definition :: later →
        provider.schema definition = .ok schema →
        (stored.sink.read? (provider.describe definition).package schema.synthesize.moduleName =
            some (schema.synthesize.render runtimeImport) ↔
          ∀ other ∈ later, ¬ (provider.describe definition).Meets (provider.describe other)) ∧
        (written.sink.read? (provider.describe definition).package schema.synthesize.moduleName =
            some (schema.synthesize.render runtimeImport) ↔
          ∀ other ∈ later, ¬ (provider.describe definition).Meets (provider.describe other)) := by
  obtain ⟨stored, inMemory, readsStored⟩ := exists_processAll_iff
    MemorySink.shelves memory trivial whole named faultless distinct
  obtain ⟨written, inDirectory, readsWritten⟩ := exists_processAll_iff
    DirectorySink.shelves directory deep whole named faultless distinct
  exact ⟨stored, written, inMemory, inDirectory, fun earlier definition later schema split found =>
    ⟨readsStored earlier definition later schema split found,
      readsWritten earlier definition later schema split found⟩⟩

/-- A provider of definitions without properties. -/
def bareProvider : Provider Definition Unit where
  describe := id
  declaredFields _ := []
  parameters _ := .ok (some [])
  markers _ _ := .ok none

/-- Two definitions of the same name in modules of one package. -/
def neighbours : List Definition :=
  [⟨"S", "app.a", none⟩, ⟨"S", "app.b", none⟩]

/-- Of such definitions, the first one loses its module, and the second one keeps it. -/
theorem read?_neighbours : ∃ stored written,
    processAll { sink := {} } bareProvider MemorySink.destination "stategen.runtime" neighbours =
      (stored, none) ∧
    processAll { sink := { root := {} } } bareProvider DirectorySink.destination "stategen.runtime"
      neighbours = (written, none) ∧
    stored.sink.read? "app" "s_gen" ≠
      some ((Schema.classify [] ⟨"S", "app.a", none⟩).synthesize.render "stategen.runtime") ∧
    written.sink.read? "app" "s_gen" =
      some ((Schema.classify [] ⟨"S", "app.b", none⟩).synthesize.render "stategen.runtime") := by
  obtain ⟨stored, written, inMemory, inDirectory, reads⟩ :=
    @read?_processAll_iff Definition Unit bareProvider "stategen.runtime" neighbours
      { sink := {} } { sink := { root := {} } } rfl (by decide) (by decide) (fun _ _ => ⟨_, rfl⟩)
      (by decide)
  have first := (reads [] ⟨"S", "app.a", none⟩ [⟨"S", "app.b", none⟩] _ rfl rfl).1
  have second := (reads [⟨"S", "app.a", none⟩] ⟨"S", "app.b", none⟩ [] _ rfl rfl).2
  exact ⟨stored, written, inMemory, inDirectory, fun same => first.mp same _ List.mem_cons_self
    (by decide), second.mpr (List.forall_mem_nil _)⟩

/-- Different qualified names do not keep a module from being replaced. -/
theorem exists_replaced : ¬ ∀ (provider : Provider Definition Unit) (definitions : List Definition)
    (batch after : Batch MemorySink) (runtimeImport : String),
    (∀ d ∈ definitions, (provider.describe d).IsNamed) →
    (∀ d ∈ definitions, ∃ schema, provider.schema d = .ok schema) →
    (definitions.map fun d => (provider.describe d).qualifiedName).Nodup →
    batch.processAll provider MemorySink.destination runtimeImport definitions = (after, none) →
    ∀ d ∈ definitions, ∀ schema, provider.schema d = .ok schema →
      after.sink.read? (provider.describe d).package schema.synthesize.moduleName =
        some (schema.synthesize.render runtimeImport) := by
  intro always
  have named : ∀ d ∈ neighbours, (bareProvider.describe d).IsNamed := by decide
  have faultless : ∀ d ∈ neighbours, ∃ schema, bareProvider.schema d = .ok schema :=
    fun _ _ => ⟨_, rfl⟩
  have distinct : (neighbours.map fun d => (bareProvider.describe d).qualifiedName).Nodup := by
    decide
  have single : '\n' ∉ "stategen.runtime".toList := by decide
  obtain ⟨after, processed, reads⟩ := exists_processAll_iff MemorySink.shelves { sink := {} } trivial
    single named faultless distinct
  have read := always bareProvider neighbours _ after _ named faultless distinct processed
    ⟨"S", "app.a", none⟩ List.mem_cons_self _ rfl
  have kept := (reads [] ⟨"S", "app.a", none⟩ [⟨"S", "app.b", none⟩] _ rfl rfl).mp read
  exact kept _ List.mem_cons_self (by decide)

end Batch

end StateContainer
