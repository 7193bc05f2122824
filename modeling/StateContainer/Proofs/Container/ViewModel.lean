/-
This file says for which view models a generated module knows the class, and when a factory makes no
view model since it has none.

A state definition gives its view model as a class, as the path of a class in its own module, or as a
qualified name. Only the qualified name reaches the generated module, which splits it again: it imports
the outermost class and gives the factory the class as the type of its view models, or it does neither.
A path with a dot in it is never qualified, so that a nested class is not found by it.

No step of making a view model fails for lack of a class but the first, which looks for it. The main
statement puts this together with what the module brings: no class is lacking exactly if the module
brings some class.
-/

import StateContainer.Class.Metadata
import StateContainer.Container.Session
import StateContainer.Proofs.Container.Loading
import StateContainer.Proofs.QualifiedName

namespace StateContainer

open StateContainer.Class ContainerSession

/-! ### Classes for view models -/

/-- Whether what a definition of some module declares as its view model is the class at a path of a
module. A text may be read in two ways. -/
inductive Class.ViewModel.Means (own : String) : ViewModel → (moduleName path : String) → Prop where
  | known (id : Hint.ClassId) : Means own (.known (.classRef id)) id.moduleName id.path
  | ownPath (path : String) : Means own (.named path) own path
  | qualified (moduleName path : String) :
    Means own (.named (moduleName ++ "." ++ path)) moduleName path

/-- Whether the text of a module imports the outermost class of a path, and gives its factory the class
at the path as the type of view models. -/
structure ModuleText.Brings (text : ModuleText) (moduleName path : String) : Prop where
  imports : s!"from {moduleName} import {QualifiedName.outermost path}" ∈ text.definitionImports
  assigns : s!"    view_model_type = {path}" ∈ text.factory

variable {own moduleName path : String} {v : ViewModel} {definition : ClassInfo}

/-- A name is not that of something inside of what it names. -/
theorem ne_qualified (name moduleName : String) : name ≠ moduleName ++ "." ++ name := by
  intro same
  have length := congrArg String.length same
  rw [String.length_append, String.length_append] at length
  exact absurd length (by have : ".".length = 1 := rfl; omega)

theorem qualified_ne_empty (moduleName path : String) : moduleName ++ "." ++ path ≠ "" := by
  intro same
  have length := congrArg String.length same
  rw [String.length_append, String.length_append] at length
  exact absurd length (by have : ".".length = 1 := rfl; have : "".length = 0 := rfl; omega)

/-- The name of a view model is qualified unless it is given as a path with a dot in it. -/
theorem Class.ViewModel.Means.viewModelName?_eq (means : v.Means definition.id.moduleName moduleName path)
    (declared : definition.ownState = some v) :
    (ClassModule.viewModelName? definition = some (moduleName ++ "." ++ path) ∧
      (v = .named path → '.' ∉ path.toList)) ∨
    (ClassModule.viewModelName? definition = some path ∧ v = .named path ∧ '.' ∈ path.toList) := by
  rw [ClassModule.viewModelName?, declared]
  cases means with
  | known id => exact .inl ⟨rfl, nofun⟩
  | ownPath _ =>
    dsimp only
    by_cases dotted : '.' ∈ path.toList
    · rw [if_pos (List.contains_iff_mem.mpr dotted)]
      exact .inr ⟨rfl, rfl, dotted⟩
    · rw [if_neg (fun found => dotted (List.contains_iff_mem.mp found))]
      exact .inl ⟨rfl, fun _ => dotted⟩
  | qualified _ _ =>
    dsimp only
    rw [if_pos (by simp [String.toList_append])]
    refine .inl ⟨rfl, fun same => absurd (ViewModel.named.inj same).symm (ne_qualified _ _)⟩

namespace ArtifactSet

variable {a : ArtifactSet}

/-- The type of view models is written where it is known, and no other line of the factory is like
it. -/
theorem assigns_iff : s!"    view_model_type = {path}" ∈ a.factoryLines ↔
    ∃ moduleName, a.viewModel? = some (moduleName, path) := by
  have fifth (line : String) (same : s!"    view_model_type = {path}" = line) :
      line.toList[4]? = some 'v' := by
    rw [← same]
    simp [toString, String.toList_append]
  have other {lines : List String} (differ : ∀ line ∈ lines, line.toList[4]? ≠ some 'v') :
      s!"    view_model_type = {path}" ∉ lines :=
    fun member => differ _ member (fifth _ rfl)
  have heading : ∀ line ∈ [s!"class {a.factory.name}(StateFactory[{a.delegate.name}]):",
      s!"    \"\"\"Builds {a.delegate.name} instances.\"\"\""], line.toList[4]? ≠ some 'v' := by
    simp [toString, String.toList_append]
  have fallback (parameter : String) : ∀ line ∈ a.fallbackLines parameter, line.toList[4]? ≠ some 'v' := by
    intro line member
    rw [fallbackLines, List.mem_ite_nil_right, List.mem_singleton] at member
    rw [member.2]
    simp [toString, String.toList_append]
  have creating : ∀ line ∈ (a.factory.ofKind .create).flatMap fun member =>
      [s!"    def {member.name}(", "        self,",
        "        snapshot_source: SnapshotStore | None = None,",
        s!"        state_input: {a.inputTypeText} = None,",
        s!"    ) -> {member.typeText}:", s!"        return {a.delegate.name}("] ++
      a.fallbackLines snapshotSourceName ++ a.fallbackLines stateInputName ++ ["        )"],
      line.toList[4]? ≠ some 'v' := by
    refine List.forall_mem_flatMap.mpr fun member _ => ?_
    refine List.forall_mem_append.mpr ⟨List.forall_mem_append.mpr ⟨List.forall_mem_append.mpr
      ⟨?_, fallback _⟩, fallback _⟩, ?_⟩ <;> simp [toString, String.toList_append]
  rw [factoryLines, List.mem_append, or_iff_left (other creating), List.mem_append,
    or_iff_right (other heading)]
  cases a.viewModel? with
  | none => simp
  | some found =>
    obtain ⟨moduleName, known⟩ := found
    refine List.mem_singleton.trans ((String.append_right_inj _).trans ⟨fun same => ?_, ?_⟩)
    · exact ⟨moduleName, congrArg (fun path => some (moduleName, path)) (Eq.symm same)⟩
    · rintro ⟨_, ⟨⟩⟩
      rfl

theorem brings_of_viewModel?_eq (known : a.viewModel? = some (moduleName, path))
    (runtimeImport : String) : (a.moduleText runtimeImport).Brings moduleName path := by
  refine ⟨?_, assigns_iff.mpr ⟨moduleName, known⟩⟩
  show _ ∈ a.definitionImportLines
  rw [definitionImportLines, known]
  exact List.mem_cons_of_mem _ List.mem_cons_self

/-- A module brings some class exactly if it knows a view model. -/
theorem exists_brings_iff (runtimeImport : String) :
    (∃ moduleName path, (a.moduleText runtimeImport).Brings moduleName path) ↔ a.viewModel? ≠ none := by
  rw [Option.ne_none_iff_exists']
  constructor
  · rintro ⟨_, path, -, assigns⟩
    obtain ⟨moduleName, known⟩ := assigns_iff.mp assigns
    exact ⟨_, known⟩
  · rintro ⟨⟨moduleName, path⟩, known⟩
    exact ⟨moduleName, path, brings_of_viewModel?_eq known runtimeImport⟩

end ArtifactSet

/-! ### The view model of a definition -/

namespace Schema

variable {schema : Schema}

/-- The view model that a module knows is what its name is split into. -/
theorem viewModel?_synthesize (described : schema.definition = ClassModule.definition definition)
    {name : String} (named : ClassModule.viewModelName? definition = some name) (nonempty : name ≠ "") :
    schema.synthesize.viewModel? = QualifiedName.split? name := by
  have known : schema.definition.viewModel = some name := by rw [described]; exact named
  unfold synthesize ArtifactSet.viewModel?
  rw [known]
  exact if_neg nonempty

/-- The generated module brings the class that a definition means by its view model exactly if modules
and classes are written as such and the class is not given as a path with a dot in it. -/
theorem brings_iff (described : schema.definition = ClassModule.definition definition)
    (declared : definition.ownState = some v)
    (means : v.Means definition.id.moduleName moduleName path) (runtimeImport : String) :
    (schema.synthesize.moduleText runtimeImport).Brings moduleName path ↔
      QualifiedName.IsModule (Text.dottedParts moduleName) ∧
        QualifiedName.IsPath (Text.dottedParts path) ∧ (v = .named path → '.' ∉ path.toList) := by
  rcases means.viewModelName?_eq declared with ⟨named, undotted⟩ | ⟨named, given, dotted⟩
  · have known := viewModel?_synthesize described named (qualified_ne_empty _ _)
    constructor
    · rintro ⟨-, assigns⟩
      obtain ⟨other, found⟩ := ArtifactSet.assigns_iff.mp assigns
      obtain ⟨same, isModule, isPath⟩ := QualifiedName.split?_eq_some_iff.mp (known.symm.trans found)
      rw [← (String.append_left_inj _).mp ((String.append_left_inj _).mp same)] at isModule
      exact ⟨isModule, isPath, undotted⟩
    · rintro ⟨isModule, isPath, -⟩
      exact ArtifactSet.brings_of_viewModel?_eq
        (known.trans (QualifiedName.split?_eq_some_iff.mpr ⟨rfl, isModule, isPath⟩)) runtimeImport
  · have nonempty : path ≠ "" := by
      rintro rfl
      cases dotted
    have known := viewModel?_synthesize described named nonempty
    refine iff_of_false ?_ fun ⟨_, _, undotted⟩ => undotted given dotted
    rintro ⟨-, assigns⟩
    obtain ⟨other, found⟩ := ArtifactSet.assigns_iff.mp assigns
    exact ne_qualified _ _ (QualifiedName.split?_eq_some_iff.mp (known.symm.trans found)).1

/-- No view model is known by the path of a nested class. -/
theorem viewModel?_of_nested (described : schema.definition = ClassModule.definition definition)
    (declared : definition.ownState = some (.named path)) (dotted : '.' ∈ path.toList)
    (isPath : QualifiedName.IsPath (Text.dottedParts path)) : schema.synthesize.viewModel? = none := by
  have named : ClassModule.viewModelName? definition = some path := by
    rw [ClassModule.viewModelName?, declared]
    exact if_pos (List.contains_iff_mem.mpr dotted)
  have nonempty : path ≠ "" := by
    rintro rfl
    cases dotted
  rw [viewModel?_synthesize described named nonempty]
  exact QualifiedName.split?_eq_none_iff.mpr (.inr isPath.capitalised)

end Schema

/-! ### Failures of another kind -/

/-- Whether a failure is none for lack of a view model. -/
def Failure.IsOther (failure : Failure) : Prop :=
  ∀ factoryName, failure ≠ .noViewModel factoryName

/-- Whether something fails only with failures that are none for lack of a view model. -/
def FailsOtherwise {α : Type} (value : Except Failure α) : Prop :=
  EndsAs (fun _ => True) Failure.IsOther value

section
variable {α β ε : Type}

theorem failsOtherwise_ok (result : α) : FailsOtherwise (.ok result) := trivial

theorem failsOtherwise_mapError {wrap : ε → Failure} (other : ∀ cause, (wrap cause).IsOther)
    (value : Except ε α) : FailsOtherwise (value.mapError wrap) := by
  cases value with
  | ok result => exact trivial
  | error cause => exact other cause

theorem failsOtherwise_state (value : Except Instance.InstanceError α) :
    FailsOtherwise (value.mapError .state) :=
  failsOtherwise_mapError (by intro _ _; nofun) value

theorem FailsOtherwise.bind {value : Except Failure α} {next : α → Except Failure β}
    (first : FailsOtherwise value) (rest : ∀ made, FailsOtherwise (next made)) :
    FailsOtherwise (value >>= next) :=
  EndsAs.bind first fun made _ => rest made

theorem failsOtherwise_mapM {step : α → Except Failure β} (each : ∀ item, FailsOtherwise (step item))
    (items : List α) : FailsOtherwise (items.mapM step) :=
  EndsAs.weaken (endsAs_mapM fun item _ => each item) (fun _ _ => trivial) fun _ => id

end

/-! ### The initial state -/

namespace Container

variable (c : Container)

theorem failsOtherwise_makeRecord (given : List (String × Value)) :
    FailsOtherwise (c.makeRecord given) :=
  failsOtherwise_state _

theorem failsOtherwise_callStandIn (name : String) (count : Nat) :
    FailsOtherwise (c.callStandIn name count) := by
  rw [callStandIn]
  split
  · exact failsOtherwise_state _
  · exact failsOtherwise_ok _

theorem failsOtherwise_get (input : Input) (name : String) : FailsOtherwise (input.get name) := by
  cases input with
  | record values => exact failsOtherwise_state _
  | attributes values =>
    rw [Input.get]
    split
    · exact failsOtherwise_ok _
    · exact fun _ => nofun

theorem failsOtherwise_fromInput (input : Option Input) : FailsOtherwise (c.fromInput input) := by
  cases input with
  | none => exact c.failsOtherwise_makeRecord _
  | some input =>
    refine FailsOtherwise.bind (failsOtherwise_mapM (fun name => ?_) _) fun given =>
      c.failsOtherwise_makeRecord given
    exact (failsOtherwise_get input _).bind fun _ => failsOtherwise_ok _

theorem failsOtherwise_restoredValue (restored : SnapshotClass.Decoded) (name : String) :
    FailsOtherwise (c.restoredValue restored name) := by
  cases restored with
  | snapshot snapshot => exact failsOtherwise_state _
  | values _ => exact fun _ => nofun

theorem failsOtherwise_replaceFields (state : Instance) (restored : SnapshotClass.Decoded) :
    FailsOtherwise (c.replaceFields state restored) := by
  rw [replaceFields]
  split
  · rintro _ ⟨⟩
  · refine FailsOtherwise.bind (failsOtherwise_mapM (fun name => ?_) _) fun changes =>
      FailsOtherwise.bind (failsOtherwise_state _) fun fields =>
        FailsOtherwise.bind (failsOtherwise_mapM (fun field => ?_) _) fun kept =>
          c.failsOtherwise_makeRecord _
    · exact (c.failsOtherwise_restoredValue restored name).bind fun _ => failsOtherwise_ok _
    · exact (failsOtherwise_state _).bind fun _ => failsOtherwise_ok _

theorem failsOtherwise_initialState (source : Option Source) (input : Option Input) :
    FailsOtherwise (c.initialState source input) := by
  rw [initialState]
  refine (c.failsOtherwise_fromInput _).bind fun state => ?_
  split
  · refine (c.failsOtherwise_callStandIn _ _).bind fun _ => FailsOtherwise.bind ?_ fun kept =>
      FailsOtherwise.bind (failsOtherwise_mapError (by rintro _ _ ⟨⟩) _) fun restored => ?_
    · cases source with
      | none => exact failsOtherwise_ok _
      | some source =>
        cases source with
        | store kept => exact failsOtherwise_ok _
        | other className => rintro _ ⟨⟩
    · split
      · exact failsOtherwise_ok _
      · exact (c.failsOtherwise_replaceFields _ _).bind fun _ => failsOtherwise_ok _
  · exact failsOtherwise_ok _

end Container

/-! ### Operations -/

namespace ContainerSession

variable {α β : Type}

/-- Whether an operation fails only with failures that are none for lack of a view model, whatever
session it begins with. -/
def EndsOtherwise (operation : Operation α) : Prop :=
  ∀ session, EndsAs (fun _ => True) (fun failed => failed.1.IsOther) (operation session)

theorem EndsOtherwise.bind {operation : Operation α} {next : α → Operation β}
    (first : EndsOtherwise operation) (rest : ∀ made, EndsOtherwise (next made)) :
    EndsOtherwise (operation >>= next) :=
  fun session => EndsAs.bind (first session) fun made _ => rest made.1 made.2

theorem endsOtherwise_pure (result : α) : EndsOtherwise (pure result) := fun _ => trivial

theorem endsOtherwise_get : EndsOtherwise get := fun _ => trivial

theorem endsOtherwise_set (session : ContainerSession) : EndsOtherwise (set session) := fun _ => trivial

theorem endsOtherwise_modify (change : ContainerSession → ContainerSession) :
    EndsOtherwise (modify change) := fun _ => trivial

theorem endsOtherwise_fail {failure : Failure} (other : failure.IsOther) :
    EndsOtherwise (fail failure : Operation α) := fun _ => other

theorem endsOtherwise_lift {value : Except Failure α} (ends : FailsOtherwise value) :
    EndsOtherwise (lift value) := by
  cases value with
  | ok result => exact endsOtherwise_pure result
  | error failure => exact endsOtherwise_fail ends

theorem endsOtherwise_forM {step : α → Operation Unit} (each : ∀ item, EndsOtherwise (step item))
    (items : List α) : EndsOtherwise (items.forM step) := by
  induction items with
  | nil => exact endsOtherwise_pure ()
  | cons first others inductionHypothesis => exact (each first).bind fun _ => inductionHypothesis

theorem endsOtherwise_requireParameters (functionName : String) (arguments : BuildArguments) :
    EndsOtherwise (requireParameters functionName arguments) := by
  refine endsOtherwise_get.bind fun session => ?_
  dsimp only
  split
  · refine (endsOtherwise_fail (by intro _; nofun)).bind fun _ => ?_
    split
    · exact endsOtherwise_fail fun _ => nofun
    · exact endsOtherwise_pure _
  · split
    · exact endsOtherwise_fail fun _ => nofun
    · exact endsOtherwise_pure _

theorem endsOtherwise_initialState (functionName : String) (arguments : BuildArguments) :
    EndsOtherwise (initialState functionName arguments) := by
  refine (endsOtherwise_requireParameters _ _).bind fun _ => endsOtherwise_get.bind fun session => ?_
  refine (endsOtherwise_lift (Container.failsOtherwise_initialState _ _ _)).bind fun made => ?_
  exact (endsOtherwise_set _).bind fun _ => endsOtherwise_pure _

theorem endsOtherwise_startChannel (state : Instance) (delegate : Nat) (property : Property) :
    EndsOtherwise (startChannel state delegate property) := by
  refine endsOtherwise_get.bind fun session =>
    (endsOtherwise_lift (failsOtherwise_state _)).bind fun value => ?_
  refine (endsOtherwise_lift (Container.failsOtherwise_callStandIn _ _ _)).bind fun _ => ?_
  refine (endsOtherwise_lift (Container.failsOtherwise_callStandIn _ _ _)).bind fun _ => ?_
  exact endsOtherwise_set _

theorem endsOtherwise_buildDelegate (arguments : BuildArguments) :
    EndsOtherwise (buildDelegate arguments) := by
  refine endsOtherwise_get.bind fun session => (endsOtherwise_initialState _ _).bind fun state => ?_
  refine (endsOtherwise_forM (fun property => ?_) _).bind fun _ => ?_
  · exact endsOtherwise_startChannel _ _ _
  · exact (endsOtherwise_modify _).bind fun _ => endsOtherwise_pure _

theorem endsOtherwise_createBy (factory : Factory) (arguments : BuildArguments) :
    EndsOtherwise (createBy factory arguments) :=
  endsOtherwise_get.bind fun _ => endsOtherwise_buildDelegate _

theorem failsOtherwise_isOfClass (c : Container) (model declared : Hint) :
    FailsOtherwise (isOfClass c model declared) := by
  rw [isOfClass]
  split
  · exact failsOtherwise_ok _
  · exact failsOtherwise_mapError (by intro _ _; nofun) _

theorem failsOtherwise_constructModel (c : Container) (model : Hint) (arguments : List Value) :
    FailsOtherwise (constructModel c model arguments) := by
  rw [constructModel]
  split
  · next found _ =>
    have constructs : FailsOtherwise (construct found arguments) := by
      refine (failsOtherwise_state _).bind fun made => ?_
      split <;> exact failsOtherwise_ok _
    cases made : construct found arguments with
    | ok result => exact failsOtherwise_ok _
    | error failure => exact constructs.of_error made
  · exact (failsOtherwise_mapError (by intro _ _; nofun) _).bind fun _ => failsOtherwise_ok _

/-- Where there is a class, no step of making a view model lacks one. -/
theorem endsOtherwise_createViewModel (factory : Factory) (name : String) {session : ContainerSession}
    {declared : Hint} (known : session.container.viewModel = some declared) :
    EndsAs (fun _ => True) (fun failed => failed.1.IsOther)
      (createViewModel factory name none session) := by
  rw [createViewModel, get_bind]
  dsimp -zeta only
  rw [known]
  dsimp -zeta only [Option.or]
  refine (endsOtherwise_lift (failsOtherwise_isOfClass _ _ _)).bind (fun receives => ?_) session
  extract_lets constructs
  have finishes (arguments : List Nat) : EndsOtherwise (constructs arguments) := by
    refine (endsOtherwise_lift (failsOtherwise_constructModel _ _ _)).bind fun made => ?_
    dsimp only
    split
    · exact EndsOtherwise.bind (endsOtherwise_modify _) fun _ => endsOtherwise_pure _
    · exact endsOtherwise_pure _
  dsimp only
  split
  · refine EndsOtherwise.bind ?_ finishes
    exact (endsOtherwise_createBy _ _).bind fun number => endsOtherwise_pure [number]
  · exact (endsOtherwise_pure []).bind finishes

/-- Whether making a view model of no given class fails since the factory has none. -/
def LacksViewModel (session : ContainerSession) (factory : Factory) (name : String) : Prop :=
  ∃ factoryName after,
    session.run (createViewModel factory name none) = (.error (.noViewModel factoryName), after)

theorem lacksViewModel_iff {session : ContainerSession} {factory : Factory} {name : String} :
    session.LacksViewModel factory name ↔ session.container.viewModel = none := by
  constructor
  · rintro ⟨factoryName, after, fails⟩
    refine Option.eq_none_iff_forall_ne_some.mpr fun declared known => ?_
    have ends := endsOtherwise_createViewModel factory name known
    rw [run] at fails
    cases made : createViewModel factory name none session with
    | ok result => rw [made] at fails; cases fails
    | error failed =>
      rw [made] at fails
      exact ends.of_error made factoryName (Except.error.inj (Prod.ext_iff.mp fails).1)
  · intro unknown
    refine ⟨session.container.artifacts.factory.name, session, ?_⟩
    rw [run, createViewModel, get_bind]
    dsimp only
    rw [unknown]
    rfl

end ContainerSession

/-! ### Loaded containers -/

/-- A container has a view model if the generated module knows one. -/
theorem Container.viewModel_eq_none_iff {m : ClassModule} {definition : ClassInfo} {a : ArtifactSet}
    {c : Container} (loaded : load m definition a = .ok c) :
    c.viewModel = none ↔ a.viewModel? = none := by
  rw [load] at loaded
  dsimp only at loaded
  split at loaded
  · cases loaded
  · obtain ⟨_, -, loaded⟩ := exists_of_bind_eq_ok loaded
    obtain ⟨found, -, loaded⟩ := exists_of_bind_eq_ok loaded
    obtain ⟨root, -, loaded⟩ := exists_of_bind_eq_ok loaded
    obtain ⟨_, -, loaded⟩ := exists_of_bind_eq_ok loaded
    obtain ⟨_, -, loaded⟩ := exists_of_bind_eq_ok loaded
    obtain ⟨_, -, loaded⟩ := exists_of_bind_eq_ok loaded
    obtain ⟨viewModel, followed, loaded⟩ := exists_of_bind_eq_ok loaded
    cases loaded
    cases known : a.viewModel? with
    | none =>
      rw [known] at followed
      cases followed
      exact iff_of_true rfl rfl
    | some split =>
      rw [known] at followed
      obtain ⟨model, -, made⟩ := exists_of_bind_eq_ok followed
      cases made
      exact iff_of_false (Option.some_ne_none _) (Option.some_ne_none _)

/-! ### View models of definitions -/

/-- The generated module brings the class that a definition means by its view model exactly if modules
and classes are written as such and the class is not given as a path with a dot in it. Such a path is
left as it is, and for that of a nested class no class is brought at all. A factory lacks a view model
exactly if no class is brought. -/
theorem Schema.viewModel_iff_brings {m : ClassModule} {definition : ClassInfo} {schema : Schema}
    {v : ViewModel} {moduleName path : String}
    (described : schema.definition = ClassModule.definition definition)
    (declared : definition.ownState = some v)
    (means : v.Means definition.id.moduleName moduleName path) (runtimeImport : String) :
    ((schema.synthesize.moduleText runtimeImport).Brings moduleName path ↔
      QualifiedName.IsModule (Text.dottedParts moduleName) ∧
        QualifiedName.IsPath (Text.dottedParts path) ∧ (v = .named path → '.' ∉ path.toList)) ∧
    (v = .named path → '.' ∈ path.toList → QualifiedName.IsPath (Text.dottedParts path) →
      ¬ ∃ other inside, (schema.synthesize.moduleText runtimeImport).Brings other inside) ∧
    ∀ c, Container.load m definition schema.synthesize = .ok c →
      ∀ session : ContainerSession, session.container = c → ∀ factory name,
        (session.LacksViewModel factory name ↔
          ¬ ∃ other inside, (schema.synthesize.moduleText runtimeImport).Brings other inside) := by
  have brought := ArtifactSet.exists_brings_iff (a := schema.synthesize) runtimeImport
  refine ⟨brings_iff described declared means runtimeImport, fun given dotted isPath => ?_,
    fun c loaded session same factory name => ?_⟩
  · rw [brought, ne_eq, not_not]
    exact viewModel?_of_nested described (given ▸ declared) dotted isPath
  · rw [brought, ne_eq, not_not, ContainerSession.lacksViewModel_iff, same,
      Container.viewModel_eq_none_iff loaded]

namespace Consumer

/-- A class with an inner one, which is a view model, and a definition without fields that declares
some view model. -/
def declarations (given : DeclaredViewModel) : List Declaration := [
  { name := "Outer", nested := [{ name := "Inner", isModel := true }] },
  { name := "S", state := some given }]

section
variable (given : DeclaredViewModel)

def classModule : ClassModule :=
  (ClassModule.build "app.state" (declarations given) []).toOption.getD Inhabited.default

def classInfo : ClassInfo :=
  ((classModule given).classOf? { moduleName := "app.state", path := "S" }).getD Inhabited.default

def schema : Schema :=
  ((classModule given).provider.schema (classInfo given)).toOption.getD Inhabited.default

def load : Loading Container :=
  Container.load (classModule given) (classInfo given) (schema given).synthesize

end

/-- The inner class, by its qualified name and by its path. -/
def qualified : DeclaredViewModel := .named "app.state.Outer.Inner"
def nested : DeclaredViewModel := .named "Outer.Inner"

/-- Whether a view model is a name. -/
def isNamed (name : String) : Option ViewModel → Bool
  | some (.named other) => other = name
  | _ => false

theorem eq_of_isNamed {name : String} {declared : Option ViewModel} (known : isNamed name declared = true) :
    declared = some (.named name) := by
  unfold isNamed at known
  split at known
  · rw [of_decide_eq_true known]
  · cases known

theorem definition_schema {given : DeclaredViewModel}
    (extracts : ((classModule given).provider.schema (classInfo given)).toOption.isSome = true) :
    (schema given).definition = ClassModule.definition (classInfo given) :=
  (Provider.schema_eq_ok (eq_ok_getD_of_isSome extracts)).1

/-- Given by its qualified name, the inner class is brought, and the factory has a view model. -/
theorem viewModel_of_qualified : ∃ c, load qualified = .ok c ∧
    (classInfo qualified).ownState = some (.named "app.state.Outer.Inner") ∧
    ((schema qualified).synthesize.moduleText "stategen.runtime").Brings "app.state" "Outer.Inner" ∧
    ¬ (ContainerSession.start c).LacksViewModel default "d" := by
  have declared : (classInfo qualified).ownState = some (.named "app.state.Outer.Inner") :=
    eq_of_isNamed (by decide +kernel)
  have loads : (load qualified).toOption.isSome = true := by decide +kernel
  obtain ⟨c, loaded⟩ := Option.isSome_iff_exists.mp loads
  have loaded := toOption_eq_some_iff.mp loaded
  obtain ⟨brings, -, lacks⟩ := Schema.viewModel_iff_brings (definition_schema (by decide +kernel)) declared
    (.qualified "app.state" "Outer.Inner") "stategen.runtime"
  have brought := brings.mpr ⟨by decide, by decide, fun same => absurd same (by simp)⟩
  exact ⟨c, loaded, declared, brought,
    fun lacking => (lacks c loaded _ rfl _ _).mp lacking ⟨_, _, brought⟩⟩

/-- Given by its path, the inner class is not brought although it is there, and the factory lacks a
view model. -/
theorem exists_lacksViewModel : ∃ c, load nested = .ok c ∧
    (classInfo nested).ownState = some (.named "Outer.Inner") ∧
    ViewModel.Means (classInfo nested).id.moduleName (.named "Outer.Inner") "app.state" "Outer.Inner" ∧
    ((classModule nested).classOf? { moduleName := "app.state", path := "Outer.Inner" }).isSome = true ∧
    (¬ ((schema nested).synthesize.moduleText "stategen.runtime").Brings "app.state" "Outer.Inner") ∧
    (ContainerSession.start c).LacksViewModel default "d" := by
  have declared : (classInfo nested).ownState = some (.named "Outer.Inner") :=
    eq_of_isNamed (by decide +kernel)
  have loads : (load nested).toOption.isSome = true := by decide +kernel
  obtain ⟨c, loaded⟩ := Option.isSome_iff_exists.mp loads
  have loaded := toOption_eq_some_iff.mp loaded
  have own : (classInfo nested).id.moduleName = "app.state" := by decide +kernel
  have unknown : (schema nested).synthesize.viewModel? = none :=
    Schema.viewModel?_of_nested (definition_schema (by decide +kernel)) declared (by decide) (by decide)
  refine ⟨c, loaded, declared, own ▸ .ownPath "Outer.Inner", by decide +kernel, fun brings => ?_,
    ContainerSession.lacksViewModel_iff.mpr ((Container.viewModel_eq_none_iff loaded).mpr unknown)⟩
  exact (ArtifactSet.exists_brings_iff _).mp ⟨_, _, brings⟩ unknown

end Consumer

end StateContainer
