/-
This file says what is built of declarations.

Whatever a declaration says, a class that is made a record class has the fields of its
annotations behind those that it inherits, and a constructor for them unless one is written
by hand. So each class of a module that was built is made from its fields if it has a
constructor of its own that nobody wrote.
-/

import StateContainer.Class.Module
import StateContainer.Proofs.Class.Making

namespace StateContainer

namespace Class

/-! ### What is built -/

section
variable {α β : Type}

/-- Whether everything that a building gives is of some kind. -/
def Gives (building : Building α) (result : α → Prop) : Prop :=
  ∀ memory, EndsAs result (fun _ => True) (building.run memory).1

variable {building : Building α} {result : α → Prop} {final : β → Prop}

theorem gives_pure {made : α} (holds : result made) : Gives (pure made) result :=
  fun _ => holds

theorem gives_throw (error : BuildError) : Gives (throw error : Building α) result :=
  fun _ => trivial

theorem gives_throw_bind (error : BuildError) {next : α → Building β} :
    Gives (throw error >>= next) final :=
  fun _ => trivial

/-- Nothing is known of what is only looked at. -/
theorem gives_any (building : Building α) : Gives building fun _ => True := by
  intro memory
  cases (building.run memory).1 <;> trivial

theorem Gives.bind {next : α → Building β} (gives : Gives building result)
    (rest : ∀ made, result made → Gives (next made) final) : Gives (building >>= next) final := by
  intro memory
  have here := gives memory
  show EndsAs final _ (ExceptT.bindCont next (building.run memory).1 (building.run memory).2).1
  cases made : (building.run memory).1 with
  | ok found => exact rest found (here.of_ok made) _
  | error _ => trivial

theorem gives_bind {next : α → Building β} (rest : ∀ made, Gives (next made) final) :
    Gives (building >>= next) final :=
  (gives_any building).bind fun made _ => rest made

/-- What is made without going wrong is gone on with. -/
theorem gives_bind_of_eq {made : α} {next : α → Building β} (same : building = pure made)
    (rest : Gives (next made) final) : Gives (building >>= next) final := by
  rw [same, pure_bind]
  exact rest

theorem gives_if_throw {holds : Prop} [Decidable holds] {error : BuildError}
    {next : Unit → Building β} (rest : ∀ answer, Gives (next answer) final) :
    Gives (if holds then throw error >>= next else next ()) final := by
  split
  · exact gives_throw_bind error
  · exact rest ()

theorem Gives.weaken {wider : α → Prop} (gives : Gives building result)
    (within : ∀ made, result made → wider made) : Gives building wider :=
  fun memory => (gives memory).weaken within fun _ => id

theorem Gives.of_run {made : α} {memory after : Hint.Memory} (gives : Gives building result)
    (builds : building.run memory = (.ok made, after)) : result made :=
  (gives memory).of_ok (congrArg Prod.fst builds)

/-- What one building after another makes is made by each of them in turn. -/
theorem exists_of_run_bind {next : α → Building β} {made : β} {memory after : Hint.Memory}
    (builds : (building >>= next).run memory = (.ok made, after)) :
    ∃ first middle, building.run memory = (.ok first, middle) ∧
      (next first).run middle = (.ok made, after) := by
  change ExceptT.bindCont next (building.run memory).1 (building.run memory).2 = _ at builds
  cases ended : building.run memory with
  | mk result middle =>
    rw [ended] at builds
    cases result with
    | ok first => exact ⟨first, middle, rfl, builds⟩
    | error _ => cases builds

/-- What is made for each item of a list has what is known of the item. -/
theorem gives_mapM {step : α → Building β} {items : List α} {holds : α → β → Prop}
    (each : ∀ item ∈ items, Gives (step item) (holds item)) :
    Gives (items.mapM step) (List.Forall₂ holds items) := by
  induction items with
  | nil => exact gives_pure .nil
  | cons first others inductionHypothesis =>
    obtain ⟨here, later⟩ := List.forall_mem_cons.mp each
    rw [List.mapM_cons]
    exact here.bind fun made own => (inductionHypothesis later).bind fun made rest =>
      gives_pure (.cons own rest)

/-- What each step of going through a list keeps is kept. -/
theorem gives_foldlM {step : β → α → Building β} {items : List α} {start : β} (first : final start)
    (each : ∀ made, final made → ∀ item ∈ items, Gives (step made item) final) :
    Gives (items.foldlM step start) final := by
  induction items generalizing start with
  | nil => exact gives_pure first
  | cons item others inductionHypothesis =>
    rw [List.foldlM_cons]
    exact (each start first item List.mem_cons_self).bind fun made own =>
      inductionHypothesis own fun made own item member =>
        each made own item (List.mem_cons_of_mem _ member)

end

/-! ### Record classes -/

variable {surroundings : Surroundings} {options : RecordOptions} {c : ClassInfo}

/-- The own fields of a class behind those that it inherits. -/
def recordOf (options : RecordOptions) (own : List Field) (c : ClassInfo) : RecordInfo where
  allFields := own.foldl (fun all f => all.insert f.name f) (inheritedFields c)
  frozen := options.frozen
  shown := options.shown
  slotted := options.slotted

/-- A class as a record class of its own fields. -/
def asRecord (options : RecordOptions) (own : List Field) (c : ClassInfo) : ClassInfo :=
  let record := recordOf options own c
  let finished := { c with
    ownRecord := some record
    ownConstructor :=
      if options.constructor then c.ownConstructor.or (some (constructorOf c record.fields))
      else c.ownConstructor }
  if options.slotted then addSlots record.fields finished else finished

theorem ownRecord_asRecord (own : List Field) :
    (asRecord options own c).ownRecord = some (recordOf options own c) := by
  unfold asRecord
  dsimp only
  split <;> rfl

theorem ownConstructor_asRecord (own : List Field) : (asRecord options own c).ownConstructor =
    if options.constructor then
      c.ownConstructor.or (some (constructorOf c (recordOf options own c).fields))
    else c.ownConstructor := by
  unfold asRecord
  dsimp only
  split <;> rfl

theorem constructorIsWritten_asRecord (own : List Field) :
    (asRecord options own c).constructorIsWritten = c.constructorIsWritten := by
  unfold asRecord
  dsimp only
  split <;> rfl

/-- Making a class a record class gives it the fields of its annotations, and changes nothing else
but attributes. -/
theorem gives_makeRecord {ofField : String × Hint → Field → Prop} {settled : ClassInfo → Prop}
    (fields : ∀ entry ∈ c.annotations.entries,
      Gives (fieldOf surroundings options.byName c entry.1 entry.2) (ofField entry))
    (settles : ∀ own, List.Forall₂ ofField c.annotations.entries own →
      Gives (own.foldlM settleAttribute c) settled) :
    Gives (makeRecord surroundings options c) fun made => ∃ own bare,
      List.Forall₂ ofField c.annotations.entries own ∧ settled bare ∧
      made = asRecord options own bare := by
  -- What follows each check gives the record class, so the checks may be passed over one by one.
  unfold makeRecord
  extract_lets -underBinder afterOptions
  have afterOptions : ∀ answer, Gives (afterOptions answer) fun made => ∃ own bare,
      List.Forall₂ ofField c.annotations.entries own ∧ settled bare ∧
      made = asRecord options own bare := by
    intro answer
    dsimp -zeta only [afterOptions]
    extract_lets -underBinder records
    refine (gives_mapM fields).bind fun own annotated => (settles own annotated).bind fun bare is => ?_
    refine Gives.weaken (?_ : Gives _ (· = asRecord options own bare)) fun made same =>
      ⟨own, bare, annotated, is, same⟩
    extract_lets -underBinder afterAttributes
    have afterAttributes' : ∀ answer, Gives (afterAttributes answer) (· = asRecord options own bare) := by
      intro answer
      dsimp -zeta only [afterAttributes]
      extract_lets -underBinder afterAncestors
      have afterAncestors' : ∀ answer, Gives (afterAncestors answer) (· = asRecord options own bare) := by
        intro answer
        dsimp -zeta only [afterAncestors]
        extract_lets -underBinder afterOrder
        refine gives_if_throw fun answer => ?_
        dsimp -zeta only [afterOrder]
        extract_lets -underBinder all record afterConstructor
        have afterConstructor' :
            ∀ answer, Gives (afterConstructor answer) (· = asRecord options own bare) := by
          intro answer
          dsimp -zeta only [afterConstructor]
          extract_lets -underBinder afterShown
          refine gives_if_throw fun answer => ?_
          dsimp -zeta only [afterShown]
          extract_lets -underBinder made finished afterInstance
          have afterInstance' : ∀ answer, Gives (afterInstance answer) (· = asRecord options own bare) := by
            intro answer
            dsimp -zeta only [afterInstance]
            split
            · next slotted => exact gives_pure (if_pos slotted).symm
            · next loose =>
              split
              · exact gives_throw _
              · exact gives_pure (if_neg loose).symm
          split
          · exact gives_if_throw afterInstance'
          · exact afterInstance' ()
        split
        · split
          · exact gives_throw_bind _
          · exact gives_bind afterConstructor'
        · exact afterConstructor' ()
      split
      · exact gives_if_throw fun _ => gives_if_throw afterAncestors'
      · exact afterAncestors' ()
    split
    · exact gives_throw_bind _
    · exact afterAttributes' ()
  split
  · exact gives_throw_bind _
  · exact afterOptions ()

/-! ### Names of fields -/

/-- Whether fields are bound to their names, each name once. -/
def AreNamed (all : OrderedMap String Field) : Prop :=
  all.keys.Nodup ∧ ∀ entry ∈ all.entries, entry.1 = entry.2.name

theorem AreNamed.insert {all : OrderedMap String Field} (named : AreNamed all) (field : Field) :
    AreNamed (all.insert field.name field) := by
  refine ⟨OrderedMap.nodup_keys_insert named.1 _ _, fun entry member => ?_⟩
  rcases OrderedMap.mem_entries_insert member with before | rfl
  · exact named.2 entry before
  · rfl

theorem AreNamed.foldl {all : OrderedMap String Field} (named : AreNamed all) (fields : List Field) :
    AreNamed (fields.foldl (fun all f => all.insert f.name f) all) := by
  induction fields generalizing all with
  | nil => exact named
  | cons first others inductionHypothesis => exact inductionHypothesis (named.insert first)

theorem areNamed_inheritedFields (c : ClassInfo) : AreNamed (inheritedFields c) := by
  unfold inheritedFields
  have first : AreNamed {} := ⟨List.nodup_nil, fun _ => nofun⟩
  generalize ({} : OrderedMap String Field) = all at first ⊢
  induction c.ancestors.reverse generalizing all with
  | nil => exact first
  | cons ancestor others inductionHypothesis =>
    rw [List.foldl_cons]
    cases ancestor.record? with
    | none => exact inductionHypothesis _ first
    | some record => exact inductionHypothesis _ (first.foldl _)

theorem AreNamed.nodup_fields {record : RecordInfo} (named : AreNamed record.allFields) :
    (record.fields.map (·.name)).Nodup := by
  have keys : record.allFields.values.map (·.name) = record.allFields.keys := by
    rw [OrderedMap.values, OrderedMap.keys, List.map_map]
    exact List.map_congr_left fun entry member => (named.2 entry member).symm
  refine (List.filter_sublist.map _).nodup ?_
  rw [keys]
  exact named.1

/-! ### Regular classes -/

/-- Whether a class has no constructor of its own but one that is written by hand. -/
def AwaitsConstructor (c : ClassInfo) : Prop :=
  c.constructorIsWritten = false → c.ownConstructor = none

/-- Whether a constructor of a class itself that is not written by hand is the one that was made for
its fields, which have names of their own. -/
def IsRegular (c : ClassInfo) : Prop :=
  c.constructorIsWritten = false → ∀ constructor, c.ownConstructor = some constructor →
    ∃ record named, c.ownRecord = some record ∧ constructor = constructorOf named record.fields ∧
      (record.fields.map (·.name)).Nodup

theorem AwaitsConstructor.isRegular (awaits : AwaitsConstructor c) : IsRegular c := by
  intro unwritten constructor own
  rw [awaits unwritten] at own
  cases own

theorem AwaitsConstructor.isRegular_asRecord (awaits : AwaitsConstructor c) (own : List Field) :
    IsRegular (asRecord options own c) := by
  intro unwritten constructor made
  rw [constructorIsWritten_asRecord] at unwritten
  rw [ownConstructor_asRecord, awaits unwritten, Option.none_or] at made
  refine ⟨recordOf options own c, c, ownRecord_asRecord own, ?_, ?_⟩
  · split at made
    · exact (Option.some.inj made).symm
    · cases made
  · exact ((areNamed_inheritedFields c).foldl own).nodup_fields

/-- Settling attributes changes nothing else. -/
theorem AwaitsConstructor.gives_settle (awaits : AwaitsConstructor c) (own : List Field) :
    Gives (own.foldlM settleAttribute c) AwaitsConstructor := by
  refine gives_foldlM awaits fun made awaits field _ => ?_
  unfold settleAttribute
  split
  · exact gives_pure awaits
  · split
    · exact gives_pure awaits
    · exact gives_throw _
  · exact gives_pure awaits

theorem AwaitsConstructor.gives_makeRecord (awaits : AwaitsConstructor c) :
    Gives (makeRecord surroundings options c) fun made =>
      IsRegular made ∧ made.ownRecord.isSome = true := by
  refine (Class.gives_makeRecord (fun _ _ => gives_any _) fun own _ => awaits.gives_settle own).weaken ?_
  rintro _ ⟨own, bare, -, awaits, rfl⟩
  exact ⟨awaits.isRegular_asRecord own, by rw [ownRecord_asRecord]; rfl⟩

/-- A class that is a record class already is only marked. -/
theorem gives_markState {viewModel : ViewModel}
    (known : AwaitsConstructor c ∨ IsRegular c ∧ c.record?.isSome = true) :
    Gives (markState surroundings viewModel c) IsRegular := by
  rw [markState]
  split
  · rw [pure_bind]
    exact gives_pure (known.elim AwaitsConstructor.isRegular And.left)
  · next bare =>
    have awaits := known.resolve_right fun record => bare record.2
    exact awaits.gives_makeRecord.bind fun made regular => gives_pure regular.1

/-- The classes inside of a class add attributes and nothing else. -/
theorem AwaitsConstructor.addNested (awaits : AwaitsConstructor c)
    (inner : List ClassInfo) :
    AwaitsConstructor (inner.foldl (fun (c : ClassInfo) nested =>
      { c with attributes := c.attributes.insert nested.name (.nested nested.id) }) c) := by
  induction inner generalizing c with
  | nil => exact awaits
  | cons first others inductionHypothesis => exact inductionHypothesis awaits

end Class

open StateContainer.Class

namespace ClassModule

/-! ### Modules -/

variable {m : ClassModule}

/-- A class is marked as state if it is declared so. -/
theorem gives_markIfState {declaration : Declaration} {c made : ClassInfo}
    (known : AwaitsConstructor made ∨ Class.IsRegular made ∧ made.record?.isSome = true) :
    Gives (match declaration.state with
      | some viewModel => do
        markState ⟨m.namesOf? c.id.moduleName⟩ (← m.declaredViewModel viewModel) made
      | none => return made) Class.IsRegular := by
  split
  · exact gives_bind fun viewModel => gives_markState known
  · exact gives_pure (known.elim AwaitsConstructor.isRegular And.left)

theorem gives_finishClass {declaration : Declaration} {c : ClassInfo} (awaits : AwaitsConstructor c) :
    Gives (m.finishClass declaration c) Class.IsRegular := by
  rw [finishClass]
  dsimp only
  split
  · refine awaits.gives_makeRecord.bind fun made regular => gives_markIfState (Or.inr ⟨regular.1, ?_⟩)
    obtain ⟨record, own⟩ := Option.isSome_iff_exists.mp regular.2
    rw [ClassInfo.record?, ClassInfo.lineage, List.findSome?_cons, own]
    rfl
  · rw [pure_bind]
    exact gives_markIfState (Or.inl awaits)

/-- Declaring fields and a constructor makes no constructor but one that is written by hand. -/
theorem gives_declareConstructor {declaration : Declaration} {c : ClassInfo}
    (awaits : AwaitsConstructor c) : Gives (m.declareConstructor c declaration) AwaitsConstructor := by
  have isWritten {made : ClassInfo} (written : made.constructorIsWritten = true) :
      AwaitsConstructor made := fun unwritten => absurd (written.symm.trans unwritten) nofun
  rw [declareConstructor]
  split
  · exact gives_pure (isWritten rfl)
  · split
    · exact gives_pure awaits
    · split
      · exact gives_throw _
      · exact gives_bind fun formals => gives_pure (isWritten rfl)

theorem gives_declareField {field : DeclaredField} {c : ClassInfo} (awaits : AwaitsConstructor c) :
    Gives (m.declareField c field) AwaitsConstructor :=
  gives_bind fun _ => gives_bind fun _ => gives_pure awaits

/-- Whether all classes of a module are made from their fields if they have a constructor of their
own that nobody wrote. -/
def IsRegular (m : ClassModule) : Prop :=
  ∀ entry ∈ m.classes.entries, Class.IsRegular entry.2

theorem IsRegular.keep {c : ClassInfo} (regular : m.IsRegular) (own : Class.IsRegular c) :
    (m.keep c).IsRegular := by
  intro entry member
  rcases OrderedMap.mem_entries_insert member with before | rfl
  · exact regular entry before
  · exact own

theorem gives_declareClass_of_nested {outer name : String} {moduleName : Option String}
    {bases : List String} {fields : List DeclaredField} {constructor : Option String} {isModel : Bool}
    {nested : List Declaration} {record : Option RecordOptions} {state : Option DeclaredViewModel}
    {outside : List ClassInfo}
    (inside : Gives (m.declareNested (name ++ ".") nested) fun made => made.1.IsRegular) :
    Gives (m.declareClass outer
      ⟨name, moduleName, bases, fields, constructor, isModel, nested, record, state, outside⟩)
      fun made => made.1.IsRegular := by
  rw [declareClass]
  dsimp only
  have start {id : Hint.ClassId} : AwaitsConstructor { id } := fun _ => rfl
  refine (gives_foldlM start fun _ awaits _ _ => gives_declareField awaits).bind
    fun withFields awaits => ?_
  refine (gives_declareConstructor awaits).bind fun own awaits => ?_
  refine gives_bind fun bases => gives_bind fun _ => gives_bind fun ancestors => gives_bind fun _ => ?_
  refine inside.bind fun (m, inner) regular => ?_
  have awaits : AwaitsConstructor { own with
      id := { own.id with metaName := metaNameOf bases }
      ancestors } := awaits
  exact (gives_finishClass (awaits.addNested inner)).bind fun finished own =>
    gives_pure (regular.keep own)

mutual

/-- Whatever is declared, regular classes come to those of a module. -/
theorem gives_declareClass {m : ClassModule} (regular : m.IsRegular) (outer : String) :
    (declaration : Declaration) → Gives (m.declareClass outer declaration) fun made => made.1.IsRegular
  | ⟨name, _, _, _, _, _, nested, _, _, _⟩ =>
    gives_declareClass_of_nested (gives_declareNested regular (name ++ ".") nested)

theorem gives_declareNested {m : ClassModule} (regular : m.IsRegular) (outer : String) :
    (declarations : List Declaration) →
      Gives (m.declareNested outer declarations) fun made => made.1.IsRegular
  | [] => by
    rw [declareNested]
    exact gives_pure regular
  | first :: others => by
    rw [declareNested]
    exact (gives_declareClass regular outer first).bind fun (_, _) regular =>
      (gives_declareNested regular outer others).bind fun (_, _) regular => gives_pure regular

end

/-- The classes of a module that was built are made from their fields if they have a constructor of
their own that nobody wrote. -/
theorem isRegular_of_build {name : String} {declarations : List Declaration}
    {aliases : List (String × String)} (builds : build name declarations aliases = .ok m) :
    m.IsRegular := by
  have declares {m : ClassModule} (regular : m.IsRegular) (declaration : Declaration) :
      Gives (m.declare declaration) IsRegular :=
    (gives_declareClass regular "" declaration).bind fun (_, _) regular => gives_pure regular
  have binds {m : ClassModule} (regular : m.IsRegular) (names : String × String) :
      Gives (m.bindAlias names) IsRegular :=
    gives_bind fun _ => gives_pure regular
  have all : Gives (do aliases.foldlM bindAlias (← declarations.foldlM declare { name }))
      IsRegular := by
    have start : IsRegular { name } := fun _ => nofun
    exact (gives_foldlM start fun _ regular declaration _ => declares regular declaration).bind
      fun _ regular => gives_foldlM regular fun _ regular names _ => binds regular names
  unfold build at builds
  extract_lets building at builds
  split at builds
  next result memory run =>
    cases result with
    | error _ => cases builds
    | ok found =>
      cases builds
      have regular : found.IsRegular := all.of_run run
      exact regular

/-- A class of a regular module is a record of its fields. -/
theorem IsRegular.exists_madeFromFields (regular : m.IsRegular) {id : Hint.ClassId} {c : ClassInfo}
    (found : m.classOf? id = some c) (own : c.ownConstructor.isSome = true)
    (unwritten : c.constructorIsWritten = false) :
    ∃ record, c.record? = some record ∧ c.MadeFromFields record := by
  obtain ⟨constructor, made⟩ := Option.isSome_iff_exists.mp own
  obtain ⟨record, named, ownRecord, rfl, distinct⟩ :=
    regular _ (OrderedMap.mem_of_get?_eq_some found) unwritten constructor made
  refine ⟨record, ?_, ⟨⟨c, named, ?_, unwritten, ownRecord⟩, distinct⟩⟩
  · rw [ClassInfo.record?, ClassInfo.lineage, List.findSome?_cons, ownRecord]
  · rw [ClassInfo.constructor?, ClassInfo.lineage, List.findSome?_cons, made]
    rfl

end ClassModule

end StateContainer
