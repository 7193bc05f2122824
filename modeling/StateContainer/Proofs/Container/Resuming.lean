/-
This file proves that a delegate goes on where another one has left off.

A delegate is built, and programs are run on it until they have ended. What it holds for the persisted
fields is then saved to a store. A delegate of the same definition that is built from this store has
the same values of these fields. The other fields of the input are those of the new input, and all
that remain have their defaults.
-/

import StateContainer.Proofs.Container.Saving

namespace StateContainer

open ContainerSession StateContainer.Class Snapshot

/-! ### Inputs -/

namespace Container

/-- The inputs that a container takes, with the values that they have for its fields: one with a value
for each of them, or none if there are no such fields. -/
inductive Takes (c : Container) : Option (Option Input) → List (String × Value) → Prop
  | closed (without : c.artifacts.input.isSome = false) : c.Takes none []
  | opened {input : Input} {given : List (String × Value)} (within : c.artifacts.input.isSome = true)
      (names : given.map (·.1) = c.artifacts.plan.inputFields)
      (each : ∀ entry ∈ given, input.get (c.insideName entry.1) = .ok entry.2) :
      c.Takes (some (some input)) given

variable {c : Container} {input : Option (Option Input)} {given : List (String × Value)}
  {m : ClassModule} {definition : ClassInfo} {schema : Schema} {s : SnapshotClass} {types : List Hint}

/-- The record that the input makes is made of its values. -/
theorem Takes.fromInput_eq (takes : c.Takes input given) :
    c.fromInput (if c.artifacts.input.isSome then input.getD none else none) = c.makeRecord given := by
  cases takes with
  | closed without => rw [without, if_neg Bool.false_ne_true, fromInput]
  | @opened input given within names each =>
    rw [within, if_pos rfl, Option.getD_some, fromInput, ← names, List.mapM_map]
    refine bind_eq_of_eq_ok (mapM_eq_pure_of_fixed fun entry member => ?_) rfl
    show (input.get (c.insideName entry.1) >>= _) = _
    rw [each entry member]
    rfl

/-- The values are those of the properties that are supplied. -/
theorem Takes.map_fst_eq (takes : c.Takes input given) (known : c.IsOf m definition schema s types) :
    given.map (·.1) = schema.inputs.map (·.name) := by
  cases takes with
  | closed without =>
    rw [known.artifacts_eq] at without
    have none : schema.inputs = [] := by
      refine List.filter_eq_nil_iff.mpr fun p member supplied => ?_
      have some : schema.hasInput = true := List.any_eq_true.mpr ⟨p, member, supplied⟩
      change schema.input?.isSome = false at without
      rw [Schema.input?, if_pos some] at without
      cases without
    rw [none]
    rfl
  | opened within names each => rw [names, known.artifacts_eq, Schema.synthesize, Schema.plan]

theorem Takes.requireParameters_eq {session : ContainerSession}
    (takes : session.container.Takes input given)
    (known : session.container.IsOf m definition schema s types) (functionName : String) :
    requireParameters functionName { input } session = .ok ((), session) := by
  unfold requireParameters
  rw [get_bind]
  cases takes with
  | closed without => rfl
  | opened within names each =>
    have parameter : session.container.artifacts.plan.parameters.contains stateInputName = true := by
      rw [known.artifacts_eq] at within ⊢
      have some : schema.hasInput = true := by
        by_contra none
        change schema.input?.isSome = true at within
        rw [Schema.input?, if_neg none] at within
        cases within
      rw [List.contains_iff_mem]
      show _ ∈ _ ++ (if schema.hasInput then _ else _)
      rw [if_pos some]
      exact List.mem_append_right _ List.mem_cons_self
    dsimp only
    rw [parameter]
    rfl

/-! ### Containers whose delegates can be built -/

/-- What it takes to build delegates of a container: a record can be made of nothing but fields of the
input, and whatever stands for functions and classes of the runtime takes the calls. -/
structure CanBuild (c : Container) : Prop where
  makes : ∃ named made, Instance.make c.record [] named = .ok made ∧
    ∀ entry ∈ named, entry.1 ∈ c.artifacts.plan.inputFields
  restores : c.callStandIn "restore_snapshot" 3 = .ok ()
  starts : ∀ p ∈ c.properties,
    c.callStandIn p.eventKind.className 1 = .ok () ∧ c.callStandIn "StateChannel" 1 = .ok ()

/-- Where a delegate was built, delegates can be built. -/
theorem KeepsFields.canBuild {session built : ContainerSession} {key name : String}
    {kept record : RecordInfo} {arguments : BuildArguments}
    (keeps : session.container.KeepsFields s key types kept record)
    (made : session.run (newDelegate name arguments) = (.ok (), built)) :
    session.container.CanBuild := by
  obtain ⟨state, isBuilt⟩ := newDelegate_eq_ok made
  obtain ⟨logged, initial⟩ := isBuilt.initialState
  have starts := (exists_newDelegate_iff initial).mp ⟨built, made⟩
  obtain ⟨log, initially, -⟩ :=
    (initialState_eq_ok_iff (requireParameters_of_initialState initial)).mp initial
  rw [Container.initialState, keeps.snapshotClass, keeps.snapshotKey] at initially
  obtain ⟨plain, fromInput, initially⟩ := exists_of_bind_eq_ok initially
  obtain ⟨_, restores, -⟩ := exists_of_bind_eq_ok initially
  obtain ⟨named, makes, inputs⟩ := exists_make_of_fromInput fromInput
  exact ⟨⟨named, plain, makes, inputs⟩, restores, fun p member => (starts p member).2⟩

/-- A record can be made of values for some properties, if all that are supplied are among them. -/
theorem IsOf.exists_make (known : c.IsOf m definition schema s types) (builds : c.CanBuild)
    (own : (given.map (·.1)).Sublist (schema.properties.map (·.name)))
    (supplied : ∀ p ∈ schema.inputs, p.name ∈ given.map (·.1)) :
    ∃ made, Instance.make c.record [] given = .ok made := by
  obtain ⟨record, isRecord, fromFields, properties, taken⟩ := known.exists_madeFromFields
  obtain ⟨named, made, makes, inputs⟩ := builds.makes
  rw [known.record_eq] at makes ⊢
  have leaves := known.leaves record isRecord
  rw [properties] at own
  refine fromFields.exists_make leaves makes (own.nodup fromFields.distinct) (fun entry member => ?_)
    fun field member inside lacks => ?_
  · obtain ⟨field, there, same⟩ := List.mem_map.mp (own.subset (List.mem_map_of_mem member))
    exact ⟨field, there, same, taken field there⟩
  · obtain ⟨entry, there, same⟩ :=
      List.mem_map.mp (fromFields.mem_of_make leaves makes member inside lacks)
    have input := inputs entry there
    rw [known.artifacts_eq, same] at input
    obtain ⟨p, isInput, named⟩ := List.mem_map.mp input
    exact named ▸ supplied p isInput

end Container

section
variable {session : ContainerSession} {name : String} {delegate : Nat}
  {input : Option (Option Container.Input)} {given : List (String × Value)}
  {m : ClassModule} {definition : ClassInfo} {schema : Schema} {s : SnapshotClass} {types : List Hint}

/-- The state of a delegate has what it holds for the properties. -/
theorem exists_currentState (known : session.container.IsOf m definition schema s types)
    (builds : session.container.CanBuild)
    (named : session.holdings.get? name = some (.delegate delegate)) :
    ∃ now, (session.run (currentState name)).1 = .ok now ∧
      ∀ p ∈ schema.properties, now.get p.name = .ok (session.held delegate p.name) := by
  obtain ⟨record, -, fromFields, -⟩ := known.exists_madeFromFields
  have properties : session.container.properties = schema.properties := by
    rw [Container.properties, known.artifacts_eq]
    rfl
  have names : (schema.properties.map fun p => (p.name, session.held delegate p.name)).map (·.1) =
      schema.properties.map (·.name) := by
    rw [List.map_map]
    rfl
  obtain ⟨now, makes⟩ := known.exists_make builds (by rw [names]) fun p member => by
    rw [names]
    exact List.mem_map_of_mem (List.mem_of_mem_filter member)
  refine ⟨now, ?_, fun p member => ?_⟩
  · rw [run_currentState named, properties]
    exact mapError_eq_ok_iff.mpr makes
  · rw [known.record_eq] at makes
    exact fromFields.get_of_make makes (List.mem_map.mpr ⟨p, member, rfl⟩)

/-- Where delegates can be built, one is built of any input that is taken. -/
theorem exists_newDelegate_of_takes (known : session.container.IsOf m definition schema s types)
    (builds : session.container.CanBuild)
    (unchanged : ∀ p ∈ schema.properties, session.container.insideName p.name = p.name)
    (takes : session.container.Takes input given) (name : String) :
    ∃ state built, Instance.make definition [] given = .ok state ∧
      session.run (newDelegate name { input }) = (.ok (), built) ∧
      Built name { input } session built state := by
  obtain ⟨record, isRecord, fromFields, properties, taken⟩ := known.exists_madeFromFields
  obtain ⟨_, _, keeps⟩ := known.keepsFields
  have names := takes.map_fst_eq known
  obtain ⟨state, makes⟩ := known.exists_make builds
    (by
      rw [names]
      exact List.filter_sublist.map _)
    fun p member => names ▸ List.mem_map_of_mem member
  have initially : session.container.initialState none (input.getD none) = .ok (state, []) := by
    rw [Container.initialState, takes.fromInput_eq, keeps.snapshotClass, keeps.snapshotKey]
    refine bind_eq_of_eq_ok (mapError_eq_ok_iff.mpr makes) ?_
    dsimp only
    exact bind_eq_of_eq_ok builds.restores rfl
  have initial := (initialState_eq_ok_iff (takes.requireParameters_eq known
    (constructorName session))).mpr ⟨[], initially, rfl⟩
  rw [known.record_eq] at makes
  obtain ⟨built, made⟩ : ∃ built, session.run (newDelegate name { input }) = (.ok (), built) := by
    refine (exists_newDelegate_iff initial).mpr fun p member => ?_
    have own : p ∈ schema.properties := by
      rw [Container.properties, known.artifacts_eq] at member
      exact member
    obtain ⟨field, there, same⟩ := List.mem_map.mp (properties ▸ List.mem_map_of_mem own)
    obtain ⟨value, found⟩ := fromFields.exists_get (known.leaves record isRecord) makes there
      (taken field there)
    refine ⟨⟨value, ?_⟩, builds.starts p member⟩
    rw [unchanged p own, ← same]
    exact found
  obtain ⟨other, isBuilt⟩ := newDelegate_eq_ok made
  obtain ⟨_, same⟩ := isBuilt.initialState
  cases same.symm.trans initial
  exact ⟨state, built, makes, made, isBuilt⟩

/-- A delegate that has just been built holds its initial values. -/
theorem Built.held_eq {built : ContainerSession} {state : Instance} {arguments : BuildArguments}
    (isBuilt : Built name arguments session built state) {p : Property}
    (known : p ∈ session.container.properties) {value : Value}
    (found : state.get (session.container.insideName p.name) = .ok value) :
    built.held session.built p.name = value := by
  obtain ⟨event, later, fresh, _, initial, -, read, there⟩ :=
    isBuilt.started.channels p.name (List.mem_map_of_mem known)
  rw [read] at found
  cases found
  exact ContainerSession.held_eq (congrArg Channel.value fresh)
    (congrArg (Option.map Event.unread) there)

/-! ### Restored states -/

/-- Whether a state is what another one is followed by if an input has some values: the persisted
properties are as they were, the others of the input have its values, and all that remain have their
defaults. -/
structure Follows (definition : ClassInfo) (schema : Schema) (given : List (String × Value))
    (now later : Instance) : Prop where
  persisted : ∀ p ∈ schema.persisted, ∃ value, now.get p.name = .ok value ∧ later.get p.name = .ok value
  supplied : ∀ entry ∈ given, entry.1 ∉ schema.persisted.map (·.name) → later.get entry.1 = .ok entry.2
  others : ∀ record, definition.record? = some record → ∀ field ∈ record.fields,
    field.name ∉ schema.persisted.map (·.name) → field.name ∉ given.map (·.1) →
    ∃ value, field.defaultValue? = some value ∧ later.get field.name = .ok value

variable {snapshot now : Instance} {number : Nat} {text : String}

/-- A delegate that is built from a text that is read as a snapshot begins with the values of the
snapshot, and else with the record of its input. -/
theorem exists_restored (known : session.container.IsOf m definition schema s types)
    (builds : session.container.CanBuild)
    (unchanged : ∀ p ∈ schema.properties, session.container.insideName p.name = p.name)
    (stored : (session.storeAt number).load (snapshotKey schema.name) = some (.text text))
    (decodes : s.decode (.text text) = .ok (.snapshot snapshot))
    (takes : session.container.Takes input given) (name : String) :
    ∃ state restored after, Instance.make definition [] given = .ok state ∧
      session.container.Restores state snapshot restored ∧
      session.run (newDelegate name { source := some (some (.store number)), input }) =
        (.ok (), after) ∧
      Built name { source := some (some (.store number)), input } session after restored := by
  obtain ⟨state, built, makes, plain, isPlain⟩ :=
    exists_newDelegate_of_takes known builds unchanged takes name
  obtain ⟨other, isOther, ends⟩ := endsAs_newDelegate_of_stored known plain stored
  obtain rfl : other = state := by
    obtain ⟨_, first⟩ := isPlain.initialState
    obtain ⟨_, second⟩ := isOther.initialState
    cases first.symm.trans second
    rfl
  rcases ends with ⟨restored, after, made, isBuilt, ⟨_, fails, -⟩ | ⟨found, decoded, restores⟩⟩ |
    ⟨_, -, fails, -⟩
  · cases decodes.symm.trans fails
  · cases decodes.symm.trans decoded
    exact ⟨other, restored, after, makes, restores, made, isBuilt⟩
  · cases decodes.symm.trans fails

/-- Where the snapshot has the persisted values of a state, the state of the delegate follows it. -/
theorem exists_resumed (known : session.container.IsOf m definition schema s types)
    (builds : session.container.CanBuild)
    (unchanged : ∀ p ∈ schema.properties, session.container.insideName p.name = p.name)
    (stored : (session.storeAt number).load (snapshotKey schema.name) = some (.text text))
    (decodes : s.decode (.text text) = .ok (.snapshot snapshot))
    (same : ∀ p ∈ schema.persisted, ∃ value,
      snapshot.get p.name = .ok value ∧ now.get p.name = .ok value)
    (takes : session.container.Takes input given) (name : String) :
    ∃ after later,
      session.run (newDelegate name { source := some (some (.store number)), input }) =
        (.ok (), after) ∧
      (after.run (currentState name)).1 = .ok later ∧ Follows definition schema given now later := by
  obtain ⟨state, restored, after, makes, restores, made, isBuilt⟩ :=
    exists_restored known builds unchanged stored decodes takes name
  obtain ⟨record, isRecord, fromFields, properties, taken⟩ := known.exists_madeFromFields
  have leaves := known.leaves record isRecord
  have container : after.container = session.container := isBuilt.started.container
  have own : session.container.properties = schema.properties := by
    rw [Container.properties, known.artifacts_eq]
    rfl
  have restoredFields : session.container.artifacts.plan.restoredFields =
      schema.persisted.map (·.name) := by
    rw [known.artifacts_eq, Schema.synthesize, Schema.plan]
  obtain ⟨later, current, each⟩ :=
    exists_currentState (container ▸ known) (container ▸ builds) isBuilt.named
  -- The state has what was restored.
  have reads {p : Property} (member : p ∈ schema.properties) {value : Value}
      (found : restored.get p.name = .ok value) : later.get p.name = .ok value := by
    rw [each p member, isBuilt.held_eq (own ▸ member) ((unchanged p member).symm ▸ found)]
  refine ⟨after, later, made, current, {
    persisted := fun p member => ?_
    supplied := fun entry member absent => ?_
    others := fun other isOther field member absent unsupplied => ?_ }⟩
  · obtain ⟨value, inSnapshot, inNow⟩ := same p member
    obtain ⟨_, read, found⟩ :=
      restores.persisted p.name (restoredFields ▸ List.mem_map_of_mem member)
    have inside := List.mem_of_mem_filter member
    rw [unchanged p inside] at read
    cases inSnapshot.symm.trans read
    exact ⟨value, inNow, reads inside found⟩
  · have supplied : entry.1 ∈ schema.inputs.map (·.name) := by
      rw [← takes.map_fst_eq known]
      exact List.mem_map_of_mem member
    obtain ⟨p, isInput, named⟩ := List.mem_map.mp supplied
    have found := (restores.others entry.1 (restoredFields ▸ absent)).trans
      (fromFields.get_of_make makes member)
    rw [← named] at found ⊢
    exact reads (List.mem_of_mem_filter isInput) found
  · cases isRecord.symm.trans isOther
    obtain ⟨value, default, found⟩ :=
      fromFields.get_default_of_make leaves makes member (taken field member) unsupplied
    have isProperty : field.name ∈ schema.properties.map (·.name) :=
      properties ▸ List.mem_map_of_mem member
    obtain ⟨p, inside, named⟩ := List.mem_map.mp isProperty
    have found := (restores.others field.name (restoredFields ▸ absent)).trans found
    rw [← named] at found ⊢
    exact ⟨value, default, reads inside found⟩

/-! ### Runs -/

/-- Whether the values of the persisted properties are of some types and can be stored: those that a
delegate begins with, and those that are pushed. -/
def KeepsTo (schema : Schema) (declared : List FieldType) (state : Instance) (deeds : List Deed) : Prop :=
  ∀ pair ∈ schema.persisted.zip declared, ∀ value,
    state.get pair.1.name = .ok value ∨ value ∈ argumentsOf pair.1.name deeds →
      pair.2.Admits value ∧ value.IsStorable

variable {built : ContainerSession} {first store : String} {arguments : BuildArguments}
  {declared : List FieldType}

/-- What a delegate holds is what it has begun with or what was pushed, so that it is of the types,
too. -/
theorem Refined.fits {state : Instance} {chronicle : DelegateChronicle}
    (refined : Refined session.container delegate name state built chronicle)
    (known : session.container.IsOf m definition schema s types)
    (unchanged : ∀ p ∈ schema.properties, session.container.insideName p.name = p.name)
    (keepsTo : KeepsTo schema declared state chronicle.bank.kept.deeds) :
    ∀ pair ∈ schema.persisted.zip declared,
      pair.2.Admits (built.held delegate pair.1.name) ∧
        (built.held delegate pair.1.name).IsStorable := by
  intro pair member
  have own := List.mem_of_mem_filter (List.of_mem_zip member).1
  have isProperty : session.container.property? pair.1.name ≠ none := by
    rw [← Option.isSome_iff_ne_none, Container.property?, Container.properties, known.artifacts_eq]
    exact List.find?_isSome.mpr ⟨_, own, decide_eq_true rfl⟩
  obtain ⟨initial, taken, waiting, read, pushed, -, holds⟩ := refined.held _ isProperty
  rw [unchanged _ own] at read
  refine keepsTo pair member _ ?_
  rw [holds, pushed]
  have last : taken.getLastD initial ∈ initial :: taken := List.getLastD_mem_cons
  rcases List.mem_cons.mp last with same | among
  · rw [same]
    exact Or.inl read
  · exact Or.inr (List.mem_append_left _ among)

/-- Whatever programs were run on a delegate, when they have ended it can be saved. A delegate that is
built from the store afterwards, of any input, has the persisted values of the first one, the other
values of the input, and else the defaults. -/
theorem follows_of_save
    (known : session.container.IsOf m definition schema s (declared.map (·.hint)))
    (unchanged : ∀ p ∈ schema.properties, session.container.insideName p.name = p.name)
    (apart : ∀ p ∈ schema.persisted, Json.HalvesApart p.name.toList)
    (made : session.run (newDelegate first arguments) = (.ok (), built))
    (fuel : Nat) (programs : List Program)
    (ended : (runPrograms fuel session.container session.built programs built).1.raised? ≠ none)
    (keepsTo : ∀ state, Built first arguments session built state → KeepsTo schema declared state
      (recordPrograms fuel session.container session.built programs built).2.bank.kept.deeds)
    (stores : built.holdings.get? store = some (.store number)) (there : number < built.stores.length) :
    ∃ now saved,
      ((built.afterPrograms fuel session.container session.built programs).run
        (currentState first)).1 = .ok now ∧
      (built.afterPrograms fuel session.container session.built programs).run
        (save first (some store)) = (.ok (), saved) ∧
      ∀ second input given, session.container.Takes input given →
        ∃ after later,
          saved.run (newDelegate second { source := some (some (.store number)), input }) =
            (.ok (), after) ∧
          (after.run (currentState second)).1 = .ok later ∧
          Follows definition schema given now later := by
  obtain ⟨-, ⟨state, isBuilt, refined⟩, -⟩ := refined_runPrograms made fuel programs ended
  obtain ⟨_, _, keeps⟩ := known.keepsFields
  have builds := keeps.canBuild made
  have fits := refined.fits known unchanged (keepsTo state isBuilt)
  generalize running : built.afterPrograms fuel session.container session.built programs = after
    at fits ⊢
  have container : after.container = session.container := by
    rw [← running]
    exact isBuilt.started.container
  have holdings : after.holdings = built.holdings := by
    rw [← running]
    rfl
  have ofStores : after.stores = built.stores := by
    rw [← running]
    rfl
  have delegates : after.holdings.get? first = some (.delegate session.built) :=
    holdings ▸ isBuilt.named
  rw [← container] at known builds unchanged
  obtain ⟨now, current, each⟩ := exists_currentState known builds delegates
  obtain ⟨snapshot, text, saves, decodes, snapshots⟩ :=
    exists_save known apart delegates (holdings ▸ stores) fits
  refine ⟨now, _, current, saves, fun second input given takes => ?_⟩
  have kept : (after.keeping number (snapshotKey schema.name) text).container.IsOf m definition
      schema s _ := known
  refine exists_resumed kept builds unchanged (load_keeping (ofStores ▸ there)) decodes
    (fun p member => ?_) (container ▸ takes) second
  exact ⟨_, snapshots p member, each p (List.mem_of_mem_filter member)⟩

end

/-! ### A number that is kept -/

namespace Keeper

/-- A definition that keeps a number. -/
def tally : Keeper := { type := "int", default := some (.int 0) }

/-- Whether an annotation is that of its field. -/
def isTallyHint (found : Hint) : Bool :=
  isClassOf StoredType.integerClass (some found)

theorem exists_isOf_tally : ∃ c s, tally.load = .ok c ∧
    c.IsOf tally.classModule tally.classInfo tally.schema s ([⟨.integer, false⟩].map FieldType.hint) :=
  exists_isOf (fun found (known : isTallyHint found = true) => Option.some.inj (eq_of_isClassOf known))
    (.single (.scalar (by decide)) nofun) (by decide +kernel)

/-- A session with a store. -/
def storing (c : Container) : ContainerSession :=
  { start c with stores := [{}], holdings := ⟨[("store", .store 0)]⟩ }

/-- The session when the delegate whose state is saved has been built. -/
def tallying (c : Container) : ContainerSession :=
  ((storing c).run (newDelegate "first" {})).2

/-- A number is pushed. -/
def pushingFive : List Program := [.push "x" (.int 5) .orFail]

/-- The session when it has been pushed. -/
def tallied (c : Container) : ContainerSession :=
  (tallying c).afterPrograms 20 c 0 pushingFive

/-- Whether a value is an integer that can be stored. -/
def isStorableInteger : Value → Bool
  | .int number => Number.isWritable number
  | _ => false

def isFive : Value → Bool
  | .int number => number = 5
  | _ => false

theorem eq_of_isFive {value : Value} (known : isFive value = true) : value = .int 5 := by
  unfold isFive at known
  split at known
  · rw [of_decide_eq_true known]
  · cases known

def isFirstStore : Option Holding → Bool
  | some (.store number) => number = 0
  | _ => false

/-- Whether the number is pushed and held, and all is well with what is pushed and held. -/
def counts (c : Container) : Bool :=
  ((storing c).run (newDelegate "first" {})).1.toOption.isSome &&
  (runPrograms 20 c 0 pushingFive (tallying c)).1.raised?.isSome &&
  (ContainerSession.initialState (constructorName (storing c)) {} (storing c)).toOption.all
    (fun made => (made.1.get "x").toOption.all isStorableInteger) &&
  (argumentsOf "x" (recordPrograms 20 c 0 pushingFive (tallying c)).2.bank.kept.deeds).all
    isStorableInteger &&
  isFirstStore ((tallying c).holdings.get? "store") && (tallying c).stores.length = 1 &&
  ((tallied c).run (currentState "first")).1.toOption.any
    (fun now => (now.get "x").toOption.any isFive)

theorem fits_of_isStorableInteger {value : Value} (known : isStorableInteger value = true) :
    (FieldType.mk .integer false).Admits value ∧ value.IsStorable := by
  unfold isStorableInteger at known
  split at known
  · next number => exact ⟨Or.inr ⟨number, rfl⟩, known⟩
  · cases known

/-- The second delegate begins with the number that was pushed to the first one. -/
theorem follows_tallied : ∃ c now saved after later, tally.load = .ok c ∧
    ((tallied c).run (currentState "first")).1 = .ok now ∧
    (tallied c).run (save "first" (some "store")) = (.ok (), saved) ∧
    saved.run (newDelegate "second" { source := some (some (.store 0)), input := none }) =
      (.ok (), after) ∧
    (after.run (currentState "second")).1 = .ok later ∧
    Follows tally.classInfo tally.schema [] now later ∧ later.get "x" = .ok (.int 5) := by
  obtain ⟨c, s, loaded, known⟩ := exists_isOf_tally
  have runs : tally.load.toOption.map counts = some true := by
    decide +kernel
  rw [loaded] at runs
  have runs : counts c = true := Option.some.inj runs
  simp only [counts, Bool.and_eq_true, decide_eq_true_eq, and_assoc] at runs
  obtain ⟨builds, ends, initial, pushed, stores, length, holds⟩ := runs
  have properties : tally.schema.properties.map (·.name) = ["x"] := by decide +kernel
  have name {p : Property} (member : p ∈ tally.schema.properties) : p.name = "x" := by
    have inside := List.mem_map_of_mem (f := (·.name)) member
    rw [properties] at inside
    exact List.mem_singleton.mp inside
  have made : (storing c).run (newDelegate "first" {}) = (.ok (), tallying c) := by
    obtain ⟨_, done⟩ := Option.isSome_iff_exists.mp builds
    exact Prod.ext (toOption_eq_some_iff.mp done) rfl
  have apart : Json.HalvesApart "x".toList := List.IsChain.singleton 'x'
  have isFirst : (tallying c).holdings.get? "store" = some (.store 0) := by
    unfold isFirstStore at stores
    split at stores
    · next number found => rw [found, of_decide_eq_true stores]
    · cases stores
  have keepsTo : ∀ state, Built "first" {} (storing c) (tallying c) state →
      KeepsTo tally.schema [⟨.integer, false⟩] state
        (recordPrograms 20 c 0 pushingFive (tallying c)).2.bank.kept.deeds := by
    intro state isBuilt pair member value given
    obtain ⟨own, single⟩ := List.of_mem_zip member
    rw [List.mem_singleton.mp single]
    rw [name (List.mem_of_mem_filter own)] at given
    refine fits_of_isStorableInteger ?_
    rcases given with found | among
    · obtain ⟨_, begins⟩ := isBuilt.initialState
      change ContainerSession.initialState (constructorName (storing c)) {} (storing c) = _ at begins
      rw [begins] at initial
      change (state.get "x").toOption.all isStorableInteger = true at initial
      rw [found] at initial
      exact initial
    · exact List.all_eq_true.mp pushed value among
  have closed : c.Takes none [] := by
    refine .closed ?_
    rw [known.artifacts_eq]
    decide +kernel
  have own : (storing c).container.IsOf tally.classModule tally.classInfo tally.schema s
      ([⟨.integer, false⟩].map FieldType.hint) := known
  obtain ⟨now, saved, current, saves, follows⟩ := follows_of_save own
    (fun p member => name member ▸ insideName_eq (by decide) _)
    (fun p member => name (List.mem_of_mem_filter member) ▸ apart) made 20 pushingFive
    (Option.isSome_iff_ne_none.mp ends) keepsTo isFirst (length ▸ Nat.one_pos)
  obtain ⟨after, later, restores, reads, follows⟩ := follows "second" none [] closed
  refine ⟨c, now, saved, after, later, loaded, current, saves, restores, reads, follows, ?_⟩
  obtain ⟨p, inside, isPersisted⟩ := List.any_eq_true.mp known.kept.some
  obtain ⟨value, before, again⟩ := follows.persisted p (List.mem_filter.mpr ⟨inside, isPersisted⟩)
  change ((tallied c).run (currentState "first")).1 = .ok now at current
  rw [name inside] at before again
  rw [current] at holds
  change (now.get "x").toOption.any isFive = true at holds
  rw [before] at holds
  rw [again, eq_of_isFive holds]

/-! ### A text that masks how snapshots are made -/

/-- A definition that keeps a text under the name by which snapshots of it are made. -/
def masking : Keeper := { field := "make_ssnapshot", type := "str", default := some (.text "a") }

/-- No class of snapshots has anything under this name. What is saved cannot be restored for all
that. -/
theorem exists_not_restored : IsFree baseClass masking.field ∧
    ∃ c built saved failure after, masking.load = .ok c ∧
      (storing c).run (newDelegate "first" {}) = (.ok (), built) ∧
      built.run (save "first" (some "store")) = (.ok (), saved) ∧
      saved.run (newDelegate "second" { source := some (some (.store 0)) }) = (.error failure, after) ∧
      failure.className = "AttributeError" := by
  have free : (baseClass.attribute? masking.field).isNone = true ∧
      (commonAttribute? baseClass.id masking.field).isNone = true := by
    decide +kernel
  have runs : (masking.load.toOption.map fun c =>
      (((storing c).run (newDelegate "first" {})).1.toOption,
        ((tallying c).run (save "first" (some "store"))).1.toOption,
        (((tallying c).run (save "first" (some "store"))).2.run
          (newDelegate "second" { source := some (some (.store 0)) })).1.mapError
            Failure.className)) =
      some (some (), some (), .error "AttributeError") := by
    decide +kernel
  obtain ⟨c, loaded, runs⟩ := Option.map_eq_some_iff.mp runs
  obtain ⟨builds, runs⟩ := Prod.mk.inj runs
  obtain ⟨saves, fails⟩ := Prod.mk.inj runs
  obtain ⟨failure, failed, named⟩ := mapError_eq_error_iff.mp fails
  refine ⟨⟨Option.isNone_iff_eq_none.mp free.1, Option.isNone_iff_eq_none.mp free.2⟩, ?_⟩
  exact ⟨c, tallying c, _, failure, _, toOption_eq_some_iff.mp loaded,
    Prod.ext (toOption_eq_some_iff.mp builds) rfl, Prod.ext (toOption_eq_some_iff.mp saves) rfl,
    Prod.ext failed rfl, named⟩

end Keeper

end StateContainer
