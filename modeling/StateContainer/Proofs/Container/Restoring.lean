/-
This file says what a delegate begins with if it is built from a stored text.

Where the persisted fields are of plain types, either all of them are taken from the snapshot
that the text stands for, or the initial state is the one without any text, and what is wrong
with the text is logged. There is one exception: a number that is too large for its type raises
an overflow if its place in the type is behind a union, since no one takes that fault.
-/

import StateContainer.Proofs.Class.Remaking
import StateContainer.Proofs.Container.Build
import StateContainer.Proofs.Snapshot.Decoding

namespace StateContainer

open Snapshot

namespace Container

/-! ### Containers with persisted fields -/

/-- Whether the persisted fields of a container are of plain types: there is a class of snapshots
with a field for each of them, and the definition is a record class with a field for each. -/
structure KeepsFields (c : Container) (s : SnapshotClass) (key : String) (types : List Hint)
    (kept record : Class.RecordInfo) : Prop where
  snapshotClass : c.snapshotClass = some s
  snapshotKey : c.artifacts.snapshotKey = some key
  reads : s.IsOfFields types
  snapshots : s.info.MadeFromFields kept
  stored : ∀ name ∈ c.artifacts.plan.restoredFields,
    ∃ field ∈ s.fields, field.name = c.insideName name ∧ field.inConstructor = true
  records : c.record.MadeFromFields record
  isRecord : c.record.record? = some record
  leaves : LeavesReceiver record.fields
  restored : ∀ name ∈ c.artifacts.plan.restoredFields,
    ∃ field ∈ record.fields, field.name = name ∧ field.inConstructor = true
  distinct : c.artifacts.plan.restoredFields.Nodup
  replaces : c.standIns.get? "dataclasses" = none

/-- Whether the persisted fields of a container can be replaced in a record by those of a snapshot:
each of them is a field of both. -/
structure CanReplace (c : Container) (s : SnapshotClass) (kept record : Class.RecordInfo) : Prop where
  snapshots : s.info.MadeFromFields kept
  stored : ∀ name ∈ c.artifacts.plan.restoredFields,
    ∃ field ∈ s.fields, field.name = c.insideName name ∧ field.inConstructor = true
  records : c.record.MadeFromFields record
  isRecord : c.record.record? = some record
  leaves : LeavesReceiver record.fields
  restored : ∀ name ∈ c.artifacts.plan.restoredFields,
    ∃ field ∈ record.fields, field.name = name ∧ field.inConstructor = true
  distinct : c.artifacts.plan.restoredFields.Nodup
  replaces : c.standIns.get? "dataclasses" = none

variable {c : Container} {s : SnapshotClass} {key : String} {types : List Hint}
  {kept record : Class.RecordInfo} {state snapshot : Instance}

theorem KeepsFields.canReplace (keeps : c.KeepsFields s key types kept record) :
    c.CanReplace s kept record where
  snapshots := keeps.snapshots
  stored := keeps.stored
  records := keeps.records
  isRecord := keeps.isRecord
  leaves := keeps.leaves
  restored := keeps.restored
  distinct := keeps.distinct
  replaces := keeps.replaces

/-- Whether a state has the persisted fields of a snapshot, and is another one in everything else. -/
structure Restores (c : Container) (state snapshot restored : Instance) : Prop where
  persisted : ∀ name ∈ c.artifacts.plan.restoredFields,
    ∃ value, snapshot.get (c.insideName name) = .ok value ∧ restored.get name = .ok value
  others : ∀ name ∉ c.artifacts.plan.restoredFields, restored.get name = state.get name

/-- Values that are found for names are paired with them. -/
theorem exists_named {ε α : Type} (names : α → String) {find : α → Except ε Value} {items : List α}
    (finds : ∀ item ∈ items, ∃ value, find item = .ok value) :
    ∃ pairs, (items.mapM fun item => do return (names item, ← find item) : Except ε _) = .ok pairs ∧
      pairs.map (·.1) = items.map names ∧
      ∀ pair ∈ pairs, ∃ item ∈ items, names item = pair.1 ∧ find item = .ok pair.2 := by
  have steps : ∀ item ∈ items,
      ∃ pair, (do return (names item, ← find item) : Except ε (String × Value)) = .ok pair := by
    intro item member
    obtain ⟨value, found⟩ := finds item member
    exact ⟨(names item, value), by rw [found]; rfl⟩
  obtain ⟨pairs, made⟩ := exists_mapM_eq_ok steps
  have named : EndsAs (fun pairs => pairs.map (·.1) = items.map names) (fun _ => True)
      (items.mapM fun item => do return (names item, ← find item) : Except ε _) := by
    refine endsAs_mapM_map Prod.fst names fun item member => ?_
    obtain ⟨value, found⟩ := finds item member
    rw [found]
    exact rfl
  refine ⟨pairs, made, named.of_ok made, fun pair member => ?_⟩
  obtain ⟨item, inside, own⟩ := exists_of_mem_mapM made member
  obtain ⟨value, found, paired⟩ := exists_of_bind_eq_ok own
  cases paired
  exact ⟨item, inside, rfl, found⟩

/-! ### Changes and the fields that are kept -/

section
variable {fields : List Class.Field} {changes others : List (String × Value)}

/-- What is kept are the fields of the constructor that no change is for. -/
theorem mem_kept_iff
    (kept : others.map (·.1) = (fields.filter fun field =>
      field.inConstructor && !changes.any (·.1 = field.name)).map (·.name)) {name : String} :
    name ∈ others.map (·.1) ↔ ∃ field ∈ fields,
      field.name = name ∧ field.inConstructor = true ∧ name ∉ changes.map (·.1) := by
  have isChanged {name : String} : changes.any (·.1 = name) = true ↔ name ∈ changes.map (·.1) := by
    rw [List.any_eq_true, List.mem_map]
    exact exists_congr fun _ => and_congr_right fun _ => decide_eq_true_iff
  rw [kept, List.mem_map]
  constructor
  · rintro ⟨field, member, rfl⟩
    obtain ⟨inside, conditions⟩ := List.mem_filter.mp member
    rw [Bool.and_eq_true, Bool.not_eq_true', ← Bool.not_eq_true, isChanged] at conditions
    exact ⟨field, inside, rfl, conditions⟩
  · rintro ⟨field, inside, rfl, conditions⟩
    refine ⟨field, List.mem_filter.mpr ⟨inside, ?_⟩, rfl⟩
    rw [Bool.and_eq_true, Bool.not_eq_true', ← Bool.not_eq_true, isChanged]
    exact conditions

/-- No field is both changed and kept. -/
theorem nodup_changes_append (distinct : (fields.map (·.name)).Nodup)
    (kept : others.map (·.1) = (fields.filter fun field =>
      field.inConstructor && !changes.any (·.1 = field.name)).map (·.name))
    (changesDistinct : (changes.map (·.1)).Nodup) : ((changes ++ others).map (·.1)).Nodup := by
  rw [List.map_append, List.nodup_append]
  refine ⟨changesDistinct, ?_, fun name changed other member same => ?_⟩
  · rw [kept]
    exact (List.filter_sublist.map _).nodup distinct
  · obtain ⟨_, _, _, _, absent⟩ := (mem_kept_iff kept).mp member
    exact absent (same ▸ changed)

/-- If the changes are of fields of the constructor, these are what is changed and what is kept. -/
theorem mem_changes_append_iff
    (kept : others.map (·.1) = (fields.filter fun field =>
      field.inConstructor && !changes.any (·.1 = field.name)).map (·.name))
    (known : ∀ name ∈ changes.map (·.1), ∃ field ∈ fields,
      field.name = name ∧ field.inConstructor = true) {name : String} :
    name ∈ (changes ++ others).map (·.1) ↔
      ∃ field ∈ fields, field.name = name ∧ field.inConstructor = true := by
  rw [List.map_append, List.mem_append]
  constructor
  · rintro (changed | other)
    · exact known name changed
    · obtain ⟨field, inside, same, taken, -⟩ := (mem_kept_iff kept).mp other
      exact ⟨field, inside, same, taken⟩
  · rintro ⟨field, inside, same, taken⟩
    by_cases changed : name ∈ changes.map (·.1)
    · exact Or.inl changed
    · exact Or.inr ((mem_kept_iff kept).mpr ⟨field, inside, same, taken, changed⟩)

end

/-- A state can be restored from a snapshot with a value for every field. -/
theorem CanReplace.exists_replaceFields (keeps : c.CanReplace s kept record)
    {given named : List (String × Value)} (made : Instance.make c.record [] given = .ok state)
    (makes : Instance.make s.info [] named = .ok snapshot)
    (names : named.map (·.1) = (s.fields.filter (·.inConstructor)).map (·.name)) :
    ∃ restored, c.replaceFields state (.snapshot snapshot) = .ok restored ∧
      Restores c state snapshot restored := by
  have finds : ∀ name ∈ c.artifacts.plan.restoredFields,
      ∃ value, c.restoredValue (.snapshot snapshot) name = .ok value := by
    intro name member
    obtain ⟨field, inside, own, taken⟩ := keeps.stored name member
    have given : c.insideName name ∈ named.map (·.1) := by
      rw [names, ← own]
      exact List.mem_map_of_mem (List.mem_filter.mpr ⟨inside, taken⟩)
    obtain ⟨⟨_, value⟩, there, rfl⟩ := List.mem_map.mp given
    exact ⟨value, mapError_eq_ok_iff.mpr (keeps.snapshots.get_of_make makes there)⟩
  obtain ⟨changes, changing, changed, eachChange⟩ := exists_named id finds
  have fields : state.fields = .ok record.fields := by
    rw [Instance.fields, keeps.records.ofClass_of_make made, keeps.isRecord]
  have reads : ∀ field ∈ record.fields.filter fun field =>
      field.inConstructor && !changes.any (·.1 = field.name),
      ∃ value, (state.get field.name).mapError Failure.state = .ok value := by
    intro field member
    obtain ⟨inside, conditions⟩ := List.mem_filter.mp member
    rw [Bool.and_eq_true] at conditions
    obtain ⟨value, found⟩ := keeps.records.exists_get keeps.leaves made inside conditions.1
    exact ⟨value, mapError_eq_ok_iff.mpr found⟩
  obtain ⟨others, keeping, named', eachKept⟩ := exists_named Class.Field.name reads
  rw [List.map_id] at changed
  have inConstructor {name : String} :
      name ∈ (changes ++ others).map (·.1) ↔
        ∃ field ∈ record.fields, field.name = name ∧ field.inConstructor = true :=
    mem_changes_append_iff named' fun name member => keeps.restored name (changed ▸ member)
  have distinct : ((changes ++ others).map (·.1)).Nodup :=
    nodup_changes_append keeps.records.distinct named' (changed ▸ keeps.distinct)
  have known : ∀ argument ∈ changes ++ others, ∃ field ∈ record.fields,
      field.name = argument.1 ∧ field.inConstructor = true := fun argument member =>
    inConstructor.mp (List.mem_map_of_mem member)
  have whole : ∀ field ∈ record.fields, field.inConstructor = true →
      field.name ∈ (changes ++ others).map (·.1) := fun field inside taken =>
    inConstructor.mpr ⟨field, inside, rfl, taken⟩
  obtain ⟨restored, remade, elsewhere⟩ :=
    keeps.records.exists_remade keeps.leaves made distinct known whole
  refine ⟨restored, ?_, fun name member => ?_, fun name absent => ?_⟩
  · rw [replaceFields, keeps.replaces]
    refine bind_eq_of_eq_ok changing ?_
    refine bind_eq_of_eq_ok (mapError_eq_ok_iff.mpr fields) (bind_eq_of_eq_ok keeping ?_)
    exact mapError_eq_ok_iff.mpr remade
  · rw [← changed] at member
    obtain ⟨⟨_, value⟩, inside, rfl⟩ := List.mem_map.mp member
    obtain ⟨_, -, rfl, found⟩ := eachChange _ inside
    exact ⟨value, mapError_eq_ok_iff.mp found,
      keeps.records.get_of_make remade (List.mem_append_left _ inside)⟩
  · by_cases other : name ∈ others.map (·.1)
    · obtain ⟨⟨_, value⟩, inside, rfl⟩ := List.mem_map.mp other
      obtain ⟨field, -, same, found⟩ := eachKept _ inside
      rw [keeps.records.get_of_make remade (List.mem_append_right _ inside)]
      exact (same ▸ mapError_eq_ok_iff.mp found).symm
    · refine elsewhere name fun member => ?_
      rw [List.map_append, List.mem_append, changed] at member
      exact member.elim absent other

/-! ### Initial states -/

/-- The input makes a record of the definition, of nothing but fields of the input. -/
theorem exists_make_of_fromInput {input : Option Input} (made : c.fromInput input = .ok state) :
    ∃ given, Instance.make c.record [] given = .ok state ∧
      ∀ entry ∈ given, entry.1 ∈ c.artifacts.plan.inputFields := by
  cases input with
  | none => exact ⟨[], mapError_eq_ok_iff.mp made, fun _ => nofun⟩
  | some input =>
    obtain ⟨given, reads, made⟩ := exists_of_bind_eq_ok made
    refine ⟨given, mapError_eq_ok_iff.mp made, fun entry member => ?_⟩
    obtain ⟨name, inside, own⟩ := exists_of_mem_mapM reads member
    obtain ⟨_, -, own⟩ := exists_of_bind_eq_ok own
    cases own
    exact inside

/-- What making an initial state from a store comes to. -/
theorem KeepsFields.initialState_eq (keeps : c.KeepsFields s key types kept record)
    {input : Option Input} {log : List String} (plain : c.initialState none input = .ok (state, log)) :
    log = [] ∧ (∃ given, Instance.make c.record [] given = .ok state) ∧
      ∀ store, c.initialState (some (.store store)) input =
        (s.restore (some store) key).mapError .snapshot >>= fun
          | (none, log) => return (state, log)
          | (some restored, log) => return (← c.replaceFields state restored, log) := by
  rw [initialState, keeps.snapshotClass, keeps.snapshotKey] at plain
  obtain ⟨first, made, plain⟩ := exists_of_bind_eq_ok plain
  obtain ⟨_, called, plain⟩ := exists_of_bind_eq_ok plain
  obtain ⟨rfl, rfl⟩ : first = state ∧ [] = log := by
    cases plain
    exact ⟨rfl, rfl⟩
  obtain ⟨given, makes, -⟩ := exists_make_of_fromInput made
  refine ⟨rfl, ⟨given, makes⟩, fun store => ?_⟩
  rw [initialState, keeps.snapshotClass, keeps.snapshotKey]
  exact bind_eq_of_eq_ok made (bind_eq_of_eq_ok called rfl)

/-- Whatever is stored, either the initial state is the one without it, and what is wrong is logged,
or all persisted fields are those of the snapshot that it stands for; or there is an overflow, and
then there is a union inside of the type of a field. -/
theorem KeepsFields.endsAs_initialState (keeps : c.KeepsFields s key types kept record)
    {input : Option Input} {log : List String} (plain : c.initialState none input = .ok (state, log))
    {store : SnapshotStore} {blob : Blob} (stored : store.load key = some blob) :
    EndsAs (fun started =>
        (∃ error, s.decode blob = .error error ∧
          started = (state, [SnapshotClass.ignored key error])) ∨
        ∃ snapshot, s.decode blob = .ok (.snapshot snapshot) ∧
          Restores c state snapshot started.1 ∧ started.2 = [])
      (fun failure => ∃ fault, s.decode blob = .error (.failed fault) ∧
        failure = .snapshot (.failed fault) ∧ fault.IsOverflow ∧
        ∃ type ∈ types, ¬IsFieldType False type)
      (c.initialState (some (.store store)) input) := by
  obtain ⟨rfl, ⟨given, made⟩, unfolded⟩ := keeps.initialState_eq plain
  have reading := keeps.reads.endsAs_decode blob
  rw [unfolded, SnapshotClass.restore, Option.bind_some, stored]
  dsimp only
  cases decoded : s.decode blob with
  | ok found =>
    obtain ⟨snapshot, named, rfl, makes, names⟩ := reading.of_ok decoded
    obtain ⟨restored, replaced, restores⟩ := keeps.canReplace.exists_replaceFields made makes names
    show EndsAs _ _ (c.replaceFields state (.snapshot snapshot) >>= fun made => return (made, []))
    rw [replaced]
    exact Or.inr ⟨snapshot, rfl, restores, rfl⟩
  | error error =>
    cases error with
    | undecodable className detail => exact Or.inl ⟨_, rfl, rfl⟩
    | failed fault =>
      obtain ⟨overflow, inside⟩ := reading.of_error decoded
      exact ⟨fault, rfl, rfl, overflow, inside⟩

end Container

/-! ### Delegates -/

open ContainerSession

section
variable {session after : ContainerSession} {state : Instance} {delegate : Nat}

/-- Whether the channel of a property can be started. -/
def CanStart (c : Container) (state : Instance) (property : Property) : Prop :=
  (∃ value, state.get (c.insideName property.name) = .ok value) ∧
    c.callStandIn property.eventKind.className 1 = .ok () ∧ c.callStandIn "StateChannel" 1 = .ok ()

theorem exists_startChannel_iff {property : Property} :
    (∃ after, startChannel state delegate property session = .ok ((), after)) ↔
      CanStart session.container state property := by
  constructor
  · rintro ⟨after, started⟩
    rw [startChannel, get_bind] at started
    dsimp only at started
    simp only [bind_eq_ok_iff, lift_eq_ok_iff] at started
    obtain ⟨value, _, ⟨read, rfl⟩, _, _, ⟨event, rfl⟩, _, _, ⟨channel, rfl⟩, -⟩ := started
    exact ⟨⟨value, mapError_eq_ok_iff.mp read⟩, event, channel⟩
  · rintro ⟨⟨value, read⟩, event, channel⟩
    refine ⟨{ session with
      channels := Session.begin (surroundings session.container) session.channels
        { delegate, property := property.name } value }, ?_⟩
    rw [startChannel, get_bind]
    dsimp only
    simp only [bind_eq_ok_iff, lift_eq_ok_iff]
    exact ⟨value, _, ⟨mapError_eq_ok_iff.mpr read, rfl⟩, _, _, ⟨event, rfl⟩, _, _, ⟨channel, rfl⟩,
      rfl⟩

theorem exists_forM_startChannel_iff {properties : List Property} :
    (∃ after, properties.forM (startChannel state delegate) session = .ok ((), after)) ↔
      ∀ property ∈ properties, CanStart session.container state property := by
  induction properties generalizing session with
  | nil => exact iff_of_true ⟨session, rfl⟩ fun _ => nofun
  | cons property others inductionHypothesis =>
    have same {middle : ContainerSession}
        (first : startChannel state delegate property session = .ok ((), middle)) :
        middle.container = session.container := by
      obtain ⟨_, -, rfl⟩ := startChannel_eq_ok first
      rfl
    have split : (∃ after, (property :: others).forM (startChannel state delegate) session =
        .ok ((), after)) ↔ ∃ middle, startChannel state delegate property session = .ok ((), middle) ∧
          ∃ after, others.forM (startChannel state delegate) middle = .ok ((), after) := by
      show (∃ after, (startChannel state delegate property >>= fun _ =>
        others.forM (startChannel state delegate)) session = .ok ((), after)) ↔ _
      simp only [bind_eq_ok_iff]
      exact ⟨fun ⟨after, _, middle, first, rest⟩ => ⟨middle, first, after, rest⟩,
        fun ⟨middle, first, after, rest⟩ => ⟨after, _, middle, first, rest⟩⟩
    rw [split, List.forall_mem_cons, ← exists_startChannel_iff]
    constructor
    · rintro ⟨middle, first, rest⟩
      rw [inductionHypothesis, same first] at rest
      exact ⟨⟨middle, first⟩, rest⟩
    · rintro ⟨⟨middle, first⟩, rest⟩
      refine ⟨middle, first, inductionHypothesis.mpr ?_⟩
      rw [same first]
      exact rest

variable {name : String} {arguments : BuildArguments}

/-- The function that makes a delegate. -/
def constructorName (session : ContainerSession) : String :=
  session.container.artifacts.delegate.name ++ ".__init__"

/-- Where the initial state is made, a delegate is built exactly if all channels can be started. -/
theorem exists_newDelegate_iff {logged : ContainerSession}
    (initial : ContainerSession.initialState (constructorName session) arguments session =
      .ok (state, logged)) :
    (∃ built, session.run (newDelegate name arguments) = (.ok (), built)) ↔
      ∀ property ∈ session.container.properties, CanStart session.container state property := by
  obtain ⟨log, rfl⟩ := initialState_eq_ok initial
  have channels : _ ↔ ∀ property ∈ session.container.properties, CanStart _ state property :=
    @exists_forM_startChannel_iff { session with log := session.log ++ log } state session.built _
  refine Iff.trans ?_ channels
  simp only [run_eq_ok_iff, newDelegate, buildDelegate, get_bind, bind_eq_ok_iff]
  constructor
  · rintro ⟨_, _, _, ⟨_, _, initial', _, after, steps, -⟩, -⟩
    cases initial.symm.trans initial'
    exact ⟨after, steps⟩
  · rintro ⟨after, steps⟩
    exact ⟨_, _, _, ⟨_, _, initial, _, after, steps, _, _, rfl, rfl⟩, rfl⟩

theorem requireParameters_of_initialState {functionName : String} {logged : ContainerSession}
    (made : ContainerSession.initialState functionName arguments session = .ok (state, logged)) :
    requireParameters functionName arguments session = .ok ((), session) := by
  rw [ContainerSession.initialState, bind_eq_ok_iff] at made
  obtain ⟨_, _, passes, -⟩ := made
  obtain rfl := requireParameters_eq_ok passes
  exact passes

/-- If all arguments are taken, the initial state is that of the container. -/
theorem initialState_eq_ok_iff {functionName : String} {logged : ContainerSession}
    (passes : requireParameters functionName arguments session = .ok ((), session)) :
    ContainerSession.initialState functionName arguments session = .ok (state, logged) ↔
      ∃ log, session.container.initialState ((arguments.source.getD none).map session.sourceOf)
          (arguments.input.getD none) = .ok (state, log) ∧
        logged = { session with log := session.log ++ log } := by
  rw [ContainerSession.initialState, bind_eq_ok_iff]
  constructor
  · rintro ⟨_, _, passes', made⟩
    cases passes.symm.trans passes'
    simp only [get_bind, bind_eq_ok_iff, lift_eq_ok_iff] at made
    obtain ⟨⟨_, log⟩, _, ⟨made, rfl⟩, _, _, set, answered⟩ := made
    cases set
    cases answered
    exact ⟨log, made, rfl⟩
  · rintro ⟨log, made, rfl⟩
    refine ⟨_, _, passes, ?_⟩
    simp only [get_bind, bind_eq_ok_iff, lift_eq_ok_iff]
    exact ⟨_, _, ⟨made, rfl⟩, _, _, rfl, rfl⟩

/-- If the initial state cannot be made, no delegate is built. -/
theorem newDelegate_eq_error {failure : Failure}
    (passes : requireParameters (constructorName session) arguments session = .ok ((), session))
    (fails : session.container.initialState ((arguments.source.getD none).map session.sourceOf)
      (arguments.input.getD none) = .error failure) :
    session.run (newDelegate name arguments) = (.error failure, session) := by
  have initial : ContainerSession.initialState (constructorName session) arguments session =
      .error (failure, session) := by
    show (requireParameters (constructorName session) arguments session).bind _ = _
    rw [passes]
    show (lift (session.container.initialState _ _) session).bind _ = _
    rw [fails]
    rfl
  have built : newDelegate name arguments session = .error (failure, session) := by
    show ((ContainerSession.initialState (constructorName session) arguments session).bind
      _).bind _ = _
    rw [initial]
    rfl
  rw [ContainerSession.run, built]

/-- A source is an argument if the constructor has a parameter for it. -/
theorem requireParameters_source {functionName : String} {input : Option (Option Container.Input)}
    (takes : snapshotSourceName ∈ session.container.artifacts.plan.parameters)
    (passes : requireParameters functionName { input } session = .ok ((), session))
    (source : Option Holding) :
    requireParameters functionName { source := some source, input } session = .ok ((), session) := by
  have contained : session.container.artifacts.plan.parameters.contains snapshotSourceName = true :=
    List.contains_iff_mem.mpr takes
  unfold requireParameters at passes ⊢
  rw [get_bind] at passes ⊢
  dsimp only at passes ⊢
  rw [contained]
  exact passes

variable {built : ContainerSession} {s : SnapshotClass} {key : String} {types : List Hint}
  {kept record : Class.RecordInfo} {number : Nat} {blob : Blob}
  {input : Option (Option Container.Input)}

/-- What a delegate begins with if it is built from a stored text: if that can be read, with the
persisted fields of the snapshot that it stands for, and otherwise with the same as without it. -/
def AllOrNothing (c : Container) (s : SnapshotClass) (blob : Blob) (state restored : Instance) : Prop :=
  (∃ error, s.decode blob = .error error ∧ restored = state) ∨
    ∃ snapshot, s.decode blob = .ok (.snapshot snapshot) ∧ c.Restores state snapshot restored

/-- The channels can be started with what is restored. -/
theorem CanStart.of_allOrNothing {c : Container} {restored : Instance} {property : Property}
    (starts : CanStart c state property) (result : AllOrNothing c s blob state restored) :
    CanStart c restored property := by
  rcases result with ⟨_, -, rfl⟩ | ⟨snapshot, -, restores⟩
  · exact starts
  · obtain ⟨⟨value, read⟩, calls⟩ := starts
    refine ⟨?_, calls⟩
    by_cases persisted : c.insideName property.name ∈ c.artifacts.plan.restoredFields
    · obtain ⟨value, -, found⟩ := restores.persisted _ persisted
      exact ⟨value, found⟩
    · exact ⟨value, (restores.others _ persisted).trans read⟩

/-- Whatever is stored under the key of a container, a delegate is built from it where one is built
without it, and either all persisted fields are taken from what is stored or none is. There is one
exception: if a union stands inside of the type of a field, a number may be too large. -/
theorem endsAs_newDelegate (keeps : session.container.KeepsFields s key types kept record)
    (takes : snapshotSourceName ∈ session.container.artifacts.plan.parameters)
    (plain : session.run (newDelegate name { input }) = (.ok (), built))
    (stored : (session.storeAt number).load key = some blob) :
    ∃ state, Built name { input } session built state ∧
      ((∃ restored after,
          session.run (newDelegate name { source := some (some (.store number)), input }) =
            (.ok (), after) ∧
          Built name { source := some (some (.store number)), input } session after restored ∧
          AllOrNothing session.container s blob state restored) ∨
        ∃ fault, session.run (newDelegate name { source := some (some (.store number)), input }) =
            (.error (.snapshot (.failed fault)), session) ∧
          s.decode blob = .error (.failed fault) ∧ fault.IsOverflow ∧
          ∃ type ∈ types, ¬IsFieldType False type) := by
  obtain ⟨state, isBuilt⟩ := newDelegate_eq_ok plain
  obtain ⟨logged, initial⟩ := isBuilt.initialState
  have starts := (exists_newDelegate_iff initial).mp ⟨built, plain⟩
  have passes := requireParameters_of_initialState initial
  obtain ⟨log, initially, -⟩ := (initialState_eq_ok_iff passes).mp initial
  have ends := keeps.endsAs_initialState initially stored
  have passes' := requireParameters_source takes passes (some (.store number))
  refine ⟨state, isBuilt, ?_⟩
  cases started : session.container.initialState (some (.store (session.storeAt number)))
    (input.getD none) with
  | ok made =>
    obtain ⟨restored, log'⟩ := made
    rw [started] at ends
    have result : AllOrNothing session.container s blob state restored := by
      rcases ends with ⟨error, decoded, same⟩ | ⟨snapshot, decoded, restores, -⟩
      · cases same
        exact Or.inl ⟨error, decoded, rfl⟩
      · exact Or.inr ⟨snapshot, decoded, restores⟩
    have initial' := (initialState_eq_ok_iff passes').mpr ⟨log', started, rfl⟩
    obtain ⟨after, made⟩ : ∃ after,
        session.run (newDelegate name { source := some (some (.store number)), input }) =
          (.ok (), after) :=
      (exists_newDelegate_iff initial').mpr fun property known =>
        (starts property known).of_allOrNothing result
    obtain ⟨_, isBuilt'⟩ := newDelegate_eq_ok made
    obtain ⟨_, same⟩ := isBuilt'.initialState
    cases same.symm.trans initial'
    exact Or.inl ⟨restored, after, made, isBuilt', result⟩
  | error failure =>
    rw [started] at ends
    obtain ⟨fault, decoded, rfl, overflow, inside⟩ := ends
    exact Or.inr ⟨fault, newDelegate_eq_error passes' started, decoded, overflow, inside⟩

end

end StateContainer
