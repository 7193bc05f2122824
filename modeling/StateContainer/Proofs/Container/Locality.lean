/-
This file says what operations of a session have to do with its stores.

Most of them have nothing to do with stores: they do the same whatever the stores are, and leave them
alone. Two do: a delegate that is built from a store reads what is kept under the key of its container,
and a delegate that is saved writes it there. So an operation of a session with a single store depends
on what is kept under the key of the container, and changes nothing that is kept under other keys.
-/

import StateContainer.Proofs.Container.Build

namespace StateContainer

open ContainerSession

namespace ContainerSession

variable {α β : Type}

/-! ### Operations that have nothing to do with stores -/

/-- What an operation gave, with other stores and another container in the session. -/
def reseated (stores : List SnapshotStore) (container : Container) :
    Except (Failure × ContainerSession) (α × ContainerSession) →
      Except (Failure × ContainerSession) (α × ContainerSession)
  | .ok (result, after) => .ok (result, { after with stores, container })
  | .error (failure, after) => .error (failure, { after with stores, container })

/-- Whether an operation does the same whatever the stores are, and leaves them and the container
alone. -/
def IsBlind (operation : Operation α) : Prop :=
  ∀ session stores, operation { session with stores } =
    reseated stores session.container (operation session)

theorem isBlind_pure (result : α) : IsBlind (pure result : Operation α) :=
  fun _ _ => rfl

theorem isBlind_fail (failure : Failure) : IsBlind (fail failure : Operation α) :=
  fun _ _ => rfl

theorem isBlind_lift (value : Except Failure α) : IsBlind (lift value) := by
  cases value with
  | ok result => exact isBlind_pure result
  | error failure => exact isBlind_fail failure

/-- What an operation that has nothing to do with stores leaves alone. -/
theorem IsBlind.unchanged {operation : Operation α} (blind : IsBlind operation)
    {session after : ContainerSession} {result : α} (succeeds : operation session = .ok (result, after)) :
    after.stores = session.stores ∧ after.container = session.container := by
  have same := blind session session.stores
  change operation session = _ at same
  rw [succeeds] at same
  cases after
  injection same with same
  injection same with _ same
  injection same with container _ _ _ stores
  exact ⟨stores, container⟩

theorem IsBlind.bind {operation : Operation α} {next : α → Operation β} (blind : IsBlind operation)
    (rest : ∀ result, IsBlind (next result)) : IsBlind (operation >>= next) := by
  intro session stores
  have unfolded (session : ContainerSession) : (operation >>= next) session =
      (operation session).bind fun made => next made.1 made.2 := rfl
  rw [unfolded, unfolded, blind session stores]
  cases made : operation session with
  | error failed => rfl
  | ok pair =>
    obtain ⟨result, after⟩ := pair
    have container := (blind.unchanged made).2
    show next result { after with stores, container := session.container } = _
    rw [← container]
    exact rest result after stores

/-- An operation may look at anything but the stores. -/
theorem isBlind_get_bind {next : ContainerSession → Operation β}
    (same : ∀ session stores, next { session with stores } = next session)
    (rest : ∀ session, IsBlind (next session)) : IsBlind (get >>= next) := by
  intro session stores
  show next { session with stores } { session with stores } = _
  rw [same]
  exact rest session session stores

/-- An operation may change anything but the stores and the container. -/
theorem isBlind_modify {change : ContainerSession → ContainerSession}
    (apart : ∀ session stores, change { session with stores } =
      { change session with stores, container := session.container }) :
    IsBlind (modify change : Operation Unit) := by
  intro session stores
  show Except.ok ((), change { session with stores }) = _
  rw [apart]
  rfl

section
variable {name property : String}

theorem isBlind_named : IsBlind (named name) := by
  refine isBlind_get_bind (fun _ _ => rfl) fun session => ?_
  cases session.holdings.get? name with
  | none => exact isBlind_fail _
  | some found => exact isBlind_pure found

theorem isBlind_giveName (holding : Holding) : IsBlind (giveName name holding) :=
  isBlind_modify fun _ _ => rfl

theorem isBlind_lacks (holding : Holding) (member : String) : IsBlind (lacks holding member : Operation α) :=
  isBlind_get_bind (fun _ _ => rfl) fun _ => isBlind_fail _

theorem isBlind_delegateNamed (member : String) : IsBlind (delegateNamed name member) :=
  isBlind_named.bind fun found => by
    cases found with
    | delegate number => exact isBlind_pure number
    | factory number => exact isBlind_lacks _ _
    | store number => exact isBlind_lacks _ _
    | value value => exact isBlind_lacks _ _

theorem isBlind_channelOf (member : String) : IsBlind (channelOf name property member) := by
  refine (isBlind_delegateNamed member).bind fun delegate => ?_
  refine isBlind_get_bind (fun _ _ => rfl) fun session => ?_
  split
  · exact isBlind_pure _
  · exact isBlind_lacks _ _

theorem isBlind_perform (call : Observer.Call ChannelName) : IsBlind (perform call) :=
  fun _ _ => rfl

theorem isBlind_push (value : Value) : IsBlind (push name property value) :=
  (isBlind_channelOf _).bind fun _ =>
    isBlind_get_bind (fun _ _ => rfl) fun _ => isBlind_perform _

theorem isBlind_observe (observer : Observer) : IsBlind (observe name property observer) :=
  (isBlind_channelOf _).bind fun _ =>
    isBlind_get_bind (fun _ _ => rfl) fun _ => isBlind_perform _

theorem isBlind_dispose : IsBlind (dispose name) :=
  isBlind_perform _

theorem isBlind_read (reading : Reading) : IsBlind (read name property reading) := by
  refine (isBlind_channelOf _).bind fun channel session stores => ?_
  simp only [get_bind]
  cases session.channels.read channel reading <;> rfl

theorem isBlind_currentState : IsBlind (currentState name) :=
  (isBlind_delegateNamed _).bind fun _ =>
    isBlind_get_bind (fun _ _ => rfl) fun _ => isBlind_lift _

theorem isBlind_startChannel (state : Instance) (delegate : Nat) (property : Property) :
    IsBlind (startChannel state delegate property) := by
  intro session stores
  unfold startChannel
  simp only [get_bind]
  cases (state.get (session.container.insideName property.name)).mapError Failure.state with
  | error failure => rfl
  | ok value =>
    cases session.container.callStandIn property.eventKind.className 1 with
    | error failure => rfl
    | ok _ => cases session.container.callStandIn "StateChannel" 1 <;> rfl

theorem isBlind_forM_startChannel (state : Instance) (delegate : Nat) (properties : List Property) :
    IsBlind (properties.forM (startChannel state delegate)) := by
  induction properties with
  | nil => exact isBlind_pure _
  | cons first others inductionHypothesis =>
    exact (isBlind_startChannel state delegate first).bind fun _ => inductionHypothesis

end

/-! ### Operations with a single store -/

/-- The session with a single store. -/
def withStore (session : ContainerSession) (store : SnapshotStore) : ContainerSession :=
  { session with stores := [store] }

/-- Whether two stores keep the same under a key, if there is one. -/
def Agree (key : Option String) (first second : SnapshotStore) : Prop :=
  ∀ name, key = some name → first.load name = second.load name

/-- Whether two stores keep the same under all keys but one. -/
def AgreeApart (key : Option String) (first second : SnapshotStore) : Prop :=
  ∀ name, key ≠ some name → first.load name = second.load name

/-- Whether an operation of sessions with a container and a single store depends on what is kept under
the key of the container, and changes nothing under other keys. -/
def Minds (c : Container) (operation : Operation α) : Prop :=
  ∀ (session : ContainerSession) (first second : SnapshotStore), session.container = c →
    Agree c.artifacts.snapshotKey first second →
    ∃ outcome first' second',
      operation (session.withStore first) = reseated [first'] c outcome ∧
      operation (session.withStore second) = reseated [second'] c outcome ∧
      Agree c.artifacts.snapshotKey first' second' ∧
      AgreeApart c.artifacts.snapshotKey first first' ∧
      AgreeApart c.artifacts.snapshotKey second second'

variable {c : Container}

theorem IsBlind.minds {operation : Operation α} (blind : IsBlind operation) : Minds c operation := by
  rintro session first second rfl agree
  exact ⟨operation session, first, second, blind session _, blind session _, agree, fun _ _ => rfl,
    fun _ _ => rfl⟩

theorem Minds.bind {operation : Operation α} {next : α → Operation β} (minds : Minds c operation)
    (rest : ∀ result, Minds c (next result)) : Minds c (operation >>= next) := by
  intro session first second known agree
  obtain ⟨outcome, first', second', one, other, agree', apart, apartOther⟩ :=
    minds session first second known agree
  have unfolded (session : ContainerSession) : (operation >>= next) session =
      (operation session).bind fun made => next made.1 made.2 := rfl
  rw [unfolded, unfolded, one, other]
  cases outcome with
  | error failed =>
    exact ⟨.error failed, first', second', rfl, rfl, agree', apart, apartOther⟩
  | ok pair =>
    obtain ⟨result, after⟩ := pair
    obtain ⟨outcome, first'', second'', one', other', agree'', apart', apartOther'⟩ :=
      rest result { after with container := c } first' second' rfl agree'
    exact ⟨outcome, first'', second'', one', other', agree'',
      fun name differs => (apart name differs).trans (apart' name differs),
      fun name differs => (apartOther name differs).trans (apartOther' name differs)⟩

/-- An operation may look at anything but the stores. -/
theorem minds_get_bind {next : ContainerSession → Operation β}
    (same : ∀ (session : ContainerSession) store, next (session.withStore store) = next session)
    (rest : ∀ session, session.container = c → Minds c (next session)) : Minds c (get >>= next) := by
  intro session first second known agree
  simp only [get_bind, same]
  exact rest session known session first second known agree

/-! ### Building from the store -/

/-- What is restored from a store depends on what it keeps under the key. -/
theorem restore_congr {s : SnapshotClass} {key : String} {first second : SnapshotStore}
    (same : first.load key = second.load key) :
    s.restore (some first) key = s.restore (some second) key := by
  unfold SnapshotClass.restore
  rw [Option.bind_some, Option.bind_some, same]

/-- The initial state depends on what the store keeps under the key of the container. -/
theorem initialState_congr {first second : SnapshotStore}
    (agree : Agree c.artifacts.snapshotKey first second) (input : Option Container.Input) :
    c.initialState (some (.store first)) input = c.initialState (some (.store second)) input := by
  unfold Container.initialState
  refine bind_congr fun state => ?_
  cases c.snapshotClass with
  | none => rfl
  | some snapshotClass =>
    cases key : c.artifacts.snapshotKey with
    | none => rfl
    | some name =>
      refine bind_congr fun _ => ?_
      show ((snapshotClass.restore (some first) name).mapError Failure.snapshot >>= fun restored => _) =
        ((snapshotClass.restore (some second) name).mapError Failure.snapshot >>= fun restored => _)
      rw [restore_congr (agree name key)]

/-- Whether arguments for building a delegate name no other source than the single store. -/
def IsFromStore (arguments : BuildArguments) : Prop :=
  arguments.source.getD none = none ∨ arguments.source.getD none = some (.store 0)

theorem isBlind_requireParameters (functionName : String) (arguments : BuildArguments) :
    IsBlind (requireParameters functionName arguments) := by
  refine isBlind_get_bind (fun _ _ => rfl) fun session => ?_
  dsimp only
  split
  · exact (isBlind_fail _).bind fun _ => by
      split
      · exact isBlind_fail _
      · exact isBlind_pure _
  · split
    · exact isBlind_fail _
    · exact isBlind_pure _

/-- What making the initial state gives, if it has been made. -/
def initialised (session : ContainerSession) :
    Except Failure (Instance × List String) →
      Except (Failure × ContainerSession) (Instance × ContainerSession)
  | .ok (state, log) => .ok (state, { session with log := session.log ++ log })
  | .error failure => .error (failure, session)

theorem minds_initialState (functionName : String) {arguments : BuildArguments}
    (fromStore : IsFromStore arguments) : Minds c (initialState functionName arguments) := by
  refine (isBlind_requireParameters _ _).minds.bind fun _ => ?_
  rintro session first second rfl agree
  have same : session.container.initialState
        ((arguments.source.getD none).map (session.withStore second).sourceOf)
        (arguments.input.getD none) =
      session.container.initialState ((arguments.source.getD none).map (session.withStore first).sourceOf)
        (arguments.input.getD none) := by
    rcases fromStore with none | store
    · rw [none]
      rfl
    · rw [store]
      exact (initialState_congr agree _).symm
  refine ⟨initialised session (session.container.initialState
    ((arguments.source.getD none).map (session.withStore first).sourceOf) (arguments.input.getD none)),
    first, second, ?_, ?_, agree, fun _ _ => rfl, fun _ _ => rfl⟩
  · simp only [get_bind]
    show (lift (session.container.initialState _ _) >>= _) _ = _
    cases session.container.initialState
      ((arguments.source.getD none).map (session.withStore first).sourceOf) _ <;> rfl
  · simp only [get_bind]
    show (lift (session.container.initialState
      ((arguments.source.getD none).map (session.withStore second).sourceOf) _) >>= _) _ = _
    rw [same]
    cases session.container.initialState
      ((arguments.source.getD none).map (session.withStore first).sourceOf) _ <;> rfl

/-- A delegate that is built from the store depends on what the store keeps under the key. -/
theorem minds_buildDelegate {arguments : BuildArguments} (fromStore : IsFromStore arguments) :
    Minds c (buildDelegate arguments) := by
  refine minds_get_bind (fun _ _ => rfl) fun session _ => ?_
  refine (minds_initialState _ fromStore).bind fun state => ?_
  refine (isBlind_forM_startChannel _ _ _).minds.bind fun _ => ?_
  exact (isBlind_modify fun _ _ => rfl).minds.bind fun _ => (isBlind_pure _).minds

theorem minds_newDelegate (name : String) {arguments : BuildArguments}
    (fromStore : IsFromStore arguments) : Minds c (newDelegate name arguments) :=
  (minds_buildDelegate fromStore).bind fun _ => (isBlind_giveName _).minds

/-- So does a delegate that is built by a factory which keeps the store. -/
theorem minds_create (name : String) {factory : Factory} (keeps : factory.source = some (.store 0))
    {arguments : BuildArguments} (fromStore : IsFromStore arguments) :
    Minds c (create factory name arguments) := by
  refine Minds.bind ?_ fun _ => (isBlind_giveName _).minds
  refine minds_get_bind (fun _ _ => rfl) fun session _ => minds_buildDelegate ?_
  unfold IsFromStore
  dsimp only
  split
  · refine .inr ?_
    rcases fromStore with none | store
    · rw [none, keeps]
      rfl
    · rw [store]
      rfl
  · exact .inl rfl

/-! ### Saving to the store -/

/-- What is kept under a key does not depend on what was there before. -/
theorem load_save_self (first second : SnapshotStore) (key : String) (blob : Blob) :
    (first.save key blob).load key = (second.save key blob).load key := by
  simp only [SnapshotStore.load, SnapshotStore.save, OrderedMap.get?_insert_self]

/-- What is kept under another key stays. -/
theorem load_save_of_ne (store : SnapshotStore) {key other : String} (blob : Blob)
    (differ : other ≠ key) : (store.save key blob).load other = store.load other := by
  simp only [SnapshotStore.load, SnapshotStore.save, OrderedMap.get?_insert_of_ne _ _ differ]

theorem minds_saveTo {key : String} (own : c.artifacts.snapshotKey = some key) (blob : Blob) :
    Minds c (saveTo 0 key blob) := by
  rintro session first second rfl agree
  refine ⟨.ok ((), session), first.save key blob, second.save key blob, rfl, rfl, ?_, ?_, ?_⟩
  · intro name same
    rw [own] at same
    cases same
    exact load_save_self first second key blob
  · intro name differs
    exact (load_save_of_ne first blob (by rintro rfl; exact differs own)).symm
  · intro name differs
    exact (load_save_of_ne second blob (by rintro rfl; exact differs own)).symm

/-- A delegate that is saved to the store is kept under the key of the container. -/
theorem minds_saveDelegate (delegate : Nat) : Minds c (saveDelegate delegate (some (.store 0))) := by
  refine minds_get_bind (fun _ _ => rfl) ?_
  rintro session rfl
  dsimp only
  split
  · next key _ own =>
    refine (isBlind_lift _).minds.bind fun snapshot => ?_
    exact (isBlind_lift _).minds.bind fun text => minds_saveTo own _
  · exact (isBlind_lacks _ _).minds

end ContainerSession

end StateContainer
