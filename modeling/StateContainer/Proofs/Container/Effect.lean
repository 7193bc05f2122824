/-
This file says what asking a delegate for its state and saving it do to a session.

Asking for the state changes nothing. Saving depends on nothing but the values of the persisted
fields: they decide whether it fails, and what it keeps in the store if it does not. The text is
made before anything is kept, so that saving leaves the session as it was when it fails, whatever
it was asked to save to.
-/

import StateContainer.Proofs.Container.Build

namespace StateContainer

open ContainerSession

/-- What is done to the stores when a delegate with some values of its persisted fields is saved to
a store, or to none, or why it cannot be saved. -/
def Container.saving (c : Container) (target : Option Nat) (values : List (String × Value)) :
    Except Failure (List SnapshotStore → List SnapshotStore) :=
  match c.snapshotClass, c.artifacts.snapshotKey with
  | some snapshotClass, some key => do
    let snapshot ← (Instance.make snapshotClass.info [] values).mapError .state
    match target with
    | none => return id
    | some number =>
      let text ← (Snapshot.encodeInstance snapshot).mapError .encoding
      return fun stores => stores.modify number (·.save key (.text text))
  | _, _ => .error (.missing c.artifacts.delegate.name saveMember)

namespace ContainerSession

/-- The values of the persisted fields of a delegate. -/
def persistedValues (session : ContainerSession) (delegate : Nat) : List (String × Value) :=
  session.valuesOf delegate session.container.artifacts.plan.restoredFields

/-- How saving ends that does something to the stores or fails. -/
def afterSaving (session : ContainerSession) :
    Except Failure (List SnapshotStore → List SnapshotStore) → Except Failure Unit × ContainerSession
  | .ok change => (.ok (), { session with stores := change session.stores })
  | .error failure => (.error failure, session)

section
variable {α β : Type} {session : ContainerSession}

/-! ### Operations that change nothing -/

/-- Whether an operation leaves the session as it was. -/
def LooksOnly (operation : Operation α) : Prop :=
  ∀ session : ContainerSession, (session.run operation).2 = session

/-- Whether an operation leaves the session as it was when it fails. -/
def IsUndoneByFailing (operation : Operation α) : Prop :=
  ∀ session : ContainerSession,
    (session.run operation).1.toOption = none → (session.run operation).2 = session

theorem LooksOnly.isUndoneByFailing {operation : Operation α} (looks : LooksOnly operation) :
    IsUndoneByFailing operation :=
  fun session _ => looks session

/-- An operation after one that changes nothing. -/
theorem LooksOnly.run_bind {operation : Operation α} (looks : LooksOnly operation)
    (next : α → Operation β) (session : ContainerSession) :
    session.run (operation >>= next) =
      match (session.run operation).1 with
      | .ok result => session.run (next result)
      | .error failure => (.error failure, session) := by
  have same := looks session
  have unfolded : (operation >>= next) session =
      (operation session).bind fun made => next made.1 made.2 := rfl
  rw [run] at same
  rw [run, run, unfolded]
  cases made : operation session with
  | ok pair =>
    rw [made] at same
    have same : pair.2 = session := same
    rw [Except.bind, same]
    rfl
  | error pair =>
    rw [made] at same
    exact congrArg (Prod.mk _) same

theorem run_get_bind (next : ContainerSession → Operation β) (session : ContainerSession) :
    session.run (get >>= next) = session.run (next session) := rfl

theorem LooksOnly.bind {operation : Operation α} (looks : LooksOnly operation)
    {next : α → Operation β} (rest : ∀ result, LooksOnly (next result)) :
    LooksOnly (operation >>= next) := by
  intro session
  rw [looks.run_bind]
  cases (session.run operation).1 with
  | ok result => exact rest result session
  | error failure => rfl

theorem LooksOnly.bind_isUndoneByFailing {operation : Operation α} (looks : LooksOnly operation)
    {next : α → Operation β} (rest : ∀ result, IsUndoneByFailing (next result)) :
    IsUndoneByFailing (operation >>= next) := by
  intro session
  rw [looks.run_bind]
  cases (session.run operation).1 with
  | ok result => exact rest result session
  | error failure => exact fun _ => rfl

theorem looksOnly_pure (result : α) : LooksOnly (pure result : Operation α) :=
  fun _ => rfl

theorem looksOnly_get : LooksOnly (get : Operation ContainerSession) :=
  fun _ => rfl

theorem looksOnly_fail (failure : Failure) : LooksOnly (fail failure : Operation α) :=
  fun _ => rfl

theorem looksOnly_lift (value : Except Failure α) : LooksOnly (lift value) := by
  cases value with
  | ok result => exact looksOnly_pure result
  | error failure => exact looksOnly_fail failure

theorem looksOnly_named (name : String) : LooksOnly (named name) := by
  refine looksOnly_get.bind fun session => ?_
  split
  · exact looksOnly_pure _
  · exact looksOnly_fail _

theorem looksOnly_lacks (holding : Holding) (member : String) :
    LooksOnly (lacks holding member : Operation α) :=
  looksOnly_get.bind fun _ => looksOnly_fail _

theorem looksOnly_delegateNamed (name member : String) : LooksOnly (delegateNamed name member) := by
  refine (looksOnly_named name).bind fun found => ?_
  split
  · exact looksOnly_pure _
  · exact looksOnly_lacks _ _

/-- Asking a delegate for its state changes nothing. -/
theorem looksOnly_currentState (name : String) : LooksOnly (currentState name) :=
  (looksOnly_delegateNamed name _).bind fun _ => looksOnly_get.bind fun _ => looksOnly_lift _

/-! ### Saving -/

/-- Saving a delegate to a store, or to none, does what the values of its persisted fields make it
do. -/
theorem run_saveDelegate (session : ContainerSession) (delegate : Nat) (target : Option Nat) :
    session.run (saveDelegate delegate (target.map .store)) =
      session.afterSaving (session.container.saving target (session.persistedValues delegate)) := by
  have lifted {α : Type} (value : Except Failure α) : (session.run (lift value)).1 = value := by
    cases value <;> rfl
  rw [saveDelegate, run_get_bind, Container.saving, persistedValues]
  dsimp only
  cases session.container.snapshotClass with
  | none => rfl
  | some s =>
    cases session.container.artifacts.snapshotKey with
    | none => rfl
    | some key =>
      dsimp only
      rw [(looksOnly_lift _).run_bind, lifted]
      cases (Instance.make s.info [] _).mapError Failure.state with
      | error failure => rfl
      | ok snapshot =>
        cases target with
        | none => rfl
        | some number =>
          dsimp only [Option.map_some]
          rw [(looksOnly_lift _).run_bind, lifted]
          show _ = session.afterSaving
            (((Snapshot.encodeInstance snapshot).mapError Failure.encoding).bind _)
          cases (Snapshot.encodeInstance snapshot).mapError Failure.encoding <;> rfl

/-- Saving to whatever it may be leaves the session as it was if it fails. -/
theorem isUndoneByFailing_saveDelegate (delegate : Nat) (target : Option Holding) :
    IsUndoneByFailing (saveDelegate delegate target) := by
  have toStore (target : Option Nat) :
      IsUndoneByFailing (saveDelegate delegate (target.map .store)) := by
    intro session
    rw [run_saveDelegate]
    cases session.container.saving target (session.persistedValues delegate) with
    | ok change => exact nofun
    | error failure => exact fun _ => rfl
  have toOther (target : Holding) (other : ∀ number, target ≠ .store number) :
      LooksOnly (saveDelegate delegate (some target)) := by
    refine looksOnly_get.bind fun session => ?_
    dsimp only
    split
    · refine (looksOnly_lift _).bind fun snapshot => ?_
      cases target with
      | delegate number => exact looksOnly_fail _
      | factory number => exact looksOnly_lacks _ _
      | store number => exact absurd rfl (other number)
      | value value => exact looksOnly_lacks _ _
    · exact looksOnly_lacks _ _
  cases target with
  | none => exact toStore none
  | some target =>
    cases target with
    | store number => exact toStore (some number)
    | delegate number => exact (toOther (.delegate number) nofun).isUndoneByFailing
    | factory number => exact (toOther (.factory number) nofun).isUndoneByFailing
    | value value => exact (toOther (.value value) nofun).isUndoneByFailing

theorem looksOnly_mapM_named (store : Option String) : LooksOnly (store.mapM named) := by
  cases store with
  | none => exact looksOnly_pure none
  | some store =>
    rw [Option.mapM_some, map_eq_pure_bind]
    exact (looksOnly_named store).bind fun _ => looksOnly_pure _

/-- Saving leaves the session as it was if it fails. -/
theorem isUndoneByFailing_save (name : String) (store : Option String) :
    IsUndoneByFailing (save name store) := by
  refine (looksOnly_named name).bind_isUndoneByFailing fun saved => ?_
  split
  · refine looksOnly_get.bind_isUndoneByFailing fun session => ?_
    split
    · exact (looksOnly_mapM_named store).bind_isUndoneByFailing fun target =>
        isUndoneByFailing_saveDelegate _ target
    · exact (looksOnly_lacks _ _).isUndoneByFailing
  · refine (looksOnly_mapM_named store).bind_isUndoneByFailing fun _ => ?_
    exact (looksOnly_get.bind fun _ => looksOnly_fail _).isUndoneByFailing
  · exact (looksOnly_lacks _ _).isUndoneByFailing

/-- Saving a named delegate to a named store does what the values of its persisted fields make it
do. -/
theorem run_save_of_named {name store : String} {delegate number : Nat}
    (delegates : session.holdings.get? name = some (.delegate delegate))
    (stores : session.holdings.get? store = some (.store number)) :
    session.run (save name (some store)) =
      session.afterSaving
        (session.container.saving (some number) (session.persistedValues delegate)) := by
  have found {name : String} {holding : Holding} (known : session.holdings.get? name = some holding) :
      (session.run (named name)).1 = .ok holding := by
    rw [run, named_eq known]
  rw [save, (looksOnly_named name).run_bind, found delegates]
  dsimp only
  rw [run_get_bind]
  by_cases can : canSave session.container
  · rw [if_pos can, Option.mapM_some, map_eq_pure_bind, bind_assoc,
      (looksOnly_named store).run_bind, found stores]
    exact run_saveDelegate session delegate (some number)
  · rw [if_neg can, Container.saving]
    rw [canSave, Bool.and_eq_true, Option.isSome_iff_exists, Option.isSome_iff_exists] at can
    split
    next s key isSnapshot isKey => exact absurd ⟨⟨s, isSnapshot⟩, key, isKey⟩ can
    next => rfl

end

end ContainerSession

end StateContainer
