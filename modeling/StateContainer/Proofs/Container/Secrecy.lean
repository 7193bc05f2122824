/-
This file proves that saving a delegate tells nothing but its persisted fields.

Two delegates of a definition may be built from different inputs and stores, and used in different
ways. If their persisted fields begin with the same values and are pushed the same ones, both are
saved as the same text under the same key, or cannot be saved for the same reason: what else the
fields hold and who observed or read them makes no difference. Observers are assumed to leave the
persisted fields alone, since it depends on everything else what they would push.
-/

import StateContainer.Proofs.Channel.Sparing
import StateContainer.Proofs.Container.Keeping
import StateContainer.Proofs.Container.Resuming

namespace StateContainer

open StateContainer.Class ContainerSession

/-! ### Fields that observers leave alone -/

section
variable {c : Container} {delegate first fuel : Nat} {state : Instance} {session : ContainerSession}
  {programs : List Program}

/-- When programs have ended whose observers leave a field alone, the channel of the field has the
argument of the last push. -/
theorem exists_last_recordPrograms
    (started : Started c delegate state first (c.properties.map (·.name)) session)
    {result : Outcome Failure × DelegateChronicle}
    (recorded : recordPrograms fuel c delegate programs session = result)
    (ended : result.1.raised? ≠ none) {field : String} (known : c.property? field ≠ none)
    (spared : IsSpared ⟨delegate, field⟩ result.2.history) :
    ∃ event kind, (result.2.channel ⟨delegate, field⟩).value = .event event ∧
      result.2.bank.kept.scene.events[event]?.map Event.unread =
        some (.wrap kind ((argumentsOf field result.2.bank.kept.deeds).getLastD
          (session.held delegate field))) := by
  obtain ⟨event, -, fresh, property, initial, -, read, there⟩ :=
    started.channels field (mem_names_of_property? known)
  have begins : session.held delegate field = initial :=
    held_eq (congrArg Channel.value fresh) (by rw [there]; rfl)
  have tended := tended_recordPrograms fuel programs started
  rw [recorded] at tended
  obtain ⟨⟨ledger, -⟩, linked⟩ := tended
  rw [recordPrograms, ← withDiary_start (congrArg Channel.value fresh)] at recorded
  obtain ⟨last, way, -, closing⟩ := way_recordAll fuel _ _ _ _ recorded
  obtain rfl := closing ended
  -- All that was pushed was taken.
  have value := way.value_eq
  rw [takenFrom_eq_pushedTo fuel _ _ _ _ recorded ended spared, linked ended field known, eventsOf,
    List.map_map] at value
  rw [begins, argumentsOf]
  generalize pushes : pushesOf field result.2.bank.kept.deeds = made at value ⊢
  rcases List.eq_nil_or_concat made with rfl | ⟨before, ⟨event', field', argument⟩, rfl⟩
  · exact ⟨event, property.eventKind, value, ledger.kept there⟩
  · have inside : (event', field', argument) ∈ pushesIn result.2.bank.kept.deeds := by
      refine List.mem_of_mem_filter (p := (·.2.1 = field)) ?_
      show _ ∈ pushesOf field _
      rw [pushes]
      simp
    obtain ⟨property', -, there'⟩ := ledger.pushed inside
    rw [List.concat_eq_append, List.map_append] at value ⊢
    exact ⟨event', property'.eventKind, value.trans List.getLastD_concat,
      there'.trans (by rw [List.map_singleton, List.getLastD_concat])⟩

end

/-! ### Delegates that are used -/

/-- A delegate that is built in a session, and programs that are run on it until they have ended. -/
structure Use where
  session : ContainerSession
  name : String
  arguments : BuildArguments
  built : ContainerSession
  made : session.run (newDelegate name arguments) = (.ok (), built)
  fuel : Nat
  programs : List Program
  ended : (runPrograms fuel session.container session.built programs built).1.raised? ≠ none

namespace Use

def container (use : Use) : Container :=
  use.session.container

/-- The number of the delegate. -/
def delegate (use : Use) : Nat :=
  use.session.built

/-- The session when the programs have ended. -/
def after (use : Use) : ContainerSession :=
  use.built.afterPrograms use.fuel use.container use.delegate use.programs

/-- All that happens. -/
def chronicle (use : Use) : DelegateChronicle :=
  (recordPrograms use.fuel use.container use.delegate use.programs use.built).2

/-- The value that a field begins with. -/
def initial (use : Use) (field : String) : Value :=
  use.built.held use.delegate field

/-- The values that are pushed to a field, in order. -/
def pushed (use : Use) (field : String) : List Value :=
  argumentsOf field use.chronicle.bank.kept.deeds

/-- Whether no observer pushes to a field. -/
def Spares (use : Use) (field : String) : Prop :=
  IsSpared ⟨use.delegate, field⟩ use.chronicle.history

/-- In the end a field holds what was pushed last if observers leave it alone. -/
theorem held_after (use : Use) {field : String} (known : use.container.property? field ≠ none)
    (spared : use.Spares field) :
    use.after.held use.delegate field = (use.pushed field).getLastD (use.initial field) := by
  obtain ⟨state, isBuilt⟩ := newDelegate_eq_ok use.made
  have started := isBuilt.started
  have mirrors := recordPrograms_mirrors use.fuel use.programs started
  rw [Spares, chronicle, container, delegate] at spared
  rw [after, pushed, chronicle, initial, container, delegate]
  generalize recorded : recordPrograms use.fuel use.session.container use.session.built use.programs
    use.built = result at mirrors spared ⊢
  have same : result.1 = _ := mirrors.outcome
  obtain ⟨event, kind, value, there⟩ := exists_last_recordPrograms started recorded
    (by rw [same]; exact use.ended) known spared
  have scene : result.2.bank.kept.scene = _ := mirrors.bank.kept
  rw [scene] at there
  exact held_eq
    ((mirrors.bank.channels ⟨use.session.built, field⟩ ⟨rfl, known⟩).value.symm.trans value) there

theorem container_after (use : Use) : use.after.container = use.container := by
  obtain ⟨state, isBuilt⟩ := newDelegate_eq_ok use.made
  exact isBuilt.started.container

/-- The delegate has its name when the programs have ended. -/
theorem named_after (use : Use) : use.after.holdings.get? use.name = some (.delegate use.delegate) := by
  obtain ⟨state, isBuilt⟩ := newDelegate_eq_ok use.made
  exact isBuilt.named

/-- Whether two delegates begin with the same values in some fields and are pushed the same ones there,
and observers leave these fields alone. -/
structure AgreesIn (first second : Use) (fields : List String) : Prop where
  initial : ∀ field ∈ fields, first.initial field = second.initial field
  pushed : ∀ field ∈ fields, first.pushed field = second.pushed field
  spares : ∀ field ∈ fields, first.Spares field ∧ second.Spares field

/-- Delegates that agree in some fields hold the same values there. -/
theorem AgreesIn.held_eq {first second : Use} {fields : List String}
    (agrees : first.AgreesIn second fields)
    (known : ∀ field ∈ fields, first.container.property? field ≠ none)
    (same : first.container = second.container) :
    ∀ field ∈ fields, first.after.held first.delegate field = second.after.held second.delegate field := by
  intro field member
  obtain ⟨here, there⟩ := agrees.spares field member
  rw [first.held_after (known field member) here,
    second.held_after (same ▸ known field member) there, agrees.initial field member,
    agrees.pushed field member]

end Use

/-! ### Saving -/

/-- How saving to a store ends that keeps a text under a key, or fails. -/
def ContainerSession.afterKeeping (session : ContainerSession) (number : Nat) :
    Except Failure (String × String) → Except Failure Unit × ContainerSession
  | .ok (key, text) => (.ok (), session.keeping number key text)
  | .error failure => (.error failure, session)

section
variable {m : ClassModule} {definition : ClassInfo} {schema : Schema} {c : Container}

theorem ContainerSession.run_save_eq_afterKeeping {session : ContainerSession} {name store : String}
    {delegate number : Nat} (delegates : session.holdings.get? name = some (.delegate delegate))
    (stores : session.holdings.get? store = some (.store number)) :
    session.run (save name (some store)) = session.afterKeeping number
      (session.container.keptText (session.persistedValues delegate)) := by
  rw [run_save_of_named delegates stores, Container.saving_eq_map_keptText]
  cases session.container.keptText (session.persistedValues delegate) <;> rfl

/-- The persisted fields of a loaded container are the persisted properties. -/
theorem Container.restoredFields_of_load (loaded : load m definition schema.synthesize = .ok c) :
    c.artifacts.plan.restoredFields = schema.persisted.map (·.name) ∧
      ∀ field ∈ schema.persisted.map (·.name), c.property? field ≠ none := by
  obtain ⟨artifacts, -⟩ := load_eq_ok loaded
  refine ⟨by rw [artifacts]; rfl, fun field member absent => ?_⟩
  obtain ⟨p, inside, rfl⟩ := List.mem_map.mp member
  have own : p ∈ c.properties := by
    rw [properties, artifacts]
    exact List.mem_of_mem_filter inside
  exact List.find?_eq_none.mp absent p own (decide_eq_true rfl)

/-- Two delegates of a definition that agree in the persisted fields are saved as the same text under
the same key, or cannot be saved for the same reason. The text is an object whose keys are the names of
the persisted properties, in order. Where these properties are of plain types and have names of
their own, the values that can be written are saved. -/
theorem exists_ending_of_agreesIn (loaded : Container.load m definition schema.synthesize = .ok c)
    {first second : Use} (isFirst : first.container = c) (isSecond : second.container = c)
    (agrees : first.AgreesIn second (schema.persisted.map (·.name))) :
    ∃ ending : Except Failure (String × String),
      (∀ {store number}, first.built.holdings.get? store = some (.store number) →
        first.after.run (save first.name (some store)) = first.after.afterKeeping number ending) ∧
      (∀ {store number}, second.built.holdings.get? store = some (.store number) →
        second.after.run (save second.name (some store)) =
          second.after.afterKeeping number ending) ∧
      (c.LeavesWriting → ∀ {key text}, ending = .ok (key, text) →
        key = snapshotKey schema.name ∧ ∃ entries, text = (Json.object entries).write ∧
          entries.map (·.1) = schema.persisted.map (·.name)) ∧
      ∀ {s types}, c.IsOf m definition schema s types → ending =
        ((Snapshot.encode (schema.persisted.map fun p =>
          (p.name, first.after.held first.delegate p.name))).mapError .encoding).map
            (snapshotKey schema.name, ·) := by
  obtain ⟨fields, known⟩ := Container.restoredFields_of_load loaded
  have held := agrees.held_eq (isFirst ▸ known) (isFirst.trans isSecond.symm)
  have values (use : Use) (own : use.container = c) : use.after.persistedValues use.delegate =
      (schema.persisted.map (·.name)).map fun field => (field, use.after.held use.delegate field) := by
    rw [persistedValues, valuesOf_eq, use.container_after, own, fields]
  have same : second.after.persistedValues second.delegate =
      first.after.persistedValues first.delegate := by
    rw [values second isSecond, values first isFirst]
    exact List.map_congr_left fun field member => congrArg (Prod.mk field) (held field member).symm
  have names : (first.after.persistedValues first.delegate).map (·.1) =
      schema.persisted.map (·.name) := by
    rw [values first isFirst, List.map_map]
    exact List.map_id _
  refine ⟨c.keptText (first.after.persistedValues first.delegate), fun stores => ?_, fun stores => ?_,
    fun leaves _ _ keeps => Container.exists_object_of_keptText loaded leaves names keeps,
    fun isOf => ?_⟩
  · rw [run_save_eq_afterKeeping first.named_after stores, first.container_after, isFirst]
  · rw [run_save_eq_afterKeeping second.named_after stores, second.container_after, isSecond, same]
  · rw [isOf.keptText_eq names, values first isFirst, List.map_map]
    rfl

end

/-! ### A number that is kept beside one that is not -/

namespace Vault

open Keeper

/-- A definition with two numbers, of which one is kept. -/
def declaration : Declaration where
  name := "S"
  fields := [
    { name := "x", type := "int"
      carried := .options { default := some (.int 0), remark := .markers { persist := true } } },
    { name := "hidden", type := "int", carried := .value (.int 0) }]
  state := some .none

def classModule : ClassModule :=
  (ClassModule.build "app.state" [declaration] []).toOption.getD Inhabited.default

def classInfo : ClassInfo :=
  (classModule.classOf? { moduleName := "app.state", path := "S" }).getD Inhabited.default

def schema : Schema :=
  (classModule.provider.schema classInfo).toOption.getD Inhabited.default

/-- The container, or why it cannot be loaded. -/
def load : Loading Container :=
  Container.load classModule classInfo schema.synthesize

/-- Both numbers are pushed. -/
def pushing : List Program :=
  [.push "hidden" (.int 1) fun _ => .push "x" (.int 5) .orFail]

/-- An observer gets each number that is kept and pushes one that is not; then the same is pushed to
the field that is kept, and something else to the other one. -/
def pushingAndWatching : List Program :=
  [.subscribe "x" (fun event => .get event fun _ => .push "hidden" (.int 9) .orFail) fun _ =>
    .push "x" (.int 5) fun _ => .push "hidden" (.int 7) .orFail]

/-- Whether a value is a number. -/
def isNumber (number : Int) : Value → Bool
  | .int other => other = number
  | _ => false

theorem eq_of_isNumber {number : Int} {value : Value} (known : isNumber number value = true) :
    value = .int number := by
  unfold isNumber at known
  split at known
  · rw [of_decide_eq_true known]
  · cases known

/-- Whether programs run to the end, the number that is kept begins with zero and is pushed five and
nothing else, from the outside alone, and the other number is a given one in the end. -/
def keepsFive (c : Container) (programs : List Program) (hidden : Int) : Bool :=
  ((storing c).run (newDelegate "first" {})).1.toOption.isSome &&
  (runPrograms 40 c 0 programs (tallying c)).1.raised?.isSome &&
  isNumber 0 ((tallying c).held 0 "x") &&
  (argumentsOf "x" (recordPrograms 40 c 0 programs (tallying c)).2.bank.kept.deeds).map
    (isNumber 5) = [true] &&
  spares ⟨0, "x"⟩ 0 (recordPrograms 40 c 0 programs (tallying c)).2.history &&
  isNumber hidden (((tallying c).afterPrograms 40 c 0 programs).held 0 "hidden") &&
  isFirstStore ((tallying c).holdings.get? "store") &&
  (((tallying c).afterPrograms 40 c 0 programs).run (save "first" (some "store"))).1.toOption.isSome

/-- A use that keeps the number five. -/
theorem exists_use {c : Container} {programs : List Program} {hidden : Int}
    (known : keepsFive c programs hidden = true) : ∃ use : Use, use.container = c ∧
      use.initial "x" = .int 0 ∧ use.pushed "x" = [.int 5] ∧ use.Spares "x" ∧
      use.after.held use.delegate "hidden" = .int hidden ∧ use.name = "first" ∧
      use.built.holdings.get? "store" = some (.store 0) ∧
      (use.after.run (save "first" (some "store"))).1.toOption.isSome = true := by
  simp only [keepsFive, Bool.and_eq_true, decide_eq_true_eq, and_assoc] at known
  obtain ⟨builds, ends, initial, pushed, spared, held, stores, saves⟩ := known
  have made : (storing c).run (newDelegate "first" {}) = (.ok (), tallying c) := by
    obtain ⟨_, done⟩ := Option.isSome_iff_exists.mp builds
    exact Prod.ext (toOption_eq_some_iff.mp done) rfl
  refine ⟨⟨storing c, "first", {}, tallying c, made, 40, programs, Option.isSome_iff_ne_none.mp ends⟩,
    rfl, eq_of_isNumber initial, ?_, isSpared_of_spares spared, eq_of_isNumber held, rfl, ?_, saves⟩
  · obtain ⟨only, others, values, five, rest⟩ := List.map_eq_cons_iff.mp pushed
    rw [List.map_eq_nil_iff.mp rest, eq_of_isNumber five] at values
    exact values
  · unfold isFirstStore at stores
    split at stores
    · next number found => exact found.trans (by rw [of_decide_eq_true stores])
    · cases stores

/-- However different the other number is, the same text is kept of both delegates. -/
theorem exists_sameText : ∃ (c : Container) (first second : Use) (text : String),
    load = .ok c ∧ first.container = c ∧ second.container = c ∧
      first.AgreesIn second (schema.persisted.map (·.name)) ∧
      first.after.held first.delegate "hidden" = .int 1 ∧
      second.after.held second.delegate "hidden" = .int 7 ∧
      first.after.run (save "first" (some "store")) =
        (.ok (), first.after.keeping 0 "S_BUNDLE_KEY" text) ∧
      second.after.run (save "first" (some "store")) =
        (.ok (), second.after.keeping 0 "S_BUNDLE_KEY" text) ∧
      ∃ value, text = (Json.object [("x", value)]).write := by
  have runs : (load.toOption.map fun c => (keepsFive c pushing 1 && keepsFive c pushingAndWatching 7,
      c.standIns.keys)) = some (true, []) := by
    decide +kernel
  obtain ⟨c, loaded, runs⟩ := Option.map_eq_some_iff.mp runs
  obtain ⟨keeps, standIns⟩ := Prod.mk.inj runs
  obtain ⟨keeps, keeps'⟩ := (Bool.and_eq_true _ _).mp keeps
  have loaded := toOption_eq_some_iff.mp loaded
  have names : schema.persisted.map (·.name) = ["x"] := by decide +kernel
  have isKey : snapshotKey schema.name = "S_BUNDLE_KEY" := by decide +kernel
  obtain ⟨first, own, initial, pushed, spared, held, isFirst, stores, saves⟩ := exists_use keeps
  obtain ⟨second, own', initial', pushed', spared', held', isFirst', stores', -⟩ := exists_use keeps'
  have agrees : first.AgreesIn second (schema.persisted.map (·.name)) := by
    rw [names]
    refine ⟨fun field member => ?_, fun field member => ?_, fun field member => ?_⟩
    all_goals rw [List.mem_singleton.mp member]
    · rw [initial, initial']
    · rw [pushed, pushed']
    · exact ⟨spared, spared'⟩
  have leaves : c.LeavesWriting := by
    intro found standsIn
    have nothing : c.standIns.get? "Snapshot" = none :=
      OrderedMap.get?_eq_none_iff.mpr (by rw [standIns]; exact List.not_mem_nil)
    rw [nothing] at standsIn
    cases standsIn
  obtain ⟨ending, ends, ends', object, -⟩ := exists_ending_of_agreesIn loaded own own' agrees
  have ends := ends stores
  have ends' := ends' stores'
  rw [isFirst] at ends
  rw [isFirst'] at ends'
  rw [ends] at saves
  cases ending with
  | error failure => cases saves
  | ok kept =>
    obtain ⟨key, text⟩ := kept
    obtain ⟨rfl, entries, rfl, keys⟩ := object leaves rfl
    rw [names] at keys
    obtain ⟨⟨_, value⟩, others, rfl, rfl, rest⟩ := List.map_eq_cons_iff.mp keys
    rw [List.map_eq_nil_iff.mp rest, isKey] at ends ends'
    exact ⟨c, first, second, _, loaded, own, own', agrees, held, held', ends, ends', value, rfl⟩

end Vault

end StateContainer
