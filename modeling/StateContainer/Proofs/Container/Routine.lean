/-
This file says what looking at delegates and saving them does to everybody else.

A routine is everything that the users of the delegates of a container do, written as a tree: an
observer in one of its calls, or whoever works with the delegates from the outside. It pushes values,
subscribes observers, disposes subscriptions, reads the current event of a field, gets or peeks at
the item of an event, asks for the state of a delegate and saves it to a store or to none. What is
raised by a push, by a subscription or by saving is handed to the routine. A trace tells what
everybody learns: which events observers receive and in which condition these are then, what events
hand out, and which states are told.

Peeking, asking for a state and saving may be inserted anywhere in a routine, inside of observers or
outside. The main statement is that the run is then the same for everybody else, and that saving
leaves the stores as they were whenever it fails.
-/

import StateContainer.Proofs.Channel.Insertion
import StateContainer.Proofs.Container.Effect
import StateContainer.Proofs.Container.Resuming

namespace StateContainer

open ContainerSession

/-! ### What the users share -/

/-- Something that somebody learns. -/
inductive Occurrence where
  /-- An observer, which goes by a label, receives an event. The event is then as it is said. -/
  | received (label : Nat) (channel : ChannelName) (event : Nat) (seen : Event)
  /-- An event hands something out. -/
  | got (event : Nat) (result : Value)
  /-- A delegate tells its state, or fails to. -/
  | stated (delegate : Nat) (result : Except Failure Instance)

/-- What the users of delegates keep among themselves: the scene, the stores, and what has been
learned, the earliest first. -/
structure Commons where
  scene : Scene ChannelName
  stores : List SnapshotStore := []
  trace : List Occurrence := []

/-- The channels of delegates with what their users share. -/
abbrev CommonBank := Bank ChannelName (Item Nat) Failure Commons

/-- What the record of a delegate has for a field whose channel has an item. -/
def Scene.itemOf (scene : Scene ChannelName) (item : Item Nat) : Value :=
  match scene.sight item with
  | .event seen => seen.peek
  | .plain value => value

namespace Commons

/-- Somebody learns something. -/
def learn (occurrence : Occurrence) (commons : Commons) : Commons :=
  { commons with trace := commons.trace ++ [occurrence] }

/-- Changes the stores. -/
def changeStores (change : List SnapshotStore → List SnapshotStore) (commons : Commons) : Commons :=
  { commons with stores := change commons.stores }

/-- What others see of it. -/
def withoutStores (commons : Commons) : Commons :=
  { commons with stores := [] }

/-- How the scene lies in it. What events hand out is written down. -/
def keeping : Keeping Commons where
  scene := Commons.scene
  change change commons := { commons with scene := change commons.scene }
  tell
    | .got event result, commons => commons.learn (.got event result)
    | _, commons => commons

end Commons

/-- The values of some fields of a delegate. -/
def CommonBank.valuesOf (bank : CommonBank) (delegate : Nat) (fields : List String) :
    List (String × Value) :=
  fields.map fun field => (field, bank.kept.scene.itemOf (bank.channels ⟨delegate, field⟩).value)

/-- The channels of a session before anybody observes anything. -/
def ContainerSession.withCommons (session : ContainerSession) : CommonBank where
  channels name := { value := (session.channels.channels name).value }
  kept := { scene := session.channels.kept, stores := session.stores }
  log := session.channels.log

/-! ### Routines -/

/-- What the users of delegates do. Events are referred to as in the scene. -/
inductive Routine where
  | finish
  | fail (failure : Failure)
  | interrupt (failure : Failure)
  /-- Pushes a value of a field. -/
  | push (channel : ChannelName) (value : Value) (next : Option (Raised Failure) → Routine)
  /-- Subscribes an observer to a field. What it receives is written down if it goes by a label. -/
  | subscribe (channel : ChannelName) (label : Option Nat) (observer : Nat → Routine)
      (next : Except (Raised Failure) Nat → Routine)
  /-- Disposes the subscription of a token. -/
  | dispose (channel : ChannelName) (token : Nat) (next : Routine)
  /-- Reads the value of the observable of a field, which is an event in any delegate. -/
  | current (channel : ChannelName) (next : Option Nat → Routine)
  /-- Gets what an event hands out. -/
  | get (event : Nat) (next : Value → Routine)
  /-- Peeks at the item of an event. -/
  | peek (event : Nat) (next : Value → Routine)
  /-- Asks a delegate for its state, which is written down or not. -/
  | state (noted : Bool) (delegate : Nat) (next : Except Failure Instance → Routine)
  /-- Saves a delegate to a store or to none. -/
  | save (delegate : Nat) (target : Option Nat) (next : Except Failure Unit → Routine)
  /-- Looks at the scene. -/
  | consult (next : Scene ChannelName → Routine)
  /-- Changes the scene and leaves the events. -/
  | update (change : Scene ChannelName → Scene ChannelName)
      (unread : ∀ scene, (change scene).events = scene.events) (next : Routine)

namespace Routine

/-- What is done with what the users share. -/
abbrev Call := Script ChannelName (Item Nat) Failure Commons

/-- The event that an item is. -/
def event? : Item Nat → Option Nat
  | .event event => some event
  | .plain _ => none

/-- Reads the channels of some fields and goes on with what they have. -/
def itemsThen (delegate : Nat) : List String → (List (String × Item Nat) → Call) → Call
  | [], next => next []
  | field :: others, next =>
    .read ⟨delegate, field⟩ fun item =>
      itemsThen delegate others fun items => next ((field, item) :: items)

/-- Reads the values of some fields, which consumes no event, and goes on with them. -/
def valuesThen (delegate : Nat) (fields : List String) (next : List (String × Value) → Call) :
    Call :=
  itemsThen delegate fields fun items =>
    .consult fun commons => next (items.map fun (field, item) => (field, commons.scene.itemOf item))

/-- A routine as a script of the channels of the delegates. -/
def script (c : Container) : Routine → Call
  | finish => .finish
  | fail failure => .fail failure
  | interrupt failure => .interrupt failure
  | push channel value next =>
    match c.property? channel.property with
    | none => .fail (Program.lacks c ("push_" ++ channel.property))
    | some property =>
      Program.wrapScript Commons.keeping property.eventKind channel.property value fun event =>
        .push channel (.event event) fun raised => (next raised).script c
  | subscribe channel label observer next =>
    match c.property? channel.property with
    | none => .fail (Program.lacks c ("observe_" ++ channel.property))
    | some _ =>
      .subscribe channel
        (Program.onEvent fun event =>
          match label with
          | none => (observer event).script c
          | some label =>
            .update (fun commons =>
                commons.learn (.received label channel event (commons.scene.eventAt event)))
              ((observer event).script c))
        fun token => (next token).script c
  | dispose channel token next => .dispose channel token (next.script c)
  | current channel next =>
    match c.property? channel.property with
    | none => .fail (Program.lacks c ("observe_" ++ channel.property))
    | some _ => .read channel fun item => (next (event? item)).script c
  | get event next => Program.getScript Commons.keeping event fun result => (next result).script c
  | peek event next => Program.peekScript Commons.keeping event fun item => (next item).script c
  | state noted delegate next =>
    valuesThen delegate (c.properties.map (·.name)) fun values =>
      .update (fun commons =>
          if noted then commons.learn (.stated delegate (c.makeRecord values)) else commons)
        ((next (c.makeRecord values)).script c)
  | save delegate target next =>
    valuesThen delegate c.artifacts.plan.restoredFields fun values =>
      match c.saving target values with
      | .ok change =>
        .update (Commons.changeStores change) ((next (.ok ())).script c)
      | .error failure => (next (.error failure)).script c
  | consult next => .consult fun commons => (next commons.scene).script c
  | update change _ next => .update (Commons.keeping.change change) (next.script c)

/-! ### Programs are routines -/

/-- A program on a delegate as a routine, in which no observer goes by a label. -/
def ofProgram (delegate : Nat) : Program → Routine
  | .finish => .finish
  | .fail failure => .fail failure
  | .interrupt failure => .interrupt failure
  | .push field value next =>
    .push ⟨delegate, field⟩ value fun raised => ofProgram delegate (next raised)
  | .subscribe field observer next =>
    .subscribe ⟨delegate, field⟩ none (fun event => ofProgram delegate (observer event))
      fun token => ofProgram delegate (next token)
  | .dispose field token next => .dispose ⟨delegate, field⟩ token (ofProgram delegate next)
  | .current field next =>
    .current ⟨delegate, field⟩ fun
      | some event => ofProgram delegate (next event)
      | none => .finish
  | .get event next => .get event fun result => ofProgram delegate (next result)
  | .peek event next => .peek event fun item => ofProgram delegate (next item)
  | .consult next => .consult fun scene => ofProgram delegate (next scene)
  | .update change unread next => .update change unread (ofProgram delegate next)

/-- A routine that is a program does what the program does. -/
theorem mirrors_ofProgram (c : Container) (delegate : Nat) (program : Program) :
    ((ofProgram delegate program).script c).Mirrors Commons.scene (Program.area c delegate)
      (program.call c delegate) := by
  induction program with
  | finish => exact .finish
  | fail failure => exact .fail failure
  | interrupt failure => exact .interrupt failure
  | push field value next inductionHypothesis =>
    rw [ofProgram, script, Program.call, Program.script]
    cases found : c.property? field with
    | none => exact .fail _
    | some property =>
      have inside : Program.area c delegate ⟨delegate, field⟩ := ⟨rfl, by rw [found]; exact Option.some_ne_none _⟩
      refine .consult fun commons => .update ?_ (.push inside _ inductionHypothesis)
      exact fun _ => rfl
  | subscribe field observer next observerHypothesis nextHypothesis =>
    rw [ofProgram, script, Program.call, Program.script]
    cases found : c.property? field with
    | none => exact .fail _
    | some property =>
      have inside : Program.area c delegate ⟨delegate, field⟩ := ⟨rfl, by rw [found]; exact Option.some_ne_none _⟩
      refine .subscribe inside ?_ nextHypothesis
      rintro (value | event)
      · exact .finish
      · exact observerHypothesis event
  | dispose field token next inductionHypothesis => exact .dispose _ token inductionHypothesis
  | current field next inductionHypothesis =>
    rw [ofProgram, script, Program.call, Program.script]
    cases found : c.property? field with
    | none => exact .fail _
    | some property =>
      have inside : Program.area c delegate ⟨delegate, field⟩ := ⟨rfl, by rw [found]; exact Option.some_ne_none _⟩
      refine .read inside ?_
      rintro (value | event)
      · exact .finish
      · exact inductionHypothesis event
  | get event next inductionHypothesis =>
    refine .consult fun commons => .update ?_ (inductionHypothesis _)
    exact fun _ => rfl
  | peek event next inductionHypothesis =>
    refine .consult fun commons => .update ?_ (inductionHypothesis _)
    exact fun _ => rfl
  | consult next inductionHypothesis => exact .consult fun commons => inductionHypothesis _
  | update change unread next inductionHypothesis =>
    refine .update ?_ inductionHypothesis
    exact fun _ => rfl

/-! ### Asking and saving are the operations of sessions -/

/-- Whether a session has the channels, the scene and the stores of a moment of a run. -/
structure Shows (session : ContainerSession) (c : Container) (bank : CommonBank) : Prop where
  container : session.container = c
  values : ∀ name, (session.channels.channels name).value = (bank.channels name).value
  scene : session.channels.kept = bank.kept.scene
  stores : session.stores = bank.kept.stores

section
variable {c : Container} {session : ContainerSession} {bank : CommonBank}

theorem Shows.valuesOf_eq (shows : Shows session c bank) (delegate : Nat) (fields : List String) :
    session.valuesOf delegate fields = bank.valuesOf delegate fields := by
  refine List.map_congr_left fun field _ => ?_
  rw [Session.sight, Scene.itemOf, shows.scene, shows.values]
  cases bank.kept.scene.sight (bank.channels ⟨delegate, field⟩).value <;> rfl

/-- Reading channels one after the other gives what they have. -/
theorem run_itemsThen (delegate : Nat) (fields : List String)
    (next : List (String × Item Nat) → Call) (fuel : Nat) (bank : CommonBank) :
    Bank.run (fuel + fields.length) (itemsThen delegate fields next) bank =
      Bank.run fuel
        (next (fields.map fun field => (field, (bank.channels ⟨delegate, field⟩).value))) bank := by
  induction fields generalizing next with
  | nil => rfl
  | cons field others inductionHypothesis =>
    rw [itemsThen, List.length_cons, ← Nat.add_assoc, Bank.run, inductionHypothesis]
    rfl

theorem run_valuesThen (delegate : Nat) (fields : List String) (next : List (String × Value) → Call)
    (fuel : Nat) (bank : CommonBank) :
    Bank.run (fuel + 1 + fields.length) (valuesThen delegate fields next) bank =
      Bank.run fuel (next (bank.valuesOf delegate fields)) bank := by
  rw [valuesThen, run_itemsThen, Bank.run, List.map_map]
  rfl

/-- Asking a delegate for its state is the operation of a session with this delegate, in the midst
of a run as between operations. -/
theorem run_state (shows : Shows session c bank) {name : String} {delegate : Nat}
    (named : session.holdings.get? name = some (.delegate delegate)) (noted : Bool)
    (next : Except Failure Instance → Routine) (fuel : Nat) :
    Bank.run (fuel + 1 + 1 + c.properties.length) ((state noted delegate next).script c) bank =
      Bank.run fuel ((next (session.run (currentState name)).1).script c)
        (bank.keep fun commons =>
          if noted then commons.learn (.stated delegate (session.run (currentState name)).1)
          else commons) := by
  have values : session.valuesOf delegate (c.properties.map (·.name)) =
      c.properties.map fun property => (property.name, session.held delegate property.name) := by
    rw [valuesOf_eq, List.map_map]
    rfl
  have result : (session.run (currentState name)).1 =
      c.makeRecord (bank.valuesOf delegate (c.properties.map (·.name))) := by
    rw [run_currentState named, shows.container, ← shows.valuesOf_eq, values]
  rw [result, ← @List.length_map _ _ c.properties (·.name), script, run_valuesThen, Bank.run]

/-- Saving a delegate is the operation of a session with this delegate, in the midst of a run as
between operations. -/
theorem run_save (shows : Shows session c bank) (delegate : Nat) (target : Option Nat)
    (next : Except Failure Unit → Routine) :
    ∃ extra, ∀ fuel, Bank.run (fuel + extra) ((save delegate target next).script c) bank =
      Bank.run fuel
        ((next (session.run (saveDelegate delegate (target.map .store))).1).script c)
        (bank.keep fun commons =>
          { commons with
            stores := (session.run (saveDelegate delegate (target.map .store))).2.stores }) := by
  rw [run_saveDelegate, persistedValues, shows.container, shows.valuesOf_eq]
  cases saved : c.saving target (bank.valuesOf delegate c.artifacts.plan.restoredFields) with
  | ok change =>
    refine ⟨1 + 1 + c.artifacts.plan.restoredFields.length, fun fuel => ?_⟩
    rw [← Nat.add_assoc, ← Nat.add_assoc, script, run_valuesThen, saved]
    dsimp only
    rw [Bank.run, afterSaving, shows.stores]
    rfl
  | error failure =>
    refine ⟨1 + c.artifacts.plan.restoredFields.length, fun fuel => ?_⟩
    rw [← Nat.add_assoc, script, run_valuesThen, saved, afterSaving, shows.stores]
    rfl

/-- Saving that fails leaves everything as it was, in the midst of a run too. -/
theorem run_save_of_error {target : Option Nat} {delegate : Nat} {failure : Failure}
    (fails : c.saving target (bank.valuesOf delegate c.artifacts.plan.restoredFields) =
      .error failure)
    (next : Except Failure Unit → Routine) (fuel : Nat) :
    Bank.run (fuel + 1 + c.artifacts.plan.restoredFields.length)
        ((save delegate target next).script c) bank =
      Bank.run fuel ((next (.error failure)).script c) bank := by
  rw [script, run_valuesThen, fails]

end

/-! ### Routines with looks and savings inserted -/

/-- Whether the second routine is the first one with readings of current events, peeks, questions
for states and savings inserted, whatever comes out of these. -/
inductive Inserts (c : Container) : Routine → Routine → Prop where
  | finish : Inserts c .finish .finish
  | fail (failure : Failure) : Inserts c (.fail failure) (.fail failure)
  | interrupt (failure : Failure) : Inserts c (.interrupt failure) (.interrupt failure)
  | push (channel : ChannelName) (value : Value) {next next' : Option (Raised Failure) → Routine}
      (rest : ∀ raised, Inserts c (next raised) (next' raised)) :
      Inserts c (.push channel value next) (.push channel value next')
  | subscribe (channel : ChannelName) (label : Option Nat) {observer observer' : Nat → Routine}
      (calls : ∀ event, Inserts c (observer event) (observer' event))
      {next next' : Except (Raised Failure) Nat → Routine}
      (rest : ∀ token, Inserts c (next token) (next' token)) :
      Inserts c (.subscribe channel label observer next) (.subscribe channel label observer' next')
  | dispose (channel : ChannelName) (token : Nat) {next next' : Routine}
      (rest : Inserts c next next') :
      Inserts c (.dispose channel token next) (.dispose channel token next')
  | current (channel : ChannelName) {next next' : Option Nat → Routine}
      (rest : ∀ event, Inserts c (next event) (next' event)) :
      Inserts c (.current channel next) (.current channel next')
  | get (event : Nat) {next next' : Value → Routine}
      (rest : ∀ result, Inserts c (next result) (next' result)) :
      Inserts c (.get event next) (.get event next')
  | peek (event : Nat) {next next' : Value → Routine}
      (rest : ∀ item, Inserts c (next item) (next' item)) :
      Inserts c (.peek event next) (.peek event next')
  | state (noted : Bool) (delegate : Nat) {next next' : Except Failure Instance → Routine}
      (rest : ∀ result, Inserts c (next result) (next' result)) :
      Inserts c (.state noted delegate next) (.state noted delegate next')
  | save (delegate : Nat) (target : Option Nat) {next next' : Except Failure Unit → Routine}
      (rest : ∀ result, Inserts c (next result) (next' result)) :
      Inserts c (.save delegate target next) (.save delegate target next')
  | consult {next next' : Scene ChannelName → Routine}
      (rest : ∀ scene, Inserts c (next scene) (next' scene)) :
      Inserts c (.consult next) (.consult next')
  | update (change : Scene ChannelName → Scene ChannelName)
      (unread : ∀ scene, (change scene).events = scene.events) {next next' : Routine}
      (rest : Inserts c next next') :
      Inserts c (.update change unread next) (.update change unread next')
  | moreCurrent {channel : ChannelName} (known : c.property? channel.property ≠ none)
      {routine : Routine} {next' : Option Nat → Routine}
      (rest : ∀ event, Inserts c routine (next' event)) :
      Inserts c routine (.current channel next')
  | morePeek (event : Nat) {routine : Routine} {next' : Value → Routine}
      (rest : ∀ item, Inserts c routine (next' item)) : Inserts c routine (.peek event next')
  | moreState (delegate : Nat) {routine : Routine} {next' : Except Failure Instance → Routine}
      (rest : ∀ result, Inserts c routine (next' result)) :
      Inserts c routine (.state false delegate next')
  | moreSave (delegate : Nat) (target : Option Nat) {routine : Routine}
      {next' : Except Failure Unit → Routine}
      (rest : ∀ result, Inserts c routine (next' result)) :
      Inserts c routine (.save delegate target next')

/-! ### What is inserted is silent -/

section
variable {delegate : Nat}

theorem scene_eq_of_withoutStores_eq {commons commons' : Commons}
    (same : commons.withoutStores = commons'.withoutStores) : commons.scene = commons'.scene := by
  have scene : commons.withoutStores.scene = commons'.withoutStores.scene :=
    congrArg Commons.scene same
  exact scene

theorem keeping_scene_eq_of_withoutStores_eq {commons commons' : Commons}
    (same : commons.withoutStores = commons'.withoutStores) :
    Commons.keeping.scene commons = Commons.keeping.scene commons' :=
  scene_eq_of_withoutStores_eq same

/-- Reading values leads to the same with steps inserted afterwards. -/
theorem inserts_valuesThen (fields : List String) {next next' : List (String × Value) → Call}
    (rest : ∀ values, (next values).Inserts Commons.withoutStores (next' values)) :
    (valuesThen delegate fields next).Inserts Commons.withoutStores
      (valuesThen delegate fields next') := by
  have items (fields : List String) {next next' : List (String × Item Nat) → Call}
      (rest : ∀ items, (next items).Inserts Commons.withoutStores (next' items)) :
      (itemsThen delegate fields next).Inserts Commons.withoutStores
        (itemsThen delegate fields next') := by
    induction fields generalizing next next' with
    | nil => exact rest []
    | cons field others inductionHypothesis =>
      exact .read _ fun item => inductionHypothesis fun items => rest ((field, item) :: items)
  refine items fields fun items => .consult fun commons commons' same => ?_
  rw [scene_eq_of_withoutStores_eq same]
  exact rest _

/-- Reading values is silent. -/
theorem inserts_silent_valuesThen {script : Call} (fields : List String)
    {next' : List (String × Value) → Call}
    (rest : ∀ values, script.Inserts Commons.withoutStores (next' values)) :
    script.Inserts Commons.withoutStores (valuesThen delegate fields next') := by
  have items (fields : List String) {next' : List (String × Item Nat) → Call}
      (rest : ∀ items, script.Inserts Commons.withoutStores (next' items)) :
      script.Inserts Commons.withoutStores (itemsThen delegate fields next') := by
    induction fields generalizing next' with
    | nil => exact rest []
    | cons field others inductionHypothesis =>
      exact .silentRead _ fun item =>
        inductionHypothesis fun items => rest ((field, item) :: items)
  exact items fields fun items => .silentConsult fun commons => rest _

/-- A step that does the same on what others see. -/
theorem withoutStores_congr {change : Commons → Commons}
    (apart : ∀ commons,
      (change commons).withoutStores = (change commons.withoutStores).withoutStores)
    (commons commons' : Commons) (same : commons.withoutStores = commons'.withoutStores) :
    (change commons).withoutStores = (change commons').withoutStores := by
  rw [apart commons, same, ← apart commons']

end

/-- With looks and savings inserted, the script of a routine has silent steps inserted. -/
theorem Inserts.script {c : Container} {routine routine' : Routine}
    (inserts : routine.Inserts c routine') :
    (routine.script c).Inserts Commons.withoutStores (routine'.script c) := by
  induction inserts with
  | finish => exact .finish
  | fail failure => exact .fail failure
  | interrupt failure => exact .interrupt failure
  | push channel value rest inductionHypothesis =>
    rw [Routine.script, Routine.script]
    cases c.property? channel.property with
    | none => exact .fail _
    | some property =>
      refine .consult fun commons commons' same => ?_
      rw [keeping_scene_eq_of_withoutStores_eq same]
      exact .update (withoutStores_congr fun _ => rfl) (.push _ _ inductionHypothesis)
  | subscribe channel label calls rest callsHypothesis restHypothesis =>
    rw [Routine.script, Routine.script]
    cases c.property? channel.property with
    | none => exact .fail _
    | some property =>
      refine .subscribe _ ?_ restHypothesis
      rintro (value | event)
      · exact .finish
      · cases label with
        | none => exact callsHypothesis event
        | some label => exact .update (withoutStores_congr fun _ => rfl) (callsHypothesis event)
  | dispose channel token rest inductionHypothesis => exact .dispose _ token inductionHypothesis
  | current channel rest inductionHypothesis =>
    rw [Routine.script, Routine.script]
    cases c.property? channel.property with
    | none => exact .fail _
    | some property => exact .read _ fun item => inductionHypothesis _
  | get event rest inductionHypothesis =>
    refine .consult fun commons commons' same => ?_
    rw [keeping_scene_eq_of_withoutStores_eq same]
    exact .update (withoutStores_congr fun _ => rfl) (inductionHypothesis _)
  | peek event rest inductionHypothesis =>
    refine .consult fun commons commons' same => ?_
    rw [keeping_scene_eq_of_withoutStores_eq same]
    exact .update (withoutStores_congr fun _ => rfl) (inductionHypothesis _)
  | state noted delegate rest inductionHypothesis =>
    refine inserts_valuesThen _ fun values => ?_
    refine .update (withoutStores_congr fun commons => ?_) (inductionHypothesis _)
    cases noted <;> rfl
  | save delegate target rest inductionHypothesis =>
    rw [Routine.script, Routine.script]
    refine inserts_valuesThen _ fun values => ?_
    cases c.saving target values with
    | ok change =>
      have hidden (commons commons' : Commons)
          (same : commons.withoutStores = commons'.withoutStores) :
          (commons.changeStores change).withoutStores =
            (commons'.changeStores change).withoutStores := same
      exact .update hidden (inductionHypothesis (.ok ()))
    | error failure => exact inductionHypothesis _
  | consult rest inductionHypothesis =>
    refine .consult fun commons commons' same => ?_
    rw [scene_eq_of_withoutStores_eq same]
    exact inductionHypothesis _
  | update change unread rest inductionHypothesis =>
    exact .update (withoutStores_congr fun _ => rfl) inductionHypothesis
  | @moreCurrent channel known routine next' rest inductionHypothesis =>
    obtain ⟨property, found⟩ := Option.ne_none_iff_exists'.mp known
    have reads : (Routine.current channel next').script c =
        .read channel fun item => (next' (event? item)).script c := by
      rw [Routine.script, found]
    rw [reads]
    exact .silentRead _ fun item => inductionHypothesis _
  | morePeek event rest inductionHypothesis =>
    exact .silentConsult fun commons => .silentUpdate (fun _ => rfl) (inductionHypothesis _)
  | moreState delegate rest inductionHypothesis =>
    exact inserts_silent_valuesThen _ fun values =>
      .silentUpdate (fun _ => rfl) (inductionHypothesis _)
  | @moreSave delegate target routine next' rest inductionHypothesis =>
    rw [Routine.script.eq_def c (.save delegate target next')]
    refine inserts_silent_valuesThen _ fun values => ?_
    cases c.saving target values with
    | ok change =>
      have hidden (commons : Commons) :
          (commons.changeStores change).withoutStores = commons.withoutStores := rfl
      exact .silentUpdate hidden (inductionHypothesis (.ok ()))
    | error failure => exact inductionHypothesis _

/-! ### Runs with looks and savings inserted -/

/-- Whether two runs are the same for everybody who does not look into the stores. -/
structure IsSame (c : Container) (result other : Outcome Failure × CommonBank) : Prop where
  outcome : result.1 = other.1
  /-- Observers received the same, events handed out the same, and the same states were told. -/
  trace : result.2.kept.trace = other.2.kept.trace
  scene : result.2.kept.scene = other.2.kept.scene
  log : result.2.log = other.2.log
  /-- Each channel has the same value, the same values wait in it, and the same observers are
  registered with it. -/
  channels : ∀ name, (result.2.channels name).value = (other.2.channels name).value ∧
    (result.2.channels name).pending = (other.2.channels name).pending ∧
    (result.2.channels name).observers.map (·.1) = (other.2.channels name).observers.map (·.1)
  /-- Each delegate tells the same state from now on. -/
  states : ∀ delegate, c.makeRecord (result.2.valuesOf delegate (c.properties.map (·.name))) =
    c.makeRecord (other.2.valuesOf delegate (c.properties.map (·.name)))

/-- Runs that differ in silent steps are the same for everybody else. -/
theorem IsSame.of_inserts (c : Container) {result other : Outcome Failure × CommonBank}
    (inserts : Outcome.Inserts Commons.withoutStores result other) : IsSame c result other := by
  obtain ⟨outcome, bank⟩ := inserts
  have scene := scene_eq_of_withoutStores_eq bank.kept
  have trace : result.2.kept.withoutStores.trace = other.2.kept.withoutStores.trace :=
    congrArg Commons.trace bank.kept
  have tokens
      {registrations registrations' : List (Registration ChannelName (Item Nat) Failure Commons)}
      (same : List.Forall₂ (Registration.Inserts Commons.withoutStores) registrations registrations') :
      registrations.map (·.1) = registrations'.map (·.1) := by
    induction same with
    | nil => rfl
    | cons head rest inductionHypothesis =>
      rw [List.map_cons, List.map_cons, head.1, inductionHypothesis]
  refine ⟨outcome, trace, scene, bank.log, fun name => ?_, fun delegate => ?_⟩
  · have same := bank.channels name
    exact ⟨same.value, same.pending, tokens same.observers⟩
  · rw [CommonBank.valuesOf, CommonBank.valuesOf, scene]
    simp only [(bank.channels _).value]

/-- The channels of a session, where nobody observes anything, are as they are. -/
theorem inserts_withCommons (session : ContainerSession) :
    Bank.Inserts Commons.withoutStores session.withCommons session.withCommons :=
  ⟨fun _ => ⟨rfl, .nil, rfl, rfl, rfl⟩, rfl, rfl⟩

/-- Whatever looks and savings are inserted in a routine, observers receive the same in the run,
events hand out the same and delegates tell the same states; one run ends if the other one does.
Saving leaves the stores as they were if it fails, in the midst of a run as between operations. -/
theorem isSame_of_inserts {c : Container} {routine routine' : Routine}
    (inserts : routine.Inserts c routine') (session : ContainerSession) :
    (∀ {fuel}, (Bank.run fuel (routine.script c) session.withCommons).1.raised? ≠ none →
      ∃ least, ∀ steps, least ≤ steps →
        IsSame c (Bank.run fuel (routine.script c) session.withCommons)
          (Bank.run steps (routine'.script c) session.withCommons)) ∧
      (∀ {fuel}, (Bank.run fuel (routine'.script c) session.withCommons).1.raised? ≠ none →
        IsSame c (Bank.run fuel (routine.script c) session.withCommons)
          (Bank.run fuel (routine'.script c) session.withCommons)) ∧
      (∀ {target : Option Nat} {delegate : Nat} {bank : CommonBank} {failure : Failure},
        c.saving target (bank.valuesOf delegate c.artifacts.plan.restoredFields) = .error failure →
        ∃ extra, ∀ next fuel,
          Bank.run (fuel + extra) ((Routine.save delegate target next).script c) bank =
            Bank.run fuel ((next (.error failure)).script c) bank) ∧
      ∀ {name target failure after},
        session.run (ContainerSession.save name target) = (.error failure, after) →
        after = session := by
  refine ⟨fun ended => ?_, fun ended => ?_, fun fails => ?_, fun fails => ?_⟩
  · obtain ⟨result, ⟨least, comes⟩, same⟩ :=
      (allowsInsertion _).script inserts.script (inserts_withCommons session) ended
    refine ⟨least, fun steps enough => ?_⟩
    have same' := IsSame.of_inserts c same
    rw [← comes steps enough] at same'
    exact same'
  · exact .of_inserts c ((omits _).script inserts.script (inserts_withCommons session) ended)
  · refine ⟨1 + c.artifacts.plan.restoredFields.length, fun next fuel => ?_⟩
    rw [← Nat.add_assoc]
    exact run_save_of_error fails next fuel
  · have undone := isUndoneByFailing_save _ _ session (by rw [fails]; rfl)
    rw [fails] at undone
    exact undone

end Routine

/-! ### A number that is watched -/

namespace Keeper

open Routine

/-- An observer gets whatever it receives, a number is pushed, and the state is asked for. -/
def watching : Routine :=
  .subscribe ⟨0, "x"⟩ (some 1) (fun event => .get event fun _ => .finish) fun _ =>
    .push ⟨0, "x"⟩ (.int 5) fun _ => .state true 0 fun _ => .finish

/-- The same with more looks at the delegate and savings, in the observer and outside. -/
def watchingAndSaving : Routine :=
  .subscribe ⟨0, "x"⟩ (some 1)
    (fun event => .peek event fun _ => .save 0 none fun _ => .get event fun _ =>
      .save 0 (some 0) fun _ => .finish)
    fun _ => .state false 0 fun _ => .push ⟨0, "x"⟩ (.int 5) fun _ => .state true 0 fun _ => .finish

theorem inserts_watchingAndSaving (c : Container) : watching.Inserts c watchingAndSaving :=
  .subscribe _ _
    (fun event => .morePeek event fun _ => .moreSave 0 none fun _ => .get event fun _ =>
      .moreSave 0 (some 0) fun _ => .finish)
    fun _ => .moreState 0 fun _ => .push _ _ fun _ => .state true 0 fun _ => .finish

/-- Whether a run has ended, and the first store is empty or not. -/
def endsStoring (stored : Bool) (result : Outcome Failure × CommonBank) : Bool :=
  result.1.raised?.isSome && result.2.kept.stores.map (·.blobs.keys.isEmpty) = [!stored]

/-- The number is saved meanwhile, and nobody notices. -/
theorem isSame_watchingAndSaving : ∃ c, tally.load = .ok c ∧
    watching.Inserts c watchingAndSaving ∧
    IsSame c (Bank.run 60 (watching.script c) (tallying c).withCommons)
      (Bank.run 60 (watchingAndSaving.script c) (tallying c).withCommons) ∧
    (Bank.run 60 (watching.script c) (tallying c).withCommons).2.kept.stores.map
        (·.blobs.keys.isEmpty) = [true] ∧
    (Bank.run 60 (watchingAndSaving.script c) (tallying c).withCommons).2.kept.stores.map
        (·.blobs.keys.isEmpty) = [false] := by
  have runs : (tally.load.toOption.map fun c =>
      endsStoring false (Bank.run 60 (watching.script c) (tallying c).withCommons) &&
        endsStoring true (Bank.run 60 (watchingAndSaving.script c) (tallying c).withCommons)) =
      some true := by
    decide +kernel
  obtain ⟨c, loaded, runs⟩ := Option.map_eq_some_iff.mp runs
  simp only [endsStoring, Bool.and_eq_true, decide_eq_true_eq] at runs
  obtain ⟨⟨-, empty⟩, ends, stored⟩ := runs
  have inserts := inserts_watchingAndSaving c
  obtain ⟨-, same, -⟩ := isSame_of_inserts inserts (tallying c)
  exact ⟨c, toOption_eq_some_iff.mp loaded, inserts, same (Option.isSome_iff_ne_none.mp ends),
    empty, stored⟩

end Keeper

end StateContainer
