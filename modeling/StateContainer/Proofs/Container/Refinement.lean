/-
This file says what the users of a delegate read from the events of its fields.

A delegate is built, and programs are run on it one after the other. A diary is kept of the
run, which changes nothing. Read from the diary, the event of each push and the initial event
of each field handed out what they should: for a field that is read once, the item to the
first reader and null to all later ones; for any other field, the item to all readers. Whoever
peeked saw the item. Since each push has an event of its own, nobody takes anything away from
the readers of another one.

A delegate is then compared with a plain record that is written to. A channel stores a value later
than it is pushed: a push that is made while a delivery is going on waits for its turn. The
record, in contrast, holds what was pushed last at every moment. Between operations there is no
difference. Each field then holds the argument of its last push, whoever made it and whatever was
raised, because a delivery goes on until nothing waits.

There is one exception. An interruption that an observer raises in the last delivery of a
field cuts it short; what waits then is taken by the next push, and the field holds what was
taken last. Pushing to a field calls nobody but those who were subscribed to this field.
-/

import StateContainer.Proofs.Channel.Holding
import StateContainer.Proofs.Channel.Nesting
import StateContainer.Proofs.Class.Making
import StateContainer.Proofs.Container.Build
import StateContainer.Proofs.Container.Conduct

namespace StateContainer

open ContainerSession

/-! ### Delegates with a diary -/

/-- The channels of a session with an empty diary, where nobody observes anything. -/
def ContainerSession.withDiary (session : ContainerSession) :
    Bank ChannelName (Item Nat) Failure Diary where
  channels name := { value := (session.channels.channels name).value }
  kept := { scene := session.channels.kept }
  log := session.channels.log

/-- What programs do with a delegate, as it is run. -/
def runPrograms (fuel : Nat) (c : Container) (delegate : Nat) (programs : List Program)
    (session : ContainerSession) : Outcome Failure × Session ChannelName :=
  Bank.runAll fuel (programs.map (·.call c delegate)) session.channels

/-- What programs do with a delegate, with all that happens and a diary. -/
def recordPrograms (fuel : Nat) (c : Container) (delegate : Nat) (programs : List Program)
    (session : ContainerSession) : Outcome Failure × DelegateChronicle :=
  Chronicle.recordAll fuel (programs.map (·.recorded c delegate)) { bank := session.withDiary }

section
variable {c : Container} {delegate first : Nat} {state : Instance} {session : ContainerSession}

theorem mem_names_of_property? {name : String} (known : c.property? name ≠ none) :
    name ∈ c.properties.map (·.name) := by
  obtain ⟨property, found⟩ := Option.ne_none_iff_exists'.mp known
  rw [Container.property?] at found
  have same : property.name = name := by simpa using List.find?_some found
  exact List.mem_map.mpr ⟨property, List.mem_of_find?_eq_some found, same⟩

/-- The diary changes nothing in what is run. -/
theorem recordPrograms_mirrors (fuel : Nat) (programs : List Program)
    (started : Started c delegate state first (c.properties.map (·.name)) session) :
    Outcome.Mirrors Diary.scene (Program.area c delegate)
      (Chronicle.erased (recordPrograms fuel c delegate programs session))
      (runPrograms fuel c delegate programs session) := by
  rw [recordPrograms, Chronicle.erased_recordAll]
  refine mirrors_runAll fuel ?_ ⟨?_, rfl, rfl⟩
  · rw [List.forall₂_map_left_iff, List.forall₂_map_right_iff, List.forall₂_same]
    exact fun program _ => program.mirrors c delegate
  · rintro ⟨_, name⟩ ⟨rfl, known⟩
    obtain ⟨event, -, fresh, -⟩ := started.channels name (mem_names_of_property? known)
    show Channel.Mirrors _ _ { value := (session.channels.channels _).value } _
    rw [fresh]
    exact ⟨rfl, .nil, rfl, rfl, rfl⟩

/-- Whatever the programs are, the ledger of the diary is right in the end, and each field was pushed
what was wrapped for it. -/
theorem tended_recordPrograms (fuel : Nat) (programs : List Program)
    (started : Started c delegate state first (c.properties.map (·.name)) session) :
    Tended c delegate first session.channels.kept.events
      (recordPrograms fuel c delegate programs session) :=
  tended_recordAll fuel programs ⟨.begin started.unread, fun _ _ _ => nofun⟩ fun _ _ => rfl

end

/-! ### Reading events -/

/-- Whether readings handed out what an event of a kind should. -/
def HandedOut (kind : EventKind) (item : Value) (readings : List Value) : Prop :=
  match kind with
  | .single => readings = [] ∨ ∃ later, readings = item :: List.replicate later .null
  | .multi => ∀ result ∈ readings, result = item

/-- Whether everybody who read the event of a value of a field, or peeked at it, was given what they
should be. -/
def ReadsRight (c : Container) (deeds : List Deed) (field : String) (event : Nat) (value : Value) :
    Prop :=
  ∃ property, c.property? field = some property ∧
    HandedOut property.eventKind value (readingsOf event deeds) ∧
    ∀ result ∈ peeksAt event deeds, result = value

theorem HandsOut.handedOut {e : Event} {readings : List Value} (handsOut : HandsOut e readings) :
    HandedOut e.kind e.item readings := by
  cases handsOut with
  | multi item same => exact same
  | fresh item => exact Or.inl rfl
  | consumed item later => exact Or.inr ⟨later, rfl⟩

/-- The event of a value is read right if the ledger is. -/
theorem Ledger.readsRight {c : Container} {first event : Nat} {base events : List Event}
    {deeds : List Deed} (ledger : Ledger c first base events deeds) {field : String}
    {property : Property} {value : Value} (known : c.property? field = some property)
    (later : first ≤ event)
    (there : events[event]?.map Event.unread = some (.wrap property.eventKind value)) :
    ReadsRight c deeds field event value := by
  obtain ⟨e, found, unread⟩ := Option.map_eq_some_iff.mp there
  have kind : e.kind = property.eventKind := congrArg Event.kind unread
  have item : e.item = value := congrArg Event.item unread
  refine ⟨property, known, ?_, ?_⟩
  · rw [← kind, ← item]
    exact (ledger.handsOut later found).handedOut
  · rw [← item]
    exact ledger.peeked found

/-- Whether all events of a delegate are read right, the initial ones and those that are pushed, and
no two of them are the same. -/
structure AllReadRight (c : Container) (delegate : Nat) (state : Instance) (built : ContainerSession)
    (deeds : List Deed) : Prop where
  initial : ∀ field, c.property? field ≠ none → ∃ event value,
    (built.channels.channels ⟨delegate, field⟩).value = .event event ∧
      state.get (c.insideName field) = .ok value ∧ ReadsRight c deeds field event value
  pushed : ∀ {event field value}, (event, field, value) ∈ pushesIn deeds →
    ReadsRight c deeds field event value
  apart : ∀ field other, c.property? field ≠ none → c.property? other ≠ none →
    (built.channels.channels ⟨delegate, field⟩).value =
      (built.channels.channels ⟨delegate, other⟩).value → field = other
  fresh : ∀ field, c.property? field ≠ none → ∀ event ∈ (pushesIn deeds).map (·.1),
    (built.channels.channels ⟨delegate, field⟩).value ≠ .event event
  distinct : ((pushesIn deeds).map (·.1)).Nodup

/-- Whatever programs are run on a delegate that has just been built, all events are read right. The
diary that tells so changes nothing in what is run. -/
theorem readsRight_runPrograms {session built : ContainerSession} {name : String}
    {arguments : BuildArguments} (made : session.run (newDelegate name arguments) = (.ok (), built))
    (fuel : Nat) (programs : List Program) :
    Outcome.Mirrors Diary.scene (Program.area session.container session.built)
        (Chronicle.erased
          (recordPrograms fuel session.container session.built programs built))
        (runPrograms fuel session.container session.built programs built) ∧
      ∃ state, Built name arguments session built state ∧
        AllReadRight session.container session.built state built
          (recordPrograms fuel session.container session.built programs built).2.bank.kept.deeds := by
  obtain ⟨state, isBuilt⟩ := newDelegate_eq_ok made
  have started := isBuilt.started
  obtain ⟨⟨ledger, -⟩, -⟩ := tended_recordPrograms fuel programs started
  refine ⟨recordPrograms_mirrors fuel programs started, state, isBuilt, ?_⟩
  have initial {field : String} (known : session.container.property? field ≠ none) :
      ∃ event, StartsWith session.container session.built state
        session.channels.kept.events.length built field event ∧
        event < built.channels.kept.events.length := by
    obtain ⟨event, startsWith⟩ := started.channels field (mem_names_of_property? known)
    have ⟨_, _, _, _, _, _, there⟩ := startsWith
    exact ⟨event, startsWith, (List.getElem?_eq_some_iff.mp there).1⟩
  exact {
    initial := fun field known => by
      obtain ⟨event, ⟨later, fresh, property, value, found, read, there⟩, -⟩ := initial known
      exact ⟨event, value, by rw [fresh], read, ledger.readsRight found later (ledger.kept there)⟩
    pushed := fun member => by
      obtain ⟨property, found, there⟩ := ledger.pushed member
      obtain ⟨event, ⟨later, -⟩, old⟩ := initial (by rw [found]; exact Option.some_ne_none property)
      have new := ledger.base_le (List.mem_map_of_mem member)
      exact ledger.readsRight found (Nat.le_trans later (Nat.le_trans (Nat.le_of_lt old) new)) there
    apart := fun field other known known' =>
      started.apart field (mem_names_of_property? known) other (mem_names_of_property? known')
    fresh := fun field known event member same => by
      obtain ⟨event', ⟨-, fresh, -⟩, old⟩ := initial known
      rw [fresh] at same
      obtain rfl : event' = event := Item.event.inj same
      exact absurd old (Nat.not_lt.mpr (ledger.base_le member))
    distinct := by
      rw [ledger.numbered]
      exact List.nodup_range' }

/-! ### A counter -/

/-- A record class with a number as its only field, which is `0` by default. -/
def counterClass : ClassInfo where
  id := { moduleName := "game", path := "Counter" }
  ownConstructor := some { owner := "Counter", formals := [{ name := "hits", hasDefault := true }] }
  ownRecord := some
    { allFields := .ofList [("hits",
        { name := "hits", type := .classRef { moduleName := "builtins", path := "int" }
          default := some (.int 0) })]
      frozen := true }

/-- A session with the types that are generated for the counter, whose number is read once, before
anything is made. -/
def counterSession : ContainerSession where
  container :=
    { artifacts := Schema.synthesize
        { definition := { name := "Counter", moduleName := "game" }
          properties := [{ name := "hits", type := { name := "int" }, single := true }] }
      surroundings := { name := "game" }
      record := counterClass
      snapshotClass := none
      inputClass := none
      viewModel := none }
  channels := { channels := fun _ => { value := .plain .null }, kept := {} }

/-- The session when a delegate has been built. -/
def countingSession : ContainerSession :=
  (counterSession.run (newDelegate "delegate" {})).2

/-- An observer that reads each event twice. -/
def readsTwice (event : Nat) : Program :=
  .get event fun _ => .get event fun _ => .finish

/-- An observer that reads twice is subscribed, and the same number is pushed twice. -/
def countingTwice : List Program :=
  [.subscribe "hits" readsTwice fun _ => .finish,
    .push "hits" (.int 5) fun _ => .finish,
    .push "hits" (.int 5) fun _ => .finish]

/-- The counter is read right, and both of its equal numbers are handed out. -/
theorem readsRight_countingTwice :
    counterSession.run (newDelegate "delegate" {}) = (.ok (), countingSession) ∧
      (∃ state, Built "delegate" {} counterSession countingSession state ∧
        AllReadRight counterSession.container 0 state countingSession
          (recordPrograms 20 counterSession.container 0 countingTwice
            countingSession).2.bank.kept.deeds) ∧
      (recordPrograms 20 counterSession.container 0 countingTwice
          countingSession).2.bank.kept.deeds =
        [.got 0 (.int 0), .got 0 .null, .pushed 1 "hits" (.int 5), .got 1 (.int 5), .got 1 .null,
          .pushed 2 "hits" (.int 5), .got 2 (.int 5), .got 2 .null] := by
  have made : counterSession.run (newDelegate "delegate" {}) = (.ok (), countingSession) :=
    Prod.ext rfl rfl
  exact ⟨made, (readsRight_runPrograms made 20 countingTwice).2, rfl⟩

/-! ### What a delegate holds -/

/-- What a delegate holds for a field. -/
def ContainerSession.held (session : ContainerSession) (delegate : Nat) (field : String) : Value :=
  match session.channels.sight { delegate, property := field } with
  | .event seen => seen.peek
  | .plain value => value

theorem ContainerSession.valuesOf_eq (session : ContainerSession) (delegate : Nat)
    (fields : List String) :
    session.valuesOf delegate fields = fields.map fun field => (field, session.held delegate field) := by
  refine List.map_congr_left fun field _ => ?_
  rw [held]
  cases session.channels.sight { delegate, property := field } <;> rfl

/-- A delegate holds the item of the current event of a field. -/
theorem ContainerSession.held_eq {session : ContainerSession} {delegate event : Nat} {field : String}
    {kind : EventKind} {value : Value}
    (current : (session.channels.channels ⟨delegate, field⟩).value = .event event)
    (there : session.channels.kept.events[event]?.map Event.unread = some (.wrap kind value)) :
    session.held delegate field = value := by
  obtain ⟨e, found, unread⟩ := Option.map_eq_some_iff.mp there
  rw [held, Session.sight, current, Scene.sight, eventAt_of_getElem? found]
  have same : e.unread = (Event.wrap kind value).unread := unread
  exact Event.item_eq_of_unread_eq same

/-- Reading the items of some fields one after the other gives what the delegate holds, and changes
nothing. -/
theorem run_valuesThen {c : Container} {delegate : Nat} {session : ContainerSession}
    {fields : List String} (next : List (String × Value) → Program) (fuel : Nat)
    (known : ∀ field ∈ fields, c.property? field ≠ none)
    (current : ∀ field ∈ fields, ∃ event,
      (session.channels.channels ⟨delegate, field⟩).value = .event event) :
    Bank.run (fuel + 3 * fields.length) ((Program.valuesThen fields next).call c delegate)
        session.channels =
      Bank.run fuel ((next (session.valuesOf delegate fields)).call c delegate) session.channels := by
  induction fields generalizing next with
  | nil => rfl
  | cons field others inductionHypothesis =>
    obtain ⟨here, known⟩ := List.forall_mem_cons.mp known
    obtain ⟨⟨event, own⟩, current⟩ := List.forall_mem_cons.mp current
    obtain ⟨property, found⟩ := Option.ne_none_iff_exists'.mp here
    have held : session.held delegate field = (session.channels.kept.eventAt event).peek := by
      rw [ContainerSession.held, Session.sight, own, Scene.sight]
    rw [valuesOf_eq, List.map_cons, ← valuesOf_eq, held,
      ← inductionHypothesis (fun values => next ((field, _) :: values)) known current]
    rw [Program.valuesThen, Program.call, Program.script, found]
    show Bank.run (fuel + 3 * others.length + 1 + 1 + 1) _ _ = _
    rw [Bank.run, own]
    rfl

/-! ### What was taken -/

section
variable {c : Container} {delegate first fuel : Nat} {state : Instance} {session : ContainerSession}
  {programs : List Program}

/-- A session with a diary is one in which the channel of a field has just been started. -/
theorem withDiary_start {field : String} {item : Item Nat}
    (current : (session.channels.channels ⟨delegate, field⟩).value = item) :
    session.withDiary.start ⟨delegate, field⟩ item = session.withDiary := by
  have channels : (session.withDiary.start ⟨delegate, field⟩ item).channels =
      session.withDiary.channels := by
    funext name
    show (if name = ⟨delegate, field⟩ then { value := item } else session.withDiary.channels name) = _
    split
    next same =>
      rw [same, ← current]
      rfl
    next => rfl
  exact congrArg (fun channels => { session.withDiary with channels }) channels

/-- When programs have ended, a field holds the argument of the last push that was taken, and the
others wait. -/
theorem exists_taken_recordPrograms
    (started : Started c delegate state first (c.properties.map (·.name)) session)
    {result : Outcome Failure × DelegateChronicle}
    (recorded : recordPrograms fuel c delegate programs session = result)
    (ended : result.1.raised? ≠ none) {field : String} (known : c.property? field ≠ none) :
    ∃ initial taken waiting event kind, state.get (c.insideName field) = .ok initial ∧
      argumentsOf field result.2.bank.kept.deeds = taken ++ waiting ∧
      (waiting = [] ∨ IsCutShort ⟨delegate, field⟩ result.2.history) ∧
      (result.2.channel ⟨delegate, field⟩).value = .event event ∧
      result.2.bank.kept.scene.events[event]?.map Event.unread =
        some (.wrap kind (taken.getLastD initial)) := by
  obtain ⟨event, -, fresh, property, initial, -, read, there⟩ :=
    started.channels field (mem_names_of_property? known)
  have tended := tended_recordPrograms fuel programs started
  rw [recorded] at tended
  obtain ⟨⟨ledger, -⟩, linked⟩ := tended
  have opened := recorded
  rw [recordPrograms, ← withDiary_start (congrArg Channel.value fresh)] at opened
  obtain ⟨last, way, -, closing⟩ := way_recordAll fuel _ _ _ _ opened
  obtain rfl := closing ended
  -- The pushes of the field are those that were taken and those that wait.
  have queue := way.waiting_append
  rw [List.nil_append, linked ended field known, eventsOf, List.map_map,
    List.map_eq_append_iff] at queue
  obtain ⟨taken, waiting, split, isTaken, isWaiting⟩ := queue
  have value := way.value_eq
  rw [← isTaken] at value
  have nothingWaits : waiting.map (·.2.2) = [] ∨ IsCutShort ⟨delegate, field⟩ result.2.history := by
    refine (isCutShort_or_pending_eq_nil fuel _ _ _ _ opened ended).symm.imp_left fun empty => ?_
    have none : waiting.map (Item.event ∘ (·.1)) = [] := isWaiting.trans empty
    rw [List.map_eq_nil_iff.mp none, List.map_nil]
  have arguments : argumentsOf field result.2.bank.kept.deeds =
      taken.map (·.2.2) ++ waiting.map (·.2.2) := by
    rw [argumentsOf, split, List.map_append]
  rcases List.eq_nil_or_concat taken with rfl | ⟨before, ⟨event', field', argument⟩, rfl⟩
  · exact ⟨initial, _, _, event, property.eventKind, read, arguments, nothingWaits, value,
      ledger.kept there⟩
  · have made : (event', field', argument) ∈ pushesIn result.2.bank.kept.deeds := by
      refine List.mem_of_mem_filter (p := (·.2.1 = field)) ?_
      show _ ∈ pushesOf field _
      rw [split]
      simp
    obtain ⟨property', -, there'⟩ := ledger.pushed made
    refine ⟨initial, _, _, event', property'.eventKind, read, arguments, nothingWaits, ?_, ?_⟩
    · rw [List.concat_eq_append, List.map_append] at value
      exact value.trans List.getLastD_concat
    · rw [List.concat_eq_append, List.map_append, List.map_singleton, List.getLastD_concat]
      exact there'

/-- A push does nothing itself outside of the channel of its field. -/
theorem exists_encloses_of_pushing {field : String} {value : Value}
    {chronicle after : DelegateChronicle} {outcome : Outcome Failure} (known : c.property? field ≠ none)
    (recorded : Chronicle.record fuel
      ((Program.push field value fun _ => .finish).recorded c delegate) chronicle = (outcome, after))
    (ended : outcome.raised? ≠ none) :
    ∃ event made, after.history = chronicle.history ++ .pushed ⟨delegate, field⟩ (.event event) :: made ∧
      Encloses (·.place = ⟨delegate, field⟩) made := by
  obtain ⟨property, found⟩ := Option.ne_none_iff_exists'.mp known
  rw [Program.recorded, Program.script, found] at recorded
  -- The value is wrapped before the event is pushed, which takes two steps.
  cases fuel with
  | zero =>
    cases recorded
    exact absurd rfl ended
  | succ fuel =>
  cases fuel with
  | zero =>
    cases recorded
    exact absurd rfl ended
  | succ fuel =>
    obtain ⟨made, grown, encloses⟩ := Chronicle.exists_encloses_of_push recorded ended
    exact ⟨_, made, grown, encloses⟩

end

/-! ### The plain record -/

/-- The session after programs were run on a delegate. -/
def ContainerSession.afterPrograms (fuel : Nat) (c : Container) (delegate : Nat)
    (programs : List Program) (session : ContainerSession) : ContainerSession :=
  { session with channels := (runPrograms fuel c delegate programs session).2 }

/-- How a delegate that was built with an initial state is like a plain record between operations, as
what happened tells. -/
structure Refined (c : Container) (delegate : Nat) (name : String) (state : Instance)
    (session : ContainerSession) (chronicle : DelegateChronicle) : Prop where
  /-- Each field holds the last argument that was taken, or its initial value. All arguments were
  taken, in the order of the calls, unless an interruption cut the last delivery short. -/
  held : ∀ field, c.property? field ≠ none → ∃ initial taken waiting,
    state.get (c.insideName field) = .ok initial ∧
      argumentsOf field chronicle.bank.kept.deeds = taken ++ waiting ∧
      (waiting = [] ∨ IsCutShort ⟨delegate, field⟩ chronicle.history) ∧
      session.held delegate field = taken.getLastD initial
  /-- The state of the delegate is made of what the fields hold. -/
  current : (session.run (currentState name)).1 =
    c.makeRecord (c.properties.map fun property => (property.name, session.held delegate property.name))
  /-- So it has what they hold, if records are made from their fields. -/
  fields : ∀ {record now}, c.record.MadeFromFields record →
    (session.run (currentState name)).1 = .ok now →
    ∀ property ∈ c.properties, now.get property.name = .ok (session.held delegate property.name)
  /-- Whoever is called for a field was subscribed to this field. -/
  called : ∀ {field}, c.property? field ≠ none → ∀ {earlier token observer value current later},
    chronicle.history = earlier ++ .called ⟨delegate, field⟩ (some token) observer value current :: later →
    ∃ replayed current', .registered ⟨delegate, field⟩ token observer replayed current' ∈ earlier

/-- The state of a delegate is read from what it holds. -/
theorem run_currentState {session : ContainerSession} {name : String} {delegate : Nat}
    (named : session.holdings.get? name = some (.delegate delegate)) :
    (session.run (currentState name)).1 = session.container.makeRecord
      (session.container.properties.map fun property =>
        (property.name, session.held delegate property.name)) := by
  have number : delegateNamed name "current_state" session = .ok (delegate, session) := by
    show (ContainerSession.named name session).bind _ = _
    rw [named_eq named]
    rfl
  have whole : currentState name session =
      lift (session.container.makeRecord
        (session.valuesOf delegate (session.container.properties.map (·.name)))) session := by
    show (delegateNamed name "current_state" session).bind _ = _
    rw [number]
    rfl
  have values : session.valuesOf delegate (session.container.properties.map (·.name)) =
      session.container.properties.map fun property =>
        (property.name, session.held delegate property.name) := by
    rw [valuesOf_eq, List.map_map]
    rfl
  rw [ContainerSession.run, whole, values]
  cases session.container.makeRecord _ <;> rfl

/-- Whatever programs are run on a delegate that has just been built, when they have ended it is like
a plain record, and a push does nothing itself outside of its field. The diary that tells so changes
nothing in what is run. -/
theorem refined_runPrograms {session built : ContainerSession} {name : String}
    {arguments : BuildArguments} (made : session.run (newDelegate name arguments) = (.ok (), built))
    (fuel : Nat) (programs : List Program)
    (ended : (runPrograms fuel session.container session.built programs built).1.raised? ≠ none) :
    Outcome.Mirrors Diary.scene (Program.area session.container session.built)
        (Chronicle.erased
          (recordPrograms fuel session.container session.built programs built))
        (runPrograms fuel session.container session.built programs built) ∧
      (∃ state, Built name arguments session built state ∧
        Refined session.container session.built name state
          (built.afterPrograms fuel session.container session.built programs)
          (recordPrograms fuel session.container session.built programs built).2) ∧
      ∀ {field}, session.container.property? field ≠ none →
        ∀ {fuel value chronicle outcome after},
        Chronicle.record fuel ((Program.push field value fun _ => .finish).recorded session.container
          session.built) chronicle = (outcome, after) → outcome.raised? ≠ none →
        ∃ event pushed, after.history =
            chronicle.history ++ .pushed ⟨session.built, field⟩ (.event event) :: pushed ∧
          Encloses (·.place = ⟨session.built, field⟩) pushed := by
  obtain ⟨state, isBuilt⟩ := newDelegate_eq_ok made
  have started := isBuilt.started
  have mirrors := recordPrograms_mirrors fuel programs started
  refine ⟨mirrors, ⟨state, isBuilt, ?_⟩, fun known => exists_encloses_of_pushing known⟩
  generalize recorded : recordPrograms fuel session.container session.built programs built = result
    at mirrors ⊢
  have finished : result.1.raised? ≠ none := by
    have same : result.1 = _ := mirrors.outcome
    rw [same]
    exact ended
  have current := @run_currentState (built.afterPrograms fuel session.container session.built programs)
    name session.built isBuilt.named
  have own : (built.afterPrograms fuel session.container session.built programs).container =
      session.container := started.container
  rw [own] at current
  exact {
    held := fun field known => by
      obtain ⟨initial, taken, waiting, event, kind, read, arguments, rest, value, there⟩ :=
        exists_taken_recordPrograms started recorded finished known
      have current : ((runPrograms fuel session.container session.built programs built).2.channels
          ⟨session.built, field⟩).value = .event event :=
        (mirrors.bank.channels ⟨session.built, field⟩ ⟨rfl, known⟩).value.symm.trans value
      have scene : result.2.bank.kept.scene = _ := mirrors.bank.kept
      rw [scene] at there
      exact ⟨initial, taken, waiting, read, arguments, rest, held_eq current there⟩
    current
    fields := fun fromFields made property member => by
      rw [current] at made
      exact fromFields.get_of_make (mapError_eq_ok_iff.mp made)
        (List.mem_map.mpr ⟨property, member, rfl⟩)
    called := fun {field} known _ _ _ _ _ _ split => by
      obtain ⟨event, -, fresh, -⟩ := started.channels field (mem_names_of_property? known)
      rw [recordPrograms, ← withDiary_start (congrArg Channel.value fresh)] at recorded
      obtain ⟨last, way, -⟩ := way_recordAll fuel _ _ _ _ recorded
      exact way.registered_of_called split }

/-! ### A counter that is interrupted -/

/-- An observer that pushes another number when it is called with the number `1`, and goes on as it
is said. -/
def pushesOn (next : Program) (event : Nat) : Program :=
  .peek event fun
    | .int 1 => .push "hits" (.int 2) fun _ => next
    | _ => .finish

/-- The observer is subscribed, and the number `1` is pushed. -/
def pushingOne (next : Program) : List Program :=
  [.subscribe "hits" (pushesOn next) fun _ => .finish, .push "hits" (.int 1) .orFail]

/-- If the observer finishes, the counter holds the number that it pushes. -/
theorem refined_pushingOne :
    counterSession.run (newDelegate "delegate" {}) = (.ok (), countingSession) ∧
      (runPrograms 20 counterSession.container 0 (pushingOne .finish) countingSession).1.raised? ≠ none ∧
      (∃ state, Built "delegate" {} counterSession countingSession state ∧
        Refined counterSession.container 0 "delegate" state
          (countingSession.afterPrograms 20 counterSession.container 0 (pushingOne .finish))
          (recordPrograms 20 counterSession.container 0 (pushingOne .finish) countingSession).2) ∧
      (countingSession.afterPrograms 20 counterSession.container 0 (pushingOne .finish)).held 0 "hits" =
        .int 2 := by
  have made : counterSession.run (newDelegate "delegate" {}) = (.ok (), countingSession) :=
    Prod.ext rfl rfl
  have ended : (runPrograms 20 counterSession.container 0 (pushingOne .finish)
      countingSession).1.raised? ≠ none := nofun
  exact ⟨made, ended, (refined_runPrograms made 20 (pushingOne .finish) ended).2.1, rfl⟩

/-- A field need not hold the argument of its last push when the programs have ended: if the observer
quits, what it has pushed before waits. -/
theorem exists_held_ne_last : ¬ ∀ (session built : ContainerSession) (name : String)
    (arguments : BuildArguments), session.run (newDelegate name arguments) = (.ok (), built) →
    ∀ (fuel : Nat) (programs : List Program),
    (runPrograms fuel session.container session.built programs built).1.raised? ≠ none →
    ∀ (state : Instance), Built name arguments session built state →
    ∀ (field : String) (initial : Value), session.container.property? field ≠ none →
    state.get (session.container.insideName field) = .ok initial →
    (built.afterPrograms fuel session.container session.built programs).held session.built field =
      (argumentsOf field (recordPrograms fuel session.container session.built programs
        built).2.bank.kept.deeds).getLastD initial := by
  intro always
  have made : counterSession.run (newDelegate "delegate" {}) = (.ok (), countingSession) :=
    Prod.ext rfl rfl
  obtain ⟨state, isBuilt⟩ := newDelegate_eq_ok made
  obtain ⟨event, -, -, property, initial, found, read, -⟩ :=
    isBuilt.started.channels "hits" List.mem_cons_self
  have same := always counterSession countingSession "delegate" {} made 20
    (pushingOne (.interrupt (.broken "quit"))) nofun state isBuilt "hits" initial nofun read
  have held : Value.int 1 = Value.int 2 := same
  cases held

end StateContainer
