/-
This file says what the users of a delegate can do with it.

A program is everything that one of them does, written as a tree: an observer in one of its
calls, or whoever works with the delegate from the outside. It pushes values of fields,
subscribes observers, which are functions from events to programs, disposes subscriptions,
reads the current event of a field, gets or peeks at the item of any event, looks at what is
kept in the scene and changes it, the events apart, and raises what it likes. What is raised
by a push or by a subscription is handed to the program.

A program is a script of the channels of the delegate. Beside the scene, a diary may be kept of
the deeds that concern events: which were pushed with which value, and what came out of them when
they were read. A program does the same whether the diary is kept or not.

The ledger of a diary compares what was done to each event with the event as it stands in the
scene. Every push has an event of its own, later than all that were there before; kinds and
items stay as they are; an event for a single reader has handed out its item at the first
reading and null at every later one, and is consumed exactly if there was a reading; an event
for many readers has handed out its item at every reading; and whoever peeked at an event saw
its item.

Programs keep the ledger, whatever the channels do in between, since the scene is changed by
their own steps only. The main statement follows by induction on the number of steps.
-/

import StateContainer.Container.Session
import StateContainer.Proofs.Channel.Mirror

namespace StateContainer

/-! ### Programs -/

/-- What a user of a delegate does. Events are referred to as in the scene. -/
inductive Program where
  | finish
  | fail (failure : Failure)
  | interrupt (failure : Failure)
  /-- Pushes a value of a field. -/
  | push (field : String) (value : Value) (next : Option (Raised Failure) → Program)
  /-- Subscribes an observer to a field. -/
  | subscribe (field : String) (observer : Nat → Program)
      (next : Except (Raised Failure) Nat → Program)
  /-- Disposes the subscription of a token. -/
  | dispose (field : String) (token : Nat) (next : Program)
  /-- Reads the value of the observable of a field, which is an event. -/
  | current (field : String) (next : Nat → Program)
  /-- Gets what an event hands out. -/
  | get (event : Nat) (next : Value → Program)
  /-- Peeks at the item of an event. -/
  | peek (event : Nat) (next : Value → Program)
  /-- Looks at the scene. -/
  | consult (next : Scene ChannelName → Program)
  /-- Changes the scene and leaves the events. -/
  | update (change : Scene ChannelName → Scene ChannelName)
      (unread : ∀ scene, (change scene).events = scene.events) (next : Program)

/-- Something that is done to an event. -/
inductive Deed where
  /-- A value of a field is wrapped in the event, which is pushed. -/
  | pushed (event : Nat) (field : String) (value : Value)
  /-- The event is read and hands something out. -/
  | got (event : Nat) (result : Value)
  /-- Somebody peeks at the event and sees something. -/
  | peeked (event : Nat) (result : Value)

/-- The event that something is done to. -/
def Deed.event : Deed → Nat
  | pushed event _ _ => event
  | got event _ => event
  | peeked event _ => event

/-- The scene with what was done to its events, the earliest first. -/
structure Diary where
  scene : Scene ChannelName
  deeds : List Deed := []

/-- How the scene lies in what the calls keep, and how deeds are written down there. -/
structure Keeping (σ : Type) where
  scene : σ → Scene ChannelName
  change : (Scene ChannelName → Scene ChannelName) → σ → σ
  tell : Deed → σ → σ

namespace Keeping

/-- The scene alone is kept, and nothing is written down. -/
def plain : Keeping (Scene ChannelName) where
  scene := id
  change := id
  tell _ := id

/-- A diary is kept. What is done to something that is no event is not written down. -/
def diary : Keeping Diary where
  scene := Diary.scene
  change change diary := { diary with scene := change diary.scene }
  tell deed diary :=
    if deed.event < diary.scene.events.length then { diary with deeds := diary.deeds ++ [deed] }
    else diary

end Keeping

namespace Program

variable {σ : Type}

/-! ### Programs as scripts -/

/-- The failure of asking a delegate for a member that it does not have. -/
def lacks (c : Container) (member : String) : Failure :=
  .missing c.artifacts.delegate.name member

/-- The script of what is done with an event that a channel delivers. The channels of a delegate
deliver nothing but events. -/
def onEvent (calls : Nat → Script ChannelName (Item Nat) Failure σ) :
    Callback ChannelName (Item Nat) Failure σ
  | .event event => calls event
  | .plain _ => .finish

/-- Wraps a value in a new event and goes on with it. -/
def wrapScript (keeping : Keeping σ) (kind : EventKind) (field : String) (value : Value)
    (next : Nat → Script ChannelName (Item Nat) Failure σ) :
    Script ChannelName (Item Nat) Failure σ :=
  .consult fun kept =>
    .update (fun kept' => keeping.tell (.pushed (keeping.scene kept).events.length field value)
        (keeping.change (Scene.addEvent (.wrap kind value)) kept'))
      (next (keeping.scene kept).events.length)

/-- Gets what an event hands out and goes on with it. -/
def getScript (keeping : Keeping σ) (event : Nat)
    (next : Value → Script ChannelName (Item Nat) Failure σ) :
    Script ChannelName (Item Nat) Failure σ :=
  .consult fun kept =>
    .update (fun kept' => keeping.tell (.got event ((keeping.scene kept).eventAt event).handedOut)
        (keeping.change (Scene.readEvent event) kept'))
      (next ((keeping.scene kept).eventAt event).handedOut)

/-- Peeks at the item of an event and goes on with it. -/
def peekScript (keeping : Keeping σ) (event : Nat)
    (next : Value → Script ChannelName (Item Nat) Failure σ) :
    Script ChannelName (Item Nat) Failure σ :=
  .consult fun kept =>
    .update (keeping.tell (.peeked event ((keeping.scene kept).eventAt event).peek))
      (next ((keeping.scene kept).eventAt event).peek)

/-- A program as a script of the channels of a delegate. -/
def script (keeping : Keeping σ) (c : Container) (delegate : Nat) :
    Program → Script ChannelName (Item Nat) Failure σ
  | finish => .finish
  | fail failure => .fail failure
  | interrupt failure => .interrupt failure
  | push field value next =>
    match c.property? field with
    | none => .fail (lacks c ("push_" ++ field))
    | some property =>
      wrapScript keeping property.eventKind field value fun event =>
        .push ⟨delegate, field⟩ (.event event) fun raised =>
          (next raised).script keeping c delegate
  | subscribe field observer next =>
    match c.property? field with
    | none => .fail (lacks c ("observe_" ++ field))
    | some _ =>
      .subscribe ⟨delegate, field⟩ (onEvent fun event => (observer event).script keeping c delegate)
        fun token => (next token).script keeping c delegate
  | dispose field token next => .dispose ⟨delegate, field⟩ token (next.script keeping c delegate)
  | current field next =>
    match c.property? field with
    | none => .fail (lacks c ("observe_" ++ field))
    | some _ =>
      .read ⟨delegate, field⟩ (onEvent fun event => (next event).script keeping c delegate)
  | get event next => getScript keeping event fun result => (next result).script keeping c delegate
  | peek event next => peekScript keeping event fun item => (next item).script keeping c delegate
  | consult next =>
    .consult fun kept => (next (keeping.scene kept)).script keeping c delegate
  | update change _ next => .update (keeping.change change) (next.script keeping c delegate)

/-- What happens in an operation on a delegate or in a call of an observer. -/
abbrev call (c : Container) (delegate : Nat) (program : Program) : Observer.Call ChannelName :=
  program.script .plain c delegate

/-- The same with a diary. -/
abbrev recorded (c : Container) (delegate : Nat) (program : Program) :
    Script ChannelName (Item Nat) Failure Diary :=
  program.script .diary c delegate

/-- What an observer does when an event is delivered to it. -/
def observing (c : Container) (delegate : Nat) (observer : Nat → Program) :
    Callback ChannelName (Item Nat) Failure Diary :=
  onEvent fun event => (observer event).recorded c delegate

/-! ### Composite programs -/

/-- Raises what a push raised. -/
def orFail : Option (Raised Failure) → Program
  | none => finish
  | some (.error failure) => fail failure
  | some (.interruption failure) => interrupt failure

/-- Peeks at the current events of some fields, as the state of a delegate and its snapshots are
made, and goes on with the items. -/
def valuesThen : List String → (List (String × Value) → Program) → Program
  | [], next => next []
  | field :: others, next =>
    current field fun event => peek event fun item =>
      valuesThen others fun values => next ((field, item) :: values)

/-- Pushing a value from the outside is the operation of the delegate. -/
theorem call_push {c : Container} {field : String} {property : Property}
    (found : c.property? field = some property) (delegate : Nat) (value : Value) :
    (push field value orFail).call c delegate =
      Observer.pushThen (ContainerSession.surroundings c) ⟨delegate, field⟩ value .finish := by
  have wrapping : (ContainerSession.surroundings c).wrapping ⟨delegate, field⟩ =
      some property.eventKind := by
    dsimp only [ContainerSession.surroundings]
    rw [found]
    rfl
  have raises : ∀ raised,
      (orFail raised).call c delegate = Script.orFail .finish raised
    | none => rfl
    | some (.error _) => rfl
    | some (.interruption _) => rfl
  rw [call, script, found, Observer.pushThen, Observer.wrapThen, wrapping]
  dsimp only
  rw [wrapScript, funext raises]
  rfl

/-- Getting what an event hands out is reading it. -/
theorem call_get (c : Container) (delegate event : Nat) (next : Value → Program) :
    (get event next).call c delegate =
      Observer.readThen .get (.event event) fun item =>
        match item with
        | .plain result => (next result).call c delegate
        | .event _ => .finish := rfl

/-! ### The diary changes nothing -/

/-- The channels of a delegate. -/
def area (c : Container) (delegate : Nat) (name : ChannelName) : Prop :=
  name.delegate = delegate ∧ c.property? name.property ≠ none

/-- What is done to an event is written down. -/
theorem tell_of_there (deed : Deed) {kept : Diary}
    (there : deed.event < kept.scene.events.length) :
    Keeping.diary.tell deed kept = { kept with deeds := kept.deeds ++ [deed] } :=
  if_pos there

theorem tell_of_not_there (deed : Deed) {kept : Diary}
    (missing : ¬ deed.event < kept.scene.events.length) : Keeping.diary.tell deed kept = kept :=
  if_neg missing

theorem scene_tell (deed : Deed) (kept : Diary) :
    (Keeping.diary.tell deed kept).scene = kept.scene := by
  by_cases there : deed.event < kept.scene.events.length
  · rw [tell_of_there deed there]
  · rw [tell_of_not_there deed there]

/-- A program does the same whether a diary is kept or not. -/
theorem mirrors (c : Container) (delegate : Nat) (program : Program) :
    (program.recorded c delegate).Mirrors Diary.scene (area c delegate)
      (program.call c delegate) := by
  induction program with
  | finish => exact .finish
  | fail failure => exact .fail failure
  | interrupt failure => exact .interrupt failure
  | push field value next inductionHypothesis =>
    rw [recorded, call, script, script]
    cases found : c.property? field with
    | none => exact .fail _
    | some property =>
      have inside : area c delegate ⟨delegate, field⟩ := ⟨rfl, by rw [found]; exact nofun⟩
      refine .consult fun kept => .update (fun kept' => ?_) (.push inside _ inductionHypothesis)
      rw [scene_tell]
      rfl
  | subscribe field observer next observerHypothesis nextHypothesis =>
    rw [recorded, call, script, script]
    cases found : c.property? field with
    | none => exact .fail _
    | some property =>
      have inside : area c delegate ⟨delegate, field⟩ := ⟨rfl, by rw [found]; exact nofun⟩
      refine .subscribe inside ?_ nextHypothesis
      rintro (value | event)
      · exact .finish
      · exact observerHypothesis event
  | dispose field token next inductionHypothesis => exact .dispose _ token inductionHypothesis
  | current field next inductionHypothesis =>
    rw [recorded, call, script, script]
    cases found : c.property? field with
    | none => exact .fail _
    | some property =>
      have inside : area c delegate ⟨delegate, field⟩ := ⟨rfl, by rw [found]; exact nofun⟩
      refine .read inside ?_
      rintro (value | event)
      · exact .finish
      · exact inductionHypothesis event
  | get event next inductionHypothesis =>
    refine .consult fun kept => .update (fun kept' => ?_) (inductionHypothesis _)
    rw [scene_tell]
    rfl
  | peek event next inductionHypothesis =>
    refine .consult fun kept => .update (fun kept' => ?_) (inductionHypothesis _)
    rw [scene_tell]
    rfl
  | consult next inductionHypothesis => exact .consult fun kept => inductionHypothesis _
  | update change unread next inductionHypothesis =>
    rw [recorded, call, script, script]
    refine .update ?_ ?_
    · exact fun kept => rfl
    · exact inductionHypothesis

end Program

/-! ### Reading diaries -/

/-- The event, the field and the value of a push. -/
def Deed.pushed? : Deed → Option (Nat × String × Value)
  | pushed event field value => some (event, field, value)
  | _ => none

/-- What an event hands out. -/
def Deed.result? (event : Nat) : Deed → Option Value
  | got other result => if other = event then some result else none
  | _ => none

/-- What is seen of an event by peeking. -/
def Deed.seen? (event : Nat) : Deed → Option Value
  | peeked other result => if other = event then some result else none
  | _ => none

/-- The pushes, in the order in which they were made. -/
def pushesIn (deeds : List Deed) : List (Nat × String × Value) :=
  deeds.filterMap Deed.pushed?

/-- What the readings of an event handed out, in the order in which they were made. -/
def readingsOf (event : Nat) (deeds : List Deed) : List Value :=
  deeds.filterMap (Deed.result? event)

/-- What was seen of an event by peeking. -/
def peeksAt (event : Nat) (deeds : List Deed) : List Value :=
  deeds.filterMap (Deed.seen? event)

/-- An event before anybody read it. -/
def Event.unread (e : Event) : Event :=
  .wrap e.kind e.item

/-- Whether an event is as its readings leave it, and they handed out what they should. -/
inductive HandsOut : Event → List Value → Prop where
  | multi (item : Value) {readings : List Value} (same : ∀ result ∈ readings, result = item) :
      HandsOut { kind := .multi, item } readings
  | fresh (item : Value) : HandsOut { kind := .single, item } []
  | consumed (item : Value) (later : Nat) :
      HandsOut { kind := .single, item, consumed := true } (item :: List.replicate later .null)

/-- Whether events are as the deeds of a diary leave them. The base is what there was of events when
the diary was begun, and nobody had read them from the first one on. -/
structure Ledger (c : Container) (first : Nat) (base events : List Event) (deeds : List Deed) :
    Prop where
  /-- Each push has the next new event. -/
  numbered : (pushesIn deeds).map (·.1) = List.range' base.length (pushesIn deeds).length
  length : events.length = base.length + (pushesIn deeds).length
  /-- Earlier events keep their kinds and their items. -/
  kept : ∀ {event : Nat} {e : Event}, base[event]? = some e →
    events[event]?.map Event.unread = some e.unread
  /-- A pushed event has the kind of its field, and the value as its item. -/
  pushed : ∀ {event field value}, (event, field, value) ∈ pushesIn deeds →
    ∃ property, c.property? field = some property ∧
      events[event]?.map Event.unread = some (.wrap property.eventKind value)
  handsOut : ∀ {event : Nat} {e : Event}, first ≤ event → events[event]? = some e →
    HandsOut e (readingsOf event deeds)
  peeked : ∀ {event : Nat} {e : Event}, events[event]? = some e →
    ∀ result ∈ peeksAt event deeds, result = e.item
  /-- Nothing is written down about an event that is not there. -/
  there : ∀ deed ∈ deeds, deed.event < events.length

/-! ### Reading events -/

theorem Event.unread_afterReading (e : Event) : e.afterReading.unread = e.unread := by
  rw [unread, unread, afterReading_kind, afterReading_item]

theorem Event.item_eq_of_unread_eq {e other : Event} (same : e.unread = other.unread) :
    e.item = other.item := by
  have item : e.unread.item = other.unread.item := congrArg Event.item same
  exact item

/-- The event that a reference stands for, if there is one. -/
theorem eventAt_of_getElem? {scene : Scene ChannelName} {event : Nat} {e : Event}
    (found : scene.events[event]? = some e) : scene.eventAt event = e := by
  rw [Scene.eventAt, List.getD_eq_getElem?_getD, found]
  rfl

/-- An event that nobody has read has handed out nothing. -/
theorem handsOut_unread (e : Event) : HandsOut e.unread [] := by
  obtain ⟨kind, item, consumed⟩ := e
  cases kind with
  | single => exact .fresh item
  | multi => exact .multi item fun _ => nofun

/-- One more reading of an event. -/
theorem HandsOut.afterReading {e : Event} {readings : List Value} (handsOut : HandsOut e readings) :
    HandsOut e.afterReading (readings ++ [e.handedOut]) := by
  cases handsOut with
  | multi item same =>
    refine .multi item fun result member => ?_
    rcases List.mem_append.mp member with member | member
    · exact same result member
    · exact List.mem_singleton.mp member
  | fresh item => exact .consumed item 0
  | consumed item later =>
    have more : item :: List.replicate later Value.null ++ [.null] =
        item :: List.replicate (later + 1) .null := by
      rw [List.replicate_succ', List.cons_append]
    exact more ▸ .consumed item (later + 1)

/-- Reading an event leaves all events what they are. -/
theorem map_unread_getElem?_modify (events : List Event) (event other : Nat) :
    (events.modify event Event.afterReading)[other]?.map Event.unread =
      events[other]?.map Event.unread := by
  by_cases same : event = other
  · subst same
    rw [List.getElem?_modify_eq, Option.map_eq_map, Option.map_map]
    exact congrFun (congrArg Option.map (funext Event.unread_afterReading)) _
  · rw [List.getElem?_modify_ne _ _ same]

/-- What is there stays where it is when more follows. -/
theorem getElem?_append_of_some {α : Type} {items : List α} {place : Nat} {item : α}
    (found : items[place]? = some item) (more : List α) : (items ++ more)[place]? = some item := by
  obtain ⟨inside, -⟩ := List.getElem?_eq_some_iff.mp found
  rw [List.getElem?_append_left inside, found]

/-! ### Deeds -/

section
variable {α : Type} {deeds : List Deed} {read : Deed → Option α}

theorem filterMap_concat_none {deed : Deed} (unread : read deed = none) :
    (deeds ++ [deed]).filterMap read = deeds.filterMap read := by
  rw [List.filterMap_append, List.filterMap_cons_none unread, List.filterMap_nil, List.append_nil]

theorem filterMap_concat_some {deed : Deed} {result : α} (found : read deed = some result) :
    (deeds ++ [deed]).filterMap read = deeds.filterMap read ++ [result] := by
  rw [List.filterMap_append, List.filterMap_cons_some found, List.filterMap_nil]

/-- Nothing was done to an event that is not there. -/
theorem filterMap_eq_nil_of_not_there {event : Nat}
    (about : ∀ deed result, read deed = some result → deed.event = event)
    (there : ∀ deed ∈ deeds, deed.event < event) : deeds.filterMap read = [] := by
  refine List.filterMap_eq_nil_iff.mpr fun deed member => ?_
  cases found : read deed with
  | none => rfl
  | some result => exact absurd (about deed result found) (Nat.ne_of_lt (there deed member))

end

theorem event_of_result? {event : Nat} (deed : Deed) (result : Value)
    (read : deed.result? event = some result) : deed.event = event := by
  cases deed with
  | got other =>
    rw [Deed.result?, Option.ite_none_right_eq_some] at read
    exact read.1
  | _ => cases read

theorem event_of_seen? {event : Nat} (deed : Deed) (result : Value)
    (read : deed.seen? event = some result) : deed.event = event := by
  cases deed with
  | peeked other =>
    rw [Deed.seen?, Option.ite_none_right_eq_some] at read
    exact read.1
  | _ => cases read

/-! ### Steps of programs -/

namespace Ledger

variable {c : Container} {first : Nat} {base events : List Event} {deeds : List Deed}

/-- A diary is begun with events that nobody has read. -/
theorem begin (unread : ∀ {event : Nat} {e : Event}, first ≤ event → base[event]? = some e →
    e.unread = e) : Ledger c first base base [] where
  numbered := rfl
  length := rfl
  kept found := by
    rw [found]
    rfl
  pushed member := by cases member
  handsOut later found := by
    rw [← unread later found]
    exact handsOut_unread _
  peeked _ _ member := by cases member
  there _ member := by cases member

/-- What is pushed is later than all that was there when the diary was begun. -/
theorem base_le (ledger : Ledger c first base events deeds) {event : Nat}
    (member : event ∈ (pushesIn deeds).map (·.1)) : base.length ≤ event := by
  rw [ledger.numbered] at member
  exact (List.mem_range'_1.mp member).1

/-- A value is wrapped in a new event, which is to be pushed. -/
theorem push (ledger : Ledger c first base events deeds) {field : String} {property : Property}
    (found : c.property? field = some property) (value : Value) :
    Ledger c first base (events ++ [.wrap property.eventKind value])
      (deeds ++ [.pushed events.length field value]) := by
  have pushes : pushesIn (deeds ++ [.pushed events.length field value]) =
      pushesIn deeds ++ [(events.length, field, value)] := filterMap_concat_some rfl
  have stays {event : Nat} {e : Event} (same : events[event]?.map Event.unread = some e) :
      (events ++ [.wrap property.eventKind value])[event]?.map Event.unread = some e := by
    obtain ⟨old, there, rfl⟩ := Option.map_eq_some_iff.mp same
    rw [getElem?_append_of_some there]
    rfl
  have oldOrNew {event : Nat} {e : Event}
      (there : (events ++ [.wrap property.eventKind value])[event]? = some e) :
      events[event]? = some e ∨ event = events.length ∧ e = .wrap property.eventKind value := by
    rcases Nat.lt_or_ge event events.length with old | new
    · rw [List.getElem?_append_left old] at there
      exact Or.inl there
    · rw [List.getElem?_append_right new, List.getElem?_singleton,
        Option.ite_none_right_eq_some] at there
      exact Or.inr ⟨by omega, (Option.some.inj there.2).symm⟩
  exact {
    numbered := by
      rw [pushes, List.map_append, List.length_append, ledger.numbered, List.map_singleton,
        List.length_singleton, List.range'_1_concat, ledger.length]
    length := by
      rw [pushes, List.length_append, List.length_append, ledger.length]
      exact Nat.add_assoc _ _ _
    kept := fun found => stays (ledger.kept found)
    pushed := fun member => by
      rw [pushes] at member
      rcases List.mem_append.mp member with member | member
      · obtain ⟨property, known, same⟩ := ledger.pushed member
        exact ⟨property, known, stays same⟩
      · obtain ⟨rfl, rfl, rfl⟩ : _ = events.length ∧ _ = field ∧ _ = value := by
          simpa using member
        refine ⟨property, found, ?_⟩
        rw [List.getElem?_concat_length]
        rfl
    handsOut := fun later there => by
      have readings : ∀ event, readingsOf event (deeds ++ [.pushed events.length field value]) =
          readingsOf event deeds := fun event => filterMap_concat_none rfl
      rw [readings]
      rcases oldOrNew there with old | ⟨rfl, rfl⟩
      · exact ledger.handsOut later old
      · rw [readingsOf, filterMap_eq_nil_of_not_there event_of_result? ledger.there]
        exact handsOut_unread ⟨property.eventKind, value, false⟩
    peeked := fun {event e} there => by
      have peeks : peeksAt event (deeds ++ [.pushed events.length field value]) =
          peeksAt event deeds := filterMap_concat_none rfl
      rw [peeks]
      rcases oldOrNew there with old | ⟨rfl, rfl⟩
      · exact ledger.peeked old
      · rw [peeksAt, filterMap_eq_nil_of_not_there event_of_seen? ledger.there]
        exact fun _ => nofun
    there := fun deed member => by
      rw [List.length_append, List.length_singleton]
      rcases List.mem_append.mp member with member | member
      · exact Nat.lt_succ_of_lt (ledger.there deed member)
      · rw [List.mem_singleton.mp member]
        exact Nat.lt_succ_self _ }

/-- An event is read. -/
theorem get (ledger : Ledger c first base events deeds) {event : Nat} {e : Event}
    (found : events[event]? = some e) :
    Ledger c first base (events.modify event Event.afterReading)
      (deeds ++ [.got event e.handedOut]) := by
  have pushes : pushesIn (deeds ++ [.got event e.handedOut]) = pushesIn deeds :=
    filterMap_concat_none rfl
  have inside : event < events.length := (List.getElem?_eq_some_iff.mp found).1
  exact {
    numbered := by
      rw [pushes]
      exact ledger.numbered
    length := by
      rw [pushes, List.length_modify]
      exact ledger.length
    kept := fun known => by
      rw [map_unread_getElem?_modify]
      exact ledger.kept known
    pushed := fun member => by
      rw [pushes] at member
      rw [map_unread_getElem?_modify]
      exact ledger.pushed member
    handsOut := fun {other e'} later there => by
      by_cases same : event = other
      · subst same
        have readings : readingsOf event (deeds ++ [.got event e.handedOut]) =
            readingsOf event deeds ++ [e.handedOut] := filterMap_concat_some (if_pos rfl)
        rw [List.getElem?_modify_eq, found] at there
        cases there
        rw [readings]
        exact (ledger.handsOut later found).afterReading
      · have readings : readingsOf other (deeds ++ [.got event e.handedOut]) =
            readingsOf other deeds := filterMap_concat_none (if_neg same)
        rw [List.getElem?_modify_ne _ _ same] at there
        rw [readings]
        exact ledger.handsOut later there
    peeked := fun {other e'} there => by
      have peeks : peeksAt other (deeds ++ [.got event e.handedOut]) = peeksAt other deeds :=
        filterMap_concat_none rfl
      have same := map_unread_getElem?_modify events event other
      rw [there] at same
      obtain ⟨old, known, unread⟩ := Option.map_eq_some_iff.mp same.symm
      rw [peeks, ← Event.item_eq_of_unread_eq unread]
      exact ledger.peeked known
    there := fun deed member => by
      rw [List.length_modify]
      rcases List.mem_append.mp member with member | member
      · exact ledger.there deed member
      · rw [List.mem_singleton.mp member]
        exact inside }

/-- Somebody peeks at an event. -/
theorem peek (ledger : Ledger c first base events deeds) {event : Nat} {e : Event}
    (found : events[event]? = some e) :
    Ledger c first base events (deeds ++ [.peeked event e.peek]) := by
  have pushes : pushesIn (deeds ++ [.peeked event e.peek]) = pushesIn deeds :=
    filterMap_concat_none rfl
  have readings : ∀ other, readingsOf other (deeds ++ [.peeked event e.peek]) =
      readingsOf other deeds := fun other => filterMap_concat_none rfl
  exact {
    numbered := by
      rw [pushes]
      exact ledger.numbered
    length := by
      rw [pushes]
      exact ledger.length
    kept := ledger.kept
    pushed := fun member => by
      rw [pushes] at member
      exact ledger.pushed member
    handsOut := fun later there => by
      rw [readings]
      exact ledger.handsOut later there
    peeked := fun {other e'} there result member => by
      by_cases same : event = other
      · subst same
        have peeks : peeksAt event (deeds ++ [.peeked event e.peek]) =
            peeksAt event deeds ++ [e.peek] := filterMap_concat_some (if_pos rfl)
        rw [peeks] at member
        rcases List.mem_append.mp member with member | member
        · exact ledger.peeked there result member
        · cases found.symm.trans there
          exact List.mem_singleton.mp member
      · have peeks : peeksAt other (deeds ++ [.peeked event e.peek]) = peeksAt other deeds :=
          filterMap_concat_none (if_neg same)
        rw [peeks] at member
        exact ledger.peeked there result member
    there := fun deed member => by
      rcases List.mem_append.mp member with member | member
      · exact ledger.there deed member
      · rw [List.mem_singleton.mp member]
        exact (List.getElem?_eq_some_iff.mp found).1 }

end Ledger

end StateContainer
