/-
This file says what a delegate is when it has just been built.

The initial state is made first. Then each property gets a channel of its own, whose value is
a new event with the initial value of the property; nobody has read it, and nobody observes
the channel.
-/

import StateContainer.Proofs.Container.Ledger
import StateContainer.Proofs.Except

namespace StateContainer

open ContainerSession

/-! ### Operations that succeed -/

namespace ContainerSession

variable {α β : Type} {session after : ContainerSession}

theorem run_eq_ok_iff {operation : Operation α} {result : α} :
    session.run operation = (.ok result, after) ↔ operation session = .ok (result, after) := by
  rw [run]
  cases operation session with
  | ok made => simp [Prod.ext_iff]
  | error failed => simp

/-- An operation that goes on with another one succeeds if both do. -/
theorem bind_eq_ok_iff {operation : Operation α} {next : α → Operation β} {result : β} :
    (operation >>= next) session = .ok (result, after) ↔
      ∃ value middle, operation session = .ok (value, middle) ∧
        next value middle = .ok (result, after) := by
  have unfolded : (operation >>= next) session =
      (operation session).bind fun made => next made.1 made.2 := rfl
  rw [unfolded]
  cases operation session with
  | ok made => exact ⟨fun ok => ⟨made.1, made.2, rfl, ok⟩, by rintro ⟨_, _, ⟨⟩, ok⟩; exact ok⟩
  | error failed => exact iff_of_false nofun (by rintro ⟨_, _, ⟨⟩, _⟩)

/-- Looking at the session changes nothing. -/
theorem get_bind (next : ContainerSession → Operation β) :
    (get >>= next) session = next session session := rfl

theorem lift_eq_ok_iff {value : Except Failure α} {result : α} :
    lift value session = .ok (result, after) ↔ value = .ok result ∧ after = session := by
  cases value with
  | ok found =>
    constructor
    · intro lifted
      cases lifted
      exact ⟨rfl, rfl⟩
    · rintro ⟨⟨⟩, rfl⟩
      rfl
  | error failure =>
    constructor
    · intro lifted
      cases lifted
    · rintro ⟨⟨⟩, _⟩

theorem named_eq {name : String} {holding : Holding}
    (found : session.holdings.get? name = some holding) :
    named name session = .ok (holding, session) := by
  rw [named, get_bind, found]
  rfl

end ContainerSession

/-! ### A channel that starts -/

namespace Session

section
variable {κ : Type} [DecidableEq κ] {around : Surroundings κ} {channel : κ} {kind : EventKind}

theorem begin_channels_self (wraps : around.wrapping channel = some kind) (session : Session κ)
    (value : Value) :
    (begin around session channel value).channels channel =
      { value := .event session.kept.events.length } := by
  rw [begin, wraps]
  exact if_pos rfl

theorem begin_channels_of_ne (wraps : around.wrapping channel = some kind) (session : Session κ)
    (value : Value) {other : κ} (differ : other ≠ channel) :
    (begin around session channel value).channels other = session.channels other := by
  rw [begin, wraps]
  exact if_neg differ

theorem begin_events (wraps : around.wrapping channel = some kind) (session : Session κ)
    (value : Value) :
    (begin around session channel value).kept.events =
      session.kept.events ++ [.wrap kind value] := by
  rw [begin, wraps]
  rfl

end

end Session

/-! ### Building -/

/-- Whether the channel of a property holds its initial value, in an event from the first one on, and
nobody observes it. -/
def StartsWith (c : Container) (delegate : Nat) (state : Instance) (first : Nat)
    (session : ContainerSession) (name : String) (event : Nat) : Prop :=
  first ≤ event ∧ session.channels.channels ⟨delegate, name⟩ = { value := .event event } ∧
    ∃ property value, c.property? name = some property ∧
      state.get (c.insideName name) = .ok value ∧
      session.channels.kept.events[event]? = some (.wrap property.eventKind value)

/-- Whether the channels of some properties of a delegate hold their initial values. -/
structure Started (c : Container) (delegate : Nat) (state : Instance) (first : Nat)
    (names : List String) (session : ContainerSession) : Prop where
  container : session.container = c
  channels : ∀ name ∈ names, ∃ event, StartsWith c delegate state first session name event
  /-- Each property has an event of its own. -/
  apart : ∀ name ∈ names, ∀ other ∈ names,
    (session.channels.channels ⟨delegate, name⟩).value =
      (session.channels.channels ⟨delegate, other⟩).value → name = other
  unread : ∀ {event : Nat} {e : Event}, first ≤ event →
    session.channels.kept.events[event]? = some e → e.unread = e

section
variable {c : Container} {delegate first : Nat} {state : Instance} {names : List String}
  {session after : ContainerSession}

theorem startChannel_eq_ok {property : Property}
    (started : startChannel state delegate property session = .ok ((), after)) :
    ∃ value, state.get (session.container.insideName property.name) = .ok value ∧
      after = { session with
        channels := Session.begin (surroundings session.container) session.channels
          { delegate, property := property.name } value } := by
  rw [startChannel, get_bind] at started
  dsimp only at started
  simp only [bind_eq_ok_iff, lift_eq_ok_iff] at started
  obtain ⟨value, _, ⟨read, rfl⟩, _, _, ⟨-, rfl⟩, _, _, ⟨-, rfl⟩, set⟩ := started
  cases set
  exact ⟨value, mapError_eq_ok_iff.mp read, rfl⟩

/-- The event of a channel is an old one. -/
theorem StartsWith.value_ne {name : String} {event : Nat}
    (starts : StartsWith c delegate state first session name event) :
    (session.channels.channels ⟨delegate, name⟩).value ≠
      .event session.channels.kept.events.length := by
  obtain ⟨-, fresh, _, _, -, -, there⟩ := starts
  rw [fresh]
  intro same
  have before : event < session.channels.kept.events.length := (List.getElem?_eq_some_iff.mp there).1
  exact absurd (Item.event.inj same) (Nat.ne_of_lt before)

/-- A channel is started with a new event. -/
theorem Started.startChannel {property : Property} (started : Started c delegate state first names session)
    (known : property ∈ c.properties) (length : first ≤ session.channels.kept.events.length)
    (step : startChannel state delegate property session = .ok ((), after)) :
    Started c delegate state first (property.name :: names) after ∧
      session.channels.kept.events.length ≤ after.channels.kept.events.length := by
  obtain ⟨value, read, rfl⟩ := startChannel_eq_ok step
  obtain ⟨found, lookup⟩ : ∃ found, c.property? property.name = some found :=
    Option.isSome_iff_exists.mp (List.find?_isSome.mpr ⟨property, known, decide_eq_true rfl⟩)
  have wrapping : (surroundings session.container).wrapping ⟨delegate, property.name⟩ =
      some found.eventKind := by
    dsimp only [surroundings]
    rw [started.container, lookup]
    rfl
  have here := Session.begin_channels_self wrapping session.channels value
  have events := Session.begin_events wrapping session.channels value
  have elsewhere {name : String} (differ : name ≠ property.name) :
      (Session.begin (surroundings session.container) session.channels
        ⟨delegate, property.name⟩ value).channels ⟨delegate, name⟩ =
      session.channels.channels ⟨delegate, name⟩ :=
    Session.begin_channels_of_ne wrapping session.channels value fun equal =>
      differ (ChannelName.mk.inj equal).2
  have isOld {name : String} (member : name ∈ property.name :: names)
      (differ : name ≠ property.name) :
      ∃ event, StartsWith c delegate state first session name event :=
    started.channels name ((List.mem_cons.mp member).resolve_left differ)
  have isNew {name : String} (member : name ∈ property.name :: names)
      (differ : name ≠ property.name) :
      (session.channels.channels ⟨delegate, name⟩).value ≠
        .event session.channels.kept.events.length := by
    obtain ⟨event, old⟩ := isOld member differ
    exact old.value_ne
  refine ⟨⟨started.container, fun name member => ?_, fun name member other member' same => ?_,
    fun {event e} later there => ?_⟩, ?_⟩
  · by_cases same : name = property.name
    · subst same
      refine ⟨_, length, here, found, value, lookup, started.container ▸ read, ?_⟩
      rw [events]
      exact List.getElem?_concat_length
    · obtain ⟨event, old, fresh, known, initial, lookup, reads, there⟩ := isOld member same
      refine ⟨event, old, (elsewhere same).trans fresh, known, initial, lookup, reads, ?_⟩
      rw [events]
      exact getElem?_append_of_some there _
  · by_cases first : name = property.name
    · by_cases second : other = property.name
      · exact first.trans second.symm
      · rw [first, here, elsewhere second] at same
        exact absurd same.symm (isNew member' second)
    · by_cases second : other = property.name
      · rw [second, here, elsewhere first] at same
        exact absurd same (isNew member first)
      · rw [elsewhere first, elsewhere second] at same
        exact started.apart name ((List.mem_cons.mp member).resolve_left first) other
          ((List.mem_cons.mp member').resolve_left second) same
  · rw [events] at there
    rcases Nat.lt_or_ge event session.channels.kept.events.length with old | new
    · rw [List.getElem?_append_left old] at there
      exact started.unread later there
    · rw [List.getElem?_append_right new, List.getElem?_singleton,
        Option.ite_none_right_eq_some] at there
      rw [← Option.some.inj there.2]
      rfl
  · rw [events, List.length_append]
    exact Nat.le_add_right _ _

/-- The channels of all properties are started. -/
theorem Started.forM {properties : List Property} (started : Started c delegate state first names session)
    (known : ∀ property ∈ properties, property ∈ c.properties)
    (length : first ≤ session.channels.kept.events.length)
    (steps : properties.forM (ContainerSession.startChannel state delegate) session =
      .ok ((), after)) :
    ∃ all, Started c delegate state first all after ∧ names ⊆ all ∧
      ∀ property ∈ properties, property.name ∈ all := by
  induction properties generalizing session names with
  | nil =>
    cases steps
    exact ⟨names, started, List.Subset.refl names, fun _ => nofun⟩
  | cons property others inductionHypothesis =>
    obtain ⟨own, known⟩ := List.forall_mem_cons.mp known
    have first : (ContainerSession.startChannel state delegate property >>= fun _ =>
        others.forM (ContainerSession.startChannel state delegate)) session = .ok ((), after) :=
      steps
    obtain ⟨_, middle, step, steps⟩ := bind_eq_ok_iff.mp first
    obtain ⟨started, grows⟩ := started.startChannel own length step
    obtain ⟨all, started, within, each⟩ :=
      inductionHypothesis started known (Nat.le_trans length grows) steps
    obtain ⟨here, within⟩ := List.cons_subset.mp within
    exact ⟨all, started, within, List.forall_mem_cons.mpr ⟨here, each⟩⟩

theorem requireParameters_eq_ok {functionName : String} {arguments : BuildArguments}
    (passes : requireParameters functionName arguments session = .ok ((), after)) :
    after = session := by
  rw [requireParameters, get_bind] at passes
  split at passes
  · rw [bind_eq_ok_iff] at passes
    obtain ⟨_, _, failed, -⟩ := passes
    cases failed
  · dsimp only at passes
    split at passes
    · cases passes
    · cases passes
      rfl

/-- Making the initial state changes nothing but the log. -/
theorem initialState_eq_ok {functionName : String} {arguments : BuildArguments}
    (made : ContainerSession.initialState functionName arguments session = .ok (state, after)) :
    ∃ log, after = { session with log := session.log ++ log } := by
  rw [ContainerSession.initialState, bind_eq_ok_iff] at made
  obtain ⟨_, _, passes, made⟩ := made
  obtain rfl := requireParameters_eq_ok passes
  rw [get_bind] at made
  dsimp only at made
  simp only [bind_eq_ok_iff, lift_eq_ok_iff] at made
  obtain ⟨⟨made, log⟩, _, ⟨-, rfl⟩, _, _, set, answered⟩ := made
  cases set
  cases answered
  exact ⟨log, rfl⟩

/-- What a delegate is when it has just been built, under a name that is given to it. -/
structure Built (name : String) (arguments : BuildArguments) (session built : ContainerSession)
    (state : Instance) : Prop where
  initialState : ∃ log, ContainerSession.initialState
      (session.container.artifacts.delegate.name ++ ".__init__") arguments session =
    .ok (state, log)
  started : Started session.container session.built state session.channels.kept.events.length
    (session.container.properties.map (·.name)) built
  named : built.holdings.get? name = some (.delegate session.built)

/-- A delegate is built by making its initial state and starting its channels. -/
theorem newDelegate_eq_ok {name : String} {arguments : BuildArguments} {built : ContainerSession}
    (made : session.run (newDelegate name arguments) = (.ok (), built)) :
    ∃ state, Built name arguments session built state := by
  rw [run_eq_ok_iff, newDelegate, bind_eq_ok_iff] at made
  obtain ⟨delegate, middle, made, named⟩ := made
  rw [buildDelegate, get_bind, bind_eq_ok_iff] at made
  obtain ⟨state, logged, initial, made⟩ := made
  rw [bind_eq_ok_iff] at made
  obtain ⟨_, final, steps, made⟩ := made
  cases made
  cases named
  obtain ⟨log, rfl⟩ := initialState_eq_ok initial
  have fresh : Started session.container session.built state session.channels.kept.events.length []
      { session with log := session.log ++ log } := by
    refine ⟨rfl, fun _ => nofun, fun _ => nofun, fun later there => ?_⟩
    rw [List.getElem?_eq_none later] at there
    cases there
  obtain ⟨all, started, -, each⟩ := fresh.forM (fun _ => id) (Nat.le_refl _) steps
  have known {name : String} (member : name ∈ session.container.properties.map (·.name)) :
      name ∈ all := by
    obtain ⟨property, known, rfl⟩ := List.mem_map.mp member
    exact each property known
  exact ⟨state, ⟨_, initial⟩,
    ⟨started.container, fun name member => started.channels name (known member),
      fun name member other member' => started.apart name (known member) other (known member'),
      started.unread⟩,
    OrderedMap.get?_insert_self _ _ _⟩

end

end StateContainer
