/-
This file follows the programs of the users of a delegate through a run.

Whatever the programs are and whatever the channels make of them, two things are kept. The
ledger of the events is right at every moment, since it is only programs that touch events.
And whenever a program has ended, the channel of each field was pushed the events that were
wrapped for this field, in the order of the pushes. A program that is given up between
wrapping a value and pushing it is why the second statement is made about ends only.

Both are proved together, by induction on the number of steps. The observers that are called
on the way are programs again, because nobody else subscribes to the channels of a delegate.
-/

import StateContainer.Proofs.Channel.Delivery
import StateContainer.Proofs.Container.Ledger

namespace StateContainer

open Program

/-! ### What is kept -/

/-- The pushes of a field, in the order in which they were made. -/
def pushesOf (field : String) (deeds : List Deed) : List (Nat × String × Value) :=
  (pushesIn deeds).filter (·.2.1 = field)

/-- The events that were pushed for a field, in the order of the pushes. -/
def eventsOf (field : String) (deeds : List Deed) : List Nat :=
  (pushesOf field deeds).map (·.1)

/-- The values that were pushed for a field, in the order of the pushes. -/
def argumentsOf (field : String) (deeds : List Deed) : List Value :=
  (pushesOf field deeds).map (·.2.2)

/-- A push adds its event to those of its field. -/
theorem eventsOf_pushed (field other : String) (deeds : List Deed) (event : Nat) (value : Value) :
    eventsOf other (deeds ++ [.pushed event field value]) =
      eventsOf other deeds ++ if field = other then [event] else [] := by
  have pushes : pushesIn (deeds ++ [.pushed event field value]) =
      pushesIn deeds ++ [(event, field, value)] := filterMap_concat_some rfl
  rw [eventsOf, pushesOf, pushes, List.filter_append, List.map_append]
  refine congrArg _ ?_
  by_cases same : field = other
  · simp [same]
  · simp [same]

/-- The channels of a delegate with what its users do, and what they keep. -/
abbrev DelegateChronicle := Chronicle ChannelName (Item Nat) Failure Diary

/-- Whether somebody who is called is a user of a delegate. -/
def IsUser (c : Container) (delegate : Nat) (callback : Callback ChannelName (Item Nat) Failure Diary) :
    Prop :=
  ∃ observer, callback = observing c delegate observer

/-- What holds at every moment: the ledger is right, and all observers of the fields of a delegate
are users of it. -/
structure Tidy (c : Container) (delegate first : Nat) (base : List Event)
    (chronicle : DelegateChronicle) : Prop where
  ledger : Ledger c first base chronicle.bank.kept.scene.events chronicle.bank.kept.deeds
  users : ∀ name, area c delegate name → ∀ registration ∈ (chronicle.channel name).observers,
    IsUser c delegate registration.2

/-- What holds between programs: each field was pushed what was wrapped for it. -/
def Linked (c : Container) (delegate : Nat) (chronicle : DelegateChronicle) : Prop :=
  ∀ field, c.property? field ≠ none →
    pushedTo ⟨delegate, field⟩ chronicle.history =
      (eventsOf field chronicle.bank.kept.deeds).map Item.event

/-- How a part of a run leaves a chronicle. -/
def Tended (c : Container) (delegate first : Nat) (base : List Event)
    (result : Outcome Failure × DelegateChronicle) : Prop :=
  Tidy c delegate first base result.2 ∧ (result.1.raised? ≠ none → Linked c delegate result.2)

section
variable {c : Container} {delegate first : Nat} {base : List Event} {chronicle : DelegateChronicle}

/-! ### Steps of channels -/

/-- A change of a channel that keeps the users keeps the chronicle tidy. -/
theorem Tidy.change (tidy : Tidy c delegate first base chronicle) (name : ChannelName)
    {change : Channel (Item Nat) (Callback ChannelName (Item Nat) Failure Diary) →
      Channel (Item Nat) (Callback ChannelName (Item Nat) Failure Diary)}
    (users : ∀ registration ∈ (change (chronicle.channel name)).observers,
      registration ∈ (chronicle.channel name).observers ∨ IsUser c delegate registration.2)
    (happenings : History ChannelName (Item Nat) Failure Diary) :
    Tidy c delegate first base (chronicle.change name change happenings) where
  ledger := tidy.ledger
  users name' inside registration member := by
    rw [Chronicle.channel_change] at member
    split at member
    next same =>
      subst same
      exact (users registration member).elim (tidy.users name' inside registration) id
    · exact tidy.users name' inside registration member

/-- A change of a channel that keeps the observers keeps the chronicle tidy. -/
theorem Tidy.change_of_same (tidy : Tidy c delegate first base chronicle) (name : ChannelName)
    {change : Channel (Item Nat) (Callback ChannelName (Item Nat) Failure Diary) →
      Channel (Item Nat) (Callback ChannelName (Item Nat) Failure Diary)}
    (same : (change (chronicle.channel name)).observers = (chronicle.channel name).observers)
    (happenings : History ChannelName (Item Nat) Failure Diary) :
    Tidy c delegate first base (chronicle.change name change happenings) :=
  tidy.change name (fun _ member => Or.inl (same ▸ member)) happenings

theorem Tidy.mark (tidy : Tidy c delegate first base chronicle) (name : ChannelName)
    (delivering : Bool) : Tidy c delegate first base (chronicle.mark name delivering) :=
  tidy.change_of_same name rfl []

theorem Tidy.write (tidy : Tidy c delegate first base chronicle)
    (happenings : History ChannelName (Item Nat) Failure Diary) :
    Tidy c delegate first base (chronicle.write happenings) :=
  ⟨tidy.ledger, tidy.users⟩

theorem Tidy.note (tidy : Tidy c delegate first base chronicle) (first' : Option Failure)
    (failure : Failure) : Tidy c delegate first base (chronicle.note first' failure).2 := by
  cases first' with
  | none => exact ⟨tidy.ledger, tidy.users⟩
  | some => exact ⟨tidy.ledger, tidy.users⟩

/-- What is no push leaves the links. -/
theorem Linked.append (linked : Linked c delegate chronicle) {after : DelegateChronicle}
    {happenings : History ChannelName (Item Nat) Failure Diary}
    (written : after.history = chronicle.history ++ happenings)
    (unpushed : happenings.filterMap Happening.pushed? = [])
    (kept : after.bank.kept = chronicle.bank.kept) : Linked c delegate after := by
  intro field known
  have nothing : pushedTo ⟨delegate, field⟩ happenings = [] := by
    refine List.filterMap_eq_nil_iff.mpr fun happening member => ?_
    exact List.filterMap_eq_nil_iff.mp unpushed happening (List.mem_filter.mp member).1
  rw [written, kept, pushedTo, found_append, ← pushedTo, ← pushedTo, nothing, List.append_nil]
  exact linked field known

theorem Linked.mark (linked : Linked c delegate chronicle) (name : ChannelName)
    (delivering : Bool) : Linked c delegate (chronicle.mark name delivering) :=
  linked.append rfl rfl rfl

theorem Linked.note (linked : Linked c delegate chronicle) (first' : Option Failure)
    (failure : Failure) : Linked c delegate (chronicle.note first' failure).2 := by
  cases first' with
  | none => exact linked
  | some => exact linked

/-! ### Steps of programs -/

/-- What is given up leaves the chronicle tidy. -/
theorem Tidy.givenUp (tidy : Tidy c delegate first base chronicle) :
    Tended c delegate first base (.exhausted, chronicle) :=
  ⟨tidy, fun ended => absurd rfl ended⟩

/-- A value is wrapped, and the push is written down in the diary. -/
theorem tell_pushed (kept : Diary) (kind : EventKind) (field : String) (value : Value) :
    Keeping.diary.tell (.pushed kept.scene.events.length field value)
        (Keeping.diary.change (Scene.addEvent (.wrap kind value)) kept) =
      { scene := kept.scene.addEvent (.wrap kind value)
        deeds := kept.deeds ++ [.pushed kept.scene.events.length field value] } := by
  refine tell_of_there _ ?_
  simp [Deed.event, Keeping.diary, Scene.addEvent]

/-- Wrapping a value keeps the chronicle tidy. -/
theorem Tidy.wrap (tidy : Tidy c delegate first base chronicle) {field : String}
    {property : Property} (found : c.property? field = some property) (value : Value) :
    Tidy c delegate first base (chronicle.keep fun kept =>
      Keeping.diary.tell (.pushed chronicle.bank.kept.scene.events.length field value)
        (Keeping.diary.change (Scene.addEvent (.wrap property.eventKind value)) kept)) where
  ledger := by
    rw [Chronicle.keep, Bank.keep, tell_pushed]
    exact tidy.ledger.push found value
  users := tidy.users

/-- When the wrapped value has been pushed, the links are there again. -/
theorem Linked.push (linked : Linked c delegate chronicle) (kind : EventKind) (field : String)
    (value : Value) :
    Linked c delegate ((chronicle.keep fun kept =>
      Keeping.diary.tell (.pushed chronicle.bank.kept.scene.events.length field value)
        (Keeping.diary.change (Scene.addEvent (.wrap kind value)) kept)).push
          ⟨delegate, field⟩ (.event chronicle.bank.kept.scene.events.length)) := by
  intro other known
  rw [Chronicle.push, Chronicle.change, Chronicle.keep, Bank.modify, Bank.keep]
  dsimp only
  rw [tell_pushed, pushedTo, found_append, ← pushedTo, linked other known, found_singleton,
    eventsOf_pushed, List.map_append]
  refine congrArg _ ?_
  by_cases same : field = other
  · subst same
    rw [if_pos (rfl : field = field)]
    exact if_pos rfl
  · have differ : (⟨delegate, field⟩ : ChannelName) ≠ ⟨delegate, other⟩ :=
      fun equal => same (ChannelName.mk.inj equal).2
    rw [if_neg same]
    exact if_neg differ

/-- An event is read, or there is no such event. -/
theorem Tidy.get (tidy : Tidy c delegate first base chronicle) (event : Nat) :
    Tidy c delegate first base (chronicle.keep fun kept =>
      Keeping.diary.tell (.got event (chronicle.bank.kept.scene.eventAt event).handedOut)
        (Keeping.diary.change (Scene.readEvent event) kept)) := by
  refine ⟨?_, tidy.users⟩
  rw [Chronicle.keep, Bank.keep]
  dsimp only
  have length : ((Keeping.diary.change (Scene.readEvent event)
      chronicle.bank.kept).scene.events).length = chronicle.bank.kept.scene.events.length :=
    List.length_modify _ _ _
  by_cases inside : event < chronicle.bank.kept.scene.events.length
  · have found := List.getElem?_eq_getElem inside
    rw [eventAt_of_getElem? found, tell_of_there (.got event _) (by rw [length]; exact inside)]
    exact tidy.ledger.get found
  · rw [tell_of_not_there (.got event _) (by rw [length]; exact inside)]
    have unmoved : chronicle.bank.kept.scene.events.modify event Event.afterReading =
        chronicle.bank.kept.scene.events := List.modify_eq_self (Nat.le_of_not_lt inside)
    have ledger := tidy.ledger
    rw [← unmoved] at ledger
    exact ledger

/-- Somebody peeks at an event, or there is no such event. -/
theorem Tidy.peek (tidy : Tidy c delegate first base chronicle) (event : Nat) :
    Tidy c delegate first base (chronicle.keep
      (Keeping.diary.tell (.peeked event (chronicle.bank.kept.scene.eventAt event).peek))) := by
  refine ⟨?_, tidy.users⟩
  rw [Chronicle.keep, Bank.keep]
  dsimp only
  by_cases inside : event < chronicle.bank.kept.scene.events.length
  · have found := List.getElem?_eq_getElem inside
    rw [eventAt_of_getElem? found, tell_of_there (.peeked event _) inside]
    exact tidy.ledger.peek found
  · rw [tell_of_not_there (.peeked event _) inside]
    exact tidy.ledger

/-- No push is written down when an event is read or peeked at. -/
theorem pushesIn_tell (kept : Diary) {deed : Deed} (unpushed : deed.pushed? = none) :
    pushesIn (Keeping.diary.tell deed kept).deeds = pushesIn kept.deeds := by
  by_cases there : deed.event < kept.scene.events.length
  · rw [tell_of_there deed there]
    exact filterMap_concat_none unpushed
  · rw [tell_of_not_there deed there]

/-- What leaves the pushes in the diary leaves the links. -/
theorem Linked.keep (linked : Linked c delegate chronicle) {change : Diary → Diary}
    (same : pushesIn (change chronicle.bank.kept).deeds = pushesIn chronicle.bank.kept.deeds) :
    Linked c delegate (chronicle.keep change) := by
  intro field known
  rw [eventsOf, pushesOf, Chronicle.keep, Bank.keep, same]
  exact linked field known

/-! ### Runs of programs -/

/-- Every part of a run with some fuel is tended. -/
structure Tends (c : Container) (delegate first : Nat) (base : List Event) (fuel : Nat) : Prop where
  program : ∀ (program : Program) (chronicle : DelegateChronicle), Tidy c delegate first base chronicle →
    Linked c delegate chronicle →
    Tended c delegate first base (Chronicle.record fuel (program.recorded c delegate) chronicle)
  drain : ∀ {name} error (chronicle : DelegateChronicle), area c delegate name →
    Tidy c delegate first base chronicle → Linked c delegate chronicle →
    Tended c delegate first base (Chronicle.recordDrain fuel name error chronicle)
  deliver : ∀ {name registrations} value error (chronicle : DelegateChronicle), area c delegate name →
    (∀ registration ∈ registrations, IsUser c delegate registration.2) →
    Tidy c delegate first base chronicle → Linked c delegate chronicle →
    Tended c delegate first base
      (Chronicle.recordDeliver fuel name value registrations error chronicle)

/-- Nothing is done without fuel. -/
theorem Tends.zero : Tends c delegate first base 0 where
  program _ _ tidy _ := tidy.givenUp
  drain _ _ _ tidy _ := tidy.givenUp
  deliver _ _ _ _ _ tidy _ := tidy.givenUp

variable {fuel : Nat}

/-- A user of the delegate is called. -/
theorem Tends.call (inner : Tends c delegate first base fuel)
    {callback : Callback ChannelName (Item Nat) Failure Diary} (user : IsUser c delegate callback)
    (item : Item Nat) (chronicle : DelegateChronicle)
    (tidy : Tidy c delegate first base chronicle) (linked : Linked c delegate chronicle) :
    Tended c delegate first base (Chronicle.record fuel (callback item) chronicle) := by
  obtain ⟨observer, rfl⟩ := user
  cases item with
  | event event => exact inner.program (observer event) chronicle tidy linked
  | plain value =>
    cases fuel with
    | zero => exact tidy.givenUp
    | succ fuel => exact ⟨tidy, fun _ => linked⟩

/-- A wrapped value is pushed. -/
theorem Tends.push (inner : Tends c delegate first base fuel) {name : ChannelName}
    (inside : area c delegate name) (item : Item Nat) (next : Option (Raised Failure) → Program)
    (tidy : Tidy c delegate first base chronicle)
    (linked : Linked c delegate (chronicle.push name item)) :
    Tended c delegate first base (Chronicle.record (fuel + 1)
      (.push name item fun raised => (next raised).recorded c delegate) chronicle) := by
  have waits : Tidy c delegate first base (chronicle.push name item) :=
    tidy.change_of_same name rfl _
  rw [Chronicle.record]
  by_cases busy : (chronicle.channel name).delivering
  · rw [if_pos busy]
    exact inner.program (next none) _ waits linked
  · rw [if_neg busy]
    obtain ⟨tidy, linked⟩ := inner.drain none _ inside (waits.mark name true)
      (linked.mark name true)
    generalize Chronicle.recordDrain fuel name none ((chronicle.push name item).mark name true) =
      result at tidy linked ⊢
    dsimp only
    cases ending : result.1.raised? with
    | none => exact (tidy.mark name false).givenUp
    | some raised =>
      have ended := linked (by rw [ending]; exact Option.some_ne_none raised)
      exact inner.program (next raised) _ (tidy.mark name false) (ended.mark name false)

/-- A user of the delegate is subscribed. -/
theorem Tends.subscribe (inner : Tends c delegate first base fuel) {name : ChannelName}
    {callback : Callback ChannelName (Item Nat) Failure Diary} (user : IsUser c delegate callback)
    (next : Except (Raised Failure) Nat → Program)
    (tidy : Tidy c delegate first base chronicle) (linked : Linked c delegate chronicle) :
    Tended c delegate first base (Chronicle.record (fuel + 1)
      (.subscribe name callback fun token => (next token).recorded c delegate) chronicle) := by
  rw [Chronicle.record]
  obtain ⟨tidy, linked⟩ := inner.call user (chronicle.channel name).value
    (chronicle.beginReplay name callback (chronicle.channel name).value)
    (tidy.write _) (linked.append rfl rfl rfl)
  generalize Chronicle.record fuel (callback (chronicle.channel name).value)
    (chronicle.beginReplay name callback (chronicle.channel name).value) = result at tidy linked ⊢
  obtain ⟨outcome, after⟩ := result
  have ended : outcome.raised? ≠ none → Linked c delegate (after.endCall name none outcome) :=
    fun ends => (linked ends).append rfl rfl rfl
  have tidied : Tidy c delegate first base (after.endCall name none outcome) := tidy.write _
  cases outcome with
  | exhausted => exact tidy.givenUp
  | finished =>
    refine inner.program (next _) _ ?_ ?_
    · refine tidied.change name (fun registration member => ?_) _
      rcases List.mem_append.mp member with member | member
      · exact Or.inl member
      · rw [List.mem_singleton.mp member]
        exact Or.inr user
    · exact (ended (Option.some_ne_none _)).append rfl rfl rfl
  | failed failure => exact inner.program (next _) _ tidied (ended (Option.some_ne_none _))
  | interrupted failure => exact inner.program (next _) _ tidied (ended (Option.some_ne_none _))

/-- The steps of a program, if all shorter runs are tended. -/
theorem Tends.program_of_shorter (shorter : ∀ less < fuel, Tends c delegate first base less)
    (program : Program) (chronicle : DelegateChronicle)
    (tidy : Tidy c delegate first base chronicle) (linked : Linked c delegate chronicle) :
    Tended c delegate first base (Chronicle.record fuel (program.recorded c delegate) chronicle) := by
  -- A step of a program takes up to three steps of its script, so the run may be given up between.
  cases fuel with
  | zero => exact tidy.givenUp
  | succ fuel =>
  have inner : Tends c delegate first base fuel := shorter fuel (Nat.lt_succ_self fuel)
  cases program with
  | finish => exact ⟨tidy, fun _ => linked⟩
  | fail failure => exact ⟨tidy, fun _ => linked⟩
  | interrupt failure => exact ⟨tidy, fun _ => linked⟩
  | push field value next =>
    rw [recorded, script]
    cases found : c.property? field with
    | none => exact ⟨tidy, fun _ => linked⟩
    | some property =>
      have inside : area c delegate ⟨delegate, field⟩ := ⟨rfl, by rw [found]; exact Option.some_ne_none _⟩
      cases fuel with
      | zero => exact tidy.givenUp
      | succ fuel =>
      cases fuel with
      | zero => exact (tidy.wrap found value).givenUp
      | succ fuel =>
        exact (shorter fuel (by omega)).push inside _ next (tidy.wrap found value)
          (linked.push property.eventKind field value)
  | subscribe field observer next =>
    rw [recorded, script]
    cases found : c.property? field with
    | none => exact ⟨tidy, fun _ => linked⟩
    | some property => exact inner.subscribe ⟨observer, rfl⟩ next tidy linked
  | dispose field token next =>
    refine inner.program next _ ?_ (linked.append rfl rfl rfl)
    exact tidy.change _ (fun _ member => Or.inl (List.mem_filter.mp member).1) _
  | current field next =>
    rw [recorded, script]
    cases found : c.property? field with
    | none => exact ⟨tidy, fun _ => linked⟩
    | some property => exact inner.call ⟨next, rfl⟩ _ _ tidy linked
  | get event next =>
    cases fuel with
    | zero => exact tidy.givenUp
    | succ fuel =>
      exact (shorter fuel (by omega)).program _ _ (tidy.get event)
        (linked.keep (pushesIn_tell _ rfl))
  | peek event next =>
    cases fuel with
    | zero => exact tidy.givenUp
    | succ fuel =>
      exact (shorter fuel (by omega)).program _ _ (tidy.peek event)
        (linked.keep (pushesIn_tell _ rfl))
  | consult next => exact inner.program _ _ tidy linked
  | update change unread next =>
    refine inner.program next _ ⟨?_, tidy.users⟩ (linked.keep rfl)
    have ledger := tidy.ledger
    rw [← unread] at ledger
    exact ledger

theorem Tends.drain_succ (inner : Tends c delegate first base fuel) {name : ChannelName}
    (error : Option Failure) (chronicle : DelegateChronicle) (inside : area c delegate name)
    (tidy : Tidy c delegate first base chronicle) (linked : Linked c delegate chronicle) :
    Tended c delegate first base (Chronicle.recordDrain (fuel + 1) name error chronicle) := by
  rw [Chronicle.recordDrain]
  cases waiting : (chronicle.channel name).take? with
  | none => exact ⟨tidy, fun _ => linked⟩
  | some next =>
    obtain ⟨value, left⟩ := next
    have same : left.observers = (chronicle.channel name).observers := by
      obtain ⟨others, -, rfl⟩ := Channel.take?_eq_some_iff.mp waiting
      rfl
    obtain ⟨tidy, linked⟩ := inner.deliver value error (chronicle.take name value left) inside
      (tidy.users name inside) (tidy.change_of_same name same _) (linked.append rfl rfl rfl)
    dsimp only
    generalize Chronicle.recordDeliver fuel name value (chronicle.channel name).observers error
      (chronicle.take name value left) = result at tidy linked ⊢
    obtain ⟨outcome, after⟩ := result
    cases outcome with
    | finished => exact inner.drain none after inside tidy (linked (Option.some_ne_none _))
    | failed failure => exact inner.drain (some failure) after inside tidy (linked (Option.some_ne_none _))
    | interrupted failure => exact ⟨tidy, linked⟩
    | exhausted => exact tidy.givenUp

theorem Tends.deliver_succ (inner : Tends c delegate first base fuel) {name : ChannelName}
    {registrations : List (Registration ChannelName (Item Nat) Failure Diary)} (value : Item Nat)
    (error : Option Failure) (chronicle : DelegateChronicle) (inside : area c delegate name)
    (users : ∀ registration ∈ registrations, IsUser c delegate registration.2)
    (tidy : Tidy c delegate first base chronicle) (linked : Linked c delegate chronicle) :
    Tended c delegate first base
      (Chronicle.recordDeliver (fuel + 1) name value registrations error chronicle) := by
  cases registrations with
  | nil => exact ⟨tidy, fun _ => linked⟩
  | cons registration others =>
    obtain ⟨user, others⟩ := List.forall_mem_cons.mp users
    obtain ⟨tidy, linked⟩ := inner.call user value (chronicle.beginCall name registration value)
      (tidy.write _) (linked.append rfl rfl rfl)
    rw [Chronicle.recordDeliver]
    generalize Chronicle.record fuel (registration.2 value)
      (chronicle.beginCall name registration value) = result at tidy linked ⊢
    obtain ⟨outcome, after⟩ := result
    cases outcome with
    | finished =>
      exact inner.deliver value error _ inside others (tidy.write _)
        ((linked (Option.some_ne_none _)).append rfl rfl rfl)
    | failed failure =>
      have ended : Linked c delegate
          (after.endCall name (some registration.1) (.failed failure)) :=
        (linked (Option.some_ne_none _)).append rfl rfl rfl
      exact inner.deliver value _ _ inside others ((tidy.write _).note error failure)
        (ended.note error failure)
    | interrupted failure =>
      exact ⟨tidy.write _, fun _ => (linked (Option.some_ne_none _)).append rfl rfl rfl⟩
    | exhausted => exact tidy.givenUp

theorem tends (c : Container) (delegate first : Nat) (base : List Event) (fuel : Nat) :
    Tends c delegate first base fuel := by
  induction fuel using Nat.strongRecOn with
  | ind fuel shorter =>
    match fuel with
    | 0 => exact .zero
    | fuel + 1 =>
      have inner : Tends c delegate first base fuel := shorter fuel (Nat.lt_succ_self fuel)
      exact ⟨Tends.program_of_shorter shorter, inner.drain_succ, inner.deliver_succ⟩

/-- Programs that are run one after the other are tended, whatever they are. -/
theorem tended_recordAll (fuel : Nat) (programs : List Program)
    (tidy : Tidy c delegate first base chronicle) (linked : Linked c delegate chronicle) :
    Tended c delegate first base
      (Chronicle.recordAll fuel (programs.map (·.recorded c delegate)) chronicle) := by
  induction programs generalizing chronicle with
  | nil => exact ⟨tidy, fun _ => linked⟩
  | cons program others inductionHypothesis =>
    obtain ⟨tidy, linked⟩ := (tends c delegate first base fuel).program program _ tidy linked
    rw [List.map_cons, Chronicle.recordAll]
    generalize Chronicle.record fuel (program.recorded c delegate) chronicle = result
      at tidy linked ⊢
    obtain ⟨outcome, after⟩ := result
    cases outcome with
    | exhausted => exact tidy.givenUp
    | finished => exact inductionHypothesis tidy (linked (Option.some_ne_none _))
    | failed failure => exact inductionHypothesis tidy (linked (Option.some_ne_none _))
    | interrupted failure => exact inductionHypothesis tidy (linked (Option.some_ne_none _))

end

end StateContainer
