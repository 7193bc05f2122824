/-
This file follows a channel through its history.

A situation is what matters about a channel between two happenings: its value, the values
that wait, the registrations, and what is due. It says of each happening when it may
come next and what it leads to. Values are taken oldest first, and only when nothing is
due; nobody is called on account of a registration but whose turn it is; a replay follows
on its subscription at once; and whoever is called is called with the value of the channel.

The main statement is that the history of every run is a way from the first situation of
the channel to the one that the run leaves. What the channel does in general is then read
off such ways.
-/

import Mathlib.Data.List.Induction
import StateContainer.Proofs.Channel.Agenda

namespace StateContainer

variable {κ ν ε σ : Type}

/-! ### Situations -/

/-- What matters about a channel between two happenings. -/
structure Situation (κ ν ε σ : Type) where
  value : ν
  /-- The values that were pushed and not taken yet. -/
  waiting : List ν := []
  present : List (Registration κ ν ε σ) := []
  nextToken : Nat := 0
  /-- The deliveries of the value that have not been made yet. -/
  due : Agenda κ ν ε σ := []
  /-- The observer of a subscription whose replay has not begun yet. -/
  promised : Option (Callback κ ν ε σ) := none

/-- The channel that something happens in. -/
def Happening.place : Happening κ ν ε σ → κ
  | .pushed name _ => name
  | .taken name _ _ => name
  | .subscribing name _ => name
  | .called name _ _ _ _ => name
  | .ended name _ _ => name
  | .registered name _ _ _ _ => name
  | .detached name _ => name

/-- What may happen in a situation of a channel, and the situation that it leads to. -/
inductive Turn (name : κ) : Situation κ ν ε σ → Happening κ ν ε σ → Situation κ ν ε σ → Prop where
  | push (now : Situation κ ν ε σ) (value : ν) :
      Turn name now (.pushed name value) { now with waiting := now.waiting ++ [value] }
  | take (now : Situation κ ν ε σ) (value : ν) (waiting : List ν)
      (oldest : now.waiting = value :: waiting) (delivered : now.due = []) :
      Turn name now (.taken name value now.present)
        { now with value, waiting, due := deliveries now.present value }
  | call (now : Situation κ ν ε σ) (registration : Registration κ ν ε σ) (value : ν)
      (due : Agenda κ ν ε σ) (turn : now.due = (registration, value) :: due) :
      Turn name now (.called name (some registration.1) registration.2 value now.value)
        { now with due }
  | subscribe (now : Situation κ ν ε σ) (observer : Callback κ ν ε σ)
      (free : now.promised = none) :
      Turn name now (.subscribing name observer) { now with promised := some observer }
  | replay (now : Situation κ ν ε σ) (observer : Callback κ ν ε σ)
      (promised : now.promised = some observer) :
      Turn name now (.called name none observer now.value now.value) { now with promised := none }
  | answer (now : Situation κ ν ε σ) (token : Option Nat) (outcome : Outcome ε)
      (quiet : token = none ∨ ∀ error, outcome ≠ .interrupted error) :
      Turn name now (.ended name token outcome) now
  | breakOff (now : Situation κ ν ε σ) (token : Nat) (error : ε) :
      Turn name now (.ended name (some token) (.interrupted error)) { now with due := [] }
  | register (now : Situation κ ν ε σ) (observer : Callback κ ν ε σ) (replayed : ν) :
      Turn name now (.registered name now.nextToken observer replayed now.value)
        { now with
          present := now.present ++ [(now.nextToken, observer)]
          nextToken := now.nextToken + 1 }
  | detach (now : Situation κ ν ε σ) (token : Nat) :
      Turn name now (.detached name token)
        { now with present := now.present.filter (·.1 ≠ token) }
  | elsewhere (now : Situation κ ν ε σ) (happening : Happening κ ν ε σ)
      (away : happening.place ≠ name) : Turn name now happening now

/-- A way through situations: what happens in turn, from the first situation to the last. -/
inductive Way (name : κ) : Situation κ ν ε σ → History κ ν ε σ → Situation κ ν ε σ → Prop where
  | nil (now : Situation κ ν ε σ) : Way name now [] now
  | cons {now next last : Situation κ ν ε σ} {happening : Happening κ ν ε σ}
      {later : History κ ν ε σ} (turn : Turn name now happening next)
      (way : Way name next later last) : Way name now (happening :: later) last

namespace Way

variable {name : κ} {first now last : Situation κ ν ε σ} {earlier later : History κ ν ε σ}
  {happening : Happening κ ν ε σ}

theorem append (before : Way name first earlier now) (after : Way name now later last) :
    Way name first (earlier ++ later) last := by
  induction before with
  | nil => exact after
  | cons turn _ inductionHypothesis => exact .cons turn (inductionHypothesis after)

theorem snoc (before : Way name first earlier now) (turn : Turn name now happening last) :
    Way name first (earlier ++ [happening]) last :=
  before.append (.cons turn (.nil last))

/-- A way leads through some situation at each moment of its history. -/
theorem exists_of_append (way : Way name first (earlier ++ later) last) :
    ∃ now, Way name first earlier now ∧ Way name now later last := by
  induction earlier generalizing first with
  | nil => exact ⟨first, .nil first, way⟩
  | cons happening earlier inductionHypothesis =>
    cases way with
    | cons turn rest =>
      obtain ⟨now, before, after⟩ := inductionHypothesis rest
      exact ⟨now, .cons turn before, after⟩

theorem turn_of_single (way : Way name now [happening] last) : Turn name now happening last := by
  cases way with
  | cons turn rest =>
    cases rest with
    | nil => exact turn

/-- What holds of the first situation and is kept by every turn holds at the end of a way. -/
theorem preserves (holds : History κ ν ε σ → Situation κ ν ε σ → Prop)
    (way : Way name first earlier last) (start : holds [] first)
    (step : ∀ {earlier now happening next}, Way name first earlier now →
      Turn name now happening next → holds earlier now → holds (earlier ++ [happening]) next) :
    holds earlier last := by
  induction earlier using List.reverseRecOn generalizing last with
  | nil =>
    cases way
    exact start
  | append_singleton earlier happening inductionHypothesis =>
    obtain ⟨now, before, after⟩ := way.exists_of_append
    exact step before after.turn_of_single (inductionHypothesis before)

end Way

/-! ### Runs are ways -/

/-- The situation of a channel in which something is due. -/
def Situation.of (channel : Channel ν (Callback κ ν ε σ)) (due : Agenda κ ν ε σ) :
    Situation κ ν ε σ where
  value := channel.value
  waiting := channel.pending
  present := channel.observers
  nextToken := channel.nextToken
  due := due

variable [DecidableEq κ] {name other : κ} {first : Situation κ ν ε σ}
  {chronicle : Chronicle κ ν ε σ} {due : Agenda κ ν ε σ}

/-- The history of a chronicle is a way to the situation of a channel in which something is due. -/
def Leads (name : κ) (first : Situation κ ν ε σ) (due : Agenda κ ν ε σ)
    (chronicle : Chronicle κ ν ε σ) : Prop :=
  Way name first chronicle.history (.of (chronicle.channel name) due)

omit [DecidableEq κ] in
theorem Leads.way (leads : Leads name first due chronicle) :
    Way name first chronicle.history (.of (chronicle.channel name) due) :=
  leads

/-- A way goes on with a change of some channel. -/
theorem Leads.change (leads : Leads name first due chronicle)
    {change : Channel ν (Callback κ ν ε σ) → Channel ν (Callback κ ν ε σ)}
    {happening : Happening κ ν ε σ} (place : happening.place = other)
    (here : other = name → Turn name (.of (chronicle.channel name) due) happening
      (.of (change (chronicle.channel name)) due)) :
    Leads name first due (chronicle.change other change [happening]) := by
  refine leads.way.snoc ?_
  by_cases same : other = name
  · subst same
    rw [Chronicle.channel_change_self]
    exact here rfl
  · rw [Chronicle.channel_change_of_ne _ same]
    exact .elsewhere _ _ (place ▸ same)

omit [DecidableEq κ] in
/-- A way goes on with something that changes no channel. -/
theorem Leads.write {rest : Agenda κ ν ε σ} (leads : Leads name first due chronicle)
    {happening : Happening κ ν ε σ}
    (turn : Turn name (.of (chronicle.channel name) due) happening
      (.of (chronicle.channel name) rest)) :
    Leads name first rest (chronicle.write [happening]) :=
  Way.snoc leads turn

theorem Leads.push (leads : Leads name first due chronicle) (other : κ) (value : ν) :
    Leads name first due (chronicle.push other value) :=
  leads.change rfl fun same => same ▸ .push _ value

/-- Whether the values that wait are being delivered does not matter. -/
theorem Leads.mark (leads : Leads name first due chronicle) (other : κ) (delivering : Bool) :
    Leads name first due (chronicle.mark other delivering) := by
  have unmoved : Situation.of ((chronicle.mark other delivering).channel name) due =
      Situation.of (chronicle.channel name) due :=
    Chronicle.apply_channel_change (Situation.of · due) chronicle other name
      (·.mark delivering) (fun _ => rfl) []
  rw [Leads, unmoved, Chronicle.history_mark]
  exact leads

/-- Every step goes on with a way. -/
theorem stable_leads : Chronicle.Stable name (Leads (ν := ν) (ε := ε) (σ := σ) name first) where
  pushBusy value _ leads := leads.push name value
  pushIdle value _ leads := (leads.push name value).mark name true
  pushElsewhere value _ leads := leads.push _ value
  markElsewhere delivering _ leads := leads.mark _ delivering
  cease _ leads := leads.mark name false
  take {chronicle value left} waiting _ leads := by
    obtain ⟨others, oldest, rfl⟩ := Channel.take?_eq_some_iff.mp waiting
    refine leads.way.snoc ?_
    rw [Chronicle.take, Chronicle.channel_change_self]
    exact .take (.of (chronicle.channel name) []) value others oldest rfl
  takeElsewhere value left differ leads :=
    leads.change rfl fun same => absurd same differ
  call leads := leads.write (.call _ _ _ _ rfl)
  callElsewhere registration value differ leads := leads.write (.elsewhere _ _ differ)
  endCall {due chronicle other token outcome} quiet leads := by
    refine leads.write ?_
    by_cases same : other = name
    · subst same
      exact .answer _ token outcome (quiet.imp_right fun rest => rest.resolve_left (· rfl))
    · exact .elsewhere _ _ same
  breakOff token error leads := leads.write (.breakOff _ token error)
  replay {due chronicle} other observer leads := by
    refine leads.way.append ?_
    by_cases same : other = name
    · subst same
      exact .cons (.subscribe _ observer rfl) (.cons (.replay _ observer rfl) (.nil _))
    · exact .cons (.elsewhere _ _ same) (.cons (.elsewhere _ _ same) (.nil _))
  register other observer replayed _ leads := by
    refine leads.change rfl fun same => ?_
    subst same
    exact .register _ observer replayed
  detach other token leads := by
    refine leads.change rfl fun same => ?_
    subst same
    exact .detach _ token
  keep change leads := leads
  note {due chronicle} first error leads := by
    rw [Leads, Chronicle.channel_note]
    exact leads

/-! ### Nothing is left waiting -/

/-- A channel has delivered all that was pushed, unless it is still delivering or an interruption
cut its last delivery short. -/
def Emptied (name : κ) (_due : Agenda κ ν ε σ) (chronicle : Chronicle κ ν ε σ) : Prop :=
  (chronicle.channel name).delivering = true ∨ IsCutShort name chronicle.history ∨
    (chronicle.channel name).pending = []

theorem isBrokenOff_append (name : κ) (earlier later : History κ ν ε σ) :
    isBrokenOff name (earlier ++ later) = (isBrokenOff name earlier || isBrokenOff name later) :=
  List.any_append

/-- What takes no value and keeps those that wait and the mark leaves a channel emptied. -/
theorem Emptied.change (emptied : Emptied name due chronicle)
    (change : Channel ν (Callback κ ν ε σ) → Channel ν (Callback κ ν ε σ))
    (here : other = name → ∀ channel, (change channel).delivering = channel.delivering ∧
      (change channel).pending = channel.pending)
    (rest : Agenda κ ν ε σ) {happenings : History κ ν ε σ}
    (untaken : ∀ next ∈ happenings, next.isTaking name = false) :
    Emptied name rest (chronicle.change other change happenings) := by
  have unmoved : ((chronicle.change other change happenings).channel name).delivering =
        (chronicle.channel name).delivering ∧
      ((chronicle.change other change happenings).channel name).pending =
        (chronicle.channel name).pending := by
    rw [Chronicle.channel_change]
    split
    · next same => exact here same.symm _
    · exact ⟨rfl, rfl⟩
  rw [Emptied, unmoved.1, unmoved.2, Chronicle.change]
  exact emptied.imp_right (Or.imp_left fun cutShort => cutShort.append untaken)

theorem Emptied.write (emptied : Emptied name due chronicle) (rest : Agenda κ ν ε σ)
    {happenings : History κ ν ε σ} (untaken : ∀ next ∈ happenings, next.isTaking name = false) :
    Emptied name rest (chronicle.write happenings) := by
  rw [Emptied, Chronicle.channel_write, Chronicle.write]
  exact emptied.imp_right (Or.imp_left fun cutShort => cutShort.append untaken)

/-- Every step leaves a channel emptied: a push to an idle channel begins a delivery, and a
delivery ceases when nothing waits any more. -/
theorem stable_emptied : Chronicle.Stable name (Emptied (ν := ν) (ε := ε) (σ := σ) name) where
  pushBusy {_ chronicle} value busy _ :=
    Or.inl ((Chronicle.delivering_push chronicle name value).trans busy)
  pushIdle value _ _ := Or.inl (Chronicle.delivering_mark_self _ true)
  pushElsewhere value differ emptied :=
    emptied.change _ (fun same => absurd same differ) _ (by simp [Happening.isTaking])
  markElsewhere delivering differ emptied :=
    emptied.change _ (fun same => absurd same differ) _ (fun _ => nofun)
  cease {chronicle} ceased _ := by
    refine Or.inr ?_
    rw [Chronicle.history_mark, Chronicle.mark, Chronicle.channel_change_self]
    exact ceased
  take waiting busy _ := Or.inl ((Chronicle.delivering_take waiting).trans busy)
  takeElsewhere value left differ emptied :=
    emptied.change _ (fun same => absurd same differ) _ (by simp [Happening.isTaking, differ])
  call emptied := emptied.write _ (by simp [Happening.isTaking])
  callElsewhere registration value _ emptied := emptied.write _ (by simp [Happening.isTaking])
  endCall _ emptied := emptied.write _ (by simp [Happening.isTaking])
  breakOff token error emptied := emptied.write _ (by simp [Happening.isTaking])
  replay other observer emptied := emptied.write _ (by simp [Happening.isTaking])
  register other observer replayed _ emptied :=
    emptied.change (·.register observer) (fun _ _ => ⟨rfl, rfl⟩) _ (by simp [Happening.isTaking])
  detach other token emptied :=
    emptied.change (·.detach token) (fun _ _ => ⟨rfl, rfl⟩) _ (by simp [Happening.isTaking])
  keep change emptied := emptied
  note {due chronicle} first error emptied := by
    rw [Emptied, Chronicle.channel_note]
    exact emptied

/-- A chronicle that begins when a channel does. -/
def Chronicle.opened (bank : Bank κ ν ε σ) (name : κ) (initial : ν) : Chronicle κ ν ε σ :=
  { bank := bank.start name initial }

/-- A new channel. -/
theorem Chronicle.channel_opened (bank : Bank κ ν ε σ) (name : κ) (initial : ν) :
    (opened bank name initial).channel name = { value := initial } :=
  if_pos rfl

/-- Whatever is run from the outside, the history of a new channel is a way from its beginning. At
the end of a run that was not given up nothing is due. -/
theorem leads_recordAll (fuel : Nat) (scripts : List (Script κ ν ε σ)) (bank : Bank κ ν ε σ)
    (name : κ) (initial : ν) :
    Chronicle.Leaves name (Leads name { value := initial }) [] false
      (Chronicle.recordAll fuel scripts (.opened bank name initial)) := by
  refine stable_leads.recordAll fuel scripts _ ?_ ?_
  · rw [Leads, Chronicle.channel_opened]
    exact .nil _
  · rw [Chronicle.channel_opened]

end StateContainer
