/-
This file takes runs apart into steps.

Seen from one channel, a run is at each moment in one of a few places. Mostly a script is at work, be it
one from the outside, the replay of a subscription or the call of an observer. If the script pushes a
value to the idle channel, its values are delivered: each of them is taken, and the registered observers
are called with it, whose scripts are then at work. Deliveries in other channels are no places of their
own. A step says what happens at one place and which place it leads to.

The main statement is that every run goes through such steps, also one that is given up. What every step
keeps therefore holds at all moments of all runs.
-/

import StateContainer.Proofs.Channel.Sparing

namespace StateContainer

variable {κ ν ε σ : Type}

/-! ### Steps -/

namespace Chronicle

variable [DecidableEq κ]

/-- Where a run is, as seen from one channel. -/
inductive Site where
  /-- A script is at work. -/
  | script
  /-- The waiting values are being delivered, and no value is taken. -/
  | drain
  /-- A value has been taken and is being delivered, and no observer is at work. -/
  | deliver
  /-- The run has been given up. -/
  | over
deriving DecidableEq

/-- What a run does at one site, as seen from one channel, and the site that it leads to. -/
inductive Step (name : κ) : Site → Chronicle κ ν ε σ → Site → Chronicle κ ν ε σ → Prop where
  | push {c : Chronicle κ ν ε σ} (other : κ) (value : ν) :
      Step name .script c .script (c.push other value)
  | detach {c : Chronicle κ ν ε σ} (other : κ) (token : Nat) :
      Step name .script c .script (c.detach other token)
  | beginReplay {c : Chronicle κ ν ε σ} (other : κ) (observer : Callback κ ν ε σ) (value : ν) :
      Step name .script c .script (c.beginReplay other observer value)
  | endReplay {c : Chronicle κ ν ε σ} (other : κ) (outcome : Outcome ε) :
      Step name .script c .script (c.endCall other none outcome)
  | register {c : Chronicle κ ν ε σ} (other : κ) (observer : Callback κ ν ε σ) (replayed : ν) :
      Step name .script c .script (c.register other observer replayed)
  | keep {c : Chronicle κ ν ε σ} (change : σ → σ) : Step name .script c .script (c.keep change)
  | note {site : Site} {c : Chronicle κ ν ε σ} (first : Option ε) (error : ε) :
      Step name site c site (c.note first error).2
  /-- A push to the idle channel begins a delivery. -/
  | begin {c : Chronicle κ ν ε σ} (idle : (c.channel name).delivering = false) :
      Step name .script c .drain (c.mark name true)
  | cease {c : Chronicle κ ν ε σ} : Step name .drain c .script (c.mark name false)
  | take {c : Chronicle κ ν ε σ} {value : ν} {left : Channel ν (Callback κ ν ε σ)}
      (waiting : (c.channel name).take? = some (value, left)) :
      Step name .drain c .deliver (c.take name value left)
  | finish {c : Chronicle κ ν ε σ} : Step name .deliver c .drain c
  | call {c : Chronicle κ ν ε σ} (registration : Registration κ ν ε σ) (value : ν) :
      Step name .deliver c .script (c.beginCall name registration value)
  /-- A registered observer is at work only while a delivery is going on. -/
  | answer {c : Chronicle κ ν ε σ} (token : Nat) (outcome : Outcome ε)
      (busy : (c.channel name).delivering = true) :
      Step name .script c .deliver (c.endCall name (some token) outcome)
  | markElsewhere {c : Chronicle κ ν ε σ} {other : κ} (differ : other ≠ name) (delivering : Bool) :
      Step name .script c .script (c.mark other delivering)
  | takeElsewhere {c : Chronicle κ ν ε σ} {other : κ} (differ : other ≠ name) (value : ν)
      (left : Channel ν (Callback κ ν ε σ)) : Step name .script c .script (c.take other value left)
  | callElsewhere {c : Chronicle κ ν ε σ} {other : κ} (differ : other ≠ name)
      (registration : Registration κ ν ε σ) (value : ν) :
      Step name .script c .script (c.beginCall other registration value)
  | answerElsewhere {c : Chronicle κ ν ε σ} {other : κ} (differ : other ≠ name) (token : Nat)
      (outcome : Outcome ε) : Step name .script c .script (c.endCall other (some token) outcome)
  | stop {site : Site} {c : Chronicle κ ν ε σ} : Step name site c .over c
  /-- A delivery that is given up leaves its channel unmarked. -/
  | giveUp {c : Chronicle κ ν ε σ} (other : κ) : Step name .over c .over (c.mark other false)

/-- Going from one moment to another one step by step. -/
inductive Steps (name : κ) (site : Site) (start : Chronicle κ ν ε σ) :
    Site → Chronicle κ ν ε σ → Prop where
  | refl : Steps name site start site start
  | tail {middle last : Site} {c next : Chronicle κ ν ε σ} (steps : Steps name site start middle c)
      (step : Step name middle c last next) : Steps name site start last next

variable {name : κ} {site middle last : Site} {start c next : Chronicle κ ν ε σ}

theorem Steps.trans (first : Steps name site start middle c) (second : Steps name middle c last next) :
    Steps name site start last next := by
  induction second with
  | refl => exact first
  | tail _ step inductionHypothesis => exact inductionHypothesis.tail step

theorem Steps.single (step : Step name site start last next) : Steps name site start last next :=
  .tail .refl step

theorem Steps.head (step : Step name site start middle c) (rest : Steps name middle c last next) :
    Steps name site start last next :=
  (Steps.single step).trans rest

/-- What holds at first and is kept by every step holds at all moments. -/
theorem Steps.preserves (holds : Site → Chronicle κ ν ε σ → Prop)
    (steps : Steps name site start last c) (first : holds site start)
    (each : ∀ {site c last next}, Step name site c last next → holds site c → holds last next) :
    holds last c := by
  induction steps with
  | refl => exact first
  | tail _ step inductionHypothesis => exact each step inductionHypothesis

/-- A channel is marked as long as its values are being delivered. -/
def Site.Marks (name : κ) (site : Site) (c : Chronicle κ ν ε σ) : Prop :=
  site = .drain ∨ site = .deliver → (c.channel name).delivering = true

theorem Step.marks (step : Step name site c last next) (marks : site.Marks name c) :
    last.Marks name next := by
  cases step with
  | begin idle => exact fun _ => delivering_mark_self _ true
  | take waiting => exact fun _ => (delivering_take waiting).trans (marks (Or.inl rfl))
  | finish => exact fun _ => marks (Or.inr rfl)
  | answer token outcome busy => exact fun _ => busy
  | note first error =>
    intro delivers
    rw [channel_note]
    exact marks delivers
  | _ => exact fun delivers => absurd delivers (by decide)

theorem Steps.marks (steps : Steps name site start last c) (first : site.Marks name start) :
    last.Marks name c :=
  steps.preserves (Site.Marks name) first Step.marks

/-! ### Runs go through steps -/

/-- Whether a part of a run goes through steps, and is where it began if it has ended. -/
def GoesThrough (name : κ) (site : Site) (start : Chronicle κ ν ε σ)
    (result : Outcome ε × Chronicle κ ν ε σ) : Prop :=
  ∃ last, Steps name site start last result.2 ∧ (result.1.raised? ≠ none → last = site)

variable {result : Outcome ε × Chronicle κ ν ε σ}

theorem goesThrough_nothing (outcome : Outcome ε) : GoesThrough name site start (outcome, start) :=
  ⟨site, .refl, fun _ => rfl⟩

theorem GoesThrough.of_steps {outcome : Outcome ε} (steps : Steps name site start site next) :
    GoesThrough name site start (outcome, next) :=
  ⟨site, steps, fun _ => rfl⟩

theorem GoesThrough.of_exhausted (steps : Steps name site start last next) :
    GoesThrough name site start (.exhausted, next) :=
  ⟨last, steps, fun ended => absurd rfl ended⟩

/-- What goes through steps does so, too, with what stands before it. -/
theorem GoesThrough.after (through : GoesThrough name site c result)
    (steps : Steps name site start site c) : GoesThrough name site start result := by
  obtain ⟨last, rest, ended⟩ := through
  exact ⟨last, steps.trans rest, ended⟩

theorem GoesThrough.afterStep (through : GoesThrough name site c result)
    (step : Step name site start site c) : GoesThrough name site start result :=
  through.after (.single step)

/-- A part of a run that has ended is where it began. -/
theorem GoesThrough.of_ended (through : GoesThrough name site start result)
    (ended : result.1.raised? ≠ none) : Steps name site start site result.2 := by
  obtain ⟨last, steps, same⟩ := through
  exact same ended ▸ steps

/-- Every part of a run with some fuel goes through steps. -/
structure Walks (name : κ) (ν ε σ : Type) (fuel : Nat) : Prop where
  script : ∀ (script : Script κ ν ε σ) (c : Chronicle κ ν ε σ),
    GoesThrough name .script c (record fuel script c)
  drain : ∀ (first : Option ε) (c : Chronicle κ ν ε σ), (c.channel name).delivering = true →
    GoesThrough name .drain c (recordDrain fuel name first c)
  drainElsewhere : ∀ {other : κ} (first : Option ε) (c : Chronicle κ ν ε σ), other ≠ name →
    GoesThrough name .script c (recordDrain fuel other first c)
  deliver : ∀ (value : ν) (registrations : List (Registration κ ν ε σ)) (first : Option ε)
      (c : Chronicle κ ν ε σ), (c.channel name).delivering = true →
    GoesThrough name .deliver c (recordDeliver fuel name value registrations first c)
  deliverElsewhere : ∀ {other : κ} (value : ν) (registrations : List (Registration κ ν ε σ))
      (first : Option ε) (c : Chronicle κ ν ε σ), other ≠ name →
    GoesThrough name .script c (recordDeliver fuel other value registrations first c)

variable {fuel : Nat}

/-- A script that has ended leaves the mark of a channel. -/
theorem delivering_record_eq (script : Script κ ν ε σ)
    (ended : (record fuel script c).1.raised? ≠ none) :
    ((record fuel script c).2.channel name).delivering = (c.channel name).delivering :=
  ((@stable_true κ ν ε σ _ name).carries fuel |>.script script c
    (trivial : (fun _ _ => True) [] c) (Or.inr rfl)).delivering_eq ended

/-- After a delivery has begun and gone through steps, its channel is left unmarked, and the script that
pushed the value goes on. -/
theorem Walks.script_afterDrain (inner : Walks name ν ε σ fuel) {other : κ}
    (next : Option (Raised ε) → Script κ ν ε σ) {begun : Chronicle κ ν ε σ}
    (begins : Steps name .script c site begun) (drained : GoesThrough name site begun result)
    (ceases : ∀ c : Chronicle κ ν ε σ, Step name site c .script (c.mark other false)) :
    GoesThrough name .script c (match result.1.raised? with
      | some raised => record fuel (next raised) (result.2.mark other false)
      | none => (.exhausted, result.2.mark other false)) := by
  cases ending : result.1.raised? with
  | none =>
    obtain ⟨last, steps, -⟩ := drained
    exact .of_exhausted (((begins.trans steps).tail .stop).tail (.giveUp other))
  | some raised =>
    have steps := drained.of_ended (by rw [ending]; exact Option.some_ne_none raised)
    exact (inner.script _ _).after ((begins.trans steps).tail (ceases result.2))

theorem Walks.script_push (inner : Walks name ν ε σ fuel) (other : κ) (value : ν)
    (next : Option (Raised ε) → Script κ ν ε σ) (c : Chronicle κ ν ε σ) :
    GoesThrough name .script c (record (fuel + 1) (.push other value next) c) := by
  rw [record]
  by_cases busy : (c.channel other).delivering
  · rw [if_pos busy]
    exact (inner.script _ _).afterStep (.push other value)
  · rw [if_neg busy]
    by_cases same : other = name
    · subst same
      have idle : ((c.push other value).channel other).delivering = false :=
        (delivering_push c other value).trans (Bool.eq_false_iff.mpr busy)
      have begins : Steps other .script c .drain ((c.push other value).mark other true) :=
        (Steps.single (.push other value)).tail (.begin idle)
      exact inner.script_afterDrain next begins
        (inner.drain none _ (delivering_mark_self _ true)) fun _ => .cease
    · have begins : Steps name .script c .script ((c.push other value).mark other true) :=
        (Steps.single (.push other value)).tail (.markElsewhere same true)
      exact inner.script_afterDrain next begins (inner.drainElsewhere none _ same)
        fun _ => .markElsewhere same false

theorem Walks.script_subscribe (inner : Walks name ν ε σ fuel) (other : κ)
    (observer : Callback κ ν ε σ) (next : Except (Raised ε) Nat → Script κ ν ε σ)
    (c : Chronicle κ ν ε σ) :
    GoesThrough name .script c (record (fuel + 1) (.subscribe other observer next) c) := by
  have replayed := (inner.script (observer (c.channel other).value)
    (c.beginReplay other observer (c.channel other).value)).afterStep (.beginReplay other observer _)
  rw [record]
  generalize record fuel (observer (c.channel other).value)
    (c.beginReplay other observer (c.channel other).value) = result at replayed ⊢
  obtain ⟨outcome, after⟩ := result
  have ended (ends : outcome.raised? ≠ none) :
      Steps name .script c .script (after.endCall other none outcome) :=
    (replayed.of_ended ends).tail (.endReplay other outcome)
  cases outcome with
  | exhausted => exact replayed
  | finished =>
    exact (inner.script _ _).after
      ((ended (Option.some_ne_none _)).tail (.register other observer (c.channel other).value))
  | failed error => exact (inner.script _ _).after (ended (Option.some_ne_none _))
  | interrupted error => exact (inner.script _ _).after (ended (Option.some_ne_none _))

theorem Walks.script_succ (inner : Walks name ν ε σ fuel) (script : Script κ ν ε σ)
    (c : Chronicle κ ν ε σ) : GoesThrough name .script c (record (fuel + 1) script c) := by
  cases script with
  | finish => exact goesThrough_nothing _
  | fail error => exact goesThrough_nothing _
  | interrupt error => exact goesThrough_nothing _
  | push other value next => exact inner.script_push other value next c
  | subscribe other observer next => exact inner.script_subscribe other observer next c
  | dispose other token next => exact (inner.script next _).afterStep (.detach other token)
  | read other next => exact inner.script _ c
  | consult next => exact inner.script _ c
  | update change next => exact (inner.script next _).afterStep (.keep change)

theorem Walks.drain_succ (inner : Walks name ν ε σ fuel) (first : Option ε) (c : Chronicle κ ν ε σ)
    (busy : (c.channel name).delivering = true) :
    GoesThrough name .drain c (recordDrain (fuel + 1) name first c) := by
  rw [recordDrain]
  cases waiting : (c.channel name).take? with
  | none => exact goesThrough_nothing _
  | some next =>
    obtain ⟨value, left⟩ := next
    have delivered := inner.deliver value (c.channel name).observers first (c.take name value left)
      ((delivering_take waiting).trans busy)
    dsimp only
    generalize recordDeliver fuel name value (c.channel name).observers first
      (c.take name value left) = result at delivered ⊢
    obtain ⟨outcome, after⟩ := result
    have finished (ends : outcome.raised? ≠ none) : Steps name .drain c .drain after :=
      (Steps.head (.take waiting) (delivered.of_ended ends)).tail .finish
    have goesOn (ends : outcome.raised? ≠ none) (first : Option ε) :
        GoesThrough name .drain c (recordDrain fuel name first after) :=
      (inner.drain first after ((finished ends).marks (fun _ => busy) (Or.inl rfl))).after (finished ends)
    cases outcome with
    | finished => exact goesOn (Option.some_ne_none _) none
    | failed error => exact goesOn (Option.some_ne_none _) (some error)
    | interrupted error => exact .of_steps (finished (Option.some_ne_none _))
    | exhausted =>
      obtain ⟨last, steps, -⟩ := delivered
      exact .of_exhausted (Steps.head (.take waiting) steps)

theorem Walks.drainElsewhere_succ (inner : Walks name ν ε σ fuel) {other : κ} (first : Option ε)
    (c : Chronicle κ ν ε σ) (differ : other ≠ name) :
    GoesThrough name .script c (recordDrain (fuel + 1) other first c) := by
  rw [recordDrain]
  cases (c.channel other).take? with
  | none => exact goesThrough_nothing _
  | some next =>
    obtain ⟨value, left⟩ := next
    have delivered := (inner.deliverElsewhere value (c.channel other).observers first
      (c.take other value left) differ).afterStep (.takeElsewhere differ value left)
    dsimp only
    generalize recordDeliver fuel other value (c.channel other).observers first
      (c.take other value left) = result at delivered ⊢
    obtain ⟨outcome, after⟩ := result
    cases outcome with
    | finished =>
      exact (inner.drainElsewhere none after differ).after (delivered.of_ended (Option.some_ne_none _))
    | failed error =>
      exact (inner.drainElsewhere (some error) after differ).after
        (delivered.of_ended (Option.some_ne_none _))
    | interrupted error => exact delivered
    | exhausted => exact delivered

theorem Walks.deliver_succ (inner : Walks name ν ε σ fuel) (value : ν)
    (registrations : List (Registration κ ν ε σ)) (first : Option ε) (c : Chronicle κ ν ε σ)
    (busy : (c.channel name).delivering = true) :
    GoesThrough name .deliver c (recordDeliver (fuel + 1) name value registrations first c) := by
  cases registrations with
  | nil => exact goesThrough_nothing _
  | cons registration others =>
    have called := inner.script (registration.2 value) (c.beginCall name registration value)
    have unmoved := @delivering_record_eq κ ν ε σ _ name (c.beginCall name registration value) fuel
      (registration.2 value)
    rw [recordDeliver]
    generalize record fuel (registration.2 value) (c.beginCall name registration value) = result
      at called unmoved ⊢
    obtain ⟨outcome, after⟩ := result
    have marked (ends : outcome.raised? ≠ none) : (after.channel name).delivering = true :=
      (unmoved ends).trans busy
    have answered (ends : outcome.raised? ≠ none) : Steps name .deliver c .deliver
        (after.endCall name (some registration.1) outcome) :=
      (Steps.head (.call registration value) (called.of_ended ends)).tail
        (.answer registration.1 outcome (marked ends))
    cases outcome with
    | finished =>
      have ends := Option.some_ne_none (none : Option (Raised ε))
      exact GoesThrough.after (inner.deliver value others first
        (after.endCall name (some registration.1) .finished) (marked ends)) (answered ends)
    | failed error =>
      have ends := Option.some_ne_none (some (Raised.error error))
      have noted := congrArg Channel.delivering
        (channel_note (after.endCall name (some registration.1) (.failed error)) first error name)
      exact (inner.deliver value others _ _ (noted.trans (marked ends))).after
        ((answered ends).tail (.note first error))
    | interrupted error => exact .of_steps (answered (Option.some_ne_none _))
    | exhausted =>
      obtain ⟨last, steps, -⟩ := called
      exact .of_exhausted (Steps.head (.call registration value) steps)

theorem Walks.deliverElsewhere_succ (inner : Walks name ν ε σ fuel) {other : κ} (value : ν)
    (registrations : List (Registration κ ν ε σ)) (first : Option ε) (c : Chronicle κ ν ε σ)
    (differ : other ≠ name) :
    GoesThrough name .script c (recordDeliver (fuel + 1) other value registrations first c) := by
  cases registrations with
  | nil => exact goesThrough_nothing _
  | cons registration others =>
    have called := (inner.script (registration.2 value)
      (c.beginCall other registration value)).afterStep (.callElsewhere differ registration value)
    rw [recordDeliver]
    generalize record fuel (registration.2 value) (c.beginCall other registration value) = result
      at called ⊢
    obtain ⟨outcome, after⟩ := result
    have answered (ends : outcome.raised? ≠ none) : Steps name .script c .script
        (after.endCall other (some registration.1) outcome) :=
      (called.of_ended ends).tail (.answerElsewhere differ registration.1 outcome)
    cases outcome with
    | finished =>
      exact (inner.deliverElsewhere value others first _ differ).after
        (answered (Option.some_ne_none _))
    | failed error =>
      exact (inner.deliverElsewhere value others _ _ differ).after
        ((answered (Option.some_ne_none _)).tail (.note first error))
    | interrupted error => exact .of_steps (answered (Option.some_ne_none _))
    | exhausted => exact called

theorem walks (name : κ) (fuel : Nat) : Walks name ν ε σ fuel := by
  induction fuel with
  | zero =>
    exact ⟨fun _ _ => goesThrough_nothing _, fun _ _ _ => goesThrough_nothing _,
      fun _ _ _ => goesThrough_nothing _, fun _ _ _ _ _ => goesThrough_nothing _,
      fun _ _ _ _ _ => goesThrough_nothing _⟩
  | succ fuel inner =>
    exact ⟨inner.script_succ, inner.drain_succ, inner.drainElsewhere_succ, inner.deliver_succ,
      inner.deliverElsewhere_succ⟩

/-- Whatever is run from the outside goes through steps. -/
theorem goesThrough_recordAll (fuel : Nat) (scripts : List (Script κ ν ε σ)) (c : Chronicle κ ν ε σ) :
    GoesThrough name .script c (recordAll fuel scripts c) := by
  induction scripts generalizing c with
  | nil => exact goesThrough_nothing _
  | cons script others inductionHypothesis =>
    have ran := (walks name fuel).script script c
    rw [recordAll]
    generalize record fuel script c = result at ran ⊢
    obtain ⟨outcome, after⟩ := result
    cases outcome with
    | exhausted => exact ran
    | finished => exact (inductionHypothesis after).after (ran.of_ended (Option.some_ne_none _))
    | failed error => exact (inductionHypothesis after).after (ran.of_ended (Option.some_ne_none _))
    | interrupted error => exact (inductionHypothesis after).after (ran.of_ended (Option.some_ne_none _))

end Chronicle

end StateContainer
