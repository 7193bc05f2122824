/-
This file says how an invariant is carried through a run.

While a value is being delivered in a channel, some deliveries are still due: those to the
registrations that were present when the value was taken and have not been called yet. The
invariants of a channel are therefore statements about a chronicle and about what is due.
What is due changes at three kinds of steps only. Taking a value, which happens when
nothing is due, makes its delivery to every present registration due; the call of a
registered observer strikes off the first entry; and an interruption strikes off the
rest.

The main statement is that an invariant which every step keeps is kept by whole runs: a
run ends with the same deliveries due as it began with, because values are taken by the
outermost push only.
-/

import StateContainer.Proofs.Channel.Chronicle

namespace StateContainer

/-- Taking a value leaves the observers and the mark, and takes the value that waits longest. -/
theorem Channel.take?_eq_some_iff {ν ο : Type} {c left : Channel ν ο} {value : ν} :
    c.take? = some (value, left) ↔
      ∃ others, c.pending = value :: others ∧ left = { c with value, pending := others } := by
  unfold take?
  cases waiting : c.pending with
  | nil => simp
  | cons next others =>
    constructor
    · rintro ⟨⟩
      exact ⟨others, rfl, rfl⟩
    · rintro ⟨_, ⟨⟩, rfl⟩
      rfl

theorem Channel.pending_of_take?_eq_none {ν ο : Type} {c : Channel ν ο} (nothing : c.take? = none) :
    c.pending = [] := by
  unfold take? at nothing
  split at nothing
  · assumption
  · cases nothing

theorem Channel.delivering_of_take? {ν ο : Type} {c left : Channel ν ο} {value : ν}
    (waiting : c.take? = some (value, left)) : left.delivering = c.delivering := by
  obtain ⟨others, -, rfl⟩ := take?_eq_some_iff.mp waiting
  rfl

/-- What is due: registrations, each with the value that it has to be called with. -/
abbrev Agenda (κ ν ε σ : Type) := List (Registration κ ν ε σ × ν)

/-- The deliveries of a value that are due when it has been taken. -/
def deliveries (registrations : List (Registration κ ν ε σ)) (value : ν) : Agenda κ ν ε σ :=
  registrations.map (·, value)

/-- Whether an interruption ends the call of a registered observer of a channel. -/
def Happening.isBreak {κ ν ε σ : Type} [DecidableEq κ] (name : κ) : Happening κ ν ε σ → Bool
  | .ended other (some _) (.interrupted _) => other = name
  | _ => false

/-- Whether an interruption ended a delivery in a channel. -/
def isBrokenOff {κ ν ε σ : Type} [DecidableEq κ] (name : κ) (history : History κ ν ε σ) : Bool :=
  history.any (·.isBreak name)

/-- Whether a value is taken for delivery in a channel. -/
def Happening.isTaking {κ ν ε σ : Type} [DecidableEq κ] (name : κ) : Happening κ ν ε σ → Bool
  | .taken other _ _ => other = name
  | _ => false

/-- Whether an interruption ended the delivery of the value that was taken last in a channel. -/
def IsCutShort {κ ν ε σ : Type} [DecidableEq κ] (name : κ) (history : History κ ν ε σ) : Prop :=
  ∃ earlier happening later, history = earlier ++ happening :: later ∧
    happening.isBreak name = true ∧ ∀ next ∈ later, next.isTaking name = false

/-- A delivery that was cut short was broken off. -/
theorem IsCutShort.isBrokenOff {κ ν ε σ : Type} [DecidableEq κ] {name : κ}
    {history : History κ ν ε σ} (cutShort : IsCutShort name history) :
    isBrokenOff name history = true := by
  obtain ⟨earlier, happening, later, rfl, breaks, -⟩ := cutShort
  exact List.any_eq_true.mpr ⟨happening, List.mem_append_right _ List.mem_cons_self, breaks⟩

/-- A delivery stays cut short until another value is taken. -/
theorem IsCutShort.append {κ ν ε σ : Type} [DecidableEq κ] {name : κ}
    {history happenings : History κ ν ε σ} (cutShort : IsCutShort name history)
    (untaken : ∀ next ∈ happenings, next.isTaking name = false) :
    IsCutShort name (history ++ happenings) := by
  obtain ⟨earlier, happening, later, rfl, breaks, before⟩ := cutShort
  refine ⟨earlier, happening, later ++ happenings, ?_, breaks, fun next member => ?_⟩
  · rw [List.append_assoc, List.cons_append]
  · exact (List.mem_append.mp member).elim (before next) (untaken next)

namespace Chronicle

variable {κ ν ε σ : Type} [DecidableEq κ]

/-! ### What steps do to channels -/

theorem channel_change (chronicle : Chronicle κ ν ε σ) (other name : κ)
    (change : Channel ν (Callback κ ν ε σ) → Channel ν (Callback κ ν ε σ))
    (happenings : History κ ν ε σ) :
    (chronicle.change other change happenings).channel name =
      if name = other then change (chronicle.channel name) else chronicle.channel name := rfl

@[simp] theorem channel_change_self (chronicle : Chronicle κ ν ε σ) (name : κ)
    (change : Channel ν (Callback κ ν ε σ) → Channel ν (Callback κ ν ε σ))
    (happenings : History κ ν ε σ) :
    (chronicle.change name change happenings).channel name = change (chronicle.channel name) := by
  rw [channel_change, if_pos rfl]

theorem channel_change_of_ne (chronicle : Chronicle κ ν ε σ) {other name : κ}
    (differ : other ≠ name)
    (change : Channel ν (Callback κ ν ε σ) → Channel ν (Callback κ ν ε σ))
    (happenings : History κ ν ε σ) :
    (chronicle.change other change happenings).channel name = chronicle.channel name := by
  rw [channel_change, if_neg differ.symm]

/-- A change of the channels that leaves what a property reads leaves the property. -/
theorem apply_channel_change {α : Type} (read : Channel ν (Callback κ ν ε σ) → α)
    (chronicle : Chronicle κ ν ε σ) (other name : κ)
    (change : Channel ν (Callback κ ν ε σ) → Channel ν (Callback κ ν ε σ))
    (unread : ∀ channel, read (change channel) = read channel)
    (happenings : History κ ν ε σ) :
    read ((chronicle.change other change happenings).channel name) =
      read (chronicle.channel name) := by
  rw [channel_change]
  split
  · exact unread _
  · rfl

@[simp] theorem history_mark (chronicle : Chronicle κ ν ε σ) (name : κ) (delivering : Bool) :
    (chronicle.mark name delivering).history = chronicle.history :=
  List.append_nil _

omit [DecidableEq κ] in
@[simp] theorem channel_write (chronicle : Chronicle κ ν ε σ) (happenings : History κ ν ε σ)
    (name : κ) : (chronicle.write happenings).channel name = chronicle.channel name := rfl

omit [DecidableEq κ] in
@[simp] theorem channel_keep (chronicle : Chronicle κ ν ε σ) (change : σ → σ) (name : κ) :
    (chronicle.keep change).channel name = chronicle.channel name := rfl

omit [DecidableEq κ] in
/-- Remembering an error changes no channel. -/
theorem note_channels (bank : Bank κ ν ε σ) (first : Option ε) (error : ε) :
    (bank.note first error).2.channels = bank.channels := by
  cases first <;> rfl

omit [DecidableEq κ] in
@[simp] theorem channel_note (chronicle : Chronicle κ ν ε σ) (first : Option ε) (error : ε)
    (name : κ) : (chronicle.note first error).2.channel name = chronicle.channel name :=
  congrFun (note_channels chronicle.bank first error) name

/-! ### Invariants that every step keeps -/

/-- Every step keeps an invariant of a channel and of what is due in it. -/
structure Stable (name : κ) (holds : Agenda κ ν ε σ → Chronicle κ ν ε σ → Prop) : Prop where
  pushBusy : ∀ {due chronicle} value, (chronicle.channel name).delivering = true →
    holds due chronicle → holds due (chronicle.push name value)
  /-- A push to an idle channel begins a delivery. -/
  pushIdle : ∀ {chronicle} value, (chronicle.channel name).delivering = false →
    holds [] chronicle → holds [] ((chronicle.push name value).mark name true)
  pushElsewhere : ∀ {due chronicle other} value, other ≠ name → holds due chronicle →
    holds due (chronicle.push other value)
  markElsewhere : ∀ {due chronicle other} delivering, other ≠ name → holds due chronicle →
    holds due (chronicle.mark other delivering)
  /-- A delivery is over when nothing waits any more, or when it has been cut short. -/
  cease : ∀ {chronicle}, (IsCutShort name chronicle.history ∨
    (chronicle.channel name).pending = []) →
    holds [] chronicle → holds [] (chronicle.mark name false)
  take : ∀ {chronicle value left}, (chronicle.channel name).take? = some (value, left) →
    (chronicle.channel name).delivering = true → holds [] chronicle →
    holds (deliveries (chronicle.channel name).observers value) (chronicle.take name value left)
  takeElsewhere : ∀ {due chronicle other} value left, other ≠ name → holds due chronicle →
    holds due (chronicle.take other value left)
  call : ∀ {due chronicle registration value}, holds ((registration, value) :: due) chronicle →
    holds due (chronicle.beginCall name registration value)
  callElsewhere : ∀ {due chronicle other} registration value, other ≠ name → holds due chronicle →
    holds due (chronicle.beginCall other registration value)
  endCall : ∀ {due chronicle other token outcome},
    (token = none ∨ other ≠ name ∨ ∀ error, outcome ≠ .interrupted error) →
    holds due chronicle → holds due (chronicle.endCall other token outcome)
  breakOff : ∀ {due chronicle} token error, holds due chronicle →
    holds [] (chronicle.endCall name (some token) (.interrupted error))
  replay : ∀ {due chronicle} other observer, holds due chronicle →
    holds due (chronicle.beginReplay other observer (chronicle.channel other).value)
  register : ∀ {due chronicle} other observer replayed,
    JustReplayed other observer replayed chronicle.history → holds due chronicle →
    holds due (chronicle.register other observer replayed)
  detach : ∀ {due chronicle} other token, holds due chronicle →
    holds due (chronicle.detach other token)
  keep : ∀ {due chronicle} change, holds due chronicle → holds due (chronicle.keep change)
  note : ∀ {due chronicle} first error, holds due chronicle →
    holds due (chronicle.note first error).2

/-! ### Runs keep what every step keeps -/

/-- How a part of a run leaves an invariant: with the given deliveries due and the channel
delivering or not as it did. If the run was given up, the invariant held with something due when
the last happening was written down. -/
inductive Leaves (name : κ) (holds : Agenda κ ν ε σ → Chronicle κ ν ε σ → Prop)
    (due : Agenda κ ν ε σ) (delivering : Bool) : Outcome ε × Chronicle κ ν ε σ → Prop where
  | ended {outcome after} (kept : holds due after)
      (same : (after.channel name).delivering = delivering) :
      Leaves name holds due delivering (outcome, after)
  | givenUp {after before rest} (kept : holds rest before)
      (written : before.history = after.history) :
      Leaves name holds due delivering (.exhausted, after)

/-- An interruption was written down. -/
def IsBroken (name : κ) : Outcome ε × Chronicle κ ν ε σ → Prop
  | (.interrupted _, after) => IsCutShort name after.history
  | _ => True

/-- A delivery of all waiting values left nothing waiting, unless it was cut short or given up. -/
def IsOver (name : κ) : Outcome ε × Chronicle κ ν ε σ → Prop
  | (.exhausted, _) => True
  | (_, after) => IsCutShort name after.history ∨ (after.channel name).pending = []

/-- Every part of a run with some fuel keeps an invariant. Something may be due during a script
only if the channel is delivering, since otherwise a push of the script could take a value. -/
structure Carries (name : κ) (holds : Agenda κ ν ε σ → Chronicle κ ν ε σ → Prop) (fuel : Nat) :
    Prop where
  script : ∀ {due} script chronicle, holds due chronicle →
    ((chronicle.channel name).delivering = true ∨ due = []) →
    Leaves name holds due (chronicle.channel name).delivering (record fuel script chronicle)
  drain : ∀ first chronicle, holds [] chronicle → (chronicle.channel name).delivering = true →
    Leaves name holds [] true (recordDrain fuel name first chronicle) ∧
      IsOver name (recordDrain fuel name first chronicle)
  drainElsewhere : ∀ {due other} first chronicle, other ≠ name → holds due chronicle →
    ((chronicle.channel name).delivering = true ∨ due = []) →
    Leaves name holds due (chronicle.channel name).delivering
      (recordDrain fuel other first chronicle)
  deliver : ∀ value registrations first chronicle,
    holds (deliveries registrations value) chronicle →
    (chronicle.channel name).delivering = true →
    Leaves name holds [] true (recordDeliver fuel name value registrations first chronicle) ∧
      IsBroken name (recordDeliver fuel name value registrations first chronicle)
  deliverElsewhere : ∀ {due other} value registrations first chronicle, other ≠ name →
    holds due chronicle → ((chronicle.channel name).delivering = true ∨ due = []) →
    Leaves name holds due (chronicle.channel name).delivering
      (recordDeliver fuel other value registrations first chronicle)

section
variable {name : κ} {holds : Agenda κ ν ε σ → Chronicle κ ν ε σ → Prop}

/-- Nothing is done without fuel. -/
theorem Carries.zero : Carries name holds 0 where
  script _ _ kept _ := .ended kept rfl
  drain _ _ kept _ := ⟨.givenUp kept rfl, trivial⟩
  drainElsewhere _ _ _ kept _ := .ended kept rfl
  deliver _ _ _ _ kept _ := ⟨.givenUp kept rfl, trivial⟩
  deliverElsewhere _ _ _ _ _ kept _ := .ended kept rfl

variable {fuel : Nat}

/-- A step that leaves the mark of every channel leaves the mark of this one. -/
theorem delivering_change (chronicle : Chronicle κ ν ε σ) (other : κ)
    (change : Channel ν (Callback κ ν ε σ) → Channel ν (Callback κ ν ε σ))
    (unmarked : ∀ channel, (change channel).delivering = channel.delivering)
    (happenings : History κ ν ε σ) :
    ((chronicle.change other change happenings).channel name).delivering =
      (chronicle.channel name).delivering :=
  apply_channel_change (·.delivering) chronicle other name change unmarked happenings

theorem delivering_push (chronicle : Chronicle κ ν ε σ) (other : κ) (value : ν) :
    ((chronicle.push other value).channel name).delivering =
      (chronicle.channel name).delivering :=
  delivering_change chronicle other (·.enqueue value) (fun _ => rfl) _

theorem delivering_register (chronicle : Chronicle κ ν ε σ) (other : κ)
    (observer : Callback κ ν ε σ) (replayed : ν) :
    ((chronicle.register other observer replayed).channel name).delivering =
      (chronicle.channel name).delivering :=
  delivering_change chronicle other (·.register observer) (fun _ => rfl) _

theorem delivering_detach (chronicle : Chronicle κ ν ε σ) (other : κ) (token : Nat) :
    ((chronicle.detach other token).channel name).delivering =
      (chronicle.channel name).delivering :=
  delivering_change chronicle other (·.detach token) (fun _ => rfl) _

theorem delivering_take {chronicle : Chronicle κ ν ε σ} {value : ν}
    {left : Channel ν (Callback κ ν ε σ)}
    (waiting : (chronicle.channel name).take? = some (value, left)) :
    ((chronicle.take name value left).channel name).delivering =
      (chronicle.channel name).delivering := by
  rw [take, channel_change_self]
  exact Channel.delivering_of_take? waiting

theorem delivering_mark_self (chronicle : Chronicle κ ν ε σ) (delivering : Bool) :
    ((chronicle.mark name delivering).channel name).delivering = delivering := by
  rw [mark, channel_change_self]
  rfl

theorem delivering_mark_of_ne (chronicle : Chronicle κ ν ε σ) {other : κ} (differ : other ≠ name)
    (delivering : Bool) :
    ((chronicle.mark other delivering).channel name).delivering =
      (chronicle.channel name).delivering := by
  rw [mark, channel_change_of_ne _ differ]

theorem IsOver.of_ended {result : Outcome ε × Chronicle κ ν ε σ} (ceased : IsOver name result)
    (ended : result.1.raised? ≠ none) :
    IsCutShort name result.2.history ∨ (result.2.channel name).pending = [] := by
  obtain ⟨outcome, after⟩ := result
  cases outcome with
  | exhausted => exact absurd rfl ended
  | finished => exact ceased
  | failed error => exact ceased
  | interrupted error => exact ceased

/-- The end of a call by an interruption cuts the delivery short. -/
theorem isCutShort_endCall (chronicle : Chronicle κ ν ε σ) (token : Nat) (error : ε) :
    IsCutShort name (chronicle.endCall name (some token) (.interrupted error)).history :=
  ⟨chronicle.history, _, [], rfl, decide_eq_true rfl, fun _ => nofun⟩

/-- Going on with a script from where a part of the run was left. -/
theorem Carries.scriptFrom (inner : Carries name holds fuel) {due : Agenda κ ν ε σ}
    {delivering : Bool} (script : Script κ ν ε σ) {after : Chronicle κ ν ε σ}
    (kept : holds due after) (same : (after.channel name).delivering = delivering)
    (idle : delivering = true ∨ due = []) :
    Leaves name holds due delivering (record fuel script after) := by
  rw [← same] at idle ⊢
  exact inner.script script after kept idle

/-- Going on with a script after a delivery of all waiting values. -/
theorem Carries.scriptAfterDrain (inner : Carries name holds fuel) {due : Agenda κ ν ε σ}
    {marked delivering : Bool} (other : κ) (next : Option (Raised ε) → Script κ ν ε σ)
    {result : Outcome ε × Chronicle κ ν ε σ} (left : Leaves name holds due marked result)
    (idle : delivering = true ∨ due = [])
    (ceases : result.1.raised? ≠ none → holds due result.2 →
      (result.2.channel name).delivering = marked →
      holds due (result.2.mark other false) ∧
        ((result.2.mark other false).channel name).delivering = delivering) :
    Leaves name holds due delivering
      (match result.1.raised? with
        | some raised => record fuel (next raised) (result.2.mark other false)
        | none => (.exhausted, result.2.mark other false)) := by
  have unwritten : ∀ chronicle : Chronicle κ ν ε σ,
      chronicle.history = (chronicle.mark other false).history :=
    fun chronicle => (chronicle.history_mark other false).symm
  cases left with
  | ended kept same =>
    split
    · next raised ended =>
      obtain ⟨kept, same⟩ := ceases (by rw [ended]; simp) kept same
      exact inner.scriptFrom _ kept same idle
    · exact .givenUp kept (unwritten _)
  | givenUp kept written => exact .givenUp kept (written.trans (unwritten _))

theorem Carries.script_push (stable : Stable name holds) (inner : Carries name holds fuel)
    {due : Agenda κ ν ε σ} (other : κ) (value : ν) (next : Option (Raised ε) → Script κ ν ε σ)
    (chronicle : Chronicle κ ν ε σ) (kept : holds due chronicle)
    (idle : (chronicle.channel name).delivering = true ∨ due = []) :
    Leaves name holds due (chronicle.channel name).delivering
      (record (fuel + 1) (.push other value next) chronicle) := by
  rw [record]
  by_cases same : other = name
  · subst same
    by_cases busy : (chronicle.channel other).delivering
    · rw [if_pos busy]
      exact inner.scriptFrom _ (stable.pushBusy value busy kept)
        (delivering_push chronicle other value) idle
    · rw [if_neg busy]
      have nothing : due = [] := idle.resolve_left busy
      subst nothing
      have unmarked := Bool.eq_false_iff.mpr busy
      obtain ⟨left, ceased⟩ := inner.drain none _ (stable.pushIdle value unmarked kept)
        (delivering_mark_self _ true)
      refine inner.scriptAfterDrain other next left (Or.inr rfl) fun ended kept _ => ⟨?_, ?_⟩
      · exact stable.cease (ceased.of_ended ended) kept
      · rw [delivering_mark_self, unmarked]
  · have waits : holds due (chronicle.push other value) := stable.pushElsewhere value same kept
    by_cases busy : (chronicle.channel other).delivering
    · rw [if_pos busy]
      exact inner.scriptFrom _ waits (delivering_push chronicle other value) idle
    · rw [if_neg busy]
      have unmoved : (((chronicle.push other value).mark other true).channel name).delivering =
          (chronicle.channel name).delivering := by
        rw [delivering_mark_of_ne _ same, delivering_push]
      refine inner.scriptAfterDrain other next
        (inner.drainElsewhere none _ same (stable.markElsewhere true same waits) (unmoved ▸ idle))
        idle fun _ kept left => ⟨stable.markElsewhere false same kept, ?_⟩
      rw [delivering_mark_of_ne _ same, left, unmoved]

theorem Carries.script_subscribe (stable : Stable name holds) (inner : Carries name holds fuel)
    {due : Agenda κ ν ε σ} (other : κ) (observer : Callback κ ν ε σ)
    (next : Except (Raised ε) Nat → Script κ ν ε σ) (chronicle : Chronicle κ ν ε σ)
    (kept : holds due chronicle)
    (idle : (chronicle.channel name).delivering = true ∨ due = []) :
    Leaves name holds due (chronicle.channel name).delivering
      (record (fuel + 1) (.subscribe other observer next) chronicle) := by
  have replayed := inner.script (observer (chronicle.channel other).value)
    (chronicle.beginReplay other observer (chronicle.channel other).value)
    (stable.replay other observer kept) idle
  have returned := justReplayed fuel chronicle other observer
  rw [record]
  generalize record fuel (observer (chronicle.channel other).value)
    (chronicle.beginReplay other observer (chronicle.channel other).value) = result
    at replayed returned ⊢
  cases replayed with
  | @ended outcome after kept same =>
    have ended : ∀ outcome, holds due (after.endCall other none outcome) :=
      fun outcome => stable.endCall (Or.inl rfl) kept
    cases outcome with
    | exhausted => exact .ended kept same
    | finished =>
      refine inner.scriptFrom _ (stable.register other observer _ returned (ended _)) ?_ idle
      rw [delivering_register]
      exact same
    | failed error => exact inner.scriptFrom _ (ended _) same idle
    | interrupted error => exact inner.scriptFrom _ (ended _) same idle
  | givenUp kept written => exact .givenUp kept written

/-- A script carries an invariant if its parts do. -/
theorem Carries.script_succ (stable : Stable name holds) (inner : Carries name holds fuel)
    {due : Agenda κ ν ε σ} (script : Script κ ν ε σ) (chronicle : Chronicle κ ν ε σ)
    (kept : holds due chronicle)
    (idle : (chronicle.channel name).delivering = true ∨ due = []) :
    Leaves name holds due (chronicle.channel name).delivering
      (record (fuel + 1) script chronicle) := by
  cases script with
  | finish => exact .ended kept rfl
  | fail error => exact .ended kept rfl
  | interrupt error => exact .ended kept rfl
  | push other value next => exact inner.script_push stable other value next chronicle kept idle
  | subscribe other observer next =>
    exact inner.script_subscribe stable other observer next chronicle kept idle
  | dispose other token next =>
    exact inner.scriptFrom next (stable.detach other token kept)
      (delivering_detach chronicle other token) idle
  | read other next => exact inner.script _ chronicle kept idle
  | consult next => exact inner.script _ chronicle kept idle
  | update change next => exact inner.scriptFrom next (stable.keep change kept) rfl idle

/-- The delivery of all waiting values carries an invariant if its parts do. -/
theorem Carries.drain_succ (stable : Stable name holds) (inner : Carries name holds fuel)
    (first : Option ε) (chronicle : Chronicle κ ν ε σ) (kept : holds [] chronicle)
    (marked : (chronicle.channel name).delivering = true) :
    Leaves name holds [] true (recordDrain (fuel + 1) name first chronicle) ∧
      IsOver name (recordDrain (fuel + 1) name first chronicle) := by
  rw [recordDrain]
  cases waiting : (chronicle.channel name).take? with
  | none =>
    refine ⟨.ended kept marked, ?_⟩
    have nothing := Channel.pending_of_take?_eq_none waiting
    cases first with
    | none => exact Or.inr nothing
    | some error => exact Or.inr nothing
  | some next =>
    obtain ⟨value, left⟩ := next
    have delivered := inner.deliver value (chronicle.channel name).observers first
      (chronicle.take name value left) (stable.take waiting marked kept)
      ((delivering_take waiting).trans marked)
    dsimp only
    generalize recordDeliver fuel name value (chronicle.channel name).observers first
      (chronicle.take name value left) = result at delivered ⊢
    obtain ⟨delivered, broken⟩ := delivered
    cases delivered with
    | @ended outcome after kept same =>
      cases outcome with
      | finished => exact inner.drain none after kept same
      | failed error => exact inner.drain (some error) after kept same
      | interrupted error => exact ⟨.ended kept same, Or.inl broken⟩
      | exhausted => exact ⟨.ended kept same, trivial⟩
    | givenUp kept written => exact ⟨.givenUp kept written, trivial⟩

/-- So does the delivery of all waiting values of another channel. -/
theorem Carries.drainElsewhere_succ (stable : Stable name holds) (inner : Carries name holds fuel)
    {due : Agenda κ ν ε σ} {other : κ} (first : Option ε) (chronicle : Chronicle κ ν ε σ)
    (differ : other ≠ name) (kept : holds due chronicle)
    (idle : (chronicle.channel name).delivering = true ∨ due = []) :
    Leaves name holds due (chronicle.channel name).delivering
      (recordDrain (fuel + 1) other first chronicle) := by
  rw [recordDrain]
  cases (chronicle.channel other).take? with
  | none => exact .ended kept rfl
  | some next =>
    obtain ⟨value, left⟩ := next
    have unmoved : (chronicle.take other value left).channel name = chronicle.channel name :=
      channel_change_of_ne chronicle differ _ _
    have delivered := inner.deliverElsewhere value (chronicle.channel other).observers first
      (chronicle.take other value left) differ (stable.takeElsewhere value left differ kept)
      (unmoved ▸ idle)
    rw [unmoved] at delivered
    dsimp only
    generalize recordDeliver fuel other value (chronicle.channel other).observers first
      (chronicle.take other value left) = result at delivered ⊢
    cases delivered with
    | @ended outcome after kept same =>
      rw [← same] at idle ⊢
      cases outcome with
      | finished => exact inner.drainElsewhere none after differ kept idle
      | failed error => exact inner.drainElsewhere (some error) after differ kept idle
      | interrupted error => exact .ended kept rfl
      | exhausted => exact .ended kept rfl
    | givenUp kept written => exact .givenUp kept written

/-- The delivery of one value carries an invariant if its parts do. -/
theorem Carries.deliver_succ (stable : Stable name holds) (inner : Carries name holds fuel)
    (value : ν) (registrations : List (Registration κ ν ε σ)) (first : Option ε)
    (chronicle : Chronicle κ ν ε σ) (kept : holds (deliveries registrations value) chronicle)
    (marked : (chronicle.channel name).delivering = true) :
    Leaves name holds [] true
        (recordDeliver (fuel + 1) name value registrations first chronicle) ∧
      IsBroken name (recordDeliver (fuel + 1) name value registrations first chronicle) := by
  cases registrations with
  | nil =>
    refine ⟨.ended kept marked, ?_⟩
    cases first with
    | none => exact trivial
    | some error => exact trivial
  | cons registration others =>
    have called := inner.script (registration.2 value)
      (chronicle.beginCall name registration value) (stable.call kept) (Or.inl marked)
    rw [recordDeliver]
    generalize record fuel (registration.2 value)
      (chronicle.beginCall name registration value) = result at called ⊢
    cases called with
    | @ended outcome after kept same =>
      have delivering : (after.channel name).delivering = true := same.trans marked
      cases outcome with
      | finished =>
        have answered : holds (deliveries others value)
            (after.endCall name (some registration.1) .finished) :=
          stable.endCall (Or.inr (Or.inr (by simp))) kept
        exact inner.deliver value others first _ answered delivering
      | failed error =>
        have answered : holds (deliveries others value)
            (after.endCall name (some registration.1) (.failed error)) :=
          stable.endCall (Or.inr (Or.inr (by simp))) kept
        exact inner.deliver value others _ _ (stable.note first error answered)
          ((congrArg Channel.delivering (channel_note _ first error name)).trans delivering)
      | interrupted error =>
        exact ⟨.ended (stable.breakOff _ error kept) delivering, isCutShort_endCall after _ error⟩
      | exhausted => exact ⟨.givenUp kept rfl, trivial⟩
    | givenUp kept written => exact ⟨.givenUp kept written, trivial⟩

/-- So does the delivery of one value in another channel. -/
theorem Carries.deliverElsewhere_succ (stable : Stable name holds)
    (inner : Carries name holds fuel) {due : Agenda κ ν ε σ} {other : κ} (value : ν)
    (registrations : List (Registration κ ν ε σ)) (first : Option ε)
    (chronicle : Chronicle κ ν ε σ) (differ : other ≠ name) (kept : holds due chronicle)
    (idle : (chronicle.channel name).delivering = true ∨ due = []) :
    Leaves name holds due (chronicle.channel name).delivering
      (recordDeliver (fuel + 1) other value registrations first chronicle) := by
  cases registrations with
  | nil => exact .ended kept rfl
  | cons registration others =>
    have called := inner.script (registration.2 value)
      (chronicle.beginCall other registration value)
      (stable.callElsewhere registration value differ kept) idle
    rw [recordDeliver]
    generalize record fuel (registration.2 value)
      (chronicle.beginCall other registration value) = result at called ⊢
    cases called with
    | @ended outcome after kept same =>
      have ended : ∀ outcome,
          holds due (after.endCall other (some registration.1) outcome) :=
        fun outcome => stable.endCall (Or.inr (Or.inl differ)) kept
      have unmoved : (after.channel name).delivering = (chronicle.channel name).delivering := same
      rw [← unmoved] at idle ⊢
      cases outcome with
      | finished => exact inner.deliverElsewhere value others first _ differ (ended _) idle
      | failed error =>
        have noted := inner.deliverElsewhere value others
          ((after.endCall other (some registration.1) (.failed error)).note first error).1
          ((after.endCall other (some registration.1) (.failed error)).note first error).2
          differ (stable.note first error (ended _)) (by rw [channel_note]; exact idle)
        rw [channel_note] at noted
        exact noted
      | interrupted error => exact .ended (ended _) rfl
      | exhausted => exact .ended kept rfl
    | givenUp kept written => exact .givenUp kept written

/-- An invariant that every step keeps is carried through every part of a run. -/
theorem Stable.carries (stable : Stable name holds) (fuel : Nat) : Carries name holds fuel := by
  induction fuel with
  | zero => exact .zero
  | succ fuel inner =>
    exact {
      script := inner.script_succ stable
      drain := inner.drain_succ stable
      drainElsewhere := inner.drainElsewhere_succ stable
      deliver := inner.deliver_succ stable
      deliverElsewhere := inner.deliverElsewhere_succ stable }

/-- A run from the outside that was not given up leaves an idle channel idle, with an invariant
that every step keeps. One that was given up leaves the invariant with something due. -/
theorem Stable.recordAll (stable : Stable name holds) (fuel : Nat)
    (scripts : List (Script κ ν ε σ)) (chronicle : Chronicle κ ν ε σ)
    (kept : holds [] chronicle) (idle : (chronicle.channel name).delivering = false) :
    Leaves name holds [] false (recordAll fuel scripts chronicle) := by
  induction scripts generalizing chronicle with
  | nil => exact .ended kept idle
  | cons script others inductionHypothesis =>
    have ran := (stable.carries fuel).script script chronicle kept (Or.inr rfl)
    rw [idle] at ran
    rw [Chronicle.recordAll]
    generalize record fuel script chronicle = result at ran ⊢
    cases ran with
    | @ended outcome after kept same =>
      cases outcome with
      | exhausted => exact .ended kept same
      | finished => exact inductionHypothesis after kept same
      | failed error => exact inductionHypothesis after kept same
      | interrupted error => exact inductionHypothesis after kept same
    | givenUp kept written => exact .givenUp kept written

end

end Chronicle

end StateContainer
