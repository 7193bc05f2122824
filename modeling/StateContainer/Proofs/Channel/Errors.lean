/-
This file says what becomes of the errors that observers raise.

A push to an idle channel delivers all values that wait, its own and those that observers push
meanwhile. An observer that fails keeps nothing from the others; the first error is raised by
the push when nothing waits any more, and the later ones are logged. While it delivers, other
channels may deliver in turn, inside of calls, and log errors of their own. Each error that is
logged is therefore told apart by the channel in whose delivery it was raised.

The main statement is `settled_of_push`. It holds for a push in any state of all channels. If
a value is being delivered in the channel already, the push raises nothing. Otherwise, unless
an interruption broke off the delivery, it leaves the channel idle and empty, with the value
that was pushed last; it raises the first error among the calls that it made itself, and has
logged the later ones, each once and in their order.
-/

import StateContainer.Proofs.Channel.Delivery
import StateContainer.Proofs.Channel.Nesting

namespace StateContainer

variable {κ ν ε σ : Type}

/-! ### Reading errors -/

/-- The error that a delivery ends with, and the channel that it is made in. -/
def Happening.failure? : Happening κ ν ε σ → Option (κ × ε)
  | .ended name (some _) (.failed error) => some (name, error)
  | _ => none

/-- The errors that deliveries end with, the earliest first. -/
def failures (history : History κ ν ε σ) : List (κ × ε) :=
  history.filterMap Happening.failure?

/-- The value that was pushed to a channel last, whether it has been delivered or not. -/
def Channel.latest {ν ο : Type} (c : Channel ν ο) : ν :=
  c.pending.getLastD c.value

theorem Channel.latest_enqueue {ν ο : Type} (c : Channel ν ο) (value : ν) :
    (c.enqueue value).latest = value := by
  rw [latest, enqueue, List.getLastD_concat]

/-- Taking a value leaves the one that was pushed last. -/
theorem Channel.latest_of_take? {ν ο : Type} {c left : Channel ν ο} {value : ν}
    (waiting : c.take? = some (value, left)) : left.latest = c.latest := by
  obtain ⟨others, oldest, rfl⟩ := take?_eq_some_iff.mp waiting
  rw [latest, latest, oldest, List.getLastD_cons]

theorem failures_append (earlier later : History κ ν ε σ) :
    failures (earlier ++ later) = failures earlier ++ failures later :=
  List.filterMap_append

/-- What is remembered of some errors and of later ones is the first of all, and what is left of
them is logged. -/
theorem head?_toList_append {errors later : List ε} :
    (errors.head?.toList ++ later).head? = (errors ++ later).head? ∧
      errors.tail ++ (errors.head?.toList ++ later).tail = (errors ++ later).tail := by
  cases errors with
  | nil => exact ⟨rfl, rfl⟩
  | cons first others => exact ⟨rfl, rfl⟩

namespace Chronicle

variable [DecidableEq κ] {name other : κ} {chronicle middle after : Chronicle κ ν ε σ}
  {made earlier later : History κ ν ε σ} {logged : List (κ × ε)}

/-! ### What parts of runs log -/

/-- What a part of a run has made of a history, of the log and of a channel. Errors are logged in the
order in which calls end with them. -/
structure Passes (name : κ) (chronicle after : Chronicle κ ν ε σ) (made : History κ ν ε σ)
    (logged : List (κ × ε)) : Prop where
  written : after.history = chronicle.history ++ made
  log : after.bank.log = chronicle.bank.log ++ logged.map (·.2)
  inOrder : logged.Sublist (failures made)
  latest : (after.channel name).latest =
    (pushedTo name made).getLastD (chronicle.channel name).latest
  delivering : (after.channel name).delivering = (chronicle.channel name).delivering

theorem Passes.trans {loggedLater : List (κ × ε)} (first : Passes name chronicle middle earlier logged)
    (second : Passes name middle after later loggedLater) :
    Passes name chronicle after (earlier ++ later) (logged ++ loggedLater) where
  written := by rw [second.written, first.written, List.append_assoc]
  log := by rw [second.log, first.log, List.map_append, List.append_assoc]
  inOrder := by
    rw [failures_append]
    exact first.inOrder.append second.inOrder
  latest := by
    rw [second.latest, first.latest, pushedTo, pushedTo, pushedTo, found_append]
    cases pushedBehind : found name Happening.pushed? later using List.reverseRecOn with
    | nil => rw [List.append_nil]; rfl
    | append_singleton => rw [← List.append_assoc, List.getLastD_concat, List.getLastD_concat]
  delivering := second.delivering.trans first.delivering

omit [DecidableEq κ] in
/-- Nothing has passed yet. -/
theorem Passes.refl [DecidableEq κ] (name : κ) (chronicle : Chronicle κ ν ε σ) :
    Passes name chronicle chronicle [] [] where
  written := (List.append_nil _).symm
  log := (List.append_nil _).symm
  inOrder := List.Sublist.refl []
  latest := rfl
  delivering := rfl

/-- A channel changes, and the value that was pushed last to it changes only if it is a push. -/
theorem Passes.change (name : κ) (chronicle : Chronicle κ ν ε σ)
    (change : Channel ν (Callback κ ν ε σ) → Channel ν (Callback κ ν ε σ))
    (happening : Happening κ ν ε σ) (place : happening.place = other)
    (latest : (change (chronicle.channel other)).latest =
      happening.pushed?.getD (chronicle.channel other).latest)
    (unmarked : (change (chronicle.channel other)).delivering =
      (chronicle.channel other).delivering) :
    Passes name chronicle (chronicle.change other change [happening]) [happening] [] where
  written := rfl
  log := (List.append_nil _).symm
  inOrder := List.nil_sublist _
  latest := by
    by_cases same : other = name
    · subst same
      rw [channel_change_self, latest, pushedTo, found_singleton, if_pos place]
      cases happening.pushed? <;> rfl
    · rw [channel_change_of_ne _ same, pushedTo, found_singleton, if_neg (place ▸ same)]
      rfl
  delivering := by
    by_cases same : other = name
    · subst same
      rw [channel_change_self, unmarked]
    · rw [channel_change_of_ne _ same]

/-- Something is written down, and nothing is logged. -/
theorem Passes.write (name : κ) (chronicle : Chronicle κ ν ε σ) {happenings : History κ ν ε σ}
    (unpushed : ∀ happening ∈ happenings, happening.pushed? = none) :
    Passes name chronicle (chronicle.write happenings) happenings [] where
  written := rfl
  log := (List.append_nil _).symm
  inOrder := List.nil_sublist _
  latest := by
    have nothing : pushedTo name happenings = [] := by
      rw [pushedTo, found, List.filterMap_eq_nil_iff]
      exact fun happening member => unpushed happening (List.mem_filter.mp member).1
    rw [nothing]
    rfl
  delivering := rfl

/-- Marking another channel passes unnoticed. -/
theorem Passes.mark (chronicle : Chronicle κ ν ε σ) (differ : other ≠ name) (delivering : Bool) :
    Passes name chronicle (chronicle.mark other delivering) [] [] where
  written := rfl
  log := (List.append_nil _).symm
  inOrder := List.Sublist.refl []
  latest := by
    rw [Chronicle.mark, channel_change_of_ne _ differ]
    rfl
  delivering := delivering_mark_of_ne chronicle differ delivering

/-- The error that a delivery ends with is logged, unless it is the first one. -/
theorem Passes.note (name : κ) (chronicle : Chronicle κ ν ε σ) (other : κ) (token : Nat)
    (first : Option ε) (error : ε) :
    Passes name chronicle ((chronicle.endCall other (some token) (.failed error)).note first error).2
      [.ended other (some token) (.failed error)] (first.toList.map fun _ => (other, error)) where
  written := rfl
  log := by
    cases first with
    | none => exact (List.append_nil _).symm
    | some earlier => rfl
  inOrder := by
    cases first with
    | none => exact List.nil_sublist _
    | some earlier => exact List.Sublist.refl _
  latest := by
    rw [channel_note, endCall, channel_write, pushedTo, found_singleton]
    split <;> rfl
  delivering := by rw [channel_note, endCall, channel_write]

/-! ### What happens meanwhile -/

/-- Whether nothing was logged for a channel. -/
def IsQuiet (name : κ) (chronicle after : Chronicle κ ν ε σ) : Prop :=
  ∃ made logged, Passes name chronicle after made logged ∧ ∀ entry ∈ logged, entry.1 ≠ name

theorem IsQuiet.trans (first : IsQuiet name chronicle middle) (second : IsQuiet name middle after) :
    IsQuiet name chronicle after := by
  obtain ⟨earlier, logged, passes, quiet⟩ := first
  obtain ⟨later, loggedLater, passesLater, quietLater⟩ := second
  refine ⟨_, _, passes.trans passesLater, fun entry member => ?_⟩
  exact (List.mem_append.mp member).elim (quiet entry) (quietLater entry)

theorem IsQuiet.delivering (quiet : IsQuiet name chronicle after) :
    (after.channel name).delivering = (chronicle.channel name).delivering := by
  obtain ⟨_, _, passes, _⟩ := quiet
  exact passes.delivering

theorem Passes.isQuiet (passes : Passes name chronicle after made []) : IsQuiet name chronicle after :=
  ⟨made, [], passes, List.forall_mem_nil _⟩

/-- What parts of runs do while a channel delivers is quiet, unless they are of its own delivery. -/
structure Quiets (ν ε σ : Type) (name : κ) (fuel : Nat) : Prop where
  script : ∀ (script : Script κ ν ε σ) (chronicle : Chronicle κ ν ε σ),
    (chronicle.channel name).delivering = true →
    IsQuiet name chronicle (record fuel script chronicle).2
  drain : ∀ {other : κ} (first : Option ε) (chronicle : Chronicle κ ν ε σ), other ≠ name →
    (chronicle.channel name).delivering = true →
    IsQuiet name chronicle (recordDrain fuel other first chronicle).2
  deliver : ∀ {other : κ} (value : ν) (registrations : List (Registration κ ν ε σ))
      (first : Option ε) (chronicle : Chronicle κ ν ε σ), other ≠ name →
    (chronicle.channel name).delivering = true →
    IsQuiet name chronicle (recordDeliver fuel other value registrations first chronicle).2

variable {fuel : Nat}

/-- Going on with a script after something quiet. -/
theorem Quiets.scriptAfter (inner : Quiets ν ε σ name fuel) (script : Script κ ν ε σ)
    (busy : (chronicle.channel name).delivering = true) (quiet : IsQuiet name chronicle middle) :
    IsQuiet name chronicle (record fuel script middle).2 :=
  quiet.trans (inner.script script middle (quiet.delivering.trans busy))

theorem isQuiet_push (name : κ) (chronicle : Chronicle κ ν ε σ) (other : κ) (value : ν) :
    IsQuiet name chronicle (chronicle.push other value) :=
  (Passes.change name chronicle (·.enqueue value) (.pushed other value) rfl
    (Channel.latest_enqueue _ value) rfl).isQuiet

theorem Quiets.script_push (inner : Quiets ν ε σ name fuel) (other : κ) (value : ν)
    (next : Option (Raised ε) → Script κ ν ε σ) (chronicle : Chronicle κ ν ε σ)
    (busy : (chronicle.channel name).delivering = true) :
    IsQuiet name chronicle (record (fuel + 1) (.push other value next) chronicle).2 := by
  have pushed := isQuiet_push name chronicle other value
  rw [record]
  by_cases busyThere : (chronicle.channel other).delivering
  · rw [if_pos busyThere]
    exact inner.scriptAfter _ busy pushed
  · rw [if_neg busyThere]
    have differ : other ≠ name := by
      rintro rfl
      exact busyThere busy
    have begun : IsQuiet name chronicle ((chronicle.push other value).mark other true) :=
      pushed.trans (Passes.mark _ differ true).isQuiet
    have drained := begun.trans
      (inner.drain none _ differ (begun.delivering.trans busy))
    generalize recordDrain fuel other none ((chronicle.push other value).mark other true) = result
      at drained ⊢
    have idle : IsQuiet name chronicle (result.2.mark other false) :=
      drained.trans (Passes.mark _ differ false).isQuiet
    dsimp only
    split
    · exact inner.scriptAfter _ busy idle
    · exact idle

theorem isQuiet_endCall (name : κ) (chronicle : Chronicle κ ν ε σ) (other : κ) (token : Option Nat)
    (outcome : Outcome ε) : IsQuiet name chronicle (chronicle.endCall other token outcome) :=
  (Passes.write name chronicle (List.forall_mem_singleton.mpr rfl)).isQuiet

theorem isQuiet_register (name : κ) (chronicle : Chronicle κ ν ε σ) (other : κ)
    (observer : Callback κ ν ε σ) (replayed : ν) :
    IsQuiet name chronicle (chronicle.register other observer replayed) :=
  (Passes.change name chronicle (·.register observer)
    (.registered other (chronicle.channel other).nextToken observer replayed
      (chronicle.channel other).value) rfl rfl rfl).isQuiet

theorem Quiets.script_subscribe (inner : Quiets ν ε σ name fuel) (other : κ)
    (observer : Callback κ ν ε σ) (next : Except (Raised ε) Nat → Script κ ν ε σ)
    (chronicle : Chronicle κ ν ε σ) (busy : (chronicle.channel name).delivering = true) :
    IsQuiet name chronicle (record (fuel + 1) (.subscribe other observer next) chronicle).2 := by
  have begun : IsQuiet name chronicle
      (chronicle.beginReplay other observer (chronicle.channel other).value) :=
    (Passes.write name chronicle
      (List.forall_mem_cons.mpr ⟨rfl, List.forall_mem_singleton.mpr rfl⟩)).isQuiet
  have replayed := inner.scriptAfter (observer (chronicle.channel other).value) busy begun
  rw [record]
  dsimp only
  generalize record fuel (observer (chronicle.channel other).value)
    (chronicle.beginReplay other observer (chronicle.channel other).value) = result at replayed ⊢
  have ended := replayed.trans (isQuiet_endCall name result.2 other none result.1)
  split
  · exact inner.scriptAfter _ busy (ended.trans (isQuiet_register name _ other observer _))
  · exact inner.scriptAfter _ busy ended
  · exact replayed

theorem Quiets.script_succ (inner : Quiets ν ε σ name fuel) (script : Script κ ν ε σ)
    (chronicle : Chronicle κ ν ε σ) (busy : (chronicle.channel name).delivering = true) :
    IsQuiet name chronicle (record (fuel + 1) script chronicle).2 := by
  have nothing : IsQuiet name chronicle chronicle := (Passes.refl name chronicle).isQuiet
  cases script with
  | finish => exact nothing
  | fail error => exact nothing
  | interrupt error => exact nothing
  | push other value next => exact inner.script_push other value next chronicle busy
  | subscribe other observer next => exact inner.script_subscribe other observer next chronicle busy
  | dispose other token next =>
    exact inner.scriptAfter next busy (Passes.change name chronicle (·.detach token)
      (.detached other token) rfl rfl rfl).isQuiet
  | read other next => exact inner.script _ chronicle busy
  | consult next => exact inner.script _ chronicle busy
  | update change next =>
    exact inner.scriptAfter next busy ⟨[], [], ⟨(List.append_nil _).symm, (List.append_nil _).symm,
      List.Sublist.refl [], rfl, rfl⟩, List.forall_mem_nil _⟩

theorem Quiets.drain_succ (inner : Quiets ν ε σ name fuel) (first : Option ε)
    (chronicle : Chronicle κ ν ε σ) (differ : other ≠ name)
    (busy : (chronicle.channel name).delivering = true) :
    IsQuiet name chronicle (recordDrain (fuel + 1) other first chronicle).2 := by
  rw [recordDrain]
  cases waiting : (chronicle.channel other).take? with
  | none => exact (Passes.refl name chronicle).isQuiet
  | some next =>
    obtain ⟨value, left⟩ := next
    have taken : IsQuiet name chronicle (chronicle.take other value left) :=
      (Passes.change name chronicle (fun _ => left)
        (.taken other value (chronicle.channel other).observers) rfl
        (Channel.latest_of_take? waiting) (Channel.delivering_of_take? waiting)).isQuiet
    have delivered := taken.trans (inner.deliver value (chronicle.channel other).observers first _
      differ (taken.delivering.trans busy))
    dsimp only
    generalize recordDeliver fuel other value (chronicle.channel other).observers first
      (chronicle.take other value left) = result at delivered ⊢
    obtain ⟨outcome, after⟩ := result
    have still := delivered.delivering.trans busy
    cases outcome with
    | finished => exact delivered.trans (inner.drain none after differ still)
    | failed error => exact delivered.trans (inner.drain (some error) after differ still)
    | interrupted error => exact delivered
    | exhausted => exact delivered

theorem Quiets.deliver_succ (inner : Quiets ν ε σ name fuel) (value : ν)
    (registrations : List (Registration κ ν ε σ)) (first : Option ε)
    (chronicle : Chronicle κ ν ε σ) (differ : other ≠ name)
    (busy : (chronicle.channel name).delivering = true) :
    IsQuiet name chronicle
      (recordDeliver (fuel + 1) other value registrations first chronicle).2 := by
  cases registrations with
  | nil => exact (Passes.refl name chronicle).isQuiet
  | cons registration others =>
    have begun : IsQuiet name chronicle (chronicle.beginCall other registration value) :=
      (Passes.write name chronicle (List.forall_mem_singleton.mpr rfl)).isQuiet
    have called := inner.scriptAfter (registration.2 value) busy begun
    rw [recordDeliver]
    generalize record fuel (registration.2 value)
      (chronicle.beginCall other registration value) = result at called ⊢
    obtain ⟨outcome, after⟩ := result
    have goesOn {middle : Chronicle κ ν ε σ} (first : Option ε) (quiet : IsQuiet name chronicle middle) :
        IsQuiet name chronicle (recordDeliver fuel other value others first middle).2 :=
      quiet.trans (inner.deliver value others first middle differ (quiet.delivering.trans busy))
    cases outcome with
    | finished => exact goesOn first (called.trans (isQuiet_endCall name after other _ _))
    | failed error =>
      have noted : IsQuiet name after
          ((after.endCall other (some registration.1) (.failed error)).note first error).2 := by
        refine ⟨_, _, Passes.note name after other registration.1 first error, ?_⟩
        intro entry member
        obtain ⟨_, _, rfl⟩ := List.mem_map.mp member
        exact differ
      exact goesOn _ (called.trans noted)
    | interrupted error => exact called.trans (isQuiet_endCall name after other _ _)
    | exhausted => exact called

theorem quiets (name : κ) (fuel : Nat) : Quiets ν ε σ name fuel := by
  induction fuel with
  | zero =>
    exact ⟨fun _ chronicle _ => (Passes.refl name chronicle).isQuiet,
      fun _ chronicle _ _ => (Passes.refl name chronicle).isQuiet,
      fun _ _ _ chronicle _ _ => (Passes.refl name chronicle).isQuiet⟩
  | succ fuel inner => exact ⟨inner.script_succ, inner.drain_succ, inner.deliver_succ⟩

/-! ### What a delivery raises -/

/-- What a channel's own delivery has made of the errors of the calls that it made itself. One error
is remembered before and one after, if there was any; the others are logged. -/
structure Raises (name : κ) (first last : Option ε) (chronicle after : Chronicle κ ν ε σ)
    (made : History κ ν ε σ) (logged : List (κ × ε)) (errors : List ε) : Prop extends
    Passes name chronicle after made logged where
  encloses : Encloses (·.place = name) made
  own : failures (outermost 0 made) = errors.map (name, ·)
  remembered : last = (first.toList ++ errors).head?
  others : logged.filter (·.1 = name) = (first.toList ++ errors).tail.map (name, ·)

variable {first mid last : Option ε} {errors errorsLater : List ε} {loggedLater : List (κ × ε)}

theorem Raises.trans (before : Raises name first mid chronicle middle earlier logged errors)
    (behind : Raises name mid last middle after later loggedLater errorsLater) :
    Raises name first last chronicle after (earlier ++ later) (logged ++ loggedLater)
      (errors ++ errorsLater) where
  toPasses := before.toPasses.trans behind.toPasses
  encloses := before.encloses.append behind.encloses
  own := by
    rw [outermost_append before.encloses, failures_append, before.own, behind.own, List.map_append]
  remembered := by
    rw [behind.remembered, before.remembered, head?_toList_append.1, List.append_assoc]
  others := by
    rw [List.filter_append, before.others, behind.others, before.remembered, ← List.map_append,
      head?_toList_append.2, List.append_assoc]

/-- Nothing is raised as long as nothing happens. -/
theorem Raises.refl (name : κ) (first : Option ε) (chronicle : Chronicle κ ν ε σ) :
    Raises name first first chronicle chronicle [] [] [] where
  toPasses := Passes.refl name chronicle
  encloses := .nil _
  own := rfl
  remembered := by cases first <;> rfl
  others := by cases first <;> rfl

/-- Taking a value raises nothing. -/
theorem Raises.take {value : ν} {left : Channel ν (Callback κ ν ε σ)} (first : Option ε)
    (waiting : (chronicle.channel name).take? = some (value, left)) :
    Raises name first first chronicle (chronicle.take name value left)
      [.taken name value (chronicle.channel name).observers] [] [] where
  toPasses := Passes.change name chronicle (fun _ => left)
    (.taken name value (chronicle.channel name).observers) rfl
    (Channel.latest_of_take? waiting) (Channel.delivering_of_take? waiting)
  encloses := .step rfl rfl (.nil _)
  own := rfl
  remembered := by cases first <;> rfl
  others := by cases first <;> rfl

/-- What the call of a registered observer has made of a history. What happens inside of the call is
quiet, since the channel is delivering. -/
theorem exists_passes_of_call (name : κ) (registration : Registration κ ν ε σ) (value : ν)
    (chronicle : Chronicle κ ν ε σ) {fuel : Nat} {outcome : Outcome ε}
    (called : record fuel (registration.2 value) (chronicle.beginCall name registration value) =
      (outcome, after))
    (ends : outcome.raised? ≠ none) (busy : (chronicle.channel name).delivering = true) :
    ∃ inside logged, Encloses (fun _ => True) inside ∧ (∀ entry ∈ logged, entry.1 ≠ name) ∧
      Passes name chronicle after
        (.called name (some registration.1) registration.2 value (chronicle.channel name).value ::
          inside) logged := by
  have begun : Passes name chronicle (chronicle.beginCall name registration value)
      [.called name (some registration.1) registration.2 value (chronicle.channel name).value] [] :=
    Passes.write name chronicle (List.forall_mem_singleton.mpr rfl)
  have quiet := (quiets name fuel).script (registration.2 value) _ (begun.delivering.trans busy)
  have nested := (nests fuel).script (registration.2 value)
    (chronicle.beginCall name registration value)
  rw [called] at quiet nested
  obtain ⟨inside, logged, passes, quiet⟩ := quiet
  obtain ⟨added, grown, encloses⟩ := nested ends
  obtain rfl : inside = added := List.append_cancel_left (passes.written.symm.trans grown)
  exact ⟨inside, logged, encloses, quiet, begun.trans passes⟩

/-- A call that returns raises nothing. -/
theorem exists_raises_of_finished (registration : Registration κ ν ε σ) (value : ν)
    (first : Option ε) {fuel : Nat}
    (called : record fuel (registration.2 value) (chronicle.beginCall name registration value) =
      (.finished, after))
    (busy : (chronicle.channel name).delivering = true) :
    ∃ made logged, Raises name first first chronicle
      (after.endCall name (some registration.1) .finished) made logged [] := by
  obtain ⟨inside, logged, encloses, quiet, passes⟩ :=
    exists_passes_of_call name registration value chronicle called (Option.some_ne_none _) busy
  have ended : Passes name after (after.endCall name (some registration.1) .finished)
      [.ended name (some registration.1) .finished] [] :=
    Passes.write name after (List.forall_mem_singleton.mpr rfl)
  refine ⟨_, _, passes.trans ended, .call rfl encloses (.nil _), ?_, ?_, ?_⟩
  · rw [List.cons_append, ← List.cons_append, outermost_call encloses]
    rfl
  · cases first <;> rfl
  · have none : logged.filter (·.1 = name) = [] := by
      rw [List.filter_eq_nil_iff]
      exact fun entry member => by simpa using quiet entry member
    rw [List.append_nil, none]
    cases first <;> rfl

/-- A call that fails raises its error. -/
theorem exists_raises_of_failed (registration : Registration κ ν ε σ) (value : ν)
    (first : Option ε) {fuel : Nat} {error : ε}
    (called : record fuel (registration.2 value) (chronicle.beginCall name registration value) =
      (.failed error, after))
    (busy : (chronicle.channel name).delivering = true) :
    ∃ made logged, Raises name first
      ((after.endCall name (some registration.1) (.failed error)).note first error).1 chronicle
      ((after.endCall name (some registration.1) (.failed error)).note first error).2 made logged
      [error] := by
  obtain ⟨inside, logged, encloses, quiet, passes⟩ :=
    exists_passes_of_call name registration value chronicle called (Option.some_ne_none _) busy
  refine ⟨_, _, passes.trans (Passes.note name after name registration.1 first error),
    .call rfl encloses (.nil _), ?_, ?_, ?_⟩
  · rw [List.cons_append, ← List.cons_append, outermost_call encloses]
    rfl
  · cases first <;> rfl
  · have none : logged.filter (·.1 = name) = [] := by
      rw [List.filter_eq_nil_iff]
      exact fun entry member => by simpa using quiet entry member
    rw [List.filter_append, none]
    cases first with
    | none => rfl
    | some earlier => simp

/-- How a delivery may end: with the first error, or broken off by an interruption. -/
inductive Concludes (name : κ) (first : Option ε) (chronicle : Chronicle κ ν ε σ) :
    Outcome ε × Chronicle κ ν ε σ → Prop where
  | settled {last : Option ε} {after : Chronicle κ ν ε σ} {made : History κ ν ε σ}
      {logged : List (κ × ε)} {errors : List ε}
      (raises : Raises name first last chronicle after made logged errors) :
      Concludes name first chronicle (Bank.settle last, after)
  | brokenOff {error : ε} {after : Chronicle κ ν ε σ} {made : History κ ν ε σ}
      (written : after.history = chronicle.history ++ made)
      (broken : isBrokenOff name made = true) :
      Concludes name first chronicle (.interrupted error, after)
  | givenUp {after : Chronicle κ ν ε σ} : Concludes name first chronicle (.exhausted, after)

/-- What a delivery has done before belongs to it. -/
theorem Raises.concludes {result : Outcome ε × Chronicle κ ν ε σ}
    (raises : Raises name first mid chronicle middle earlier logged errors)
    (concludes : Concludes name mid middle result) : Concludes name first chronicle result := by
  cases concludes with
  | settled behind => exact .settled (raises.trans behind)
  | @brokenOff _ after made written broken =>
    have whole : after.history = chronicle.history ++ (earlier ++ made) := by
      rw [written, raises.written, List.append_assoc]
    refine .brokenOff whole ?_
    rw [isBrokenOff_append, broken, Bool.or_true]
  | givenUp => exact .givenUp

theorem concludes_deliver (fuel : Nat) (name : κ) (value : ν)
    (registrations : List (Registration κ ν ε σ)) (first : Option ε)
    (chronicle : Chronicle κ ν ε σ) (busy : (chronicle.channel name).delivering = true) :
    Concludes name first chronicle
      (recordDeliver fuel name value registrations first chronicle) := by
  induction fuel generalizing registrations first chronicle with
  | zero => exact .givenUp
  | succ fuel inductionHypothesis =>
    cases registrations with
    | nil => exact .settled (Raises.refl name first chronicle)
    | cons registration others =>
      rw [recordDeliver]
      cases called : record fuel (registration.2 value)
          (chronicle.beginCall name registration value) with
      | mk outcome after =>
      cases outcome with
      | finished =>
        obtain ⟨made, logged, raises⟩ := exists_raises_of_finished registration value first called busy
        exact raises.concludes (inductionHypothesis _ _ _ (raises.delivering.trans busy))
      | failed error =>
        obtain ⟨made, logged, raises⟩ := exists_raises_of_failed registration value first called busy
        exact raises.concludes (inductionHypothesis _ _ _ (raises.delivering.trans busy))
      | interrupted error =>
        obtain ⟨inside, logged, -, -, passes⟩ := exists_passes_of_call name registration value
          chronicle called (Option.some_ne_none _) busy
        have written : (after.endCall name (some registration.1) (.interrupted error)).history =
            chronicle.history ++ (.called name (some registration.1) registration.2 value
              (chronicle.channel name).value :: inside ++
                [.ended name (some registration.1) (.interrupted error)]) := by
          rw [endCall, write, passes.written, List.append_assoc]
        refine .brokenOff written ?_
        rw [isBrokenOff_append, Bool.or_eq_true]
        exact Or.inr (by simp [isBrokenOff, Happening.isBreak])
      | exhausted => exact .givenUp

theorem concludes_drain (fuel : Nat) (name : κ) (first : Option ε) (chronicle : Chronicle κ ν ε σ)
    (busy : (chronicle.channel name).delivering = true) :
    Concludes name first chronicle (recordDrain fuel name first chronicle) := by
  induction fuel generalizing first chronicle with
  | zero => exact .givenUp
  | succ fuel inductionHypothesis =>
    rw [recordDrain]
    cases waiting : (chronicle.channel name).take? with
    | none => exact .settled (Raises.refl name first chronicle)
    | some next =>
      obtain ⟨value, left⟩ := next
      have taken := Raises.take first waiting
      have delivered := concludes_deliver fuel name value (chronicle.channel name).observers first _
        (taken.delivering.trans busy)
      dsimp only
      generalize recordDeliver fuel name value (chronicle.channel name).observers first
        (chronicle.take name value left) = result at delivered ⊢
      cases delivered with
      | @settled last after _ _ _ raises =>
        have behind := taken.trans raises
        have rest := behind.concludes (inductionHypothesis last after (behind.delivering.trans busy))
        cases last with
        | none => exact rest
        | some error => exact rest
      | brokenOff written broken => exact taken.concludes (.brokenOff written broken)
      | givenUp => exact .givenUp

/-- Nothing waits when a delivery has ended, unless an interruption broke it off. -/
theorem pending_of_recordDrain {outcome : Outcome ε}
    (drained : recordDrain fuel name first chronicle = (outcome, after))
    (ended : outcome.raised? ≠ none) (unbroken : ∀ error, outcome ≠ .interrupted error) :
    (after.channel name).pending = [] := by
  induction fuel generalizing first chronicle with
  | zero =>
    cases drained
    exact absurd rfl ended
  | succ fuel inductionHypothesis =>
    rw [recordDrain] at drained
    cases waiting : (chronicle.channel name).take? with
    | none =>
      rw [waiting] at drained
      cases drained
      exact Channel.pending_of_take?_eq_none waiting
    | some next =>
      obtain ⟨value, left⟩ := next
      rw [waiting] at drained
      dsimp only at drained
      generalize recordDeliver fuel name value (chronicle.channel name).observers first
        (chronicle.take name value left) = result at drained
      obtain ⟨delivered, middle⟩ := result
      cases delivered with
      | finished => exact inductionHypothesis drained
      | failed error => exact inductionHypothesis drained
      | interrupted error =>
        cases drained
        exact absurd rfl (unbroken error)
      | exhausted =>
        cases drained
        exact absurd rfl ended

/-! ### What a push raises -/

/-- What a push to an idle channel has done when it has ended and its delivery was not broken off. -/
structure Settles (name : κ) (chronicle : Chronicle κ ν ε σ) (outcome : Outcome ε)
    (after : Chronicle κ ν ε σ) (made : History κ ν ε σ) : Prop where
  pending : (after.channel name).pending = []
  delivering : (after.channel name).delivering = false
  /-- The channel has the value that was pushed last, by whomever. -/
  value : (pushedTo name made).getLast? = some (after.channel name).value
  /-- All calls that the push made itself and that failed were made in its channel. -/
  own : ∀ failure ∈ failures (outermost 0 made), failure.1 = name
  /-- The push raises the first error that one of these calls ended with, if there is one. -/
  raised : outcome = Bank.settle ((failures (outermost 0 made)).head?.map (·.2))
  /-- The errors that were logged meanwhile are errors of calls, in the order in which these ended.
  Those of the channel are the later errors of the calls that the push made itself. -/
  logged : ∃ logged : List (κ × ε), after.bank.log = chronicle.bank.log ++ logged.map (·.2) ∧
    logged.Sublist (failures made) ∧
    logged.filter (·.1 = name) = (failures (outermost 0 made)).tail

/-- A script that only hands on what was raised does nothing. -/
theorem record_orFail {raised : Option (Raised ε)} {outcome : Outcome ε}
    (recorded : record fuel (Script.orFail .finish raised) middle = (outcome, after))
    (ended : outcome.raised? ≠ none) : after = middle ∧ outcome.raised? = some raised := by
  cases fuel with
  | zero =>
    cases recorded
    exact absurd rfl ended
  | succ fuel =>
    cases raised with
    | none =>
      cases recorded
      exact ⟨rfl, rfl⟩
    | some raised =>
      cases raised with
      | error error =>
        cases recorded
        exact ⟨rfl, rfl⟩
      | interruption error =>
        cases recorded
        exact ⟨rfl, rfl⟩

/-- Operations that have raised the same have ended alike. -/
theorem eq_of_raised?_eq {first second : Outcome ε} (ended : first.raised? ≠ none)
    (same : first.raised? = second.raised?) : first = second := by
  cases first with
  | exhausted => exact absurd rfl ended
  | _ =>
    cases second
    all_goals cases same
    rfl

/-- A push does what is recorded of it, whatever follows on it. -/
theorem run_push {value : ν} {raised : Option (Raised ε)} {outcome : Outcome ε}
    (idle : (chronicle.channel name).delivering = false)
    (drained : recordDrain fuel name none ((chronicle.push name value).mark name true) =
      (outcome, middle))
    (raises : outcome.raised? = some raised) (next : Option (Raised ε) → Script κ ν ε σ) :
    Bank.run (fuel + 1) (.push name value next) chronicle.bank =
      Bank.run fuel (next raised) (middle.mark name false).bank := by
  have erased := (erases fuel).drain name none ((chronicle.push name value).mark name true)
  rw [drained] at erased
  have notBusy : ¬(chronicle.bank.channels name).delivering = true := by
    rw [← channel, idle]
    exact Bool.false_ne_true
  have bank : ((chronicle.push name value).mark name true).bank =
      (chronicle.bank.modify name (·.enqueue value)).modify name (·.mark true) := rfl
  rw [bank] at erased
  rw [Bank.run, if_neg notBusy, ← erased, Chronicle.erased]
  dsimp only
  rw [raises]
  rfl

/-- The delivery that a push to an idle channel begins. -/
theorem exists_settles {value : ν} {outcome : Outcome ε}
    (drained : recordDrain fuel name none ((chronicle.push name value).mark name true) =
      (outcome, middle))
    (ended : outcome.raised? ≠ none) :
    ∃ made, (middle.mark name false).history = chronicle.history ++ made ∧
      (isBrokenOff name made = false →
        Settles name chronicle outcome (middle.mark name false) made) := by
  have concludes := concludes_drain fuel name none ((chronicle.push name value).mark name true)
    (delivering_mark_self _ true)
  rw [drained] at concludes
  have begun : ((chronicle.push name value).mark name true).history =
      chronicle.history ++ [.pushed name value] := by
    rw [history_mark, push, change]
  cases concludes with
  | givenUp => exact absurd rfl ended
  | @brokenOff _ _ made written broken =>
    refine ⟨.pushed name value :: made, ?_, fun unbroken => ?_⟩
    · rw [history_mark, written, begun, List.append_assoc]
      rfl
    · have split : isBrokenOff name (.pushed name value :: made) = isBrokenOff name made := rfl
      exact absurd (unbroken.symm.trans (split.trans broken)) Bool.false_ne_true
  | @settled last _ made logged errors raises =>
    have emptied := pending_of_recordDrain drained ended (by cases last <;> simp [Bank.settle])
    have layer : failures (outermost 0 (.pushed name value :: made)) = errors.map (name, ·) := by
      rw [outermost_plain rfl, ← raises.own]
      rfl
    have latest : (middle.channel name).value = (pushedTo name made).getLastD value := by
      have same := raises.latest
      rw [Channel.latest, emptied, List.getLastD_nil] at same
      rw [same, mark, push, channel_change_self, channel_change_self]
      exact congrArg _ (Channel.latest_enqueue _ value)
    refine ⟨.pushed name value :: made, ?_, fun _ => ⟨?_, ?_, ?_, ?_, ?_, ?_⟩⟩
    · rw [history_mark, raises.written, begun, List.append_assoc]
      rfl
    · rw [mark, channel_change_self]
      exact emptied
    · exact delivering_mark_self _ false
    · have pushes : pushedTo name (.pushed name value :: made) = value :: pushedTo name made := by
        have here : found name Happening.pushed? [(.pushed name value : Happening κ ν ε σ)] = [value] :=
          found_singleton.trans (if_pos rfl)
        rw [pushedTo, found_cons, here]
        rfl
      have held : ((middle.mark name false).channel name).value = (middle.channel name).value := by
        rw [mark, channel_change_self]
        rfl
      rw [pushes, held, latest, List.getLast?_cons, List.getLastD_eq_getLast?]
    · rw [layer]
      intro failure member
      obtain ⟨error, _, rfl⟩ := List.mem_map.mp member
      rfl
    · rw [layer, raises.remembered]
      cases errors <;> rfl
    · refine ⟨logged, raises.log, ?_, ?_⟩
      · exact raises.inOrder
      · rw [layer, raises.others]
        cases errors <;> rfl

/-- A push that is made while its channel delivers raises nothing. Any other one leaves the channel
idle and empty, and raises the first error of the calls that it made itself, unless an interruption
broke off its delivery. Whatever follows on the push goes on with what it raised. -/
theorem settled_of_push {value : ν} {outcome : Outcome ε}
    (recorded : record (fuel + 1) (.push name value (Script.orFail .finish)) chronicle =
      (outcome, after))
    (ended : outcome.raised? ≠ none) :
    (∃ raised, outcome.raised? = some raised ∧ ∀ next,
        Bank.run (fuel + 1) (.push name value next) chronicle.bank =
          Bank.run fuel (next raised) after.bank) ∧
      ((chronicle.channel name).delivering = true → outcome = .finished) ∧
      ((chronicle.channel name).delivering = false → ∃ made,
        after.history = chronicle.history ++ made ∧
        (isBrokenOff name made = false → Settles name chronicle outcome after made)) := by
  rw [record] at recorded
  cases busy : (chronicle.channel name).delivering with
  | true =>
    rw [if_pos busy] at recorded
    obtain ⟨rfl, raised⟩ := record_orFail recorded ended
    refine ⟨⟨none, raised, fun next => ?_⟩, fun _ => eq_of_raised?_eq ended raised,
      fun idle => absurd idle.symm Bool.false_ne_true⟩
    rw [Bank.run, ← channel, if_pos busy]
    rfl
  | false =>
    rw [if_neg (by rw [busy]; exact Bool.false_ne_true)] at recorded
    cases drained : recordDrain fuel name none ((chronicle.push name value).mark name true) with
    | mk result middle =>
    rw [drained] at recorded
    dsimp only at recorded
    cases ending : result.raised? with
    | none =>
      rw [ending] at recorded
      cases recorded
      exact absurd rfl ended
    | some raised =>
      rw [ending] at recorded
      obtain ⟨rfl, raises⟩ := record_orFail recorded ended
      obtain rfl := eq_of_raised?_eq ended (raises.trans ending.symm)
      refine ⟨⟨raised, raises, run_push busy drained ending⟩,
        fun busy => absurd busy Bool.false_ne_true, fun _ => ?_⟩
      exact exists_settles drained ended

/-- A channel with two observers. The first one always fails; the second one pushes `2` when it is
called with `1`, and fails otherwise. -/
def failing : Chronicle Unit Nat String Unit where
  bank :=
    { channels := fun _ =>
        { value := 0
          observers := [(0, fun _ => .fail "first"),
            (1, fun value => if value = 1 then .push () 2 fun _ => .finish else .fail "second")]
          nextToken := 2 }
      kept := () }

/-- The first error is raised, and the later ones, of which one is the same again, are logged. -/
theorem settles_failing : ∃ made, Settles () failing (.failed "first")
      (record 9 (.push () 1 (Script.orFail .finish)) failing).2 made ∧
    (record 9 (.push () 1 (Script.orFail .finish)) failing).2.bank.log = ["first", "second"] := by
  have recorded : record 9 (.push () 1 (Script.orFail .finish)) failing = (.failed "first", _) := rfl
  obtain ⟨made, written, settles⟩ := (settled_of_push recorded (Option.some_ne_none _)).2.2 rfl
  have unbroken : isBrokenOff () made = false := by
    obtain rfl : _ = made := written
    rfl
  exact ⟨made, settles unbroken, rfl⟩

end Chronicle

end StateContainer
