/-
This file writes down what happens while scripts run.

A chronicle is a bank together with everything that has happened in it so far: which
values were pushed and which were taken for delivery, which observers were called with
which values and how their calls ended, and which registrations came and went. Recording
a script is running it and writing down every such step. Each entry of the history holds
what the channel looks like at that very moment, so that statements about moments inside
of a run become statements about entries.

The main statement is that recording runs the script: if the history is erased, what is
left of `record` is `Bank.run`.
-/

import StateContainer.Channel.Run

namespace StateContainer

/-- What a call of an observer does with each value. -/
abbrev Callback (κ ν ε σ : Type) := ν → Script κ ν ε σ

/-- A registration: its token and its observer. -/
abbrev Registration (κ ν ε σ : Type) := Nat × Callback κ ν ε σ

/-- Something that happens in a channel. -/
inductive Happening (κ ν ε σ : Type) where
  /-- A push is made. -/
  | pushed (channel : κ) (value : ν)
  /-- A value is taken for delivery, while these registrations are present. -/
  | taken (channel : κ) (value : ν) (present : List (Registration κ ν ε σ))
  /-- A subscription is made. -/
  | subscribing (channel : κ) (observer : Callback κ ν ε σ)
  /-- An observer is called with a value, on account of its registration or, if there is no token,
  for the replay of its subscription. The last value is the one that the channel has just then. -/
  | called (channel : κ) (token : Option Nat) (observer : Callback κ ν ε σ) (value current : ν)
  /-- The call of an observer ends. -/
  | ended (channel : κ) (token : Option Nat) (outcome : Outcome ε)
  /-- An observer is registered. The values are the one that was replayed to it, and the one that
  the channel has just then. -/
  | registered (channel : κ) (token : Nat) (observer : Callback κ ν ε σ) (replayed current : ν)
  /-- A registration is disposed. -/
  | detached (channel : κ) (token : Nat)

/-- What happened, the earliest first. -/
abbrev History (κ ν ε σ : Type) := List (Happening κ ν ε σ)

/-- A bank with what has happened in it. -/
structure Chronicle (κ ν ε σ : Type) where
  bank : Bank κ ν ε σ
  history : History κ ν ε σ := []

namespace Chronicle

variable {κ ν ε σ : Type} [DecidableEq κ]

/-! ### Steps -/

/-- A channel as it is now. -/
def channel (chronicle : Chronicle κ ν ε σ) (name : κ) : Channel ν (Callback κ ν ε σ) :=
  chronicle.bank.channels name

/-- Changes a channel, and writes down what happens. -/
def change (chronicle : Chronicle κ ν ε σ) (name : κ)
    (change : Channel ν (Callback κ ν ε σ) → Channel ν (Callback κ ν ε σ))
    (happenings : History κ ν ε σ) : Chronicle κ ν ε σ :=
  { bank := chronicle.bank.modify name change, history := chronicle.history ++ happenings }

/-- Writes down what happens while no channel changes. -/
def write (chronicle : Chronicle κ ν ε σ) (happenings : History κ ν ε σ) : Chronicle κ ν ε σ :=
  { chronicle with history := chronicle.history ++ happenings }

/-- A push is made. -/
def push (chronicle : Chronicle κ ν ε σ) (name : κ) (value : ν) : Chronicle κ ν ε σ :=
  chronicle.change name (·.enqueue value) [.pushed name value]

/-- The values that wait begin to be delivered, or are no longer delivered. -/
def mark (chronicle : Chronicle κ ν ε σ) (name : κ) (delivering : Bool) : Chronicle κ ν ε σ :=
  chronicle.change name (·.mark delivering) []

/-- A value is taken for delivery, which leaves the channel as it is said. -/
def take (chronicle : Chronicle κ ν ε σ) (name : κ) (value : ν)
    (left : Channel ν (Callback κ ν ε σ)) : Chronicle κ ν ε σ :=
  chronicle.change name (fun _ => left) [.taken name value (chronicle.channel name).observers]

/-- The call of a registered observer begins. -/
def beginCall (chronicle : Chronicle κ ν ε σ) (name : κ) (registration : Registration κ ν ε σ)
    (value : ν) : Chronicle κ ν ε σ :=
  chronicle.write
    [.called name (some registration.1) registration.2 value (chronicle.channel name).value]

/-- The call of an observer ends. -/
def endCall (chronicle : Chronicle κ ν ε σ) (name : κ) (token : Option Nat) (outcome : Outcome ε) :
    Chronicle κ ν ε σ :=
  chronicle.write [.ended name token outcome]

/-- A subscription begins with the replay of a value. -/
def beginReplay (chronicle : Chronicle κ ν ε σ) (name : κ) (observer : Callback κ ν ε σ)
    (value : ν) : Chronicle κ ν ε σ :=
  chronicle.write
    [.subscribing name observer, .called name none observer value (chronicle.channel name).value]

/-- An observer is registered to which a value was replayed. -/
def register (chronicle : Chronicle κ ν ε σ) (name : κ) (observer : Callback κ ν ε σ)
    (replayed : ν) : Chronicle κ ν ε σ :=
  chronicle.change name (·.register observer)
    [.registered name (chronicle.channel name).nextToken observer replayed
      (chronicle.channel name).value]

/-- A registration is disposed. -/
def detach (chronicle : Chronicle κ ν ε σ) (name : κ) (token : Nat) : Chronicle κ ν ε σ :=
  chronicle.change name (·.detach token) [.detached name token]

/-- What the calls keep is changed. -/
def keep (chronicle : Chronicle κ ν ε σ) (change : σ → σ) : Chronicle κ ν ε σ :=
  { chronicle with bank := chronicle.bank.keep change }

/-- An error of an observer is remembered or logged. -/
def note (chronicle : Chronicle κ ν ε σ) (first : Option ε) (error : ε) :
    Option ε × Chronicle κ ν ε σ :=
  ((chronicle.bank.note first error).1,
    { chronicle with bank := (chronicle.bank.note first error).2 })

/-! ### Recording -/

mutual

/-- Runs a script and writes down what happens. -/
def record : Nat → Script κ ν ε σ → Chronicle κ ν ε σ → Outcome ε × Chronicle κ ν ε σ
  | 0, _, chronicle => (.exhausted, chronicle)
  | _ + 1, .finish, chronicle => (.finished, chronicle)
  | _ + 1, .fail error, chronicle => (.failed error, chronicle)
  | _ + 1, .interrupt error, chronicle => (.interrupted error, chronicle)
  | fuel + 1, .push name value next, chronicle =>
    let waiting := chronicle.push name value
    if (chronicle.channel name).delivering then record fuel (next none) waiting
    else
      let (outcome, after) := recordDrain fuel name none (waiting.mark name true)
      let idle := after.mark name false
      match outcome.raised? with
      | some raised => record fuel (next raised) idle
      | none => (.exhausted, idle)
  | fuel + 1, .subscribe name observer next, chronicle =>
    let value := (chronicle.channel name).value
    let (outcome, after) := record fuel (observer value) (chronicle.beginReplay name observer value)
    match outcome.raised? with
    | some none =>
      let ended := after.endCall name none outcome
      record fuel (next (.ok (ended.channel name).nextToken)) (ended.register name observer value)
    | some (some raised) => record fuel (next (.error raised)) (after.endCall name none outcome)
    | none => (.exhausted, after)
  | fuel + 1, .dispose name token next, chronicle =>
    record fuel next (chronicle.detach name token)
  | fuel + 1, .read name next, chronicle =>
    record fuel (next (chronicle.channel name).value) chronicle
  | fuel + 1, .consult next, chronicle => record fuel (next chronicle.bank.kept) chronicle
  | fuel + 1, .update change next, chronicle => record fuel next (chronicle.keep change)

/-- Delivers the waiting values of a channel and writes down what happens. -/
def recordDrain : Nat → κ → Option ε → Chronicle κ ν ε σ → Outcome ε × Chronicle κ ν ε σ
  | 0, _, _, chronicle => (.exhausted, chronicle)
  | fuel + 1, name, first, chronicle =>
    match (chronicle.channel name).take? with
    | none => (Bank.settle first, chronicle)
    | some (value, left) =>
      match recordDeliver fuel name value (chronicle.channel name).observers first
          (chronicle.take name value left) with
      | (.finished, after) => recordDrain fuel name none after
      | (.failed error, after) => recordDrain fuel name (some error) after
      | (outcome, after) => (outcome, after)

/-- Delivers one value to registrations and writes down what happens. -/
def recordDeliver : Nat → κ → ν → List (Registration κ ν ε σ) → Option ε → Chronicle κ ν ε σ →
    Outcome ε × Chronicle κ ν ε σ
  | 0, _, _, _, _, chronicle => (.exhausted, chronicle)
  | _ + 1, _, _, [], first, chronicle => (Bank.settle first, chronicle)
  | fuel + 1, name, value, registration :: others, first, chronicle =>
    match record fuel (registration.2 value) (chronicle.beginCall name registration value) with
    | (.finished, after) =>
      recordDeliver fuel name value others first
        (after.endCall name (some registration.1) .finished)
    | (.failed error, after) =>
      let (first, noted) :=
        (after.endCall name (some registration.1) (.failed error)).note first error
      recordDeliver fuel name value others first noted
    | (.interrupted error, after) =>
      (.interrupted error, after.endCall name (some registration.1) (.interrupted error))
    | (.exhausted, after) => (.exhausted, after)

end

/-- Records scripts that are run from the outside, one after the other. Each one is run however
those before it ended, unless one of them was given up. -/
def recordAll (fuel : Nat) :
    List (Script κ ν ε σ) → Chronicle κ ν ε σ → Outcome ε × Chronicle κ ν ε σ
  | [], chronicle => (.finished, chronicle)
  | script :: others, chronicle =>
    match record fuel script chronicle with
    | (.exhausted, after) => (.exhausted, after)
    | (_, after) => recordAll fuel others after

end Chronicle

/-- Runs scripts from the outside, one after the other. Each one is run however those before it
ended, unless one of them was given up. -/
def Bank.runAll {κ ν ε σ : Type} [DecidableEq κ] (fuel : Nat) :
    List (Script κ ν ε σ) → Bank κ ν ε σ → Outcome ε × Bank κ ν ε σ
  | [], bank => (.finished, bank)
  | script :: others, bank =>
    match run fuel script bank with
    | (.exhausted, after) => (.exhausted, after)
    | (_, after) => runAll fuel others after

namespace Chronicle

variable {κ ν ε σ : Type} [DecidableEq κ]

/-! ### Recording runs the script -/

/-- The result of a recording without the history. -/
def erased (result : Outcome ε × Chronicle κ ν ε σ) : Outcome ε × Bank κ ν ε σ :=
  (result.1, result.2.bank)

/-- Every part of a recording with some fuel is a run with that fuel. -/
structure Erases (κ ν ε σ : Type) [DecidableEq κ] (fuel : Nat) : Prop where
  script : ∀ (script : Script κ ν ε σ) (chronicle : Chronicle κ ν ε σ),
    erased (record fuel script chronicle) = Bank.run fuel script chronicle.bank
  drain : ∀ (name : κ) (first : Option ε) (chronicle : Chronicle κ ν ε σ),
    erased (recordDrain fuel name first chronicle) = Bank.drain fuel name first chronicle.bank
  deliver : ∀ (name : κ) (value : ν) (registrations : List (Registration κ ν ε σ))
      (first : Option ε) (chronicle : Chronicle κ ν ε σ),
    erased (recordDeliver fuel name value registrations first chronicle) =
      Bank.deliver fuel value (registrations.map (·.2)) first chronicle.bank

/-- Recording a script is running it. -/
theorem Erases.script_succ {fuel : Nat} (inner : Erases κ ν ε σ fuel) (script : Script κ ν ε σ)
    (chronicle : Chronicle κ ν ε σ) :
    erased (record (fuel + 1) script chronicle) = Bank.run (fuel + 1) script chronicle.bank := by
  cases script with
  | finish => rfl
  | fail error => rfl
  | interrupt error => rfl
  | push name value next =>
    have drained : erased
          (recordDrain fuel name none ((chronicle.push name value).mark name true)) =
        Bank.drain fuel name none
          ((chronicle.bank.modify name (·.enqueue value)).modify name (·.mark true)) :=
      inner.drain name none ((chronicle.push name value).mark name true)
    rw [record, Bank.run, channel]
    by_cases busy : (chronicle.bank.channels name).delivering
    · rw [if_pos busy, if_pos busy]
      exact inner.script _ _
    · rw [if_neg busy, if_neg busy, ← drained]
      obtain ⟨outcome, after⟩ :=
        recordDrain fuel name none ((chronicle.push name value).mark name true)
      cases outcome with
      | exhausted => rfl
      | finished => exact inner.script _ _
      | failed error => exact inner.script _ _
      | interrupted error => exact inner.script _ _
  | subscribe name observer next =>
    have replayed : erased (record fuel (observer (chronicle.channel name).value)
          (chronicle.beginReplay name observer (chronicle.channel name).value)) =
        Bank.run fuel (observer (chronicle.bank.channels name).value) chronicle.bank :=
      inner.script _ _
    rw [record, Bank.run, ← replayed]
    obtain ⟨outcome, after⟩ := record fuel (observer (chronicle.channel name).value)
      (chronicle.beginReplay name observer (chronicle.channel name).value)
    cases outcome with
    | exhausted => rfl
    | finished => exact inner.script _ _
    | failed error => exact inner.script _ _
    | interrupted error => exact inner.script _ _
  | dispose name token next => exact inner.script next (chronicle.detach name token)
  | read name next => exact inner.script (next (chronicle.channel name).value) chronicle
  | consult next => exact inner.script (next chronicle.bank.kept) chronicle
  | update change next => exact inner.script next (chronicle.keep change)

/-- Recording a delivery of all waiting values is running it. -/
theorem Erases.drain_succ {fuel : Nat} (inner : Erases κ ν ε σ fuel) (name : κ)
    (first : Option ε) (chronicle : Chronicle κ ν ε σ) :
    erased (recordDrain (fuel + 1) name first chronicle) =
      Bank.drain (fuel + 1) name first chronicle.bank := by
  rw [recordDrain, Bank.drain, channel]
  cases (chronicle.bank.channels name).take? with
  | none => rfl
  | some next =>
    obtain ⟨value, left⟩ := next
    have delivered : erased (recordDeliver fuel name value
          (chronicle.bank.channels name).observers first (chronicle.take name value left)) =
        Bank.deliver fuel value ((chronicle.bank.channels name).observers.map (·.2)) first
          (chronicle.bank.modify name fun _ => left) :=
      inner.deliver _ _ _ _ _
    simp only [← delivered]
    obtain ⟨outcome, after⟩ := recordDeliver fuel name value
      (chronicle.bank.channels name).observers first (chronicle.take name value left)
    cases outcome with
    | finished => exact inner.drain _ _ _
    | failed error => exact inner.drain _ _ _
    | interrupted error => rfl
    | exhausted => rfl

/-- Recording the delivery of one value is running it. -/
theorem Erases.deliver_succ {fuel : Nat} (inner : Erases κ ν ε σ fuel) (name : κ) (value : ν)
    (registrations : List (Registration κ ν ε σ)) (first : Option ε)
    (chronicle : Chronicle κ ν ε σ) :
    erased (recordDeliver (fuel + 1) name value registrations first chronicle) =
      Bank.deliver (fuel + 1) value (registrations.map (·.2)) first chronicle.bank := by
  cases registrations with
  | nil => rfl
  | cons registration others =>
    have called : erased (record fuel (registration.2 value)
          (chronicle.beginCall name registration value)) =
        Bank.run fuel (registration.2 value) chronicle.bank :=
      inner.script _ _
    rw [recordDeliver, List.map_cons, Bank.deliver, ← called]
    obtain ⟨outcome, after⟩ :=
      record fuel (registration.2 value) (chronicle.beginCall name registration value)
    cases outcome with
    | finished => exact inner.deliver _ _ _ _ _
    | failed error => exact inner.deliver _ _ _ _ _
    | interrupted error => rfl
    | exhausted => rfl

theorem erases (fuel : Nat) : Erases κ ν ε σ fuel := by
  induction fuel with
  | zero => exact ⟨fun _ _ => rfl, fun _ _ _ => rfl, fun _ _ _ _ _ => rfl⟩
  | succ fuel inner => exact ⟨inner.script_succ, inner.drain_succ, inner.deliver_succ⟩

/-- Recording scripts that are run one after the other is running them one after the other. -/
theorem erased_recordAll (fuel : Nat) (scripts : List (Script κ ν ε σ))
    (chronicle : Chronicle κ ν ε σ) :
    erased (recordAll fuel scripts chronicle) = Bank.runAll fuel scripts chronicle.bank := by
  induction scripts generalizing chronicle with
  | nil => rfl
  | cons script others inductionHypothesis =>
    rw [recordAll, Bank.runAll, ← (erases fuel).script script chronicle]
    obtain ⟨outcome, after⟩ := record fuel script chronicle
    cases outcome with
    | exhausted => rfl
    | finished => exact inductionHypothesis after
    | failed error => exact inductionHypothesis after
    | interrupted error => exact inductionHypothesis after

/-! ### Recording leaves what was written -/

/-- A part of a run only adds to the history. -/
def Extends (chronicle : Chronicle κ ν ε σ) (result : Outcome ε × Chronicle κ ν ε σ) : Prop :=
  chronicle.history <+: result.2.history

/-- Every part of a recording with some fuel only adds to the history. -/
structure OnlyAdds (κ ν ε σ : Type) [DecidableEq κ] (fuel : Nat) : Prop where
  script : ∀ (script : Script κ ν ε σ) (chronicle : Chronicle κ ν ε σ),
    Extends chronicle (record fuel script chronicle)
  drain : ∀ (name : κ) (first : Option ε) (chronicle : Chronicle κ ν ε σ),
    Extends chronicle (recordDrain fuel name first chronicle)
  deliver : ∀ (name : κ) (value : ν) (registrations : List (Registration κ ν ε σ))
      (first : Option ε) (chronicle : Chronicle κ ν ε σ),
    Extends chronicle (recordDeliver fuel name value registrations first chronicle)

theorem OnlyAdds.script_succ {fuel : Nat} (inner : OnlyAdds κ ν ε σ fuel)
    (script : Script κ ν ε σ) (chronicle : Chronicle κ ν ε σ) :
    Extends chronicle (record (fuel + 1) script chronicle) := by
  cases script with
  | finish => exact List.prefix_rfl
  | fail error => exact List.prefix_rfl
  | interrupt error => exact List.prefix_rfl
  | push name value next =>
    have waits : chronicle.history <+: (chronicle.push name value).history := List.prefix_append _ _
    rw [record]
    by_cases busy : (chronicle.channel name).delivering
    · rw [if_pos busy]
      exact waits.trans (inner.script _ _)
    · rw [if_neg busy]
      have drained := inner.drain name none ((chronicle.push name value).mark name true)
      generalize recordDrain fuel name none ((chronicle.push name value).mark name true) = result
        at drained ⊢
      have idle : chronicle.history <+: (result.2.mark name false).history :=
        (waits.trans (List.prefix_append _ _)).trans (drained.trans (List.prefix_append _ _))
      dsimp only
      split
      · exact idle.trans (inner.script _ _)
      · exact idle
  | subscribe name observer next =>
    have replayed := inner.script (observer (chronicle.channel name).value)
      (chronicle.beginReplay name observer (chronicle.channel name).value)
    rw [record]
    generalize record fuel (observer (chronicle.channel name).value)
      (chronicle.beginReplay name observer (chronicle.channel name).value) = result at replayed ⊢
    have after : chronicle.history <+: result.2.history := (List.prefix_append _ _).trans replayed
    have ended : ∀ outcome, chronicle.history <+: (result.2.endCall name none outcome).history :=
      fun outcome => after.trans (List.prefix_append _ _)
    dsimp only
    split
    · have registered : chronicle.history <+:
          ((result.2.endCall name none result.1).register name observer
            (chronicle.channel name).value).history :=
        (ended _).trans (List.prefix_append _ _)
      exact registered.trans (inner.script _ _)
    · exact (ended _).trans (inner.script _ _)
    · exact after
  | dispose name token next =>
    have detached : chronicle.history <+: (chronicle.detach name token).history :=
      List.prefix_append _ _
    exact detached.trans (inner.script next _)
  | read name next => exact inner.script _ chronicle
  | consult next => exact inner.script _ chronicle
  | update change next => exact inner.script next (chronicle.keep change)

theorem OnlyAdds.drain_succ {fuel : Nat} (inner : OnlyAdds κ ν ε σ fuel) (name : κ)
    (first : Option ε) (chronicle : Chronicle κ ν ε σ) :
    Extends chronicle (recordDrain (fuel + 1) name first chronicle) := by
  rw [recordDrain]
  cases (chronicle.channel name).take? with
  | none => exact List.prefix_rfl
  | some next =>
    obtain ⟨value, left⟩ := next
    have delivered := inner.deliver name value (chronicle.channel name).observers first
      (chronicle.take name value left)
    dsimp only
    generalize recordDeliver fuel name value (chronicle.channel name).observers first
      (chronicle.take name value left) = result at delivered ⊢
    have after : chronicle.history <+: result.2.history := (List.prefix_append _ _).trans delivered
    obtain ⟨outcome, chronicle⟩ := result
    cases outcome with
    | finished => exact after.trans (inner.drain _ _ _)
    | failed error => exact after.trans (inner.drain _ _ _)
    | interrupted error => exact after
    | exhausted => exact after

theorem OnlyAdds.deliver_succ {fuel : Nat} (inner : OnlyAdds κ ν ε σ fuel) (name : κ) (value : ν)
    (registrations : List (Registration κ ν ε σ)) (first : Option ε)
    (chronicle : Chronicle κ ν ε σ) :
    Extends chronicle (recordDeliver (fuel + 1) name value registrations first chronicle) := by
  cases registrations with
  | nil => exact List.prefix_rfl
  | cons registration others =>
    have called := inner.script (registration.2 value)
      (chronicle.beginCall name registration value)
    rw [recordDeliver]
    generalize record fuel (registration.2 value)
      (chronicle.beginCall name registration value) = result at called ⊢
    obtain ⟨outcome, after⟩ := result
    have left : chronicle.history <+: after.history := (List.prefix_append _ _).trans called
    have ended : ∀ outcome, chronicle.history <+:
        (after.endCall name (some registration.1) outcome).history :=
      fun outcome => left.trans (List.prefix_append _ _)
    cases outcome with
    | finished => exact (ended _).trans (inner.deliver _ _ _ _ _)
    | failed error =>
      have noted : chronicle.history <+: ((after.endCall name (some registration.1)
          (.failed error)).note first error).2.history := ended _
      exact noted.trans (inner.deliver _ _ _ _ _)
    | interrupted error => exact ended _
    | exhausted => exact left

theorem onlyAdds (fuel : Nat) : OnlyAdds κ ν ε σ fuel := by
  induction fuel with
  | zero => exact ⟨fun _ _ => List.prefix_rfl, fun _ _ _ => List.prefix_rfl,
      fun _ _ _ _ _ => List.prefix_rfl⟩
  | succ fuel inner => exact ⟨inner.script_succ, inner.drain_succ, inner.deliver_succ⟩

/-- The replay of a value to an observer has just returned. What happened in between was done by
the observer. -/
def JustReplayed (name : κ) (observer : Callback κ ν ε σ) (value : ν)
    (history : History κ ν ε σ) : Prop :=
  ∃ before during, history = before ++
    .subscribing name observer :: .called name none observer value value :: during ++
      [.ended name none .finished]

/-- An observer is registered when its replay has just returned. -/
theorem justReplayed (fuel : Nat) (chronicle : Chronicle κ ν ε σ) (name : κ)
    (observer : Callback κ ν ε σ) :
    JustReplayed name observer (chronicle.channel name).value
      ((record fuel (observer (chronicle.channel name).value)
        (chronicle.beginReplay name observer (chronicle.channel name).value)).2.endCall name none
          .finished).history := by
  obtain ⟨during, added⟩ := (onlyAdds fuel).script (observer (chronicle.channel name).value)
    (chronicle.beginReplay name observer (chronicle.channel name).value)
  refine ⟨chronicle.history, during, ?_⟩
  rw [endCall, write, ← added, beginReplay, write]
  simp

end Chronicle

end StateContainer
