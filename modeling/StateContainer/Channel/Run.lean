/-
This file runs scripts.

A push lets its value wait. If a delivery is going on in the channel, that is
all. Otherwise the waiting values are delivered, the oldest first, each to the
observers that are registered when it is taken; what these push meanwhile waits
in turn. An observer that raises does not keep the value from the others. The
first error is raised by the push when no value waits any more, and the later
ones are logged. An interruption ends the delivery at once, is raised by the push
in its turn, and the values that still wait stay in the channel.

A subscription first replays the value of the channel to its observer, and
registers the observer only if it returns.

A run is given a number of steps, since observers may push to each other without
end; it answers `exhausted` if that number is not enough.
-/

import StateContainer.Channel
import StateContainer.Channel.Script

namespace StateContainer

/-- How a run ends. -/
inductive Outcome (ε : Type) where
  | finished
  | failed (error : ε)
  | interrupted (error : ε)
  /-- The steps did not suffice. -/
  | exhausted
deriving Repr, Inhabited

/-- What an operation that ended so has raised, if anything. An operation that was given up has
not ended. -/
def Outcome.raised? {ε : Type} : Outcome ε → Option (Option (Raised ε))
  | finished => some none
  | failed error => some (some (.error error))
  | interrupted error => some (some (.interruption error))
  | exhausted => none

/-- All channels, what the calls keep among themselves, and the errors that were logged. -/
structure Bank (κ ν ε σ : Type) where
  channels : κ → Channel ν (ν → Script κ ν ε σ)
  kept : σ
  log : List ε := []

namespace Bank

variable {κ ν ε σ : Type} [DecidableEq κ]

/-- The bank with a channel changed. -/
def modify (bank : Bank κ ν ε σ) (channel : κ)
    (change : Channel ν (ν → Script κ ν ε σ) → Channel ν (ν → Script κ ν ε σ)) : Bank κ ν ε σ :=
  { bank with
    channels := fun name => if name = channel then change (bank.channels name) else bank.channels name }

/-- The bank with a channel that starts with a value. -/
def start (bank : Bank κ ν ε σ) (channel : κ) (value : ν) : Bank κ ν ε σ :=
  bank.modify channel fun _ => { value }

/-- The bank with what the calls keep changed. -/
def keep (bank : Bank κ ν ε σ) (change : σ → σ) : Bank κ ν ε σ :=
  { bank with kept := change bank.kept }

/-- Takes an error of an observer: the first one is remembered, and a later one is logged. -/
def note (bank : Bank κ ν ε σ) (first : Option ε) (error : ε) : Option ε × Bank κ ν ε σ :=
  match first with
  | none => (some error, bank)
  | some _ => (first, { bank with log := bank.log ++ [error] })

/-- The outcome of a delivery whose first error is known. -/
def settle : Option ε → Outcome ε
  | none => .finished
  | some error => .failed error

mutual

/-- Runs a script. -/
def run : Nat → Script κ ν ε σ → Bank κ ν ε σ → Outcome ε × Bank κ ν ε σ
  | 0, _, bank => (.exhausted, bank)
  | _ + 1, .finish, bank => (.finished, bank)
  | _ + 1, .fail error, bank => (.failed error, bank)
  | _ + 1, .interrupt error, bank => (.interrupted error, bank)
  | fuel + 1, .push channel value next, bank =>
    let waiting := bank.modify channel (·.enqueue value)
    if (bank.channels channel).delivering then run fuel (next none) waiting
    else
      let (outcome, after) := drain fuel channel none (waiting.modify channel (·.mark true))
      let idle := after.modify channel (·.mark false)
      match outcome.raised? with
      | some raised => run fuel (next raised) idle
      | none => (.exhausted, idle)
  | fuel + 1, .subscribe channel observer next, bank =>
    let (outcome, after) := run fuel (observer (bank.channels channel).value) bank
    match outcome.raised? with
    | some none =>
      run fuel (next (.ok (after.channels channel).nextToken))
        (after.modify channel (·.register observer))
    | some (some raised) => run fuel (next (.error raised)) after
    | none => (.exhausted, after)
  | fuel + 1, .dispose channel token next, bank =>
    run fuel next (bank.modify channel (·.detach token))
  | fuel + 1, .read channel next, bank => run fuel (next (bank.channels channel).value) bank
  | fuel + 1, .consult next, bank => run fuel (next bank.kept) bank
  | fuel + 1, .update change next, bank => run fuel next (bank.keep change)

/-- Delivers the waiting values of a channel. -/
def drain : Nat → κ → Option ε → Bank κ ν ε σ → Outcome ε × Bank κ ν ε σ
  | 0, _, _, bank => (.exhausted, bank)
  | fuel + 1, channel, first, bank =>
    match (bank.channels channel).take? with
    | none => (settle first, bank)
    | some (value, taken) =>
      match deliver fuel value ((bank.channels channel).observers.map (·.2)) first
          (bank.modify channel fun _ => taken) with
      | (.finished, after) => drain fuel channel none after
      | (.failed error, after) => drain fuel channel (some error) after
      | (outcome, after) => (outcome, after)

/-- Delivers one value to observers. The outcome is the first error so far. -/
def deliver : Nat → ν → List (ν → Script κ ν ε σ) → Option ε → Bank κ ν ε σ →
    Outcome ε × Bank κ ν ε σ
  | 0, _, _, _, bank => (.exhausted, bank)
  | _ + 1, _, [], first, bank => (settle first, bank)
  | fuel + 1, value, observer :: others, first, bank =>
    match run fuel (observer value) bank with
    | (.finished, after) => deliver fuel value others first after
    | (.failed error, after) =>
      let (first, noted) := after.note first error
      deliver fuel value others first noted
    | (outcome, after) => (outcome, after)

end

end Bank

end StateContainer
