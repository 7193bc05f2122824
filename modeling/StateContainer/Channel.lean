/-
This file holds state channels as they stand between two operations.

A channel keeps the value that was delivered last, its observers in the order in
which they registered, each under a token of its own, and the values that wait
to be delivered. Every operation on a channel is one of the functions here; what
observers do when they are called is the matter of `Channel.Script`.

The lemmas say what registering and detaching do to the list of observers.
-/

namespace StateContainer

/-- A channel of values with observers. -/
structure Channel (ν ο : Type) where
  /-- The value that was delivered last, or the initial one. -/
  value : ν
  /-- The observers with their tokens. -/
  observers : List (Nat × ο) := []
  nextToken : Nat := 0
  /-- The values that were pushed and are not yet delivered. -/
  pending : List ν := []
  /-- A value is being delivered. -/
  delivering : Bool := false

namespace Channel

variable {ν ο : Type}

instance [Inhabited ν] : Inhabited (Channel ν ο) := ⟨{ value := default }⟩

/-- How many observers are registered. -/
def observerCount (c : Channel ν ο) : Nat :=
  c.observers.length

/-- Whether an observer is registered under a token. -/
def isRegistered (c : Channel ν ο) (token : Nat) : Bool :=
  c.observers.any (·.1 = token)

/-- Lets a value wait for its delivery. -/
def enqueue (c : Channel ν ο) (value : ν) : Channel ν ο :=
  { c with pending := c.pending ++ [value] }

/-- Takes the value that waits longest, which becomes the value of the channel. -/
def take? (c : Channel ν ο) : Option (ν × Channel ν ο) :=
  match c.pending with
  | [] => none
  | next :: others => some (next, { c with value := next, pending := others })

/-- Says whether a value is being delivered. -/
def mark (c : Channel ν ο) (delivering : Bool) : Channel ν ο :=
  { c with delivering }

/-- Registers an observer under the next token. -/
def register (c : Channel ν ο) (observer : ο) : Channel ν ο :=
  { c with
    observers := c.observers ++ [(c.nextToken, observer)]
    nextToken := c.nextToken + 1 }

/-- Removes the observer of a token; nothing happens if there is none. -/
def detach (c : Channel ν ο) (token : Nat) : Channel ν ο :=
  { c with observers := c.observers.filter (·.1 ≠ token) }

/-- An observer is registered under the token that was the next one. -/
theorem isRegistered_register (c : Channel ν ο) (observer : ο) (token : Nat) :
    (c.register observer).isRegistered token = (c.isRegistered token || c.nextToken = token) := by
  simp [isRegistered, register]

/-- Detaching removes one token and no other. -/
theorem isRegistered_detach (c : Channel ν ο) (token other : Nat) :
    (c.detach token).isRegistered other = (c.isRegistered other && other ≠ token) := by
  unfold isRegistered detach
  rw [Bool.eq_iff_iff]
  simp only [List.any_filter, List.any_eq_true, Bool.and_eq_true, decide_eq_true_eq]
  constructor
  · rintro ⟨entry, found, differs, rfl⟩
    exact ⟨⟨entry, found, rfl⟩, differs⟩
  · rintro ⟨⟨entry, found, rfl⟩, differs⟩
    exact ⟨entry, found, differs, rfl⟩

/-- Detaching twice is detaching once. -/
theorem detach_detach (c : Channel ν ο) (token : Nat) :
    (c.detach token).detach token = c.detach token := by
  simp [detach]

end Channel

end StateContainer
