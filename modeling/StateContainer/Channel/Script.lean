/-
This file says what can happen when an observer is called.

A script is everything that one call does, written as a tree: each step names an
operation and says how the call goes on with its result. An observer is a
function from the delivered value to a script, so that it may do anything that
ends: push and subscribe, to the same channel or to others, dispose subscriptions,
read values, keep notes of its own in the surroundings, and raise an error. What a
push or a subscription raises is handed to the call that made it, which may go on
as it likes.
-/

namespace StateContainer

/-- What a call that does not return raises. -/
inductive Raised (ε : Type) where
  /-- An error, which does not stop the delivery that it is raised in. -/
  | error (error : ε)
  /-- An interruption, which does. -/
  | interruption (error : ε)
deriving Repr, Inhabited

/-- What a call does. Channels are named by `κ`, values are of type `ν` and errors of type `ε`;
`σ` is what the calls keep among themselves. -/
inductive Script (κ ν ε σ : Type) where
  /-- The call returns. -/
  | finish
  /-- The call raises an error. -/
  | fail (error : ε)
  /-- The call raises an interruption. -/
  | interrupt (error : ε)
  /-- Pushes a value. The call goes on with what the push raised, if it raised something. -/
  | push (channel : κ) (value : ν) (next : Option (Raised ε) → Script κ ν ε σ)
  /-- Subscribes an observer. The call goes on with the token of the observer, or with what the
  observer raised when the latest value was replayed to it. -/
  | subscribe (channel : κ) (observer : ν → Script κ ν ε σ)
      (next : Except (Raised ε) Nat → Script κ ν ε σ)
  /-- Detaches the observer of a token. -/
  | dispose (channel : κ) (token : Nat) (next : Script κ ν ε σ)
  /-- Reads the value of a channel. -/
  | read (channel : κ) (next : ν → Script κ ν ε σ)
  /-- Looks at what the calls keep. -/
  | consult (next : σ → Script κ ν ε σ)
  /-- Changes what the calls keep. -/
  | update (change : σ → σ) (next : Script κ ν ε σ)

namespace Script

variable {κ ν ε σ : Type}

instance : Inhabited (Script κ ν ε σ) := ⟨finish⟩

/-- Raises something. -/
def raise : Raised ε → Script κ ν ε σ
  | .error error => fail error
  | .interruption error => interrupt error

/-- Goes on after a push, or raises what it raised. -/
def orFail (next : Script κ ν ε σ) : Option (Raised ε) → Script κ ν ε σ
  | none => next
  | some raised => raise raised

/-- Goes on with the token of a subscription, or raises what the observer raised. -/
def withToken (next : Nat → Script κ ν ε σ) : Except (Raised ε) Nat → Script κ ν ε σ
  | .ok token => next token
  | .error raised => raise raised

end Script

end StateContainer
