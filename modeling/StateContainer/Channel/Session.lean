/-
This file lets a user work with channels from the outside, where no call of an
observer is going on: one operation after the other is run to its end.

A subscription may be used for a block of operations. Leaving the block detaches
the observer, however the block is left.
-/

import StateContainer.Channel.Observer

namespace StateContainer

/-- The channels of a session. -/
abbrev Session (κ : Type) := Bank κ (Item Nat) Failure (Scene κ)

namespace Session

variable {κ : Type} [DecidableEq κ]

/-- The number of steps after which an operation is given up. -/
def stepLimit : Nat := 10000000

/-- Runs an operation to its end. -/
def perform (session : Session κ) (operation : Observer.Call κ) : Outcome Failure × Session κ :=
  Bank.run stepLimit operation session

/-- Runs operations one after the other, as long as they finish. -/
def performAll (session : Session κ) : List (Observer.Call κ) → Outcome Failure × Session κ
  | [] => (.finished, session)
  | first :: others =>
    match session.perform first with
    | (.finished, after) => performAll after others
    | result => result

/-- A channel that starts with a value, which is wrapped as the channel demands. -/
def begin (around : Surroundings κ) (session : Session κ) (channel : κ) (value : Value) :
    Session κ :=
  match around.wrapping channel with
  | none => session.start channel (.plain value)
  | some kind =>
    (session.start channel (.event session.kept.events.length)).keep
      (Scene.addEvent (.wrap kind value))

/-- The subscription of a name. -/
def subscription? (session : Session κ) (name : String) : Option (Subscription κ) :=
  session.kept.subscriptions.get? name

/-- Whether a subscription was disposed, which is the case when its observer is not registered. -/
def isDisposed (session : Session κ) (subscription : Subscription κ) : Bool :=
  !(session.channels subscription.channel).isRegistered subscription.token

/-- Detaches the observer of a subscription. -/
def dispose (session : Session κ) (subscription : Subscription κ) : Session κ :=
  session.modify subscription.channel (·.detach subscription.token)

/-- Uses a subscription for a block of operations, which may end with a failure of its own. -/
def within (session : Session κ) (around : Surroundings κ) (channel : κ) (observer : Observer)
    (operations : List (Observer.Call κ)) (ending : Option Failure) :
    Outcome Failure × Session κ :=
  match session.perform (observer.subscription around channel) with
  | (.finished, subscribed) =>
    let (outcome, used) := subscribed.performAll operations
    let left :=
      match subscribed.subscription? observer.name with
      | some subscription => used.dispose subscription
      | none => used
    match outcome, ending with
    | .finished, some failure => (.failed failure, left)
    | _, _ => (outcome, left)
  | result => result

/-- What is seen of the value of a channel. -/
def sight (session : Session κ) (channel : κ) : Sight :=
  session.kept.sight (session.channels channel).value

/-- Reads the value of a channel in some manner. -/
def read (session : Session κ) (channel : κ) (reading : Reading) :
    Except Failure (Sight × Session κ) :=
  match reading, (session.channels channel).value with
  | .whole, item => .ok (session.kept.sight item, session)
  | .text, item => .ok (.plain (.text (session.kept.sight item).text), session)
  | .get, .event reference =>
    .ok (.plain (session.kept.eventAt reference).handedOut, session.keep (Scene.readEvent reference))
  | .peek, .event reference => .ok (.plain (session.kept.eventAt reference).peek, session)
  | .get, .plain value => .error (.unreadable value)
  | .peek, .plain value => .error (.missing value.className "peek")
  | .other member, item => .error (Item.unreadable member (session.kept.sight item))

/-- The session with its notes and its log cleared, before another operation. -/
def cleared (session : Session κ) : Session κ :=
  { session with kept := { session.kept with notes := [] }, log := [] }

end Session

/-- The surroundings of a channel that stands alone. -/
def Surroundings.alone (wrapping : Option EventKind) : Surroundings Unit where
  beside channel _ := .ok channel
  wrapping _ := wrapping

end StateContainer
