/-
This file holds observers that react by rules.

When a value is delivered, the observer reads it in its own manner, notes down
what it saw and goes through its rules. A rule fires on what it was made for, as
often as its limit allows, and then its actions happen one after the other: they
push values, subscribe further observers, dispose subscriptions by their names,
take notes or fail.

What a pushed value becomes, and which channel a field stands for, is left to the
surroundings of the channel. The events of all channels lie in one scene, where
they are read in turn, so that one reader of an event can take it from another.
-/

import StateContainer.Channel.Run
import StateContainer.Event
import StateContainer.Failure
import StateContainer.OrderedMap

namespace StateContainer

/-! ### What is seen -/

/-- A value on its own or an event. -/
inductive Item (α : Type) where
  | plain (value : Value)
  | event (event : α)
deriving Repr

instance {α : Type} : Inhabited (Item α) := ⟨.plain .null⟩

/-- What an observer sees: an event as it is at that moment. -/
abbrev Sight := Item Event

/-- The text of what is seen. -/
def Item.text : Sight → String
  | .plain value => value.literal
  | .event seen => seen.text

/-- The name of the class of what is seen. -/
def Item.className : Sight → String
  | .plain value => value.className
  | .event seen => seen.kind.className

/-! ### Rules -/

/-- How an observer reads what is delivered. -/
inductive Reading where
  /-- Takes it as it is. -/
  | whole
  /-- Reads the event. -/
  | get
  /-- Looks at the item of the event. -/
  | peek
  /-- Takes its text. -/
  | text
  /-- Asks it for something else, which nothing that is delivered can give. -/
  | other (member : String)
deriving DecidableEq, Repr, Inhabited

/-- The failure of reading something by a member that it does not have, or that is a mere truth
value. -/
def Item.unreadable (member : String) : Sight → Failure
  | .plain value => .missing value.className member
  | .event seen =>
    if member = "single" || (member = "consumed" && seen.consumed?.isSome) then
      .failed (.misuse (.notCallable "bool"))
    else .missing seen.kind.className member

mutual

/-- An observer that reacts by rules. -/
inductive Observer where
  | mk (name : String) (reading : Reading) (rules : List Rule)

/-- A rule with what it fires on; nothing means that it fires on everything. -/
inductive Rule where
  | mk (trigger : Option (Sight → Bool)) (limit : Int) (actions : List Action)

/-- What a rule does. A field other than the one of the observer may be named. -/
inductive Action where
  | push (field : Option String) (value : Value)
  | dispose (name : String)
  | subscribe (field : Option String) (observer : Observer)
  | note (text : String)
  | fail (text : String)
  | interrupt (text : String)

end

instance : Inhabited Observer := ⟨.mk "" .whole []⟩

instance : Inhabited Rule := ⟨.mk none 1 []⟩

instance : Inhabited Action := ⟨.note ""⟩

/-! ### Scenes -/

/-- A note about what happened. -/
inductive Note where
  /-- An observer, or the writer of a note, saw something. -/
  | saw (name : String) (sight : Sight)
  /-- There is no subscription of that name. -/
  | noSubscription (name : String)
deriving Repr

/-- A subscription: a channel and the token of an observer. -/
structure Subscription (κ : Type) where
  channel : κ
  token : Nat
deriving Repr

/-- What observers keep among themselves. -/
structure Scene (κ : Type) where
  /-- The events, which are referred to by their positions. -/
  events : List Event := []
  subscriptions : OrderedMap String (Subscription κ) := {}
  /-- How many observers have come into being. -/
  observers : Nat := 0
  /-- How often each rule of each observer has fired. -/
  fired : OrderedMap (Nat × Nat) Nat := {}
  notes : List Note := []

namespace Scene

variable {κ : Type}

instance : Inhabited (Scene κ) := ⟨{}⟩

/-- The event that a reference stands for. -/
def eventAt (scene : Scene κ) (reference : Nat) : Event :=
  scene.events.getD reference default

/-- What is seen of a delivered item. -/
def sight (scene : Scene κ) : Item Nat → Sight
  | .plain value => .plain value
  | .event reference => .event (scene.eventAt reference)

/-- Adds a note. -/
def write (note : Note) (scene : Scene κ) : Scene κ :=
  { scene with notes := scene.notes ++ [note] }

/-- Adds an event, which the number of the events so far refers to. -/
def addEvent (event : Event) (scene : Scene κ) : Scene κ :=
  { scene with events := scene.events ++ [event] }

/-- Marks an event as read. -/
def readEvent (reference : Nat) (scene : Scene κ) : Scene κ :=
  { scene with events := scene.events.modify reference Event.afterReading }

/-- Keeps a subscription under a name. -/
def subscribe (name : String) (subscription : Subscription κ) (scene : Scene κ) : Scene κ :=
  { scene with subscriptions := scene.subscriptions.insert name subscription }

/-- Counts a new observer. -/
def addObserver (scene : Scene κ) : Scene κ :=
  { scene with observers := scene.observers + 1 }

/-- How often a rule of an observer has fired. -/
def firings (scene : Scene κ) (observer rule : Nat) : Nat :=
  (scene.fired.get? (observer, rule)).getD 0

/-- Counts a firing of a rule. -/
def fire (observer rule : Nat) (scene : Scene κ) : Scene κ :=
  { scene with fired := scene.fired.insert (observer, rule) (scene.firings observer rule + 1) }

end Scene

/-! ### Reacting -/

/-- What surrounds the channels. -/
structure Surroundings (κ : Type) where
  /-- The channel of another field beside a channel. -/
  beside : κ → String → Except Failure κ
  /-- The kind of the events that values are wrapped in when they are pushed, if they are. -/
  wrapping : κ → Option EventKind

namespace Observer

variable {κ : Type}

/-- What happens in a call of an observer. -/
abbrev Call (κ : Type) := Script κ (Item Nat) Failure (Scene κ)

/-- Goes on with what a value becomes when it is pushed to a channel. -/
def wrapThen (around : Surroundings κ) (channel : κ) (value : Value) (next : Item Nat → Call κ) :
    Call κ :=
  match around.wrapping channel with
  | none => next (.plain value)
  | some kind =>
    .consult fun scene =>
      .update (Scene.addEvent (.wrap kind value)) (next (.event scene.events.length))

/-- Pushes a value. -/
def pushThen (around : Surroundings κ) (channel : κ) (value : Value) (next : Call κ) : Call κ :=
  wrapThen around channel value fun item => .push channel item (Script.orFail next)

/-- Reads an item in some manner, and goes on with what the observer holds then: an event that is
taken as it is remains the event that it was. -/
def readThen (reading : Reading) (item : Item Nat) (next : Item Nat → Call κ) : Call κ :=
  match reading, item with
  | .whole, _ => next item
  | .text, _ => .consult fun scene => next (.plain (.text (scene.sight item).text))
  | .get, .event reference =>
    .consult fun scene =>
      .update (Scene.readEvent reference) (next (.plain (scene.eventAt reference).handedOut))
  | .peek, .event reference =>
    .consult fun scene => next (.plain (scene.eventAt reference).peek)
  | .get, .plain value => .fail (.unreadable value)
  | .peek, .plain value => .fail (.missing value.className "peek")
  | .other member, _ => .consult fun scene => .fail (Item.unreadable member (scene.sight item))

/-- The channel that an action is about. -/
def targetThen (find : κ → String → Except Failure κ) (channel : κ) (field : Option String)
    (next : κ → Call κ) : Call κ :=
  match field with
  | none => next channel
  | some name =>
    match find channel name with
    | .ok found => next found
    | .error failure => .fail failure

/-- Subscribes an observer whose calls are known, and keeps the subscription under its name. -/
def subscribeThen (channel : κ) (name : String) (calls : Nat → Item Nat → Call κ)
    (next : Call κ) : Call κ :=
  .consult fun scene =>
    .update Scene.addObserver <|
      .subscribe channel (calls scene.observers) <|
        Script.withToken fun token =>
          .update (Scene.subscribe name { channel, token }) next

/-- Disposes the subscription of a name, or notes that there is none. -/
def disposeThen (name : String) (next : Call κ) : Call κ :=
  .consult fun scene =>
    match scene.subscriptions.get? name with
    | some found => .dispose found.channel found.token next
    | none => .update (Scene.write (.noSubscription name)) next

/-- The name of an observer. -/
def name : Observer → String
  | mk name _ _ => name

mutual

/-- What an observer does when an item is delivered to it. It is told apart from other observers
by its number. -/
def react (around : Surroundings κ) (number : Nat) (channel : κ) : Observer → Item Nat → Call κ
  | mk name reading rules, item =>
    readThen reading item fun held =>
      .consult fun scene =>
        .update (Scene.write (.saw name (scene.sight held)))
          (followRules around number channel held 0 rules)

/-- Goes through rules. Each one looks at what is held as it is when its turn comes, so that what an
earlier rule did to an event counts. -/
def followRules (around : Surroundings κ) (number : Nat) (channel : κ) (held : Item Nat)
    (position : Nat) : List Rule → Call κ
  | [] => .finish
  | .mk trigger limit actions :: others =>
    .consult fun scene =>
      if scene.firings number position < limit && trigger.all (· (scene.sight held)) then
        .update (Scene.fire number position) <|
          act around channel actions <|
            followRules around number channel held (position + 1) others
      else followRules around number channel held (position + 1) others

/-- Does one action after the other. -/
def act (around : Surroundings κ) (channel : κ) : List Action → Call κ → Call κ
  | [], next => next
  | .push field value :: others, next =>
    targetThen around.beside channel field fun target =>
      pushThen around target value (act around channel others next)
  | .dispose name :: others, next => disposeThen name (act around channel others next)
  | .subscribe field observer :: others, next =>
    targetThen around.beside channel field fun target =>
      subscribeThen target observer.name
        (fun number item => react around number target observer item)
        (act around channel others next)
  | .note text :: others, next =>
    .read channel fun item =>
      .consult fun scene =>
        .update (Scene.write (.saw text (scene.sight item))) (act around channel others next)
  | .fail text :: _, _ => .fail (.raised text)
  | .interrupt text :: _, _ => .interrupt (.broken text)

end

/-- Subscribes an observer to a channel. -/
def subscription (around : Surroundings κ) (channel : κ) (observer : Observer) : Call κ :=
  subscribeThen channel observer.name (fun number => react around number channel observer) .finish

end Observer

end StateContainer
