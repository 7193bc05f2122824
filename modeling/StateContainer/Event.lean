/-
This file holds the events that carry the values of state channels.

An event for many readers hands its item out at every reading. One for a single
reader hands it out at the first reading and null at every later one. Peeking
shows the item of either and consumes nothing.
-/

import StateContainer.Value

namespace StateContainer

/-- How the value of an event is handed out. -/
inductive EventKind where
  /-- To the first reader only. -/
  | single
  /-- To every reader. -/
  | multi
deriving DecidableEq, Repr, Inhabited

/-- The name of the class of an event. -/
def EventKind.className : EventKind → String
  | single => "SingleEvent"
  | multi => "MultiEvent"

/-- An event with its item. -/
structure Event where
  kind : EventKind
  item : Value
  /-- The item was handed out to its single reader. -/
  consumed : Bool := false
deriving Repr, Inhabited

namespace Event

/-- An event of a value that nobody has read yet. -/
def wrap (kind : EventKind) (value : Value) : Event :=
  { kind, item := value }

/-- The item, without consuming it. -/
def peek (e : Event) : Value :=
  e.item

/-- What the next reader gets. -/
def handedOut (e : Event) : Value :=
  if e.consumed then .null else e.item

/-- The event after it was read. -/
def afterReading (e : Event) : Event :=
  match e.kind with
  | .single => { e with consumed := true }
  | .multi => e

/-- Reads the event: what the reader gets, and the event afterwards. -/
def get (e : Event) : Value × Event :=
  (e.handedOut, e.afterReading)

/-- Whether the item was handed out, which only an event for a single reader knows. -/
def consumed? (e : Event) : Option Bool :=
  match e.kind with
  | .single => some e.consumed
  | .multi => none

/-- An event as it is shown. -/
def text (e : Event) : String :=
  e.kind.className ++ "(" ++ e.item.literal ++ ")"

/-- Reading changes neither the item nor the kind. -/
@[simp] theorem afterReading_item (e : Event) : e.afterReading.item = e.item := by
  unfold afterReading
  split <;> rfl

/-- Reading leaves the kind. -/
@[simp] theorem afterReading_kind (e : Event) : e.afterReading.kind = e.kind := by
  unfold afterReading
  split <;> rfl

/-- A fresh event hands out its item. -/
@[simp] theorem handedOut_wrap (kind : EventKind) (value : Value) :
    (wrap kind value).handedOut = value := rfl

end Event

/-- An event of neither kind. It can be peeked at and shown, but it hands nothing out. -/
structure BareEvent where
  item : Value
deriving Repr, Inhabited

namespace BareEvent

/-- The wording of the error that a reader of the event gets. -/
def unreadable : String := "get() must be implemented by a subclass"

/-- The event as it is shown. -/
def text (e : BareEvent) : String :=
  "Event(" ++ e.item.literal ++ ")"

end BareEvent

end StateContainer
