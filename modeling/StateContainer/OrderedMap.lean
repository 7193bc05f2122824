/-
This file holds maps that remember the order in which their keys were first
bound. Binding a key again replaces its value and leaves it where it stands.

The two main statements are the usual laws of reading after writing.
-/

namespace StateContainer

/-- A map from keys to values, in the order in which the keys were first bound. -/
structure OrderedMap (κ ν : Type) where
  entries : List (κ × ν) := []
deriving Repr

namespace OrderedMap

variable {κ ν : Type} [DecidableEq κ]

instance : Inhabited (OrderedMap κ ν) := ⟨{}⟩

/-- The value that the entries bind to a key. -/
def lookup (key : κ) : List (κ × ν) → Option ν
  | [] => none
  | (key', value) :: rest => if key' = key then some value else lookup key rest

/-- The entries with a key bound to a value. -/
def bind (key : κ) (value : ν) : List (κ × ν) → List (κ × ν)
  | [] => [(key, value)]
  | (key', value') :: rest =>
    if key' = key then (key', value) :: rest else (key', value') :: bind key value rest

/-- The value bound to a key. -/
def get? (m : OrderedMap κ ν) (key : κ) : Option ν :=
  lookup key m.entries

/-- Binds a key to a value. -/
def insert (m : OrderedMap κ ν) (key : κ) (value : ν) : OrderedMap κ ν :=
  ⟨bind key value m.entries⟩

/-- Whether a key is bound. -/
def contains (m : OrderedMap κ ν) (key : κ) : Bool :=
  (m.get? key).isSome

/-- The bound keys in order. -/
def keys (m : OrderedMap κ ν) : List κ :=
  m.entries.map (·.1)

/-- The bound values in the order of their keys. -/
def values (m : OrderedMap κ ν) : List ν :=
  m.entries.map (·.2)

/-- The map that binds the pairs one after the other. -/
def ofList (pairs : List (κ × ν)) : OrderedMap κ ν :=
  pairs.foldl (fun m pair => m.insert pair.1 pair.2) {}

/-- Reading the key that was bound gives the value. -/
@[simp] theorem get?_insert_self (m : OrderedMap κ ν) (key : κ) (value : ν) :
    (m.insert key value).get? key = some value := by
  unfold insert get?
  induction m.entries with
  | nil => simp [bind, lookup]
  | cons entry rest inductionHypothesis =>
    unfold bind
    split
    · next same => simp [lookup, same]
    · next differ => simp [lookup, differ, inductionHypothesis]

/-- Reading any other key gives what it gave before. -/
theorem get?_insert_of_ne (m : OrderedMap κ ν) {key other : κ} (value : ν) (differ : other ≠ key) :
    (m.insert key value).get? other = m.get? other := by
  unfold insert get?
  induction m.entries with
  | nil => simp [bind, lookup, differ.symm]
  | cons entry rest inductionHypothesis =>
    unfold bind
    split
    · next same => simp [lookup, same, differ.symm]
    · simp [lookup, inductionHypothesis]

end OrderedMap

end StateContainer
