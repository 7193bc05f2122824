/-
This file reads single items out of trees. Where an item is not there, or is of
another kind, there is nothing to read.
-/

import StateContainer.Json

namespace StateContainer.Json

/-- The text of a tree that is a text. -/
def text? : Json → Option String
  | text s => some s
  | _ => none

/-- The items of an array; there are none in any other tree. -/
def items : Json → List Json
  | array items => items
  | _ => []

/-- The entries of an object; there are none in any other tree. -/
def entries : Json → List (String × Json)
  | object entries => entries
  | _ => []

/-- Whether a tree counts as true: null, zero and what is empty do not. -/
def truth : Json → Bool
  | null => false
  | bool b => b
  | int n => n ≠ 0
  | float x => !x.isZero
  | text s => s ≠ ""
  | array items => !items.isEmpty
  | object entries => !entries.isEmpty

/-- The texts among the items of an array. -/
def texts (tree : Json) : List String :=
  tree.items.filterMap text?

/-- The text of a key of an object. -/
def textAt? (tree : Json) (key : String) : Option String :=
  (tree.field? key).bind text?

/-- The text of a key of an object; the empty text if there is none. -/
def textAt (tree : Json) (key : String) : String :=
  (tree.textAt? key).getD ""

/-- The items of a key of an object. -/
def itemsAt (tree : Json) (key : String) : List Json :=
  ((tree.field? key).map items).getD []

/-- Whether what an object binds to a key counts as true, with what is taken otherwise. -/
def flagAt (tree : Json) (key : String) (otherwise : Bool) : Bool :=
  ((tree.field? key).map truth).getD otherwise

/-- Whether an object has a key. -/
def hasKey (tree : Json) (key : String) : Bool :=
  (tree.field? key).isSome

/-! ### Size -/

/-- What an association list binds to a key is smaller than the list. -/
theorem sizeOf_lookup_lt {entries : List (String × Json)} {key : String} {found : Json}
    (bound : entries.lookup key = some found) : sizeOf found < sizeOf entries := by
  induction entries with
  | nil => simp at bound
  | cons entry others inductionHypothesis =>
    obtain ⟨key', value⟩ := entry
    rw [List.lookup_cons] at bound
    split at bound
    · obtain rfl := Option.some.inj bound
      simp
      omega
    · have smaller := inductionHypothesis bound
      simp
      omega

/-- What an object binds to a key is smaller than the object. -/
theorem sizeOf_field?_lt {tree found : Json} {key : String}
    (bound : tree.field? key = some found) : sizeOf found < sizeOf tree := by
  unfold field? at bound
  split at bound
  · next entries =>
    have smaller := sizeOf_lookup_lt bound
    simp
    omega
  · simp at bound

/-- The items of an array that an object binds to a key are smaller than the object. -/
theorem sizeOf_lt_of_mem_itemsAt {tree item : Json} {key : String}
    (member : item ∈ tree.itemsAt key) : sizeOf item < sizeOf tree := by
  unfold itemsAt at member
  cases bound : tree.field? key with
  | none => simp [bound] at member
  | some found =>
    have smaller := sizeOf_field?_lt bound
    cases found with
    | array items =>
      simp only [bound, Option.map_some, Option.getD_some, Json.items] at member
      have inside := List.sizeOf_lt_of_mem member
      simp at smaller
      omega
    | _ => simp [bound, Json.items] at member

end StateContainer.Json
