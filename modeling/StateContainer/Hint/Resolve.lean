/-
This file resolves the texts in the annotations of a class.

An annotation that is a text is evaluated, and so is every text among the
arguments of a generic type. What a text evaluates to may hold texts again; a
text that leads back to itself stays as it is. At the end the remarks on types
are taken off.
-/

import StateContainer.Hint.Evaluate

namespace StateContainer.Hint

/-! ### Texts -/

/-- A text among the arguments of a plain generic type becomes a type known by it. -/
def convertTexts (items : List Hint) : Evaluation (List Hint) :=
  items.mapM fun item =>
    match item with
    | value (.text text) => forwardOf text
    | other => return other

/-- What a text is evaluated for: the annotation of a field may be a qualifier, an argument of a
type may not. -/
def admissionOf (ofField : Bool) : Admission :=
  if ofField then { qualifiers := true, argument := false } else {}

/-- A generic type with other arguments, or the very type if they are the same. -/
def withOthers (generic : Hint) (items others : List Hint) : Evaluation Hint :=
  if sameAll items others then return generic else withArguments generic others

mutual

/-- How deep types are nested in a type, itself included. -/
def depth : Hint → Nat
  | applied _ _ items => depthOfAll items + 1
  | unpacked generic => depth generic + 1
  | union _ items => depthOfAll items + 1
  | literal items => depthOfAll items + 1
  | annotated base _ => depth base + 1
  | qualified _ items => depthOfAll items + 1
  | _ => 1

/-- The depth of the deepest of several types. -/
def depthOfAll : List Hint → Nat
  | [] => 0
  | first :: others => max (depth first) (depthOfAll others)

end

mutual

/-- Resolves the texts in an evaluated annotation, given the texts that are being resolved. -/
def resolve (scope : Scope) : Nat → List String → Hint → Evaluation Hint
  | 0, _, _ => throw .endless
  | fuel + 1, open_, hint =>
    match hint with
    | forward text => resolveText scope fuel open_ false text
    | applied .plain origin items => do
      let items ← convertTexts items
      let others ← items.mapM (resolve scope fuel open_)
      withOthers (applied .plain origin items) items others
    | unpacked (applied .plain origin items) => do
      let items ← convertTexts items
      let generic ← applyForm "Unpack" (applied .plain origin items)
      let other ← resolve scope fuel open_ (applied .plain origin items)
      withOthers generic [applied .plain origin items] [other]
    | other =>
      match other, argumentsOf? other with
      | unpacked _, _ => return other
      | _, some items => do withOthers other items (← items.mapM (resolve scope fuel open_))
      | _, none => return other

/-- Evaluates a text and resolves the texts in what it evaluates to. -/
def resolveText (scope : Scope) : Nat → List String → Bool → String → Evaluation Hint
  | 0, _, _, _ => throw .endless
  | fuel + 1, open_, ofField, text =>
    if open_.contains text then return forward text
    else do
      let evaluated ← evaluateIn scope (← expressionOf text)
      let checked ←
        checkType (admissionOf ofField) "Forward references must evaluate to types." evaluated
      match checked with
      | forward inner => resolveText scope fuel (text :: open_) ofField inner
      | other => resolve scope fuel (text :: open_) other

end

/-- How deep texts and the types that they stand for may be nested. -/
def resolutionDepth : Nat := 1000

/-! ### Remarks -/

mutual

/-- The type without remarks. -/
def plain : Hint → Evaluation Hint
  | annotated base _ => plain base
  | qualified name items => do
    let bare ← plainAll items
    match name = "Required" || name = "NotRequired", bare with
    | true, only :: _ => return only
    | _, _ => withOthers (qualified name items) items bare
  | applied spelling origin items => do
    withOthers (applied spelling origin items) items (← plainAll items)
  | union bars items => do withOthers (union bars items) items (← plainAll items)
  | literal items => do withOthers (literal items) items (← plainAll items)
  | other => return other

/-- Several types without remarks. -/
def plainAll : List Hint → Evaluation (List Hint)
  | [] => return []
  | first :: others => do
    let first ← plain first
    let others ← plainAll others
    return first :: others

end

/-! ### Fields -/

/-- The type of a field from its annotation as it was written, remarks included. -/
def resolveField (scope : Scope) (given : Hint) : Evaluation Hint :=
  match given with
  | value .null => return nullType
  | value (.text text) => do
    let _ ← forwardOf text
    resolveText scope resolutionDepth [] true text
  | other => resolve scope (resolutionDepth + other.depth) [] other

end StateContainer.Hint
