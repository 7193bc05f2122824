/-
This file holds the description of a declared type: a qualified name, whether
the type admits the null value, and its type arguments, which are descriptions
again. `Map<String, List<Int>?>` is the name `Map` with two arguments, of which
the second is a nullable `List` with an argument of its own.
-/

import StateContainer.Text.Pieces

namespace StateContainer

/-- A declared type as a tree of names and type arguments. -/
structure Descriptor where
  name : String
  nullable : Bool := false
  arguments : List Descriptor := []
deriving Inhabited, Repr

namespace Descriptor

/-! ### Equality -/

mutual

/-- Two descriptions are equal if they agree in name, nullability and arguments. -/
def decEq : (first second : Descriptor) → Decidable (first = second)
  | ⟨name, nullable, arguments⟩, ⟨name', nullable', arguments'⟩ =>
    if sameName : name = name' then
      if sameNullable : nullable = nullable' then
        match decEqList arguments arguments' with
        | isTrue sameArguments => isTrue (by rw [sameName, sameNullable, sameArguments])
        | isFalse differ => isFalse fun equal => differ (Descriptor.mk.inj equal).2.2
      else isFalse fun equal => sameNullable (Descriptor.mk.inj equal).2.1
    else isFalse fun equal => sameName (Descriptor.mk.inj equal).1

/-- Lists of descriptions are compared entry by entry. -/
def decEqList : (first second : List Descriptor) → Decidable (first = second)
  | [], [] => isTrue rfl
  | [], _ :: _ => isFalse nofun
  | _ :: _, [] => isFalse nofun
  | head :: tail, head' :: tail' =>
    match decEq head head' with
    | isTrue sameHead =>
      match decEqList tail tail' with
      | isTrue sameTail => isTrue (by rw [sameHead, sameTail])
      | isFalse differ => isFalse fun equal => differ (List.cons.inj equal).2
    | isFalse differ => isFalse fun equal => differ (List.cons.inj equal).1

end

instance : DecidableEq Descriptor := decEq

/-! ### Building descriptions -/

/-- A description from its parts; a type has to have a name. -/
def ofParts? (name : String) (nullable : Bool) (arguments : List Descriptor) : Option Descriptor :=
  if name = "" then none else some ⟨name, nullable, arguments⟩

/-- The same type with other arguments. -/
def withArguments (t : Descriptor) (arguments : List Descriptor) : Descriptor :=
  { t with arguments }

/-- The same type with another nullability. -/
def asNullable (t : Descriptor) (nullable : Bool) : Descriptor :=
  { t with nullable }

/-- The part of the name after its last dot. -/
def simpleName (t : Descriptor) : String :=
  String.ofList (Text.afterLast '.' t.name.toList)

end Descriptor

end StateContainer
