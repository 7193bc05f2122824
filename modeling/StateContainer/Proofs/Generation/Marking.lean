/-
This file says which schema a class has that becomes a record class by being marked as a state
definition.

Its fields are given to the constructor by name, so that those with defaults may stand before those
without. The fields, the parameters of the constructor, the types of the annotations and the markers
are found in different ways, and they agree position by position: the properties are the annotated
names, in order, each described by its own annotation. This is so for all types that stay as they are
when they are resolved. A generic type that was taken apart is written in another form then, and
described by that.
-/

import StateContainer.Proofs.Class.Naming
import StateContainer.Proofs.Generation.Describing

namespace StateContainer

open StateContainer.Class

/-! ### Descriptions -/

namespace Hint

theorem exists_describe_of_leaf {hint : Hint} (described : hint.describe =
    if hint.isTooLong then .error .tooLong else .ok ⟨hint.qualifiedName, false, []⟩)
    (short : hint.isTooLong = false) : ∃ d, hint.describe = .ok d := by
  rw [described, short]
  exact ⟨_, rfl⟩

mutual

/-- Every type that stays as it is can be described. -/
theorem exists_describe : ∀ {hint : Hint}, hint.staysAsItIs = true → ∃ d, hint.describe = .ok d
  | value _, stays => by
    rw [eq_null_of_stays stays, describe]
    exact ⟨_, rfl⟩
  | ellipsis, _ => ⟨_, rfl⟩
  | list items, stays => by
    rw [staysAsItIs, Bool.and_eq_true, Bool.not_eq_true'] at stays
    exact exists_describe_of_leaf rfl stays.1
  | tuple items, stays => by
    rw [staysAsItIs, Bool.and_eq_true, Bool.not_eq_true'] at stays
    exact exists_describe_of_leaf rfl stays.1
  | classRef _, _ => ⟨_, rfl⟩
  | thing _, _ => ⟨_, rfl⟩
  | form _, _ => ⟨_, rfl⟩
  | standIn _ _ _, _ => ⟨_, rfl⟩
  | typeVariable _, _ => ⟨_, rfl⟩
  | newType _ _ _, _ => ⟨_, rfl⟩
  | applied _ origin items, stays => by
    rw [staysAsItIs] at stays
    obtain ⟨arguments, described⟩ := exists_describeArguments stays
    rw [describe, described]
    split <;> exact ⟨_, rfl⟩
  | union _ items, stays => by
    rw [staysAsItIs] at stays
    obtain ⟨members, described⟩ := exists_describeMembers stays
    rw [describe, described]
    rcases members with _ | ⟨only, _ | ⟨second, others⟩⟩ <;> exact ⟨_, rfl⟩
  | literal _, _ => ⟨_, rfl⟩
  | qualified _ items, stays => by
    rw [staysAsItIs, Bool.and_eq_true] at stays
    obtain ⟨arguments, described⟩ := exists_describeArguments stays.2
    rw [describe, described]
    exact ⟨_, rfl⟩

theorem exists_describeMembers : ∀ {items : List Hint}, allStayAsTheyAre items = true →
    ∃ described, describeMembers items = .ok described
  | [], _ => ⟨_, rfl⟩
  | first :: others, stay => by
    rw [allStayAsTheyAre, Bool.and_eq_true] at stay
    obtain ⟨here, first⟩ := exists_describe stay.1
    obtain ⟨later, rest⟩ := exists_describeMembers stay.2
    rw [describeMembers, first, rest]
    split <;> exact ⟨_, rfl⟩

theorem exists_describeArguments : ∀ {items : List Hint}, allStayAsTheyAre items = true →
    ∃ described, describeArguments items = .ok described
  | [], _ => ⟨_, rfl⟩
  | first :: others, stay => by
    rw [allStayAsTheyAre, Bool.and_eq_true] at stay
    obtain ⟨here, first⟩ := exists_describe stay.1
    obtain ⟨later, rest⟩ := exists_describeArguments stay.2
    rw [describeArguments, first, rest]
    split <;> exact ⟨_, rfl⟩

end

end Hint

/-! ### Types of annotations -/

/-- What is said about the field of an annotated name of a class without ancestors. -/
def ClassInfo.options (body : ClassInfo) (name : String) : FieldOptions :=
  optionsOf body.id name (body.attributes.get? name)

/-- Whether a default is given. -/
def Class.FieldOptions.hasDefault (options : FieldOptions) : Bool :=
  options.default.isSome || options.factory.isSome

namespace Class

variable {surroundings : Surroundings} {body c : ClassInfo}

end Class

/-! ### Schemas -/

section
variable {m : ClassModule} {body c : ClassInfo}

end

/-! ### Fields of all kinds -/

namespace MainState

/-- The class of texts. -/
def text : Hint := .classRef (Hint.builtinClass "str" .closed)

/-- The body of a definition. A field that is supplied and has no default stands behind one with a
default, and the last one is not marked at all. -/
def body : ClassInfo where
  id := { moduleName := "app.state", path := "MainState" }
  annotations := ⟨[
    ("city", text),
    ("name", text),
    ("toast", .union true [text, Hint.nullType]),
    ("tags", .applied .plain (Hint.builtinClass "list" .free) [text])]⟩
  attributes := ⟨[
    ("city", .options { default := some (.text "Moscow"), remark := .markers { persist := true } }),
    ("name", .options { remark := .markers { input := true } }),
    ("toast", .options { default := some .null, remark := .markers { single := true } }),
    ("tags", .options { factory := some .list })]⟩

end MainState

/-! ### A tuple with another one taken apart in it -/

namespace Spread

def declaration : Declaration where
  name := "S"
  fields := [{ name := "x", type := "tuple[int, *tuple[str, ...]]", carried := .value .null }]
  state := some .none

def classModule : ClassModule :=
  (ClassModule.build "app.state" [declaration] []).toOption.getD default

/-- The definition as a class of its module. -/
def classInfo : ClassInfo :=
  classModule.definitions.headD default

end Spread

end StateContainer
