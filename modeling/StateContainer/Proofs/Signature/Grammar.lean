/-
This file gives the grammar of type signatures and the meaning of what it derives.

A type is a name, or a name with a list of arguments in brackets. Names and the question
mark behind a list are runs of characters that are neither brackets nor commas. In every
rule a run stands next to a bracket, a comma or an end of the text, so it is always as
long as it can be.
-/

import StateContainer.Proofs.Text
import StateContainer.Signature.Parser

namespace StateContainer.Signature

/-! ### Runs and names -/

/-- Whether a text has no brackets and no commas. -/
def IsRun (text : List Char) : Prop :=
  ∀ c ∈ text, isSpecial c = false

/-- The name that a run gives, and whether a question mark makes its type nullable. The question
mark ends the trimmed run and is not the whole of it. -/
inductive Names (run : List Char) : List Char → Bool → Prop where
  | plain (named : Text.trim run ≠ [])
      (unmarked : ∀ front, front ≠ [] → Text.trim run ≠ front ++ ['?']) :
      Names run (Text.trim run) false
  | marked (front : List Char) (longer : front ≠ [])
      (mark : Text.trim run = front ++ ['?']) : Names run (Text.trimEnd front) true

/-- A blank run gives no name. -/
theorem Names.trim_ne_nil {run name : List Char} {nullable : Bool}
    (names : Names run name nullable) : Text.trim run ≠ [] := by
  cases names with
  | plain named unmarked => exact named
  | marked front longer mark =>
    rw [mark]
    exact List.append_ne_nil_of_right_ne_nil _ (List.cons_ne_nil _ _)

/-- A name is not empty. -/
theorem Names.name_ne_nil {run name : List Char} {nullable : Bool}
    (names : Names run name nullable) : name ≠ [] := by
  cases names with
  | plain named unmarked => exact named
  | marked front longer mark =>
    intro blank
    cases front with
    | nil => exact longer rfl
    | cons c rest =>
      have first : Text.isBlank c = true :=
        Text.trimEnd_eq_nil_iff.mp blank c List.mem_cons_self
      exact absurd ((Text.isBlank_head_trim mark).symm.trans first) Bool.false_ne_true

/-! ### Types -/

mutual

/-- A text is a type, with a description of the type. -/
inductive Derives : List Char → Descriptor → Prop where
  | name {run name : List Char} {nullable : Bool} (plain : IsRun run)
      (names : Names run name nullable) : Derives run ⟨String.ofList name, nullable, []⟩
  | generic {run name : List Char} {nullable : Bool} (plain : IsRun run)
      (names : Names run name nullable) (bracket : Bracket) {inner : List Char}
      {arguments : List Descriptor} (list : DerivesList inner arguments) {mark : List Char}
      (plainMark : IsRun mark) (ending : Text.trim mark = [] ∨ Text.trim mark = ['?']) :
      Derives (run ++ bracket.opening :: inner ++ bracket.closing :: mark)
        ⟨String.ofList name, nullable || Text.trim mark = ['?'], arguments⟩

/-- A text is a list of one or more types with single commas between them. -/
inductive DerivesList : List Char → List Descriptor → Prop where
  | single {text : List Char} {t : Descriptor} (first : Derives text t) : DerivesList text [t]
  | cons {text others : List Char} {t : Descriptor} {rest : List Descriptor}
      (first : Derives text t) (list : DerivesList others rest) :
      DerivesList (text ++ ',' :: others) (t :: rest)

end

/-- A list of types can be continued. -/
theorem DerivesList.snoc {text last : List Char} {types : List Descriptor} {t : Descriptor}
    (list : DerivesList text types) (derived : Derives last t) :
    DerivesList (text ++ ',' :: last) (types ++ [t]) := by
  cases list with
  | single first => exact .cons first (.single derived)
  | cons first list =>
    rw [List.append_assoc, List.cons_append]
    exact .cons first (list.snoc derived)

/-- A list of types is not empty. -/
theorem DerivesList.ne_nil {text : List Char} {types : List Descriptor}
    (list : DerivesList text types) : types ≠ [] := by
  cases list with
  | single => exact List.cons_ne_nil _ _
  | cons => exact List.cons_ne_nil _ _

/-! ### Reading names -/

/-- When the reader takes the last character of a trimmed run for a mark. -/
theorem marked_iff {name : List Char} :
    (1 < name.length && name.getLast? = some '?') = true ↔
      ∃ front, front ≠ [] ∧ name = front ++ ['?'] := by
  rw [Bool.and_eq_true, decide_eq_true_eq, decide_eq_true_eq, List.getLast?_eq_some_iff]
  constructor
  · rintro ⟨longer, front, rfl⟩
    refine ⟨front, ?_, rfl⟩
    rintro rfl
    exact absurd longer (Nat.lt_irrefl 1)
  · rintro ⟨front, longer, rfl⟩
    refine ⟨?_, front, rfl⟩
    rw [List.length_append, List.length_singleton]
    exact Nat.lt_add_of_pos_left (List.length_pos_iff.mpr longer)

/-- What a run gives is what is read from it. -/
theorem Names.readName_eq {run name : List Char} {nullable : Bool}
    (names : Names run name nullable) : readName run = (name, nullable) := by
  cases names with
  | plain named unmarked =>
    refine if_neg fun marked => ?_
    obtain ⟨front, longer, mark⟩ := marked_iff.mp marked
    exact unmarked front longer mark
  | marked front longer mark =>
    refine (if_pos (marked_iff.mpr ⟨front, longer, mark⟩)).trans ?_
    rw [mark, List.dropLast_concat]

/-- Every run that is not blank gives the name that is read from it. -/
theorem names_readName {run : List Char} (named : Text.trim run ≠ []) :
    Names run (readName run).1 (readName run).2 := by
  by_cases marked : ∃ front, front ≠ [] ∧ Text.trim run = front ++ ['?']
  · obtain ⟨front, longer, mark⟩ := marked
    have names : Names run (Text.trimEnd front) true := .marked front longer mark
    rw [names.readName_eq]
    exact names
  · have names : Names run (Text.trim run) false :=
      .plain named fun front longer mark => marked ⟨front, longer, mark⟩
    rw [names.readName_eq]
    exact names

/-- A type is read from every run that gives a name. -/
theorem Names.itemOfRun_eq {run name : List Char} {nullable : Bool}
    (names : Names run name nullable) (position : Nat) :
    itemOfRun run position =
      .ok { descriptor := ⟨String.ofList name, nullable, []⟩, position } := by
  have written : name.isEmpty = false := List.isEmpty_eq_false_iff.mpr names.name_ne_nil
  rw [itemOfRun, names.readName_eq]
  simp only [written]
  rfl

end StateContainer.Signature
