/-
This file says how a qualified name is split into a module and a path.

The capital that a part begins with is all that tells classes from modules. The main statement is
that a name is split where a module path meets a class path: the last part of a module is not
capitalised, and of a path only the last part may be so. There is at most one such place. A name
without one, in which all parts but the last are capitalised, is not split, and neither is one with
a part that is no identifier.
-/

import StateContainer.Proofs.Text
import StateContainer.QualifiedName

namespace StateContainer

namespace Text

/-- Parts without dots are the parts of the name that they are put together to. -/
theorem dottedParts_dotted {parts : List String} (nonempty : parts ≠ [])
    (free : ∀ part ∈ parts, '.' ∉ part.toList) : dottedParts (dotted parts) = parts := by
  have free : ∀ part ∈ parts.map String.toList, '.' ∉ part := List.forall_mem_map.mpr free
  rw [dottedParts, toList_dotted, pieces_joined (by simpa using nonempty) free, List.map_map]
  exact List.map_id'' (fun _ => String.ofList_toList) parts

/-- A name is put together of its parts. -/
theorem dotted_dottedParts (name : String) : dotted (dottedParts name) = name :=
  String.toList_inj.mp ((toList_dotted _).trans (joined_dottedParts name))

/-- The parts of two names with a dot between them are those of both names. -/
theorem dottedParts_append (first second : String) :
    dottedParts (first ++ "." ++ second) = dottedParts first ++ dottedParts second := by
  have characters : (first ++ "." ++ second).toList = first.toList ++ '.' :: second.toList := by
    rw [String.toList_append, String.toList_append, List.append_assoc]
    rfl
  rw [dottedParts, characters, pieces_append_cons, List.map_append]
  rfl

/-- Lists of parts that are put together one behind the other have a dot between them. -/
theorem dotted_append {first second : List String} (nonempty : first ≠ [])
    (nonemptySecond : second ≠ []) : dotted (first ++ second) = dotted first ++ "." ++ dotted second :=
  String.intercalate_append_of_ne_nil nonempty nonemptySecond

end Text

namespace QualifiedName

variable {name moduleName path : String} {parts : List String}

/-! ### Modules and paths -/

/-- Whether some parts name a module: they are identifiers, and there is a last one, which is not
capitalised. -/
structure IsModule (parts : List String) : Prop where
  identifiers : ∀ part ∈ parts, Text.isIdentifier part = true
  last : ∃ part, parts.getLast? = some part ∧ isCapitalised part = false

/-- Whether some parts are the path of a class inside a module: they are identifiers, there is at least
one, and all but the last are capitalised. -/
structure IsPath (parts : List String) : Prop where
  identifiers : ∀ part ∈ parts, Text.isIdentifier part = true
  nonempty : parts ≠ []
  capitalised : ∀ part ∈ parts.dropLast, isCapitalised part = true

instance (parts : List String) : Decidable (IsModule parts) :=
  decidable_of_iff ((∀ part ∈ parts, Text.isIdentifier part = true) ∧
      (parts.getLast?.map isCapitalised) = some false)
    ⟨fun ⟨identifiers, last⟩ => ⟨identifiers, Option.map_eq_some_iff.mp last⟩,
      fun ⟨identifiers, last⟩ => ⟨identifiers, Option.map_eq_some_iff.mpr last⟩⟩

instance (parts : List String) : Decidable (IsPath parts) :=
  decidable_of_iff ((∀ part ∈ parts, Text.isIdentifier part = true) ∧ parts ≠ [] ∧
      ∀ part ∈ parts.dropLast, isCapitalised part = true)
    ⟨fun ⟨identifiers, nonempty, capitalised⟩ => ⟨identifiers, nonempty, capitalised⟩,
      fun ⟨identifiers, nonempty, capitalised⟩ => ⟨identifiers, nonempty, capitalised⟩⟩

theorem IsModule.nonempty (isModule : IsModule parts) : parts ≠ [] := by
  rintro rfl
  obtain ⟨part, last, -⟩ := isModule.last
  cases last

theorem IsModule.undotted (isModule : IsModule parts) : ∀ part ∈ parts, '.' ∉ part.toList :=
  fun part member => Text.not_mem_of_isIdentifier (isModule.identifiers part member) rfl rfl

theorem IsPath.undotted (isPath : IsPath parts) : ∀ part ∈ parts, '.' ∉ part.toList :=
  fun part member => Text.not_mem_of_isIdentifier (isPath.identifiers part member) rfl rfl

/-- Capitalised parts behind a module are not taken for parts of the module. -/
theorem IsModule.moduleParts_append (isModule : IsModule parts) {classes : List String}
    (capitalised : ∀ part ∈ classes, isCapitalised part = true) :
    moduleParts (parts ++ classes) = parts := by
  obtain ⟨last, isLast, small⟩ := isModule.last
  obtain ⟨front, rfl⟩ := List.getLast?_eq_some_iff.mp isLast
  rw [moduleParts, List.reverse_append, List.dropWhile_append_of_pos, List.reverse_concat,
    List.dropWhile_cons_of_neg (by rw [small]; exact Bool.false_ne_true), List.reverse_cons,
    List.reverse_reverse]
  exact fun part member => capitalised part (List.mem_reverse.mp member)

/-- What is left in front of the capitalised parts at the end does not end in one. -/
theorem isCapitalised_of_getLast?_moduleParts {last : String}
    (isLast : (moduleParts parts).getLast? = some last) : isCapitalised last = false := by
  rw [moduleParts, List.getLast?_reverse] at isLast
  have first := List.head?_dropWhile_not isCapitalised parts.reverse
  rw [isLast] at first
  exact first

/-- Identifiers of which a module is left are put together of the module and a path. -/
theorem exists_path_of_moduleParts_ne_nil
    (identifiers : ∀ part ∈ parts, Text.isIdentifier part = true)
    (left : moduleParts parts.dropLast ≠ []) : IsModule (moduleParts parts.dropLast) ∧
      ∃ classes, parts = moduleParts parts.dropLast ++ classes ∧ IsPath classes := by
  have nonempty : parts ≠ [] := by
    rintro rfl
    exact left rfl
  have front : moduleParts parts.dropLast ++ parts.dropLast.rtakeWhile isCapitalised =
      parts.dropLast := List.rdropWhile_append_rtakeWhile
  have whole : moduleParts parts.dropLast ++
      (parts.dropLast.rtakeWhile isCapitalised ++ [parts.getLast nonempty]) = parts := by
    rw [← List.append_assoc, front, List.dropLast_append_getLast]
  refine ⟨⟨fun part member => identifiers part (whole ▸ List.mem_append_left _ member), ?_⟩,
    _, whole.symm, fun part member => identifiers part (whole ▸ List.mem_append_right _ member),
    by simp, ?_⟩
  · exact ⟨_, List.getLast?_eq_some_getLast left,
      isCapitalised_of_getLast?_moduleParts (List.getLast?_eq_some_getLast left)⟩
  · rw [List.dropLast_concat]
    exact fun _ => List.mem_rtakeWhile_imp

/-- Some parts are split where they are put together of a module and a path. -/
theorem moduleParts_dropLast_append {classes : List String} (isModule : IsModule parts)
    (isPath : IsPath classes) : moduleParts (parts ++ classes).dropLast = parts := by
  rw [List.dropLast_append_of_ne_nil isPath.nonempty, isModule.moduleParts_append isPath.capitalised]

/-! ### Names that are split -/

/-- A name of a single part has no module in front of its last part. -/
theorem moduleParts_of_short (short : parts.length < 2) : moduleParts parts.dropLast = [] := by
  match parts with
  | [] => rfl
  | [_] => rfl

/-- A name is split if all its parts are identifiers and a module is left in front of the capitalised
parts. -/
theorem split?_eq (name : String) : split? name =
    if (∀ part ∈ Text.dottedParts name, Text.isIdentifier part = true) ∧
        moduleParts (Text.dottedParts name).dropLast ≠ [] then
      some (Text.dotted (moduleParts (Text.dottedParts name).dropLast),
        Text.dotted ((Text.dottedParts name).drop
          (moduleParts (Text.dottedParts name).dropLast).length))
    else none := by
  rw [split?]
  dsimp only
  split
  · next refused =>
    rw [if_neg]
    rintro ⟨identifiers, left⟩
    rw [Bool.or_eq_true, decide_eq_true_eq, Bool.not_eq_true'] at refused
    rcases refused with short | unnamed
    · exact left (moduleParts_of_short short)
    · exact Bool.false_ne_true (unnamed.symm.trans (List.all_eq_true.mpr identifiers))
  · next named =>
    rw [Bool.or_eq_true, not_or, Bool.not_eq_true', Bool.not_eq_false] at named
    split
    · next none => rw [if_neg fun both => both.2 none]
    · next first others found =>
      rw [found, if_pos ⟨List.all_eq_true.mp named.2, List.cons_ne_nil _ _⟩]

/-- A name is split into a module and a path exactly if it is put together of them, and they are
such. -/
theorem split?_eq_some_iff : split? name = some (moduleName, path) ↔
    name = moduleName ++ "." ++ path ∧ IsModule (Text.dottedParts moduleName) ∧
      IsPath (Text.dottedParts path) := by
  constructor
  · intro found
    rw [split?_eq] at found
    split at found
    · next named =>
      obtain ⟨identifiers, left⟩ := named
      obtain ⟨isModule, classes, whole, isPath⟩ :=
        exists_path_of_moduleParts_ne_nil identifiers left
      generalize moduleParts (Text.dottedParts name).dropLast = before at found isModule whole
      rw [whole, List.drop_left] at found
      cases found
      rw [Text.dottedParts_dotted isModule.nonempty isModule.undotted,
        Text.dottedParts_dotted isPath.nonempty isPath.undotted,
        ← Text.dotted_append isModule.nonempty isPath.nonempty, ← whole, Text.dotted_dottedParts]
      exact ⟨rfl, isModule, isPath⟩
    · cases found
  · rintro ⟨rfl, isModule, isPath⟩
    have parts := Text.dottedParts_append moduleName path
    rw [split?_eq, parts, moduleParts_dropLast_append isModule isPath, List.drop_left,
      Text.dotted_dottedParts, Text.dotted_dottedParts, if_pos]
    exact ⟨List.forall_mem_append.mpr ⟨isModule.identifiers, isPath.identifiers⟩, isModule.nonempty⟩

/-- A name is not split exactly if one of its parts is no identifier, or if all parts but the last are
capitalised. -/
theorem split?_eq_none_iff : split? name = none ↔
    (∃ part ∈ Text.dottedParts name, Text.isIdentifier part = false) ∨
      ∀ part ∈ (Text.dottedParts name).dropLast, isCapitalised part = true := by
  have left : moduleParts (Text.dottedParts name).dropLast = [] ↔
      ∀ part ∈ (Text.dottedParts name).dropLast, isCapitalised part = true :=
    List.rdropWhile_eq_nil_iff
  rw [split?_eq, ite_eq_right_iff, ← left]
  simp only [reduceCtorEq, imp_false, not_and_or, not_forall, not_not, exists_prop,
    Bool.not_eq_true]

/-- A module and a path that are put together are found again. -/
theorem split?_dotted {modules classes : List String} (isModule : IsModule modules)
    (isPath : IsPath classes) : split? (Text.dotted modules ++ "." ++ Text.dotted classes) =
      some (Text.dotted modules, Text.dotted classes) := by
  rw [split?_eq_some_iff, Text.dottedParts_dotted isModule.nonempty isModule.undotted,
    Text.dottedParts_dotted isPath.nonempty isPath.undotted]
  exact ⟨rfl, isModule, isPath⟩

theorem split?_eq_some_iff_exists : split? name = some (moduleName, path) ↔
    ∃ modules classes, IsModule modules ∧ IsPath classes ∧ moduleName = Text.dotted modules ∧
      path = Text.dotted classes ∧ name = moduleName ++ "." ++ path := by
  constructor
  · intro found
    obtain ⟨joined, isModule, isPath⟩ := split?_eq_some_iff.mp found
    exact ⟨_, _, isModule, isPath, (Text.dotted_dottedParts moduleName).symm,
      (Text.dotted_dottedParts path).symm, joined⟩
  · rintro ⟨modules, classes, isModule, isPath, rfl, rfl, rfl⟩
    exact split?_dotted isModule isPath

/-- Splitting is the inverse of putting a module and a path together: it gives back the two wherever
they have been put together, and any name that it splits was put together of what it gives. All other
names are not split. -/
theorem split?_inverts_dotted (name moduleName path : String) :
    (split? name = some (moduleName, path) ↔ ∃ modules classes, IsModule modules ∧ IsPath classes ∧
        moduleName = Text.dotted modules ∧ path = Text.dotted classes ∧
        name = moduleName ++ "." ++ path) ∧
      (split? name = none ↔ ∀ modules classes, IsModule modules → IsPath classes →
        name ≠ Text.dotted modules ++ "." ++ Text.dotted classes) := by
  constructor
  · exact split?_eq_some_iff_exists
  · constructor
    · rintro none modules classes isModule isPath rfl
      cases none.symm.trans (split?_dotted isModule isPath)
    · intro unjoined
      cases found : split? name with
      | none => rfl
      | some both =>
        obtain ⟨modules, classes, isModule, isPath, modulesNamed, pathNamed, joined⟩ :=
          split?_eq_some_iff_exists.mp found
        rw [modulesNamed, pathNamed] at joined
        exact absurd joined (unjoined modules classes isModule isPath)

end QualifiedName

end StateContainer
