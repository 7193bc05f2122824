/-
This file says which modules a generated module imports for the types of its properties.

The annotation of a type is written by one recursion over the type, and the modules are collected by
another one. Both treat the name of a node alike: a name that has a counterpart is written as that,
which is in no module, and a built-in name is written without its qualifier. So a module is collected
for a name exactly if what is written for the name is in that module, unless a dot is left behind the
qualifier of a built-in name. The main statement is that, without such names, the imported modules
are those of the names that are written for the nodes, at any depth, each once and in ascending order.
-/

import Mathlib.Data.String.Basic
import StateContainer.Artifact
import StateContainer.Proofs.QualifiedName
import StateContainer.Proofs.Signature.RoundTrip

namespace StateContainer

namespace TypeText

variable {name other moduleName : String} {names modules : List String} {node : Descriptor}

/-! ### Names and their modules -/

/-- Counterparts have no dots, and so they are in no module. -/
theorem split?_of_counterpart?_eq_some (found : counterpart? name = some other) :
    QualifiedName.split? other = none := by
  have unsplit : ∀ entry ∈ counterparts, QualifiedName.split? entry.2 = none := by decide
  have listed {text : String} (found : counterparts.lookup text = some other) :
      QualifiedName.split? other = none := by
    obtain ⟨before, behind, split, -⟩ := List.lookup_eq_some_iff.mp found
    exact unsplit (text, other) (split ▸ List.mem_append_right _ List.mem_cons_self)
  rw [counterpart?, Option.or_eq_some_iff] at found
  rcases found with simple | ⟨-, qualified⟩
  · exact listed simple
  · obtain ⟨package, -, found⟩ := List.exists_of_findSome?_eq_some qualified
    obtain ⟨text, -, found⟩ := Option.bind_eq_some_iff.mp found
    exact listed found

theorem afterStart?_eq_some_iff {start text rest : String} :
    afterStart? start text = some rest ↔ text = start ++ rest := by
  rw [afterStart?, ← String.toList_inj, String.toList_append, Option.ite_none_right_eq_some,
    Option.some_inj, List.isPrefixOf_iff_prefix]
  constructor
  · rintro ⟨⟨behind, split⟩, rfl⟩
    rw [← split, List.drop_left, String.toList_ofList]
  · intro split
    rw [split, List.drop_left, String.ofList_toList]
    exact ⟨List.prefix_append _ _, rfl⟩

/-- A name is written as its counterpart, or without the qualifier of built-in names, or as it is. -/
theorem mapName_cases (name : String) :
    (counterpart? name = some (mapName name)) ∨ (name = builtinQualifier ++ mapName name) ∨
      (mapName name = name ∧ ∀ rest, name ≠ builtinQualifier ++ rest) := by
  rw [mapName]
  cases counterpart? name with
  | some other => exact .inl rfl
  | none =>
    rw [Option.getD_none]
    cases unqualified : afterStart? builtinQualifier name with
    | some rest => exact .inr (.inl (afterStart?_eq_some_iff.mp unqualified))
    | none =>
      refine .inr (.inr ⟨rfl, fun rest qualified => ?_⟩)
      rw [afterStart?_eq_some_iff.mpr qualified] at unqualified
      cases unqualified

theorem moduleOf?_of_mapName_ne (differ : mapName name ≠ name) : moduleOf? name = none := by
  rw [moduleOf?, if_neg]
  rw [Bool.and_eq_true, decide_eq_true_eq]
  exact fun both => differ (of_decide_eq_true both.2)

/-- The module that is collected for a name is the one that is split off what is written for the name,
if no dot is left behind the qualifier of a built-in name. -/
theorem moduleOf?_eq_some_iff (plain : ∀ a b, name ≠ builtinQualifier ++ a ++ "." ++ b) :
    moduleOf? name = some moduleName ↔ name ≠ unionName ∧
      ∃ path, QualifiedName.split? (mapName name) = some (moduleName, path) := by
  rcases mapName_cases name with counterpart | unqualified | ⟨same, notBuiltin⟩
  · have unsplit := split?_of_counterpart?_eq_some counterpart
    refine iff_of_false (fun needed => ?_) fun ⟨_, path, split⟩ => nomatch unsplit.symm.trans split
    by_cases same : mapName name = name
    · rw [same] at unsplit
      rw [moduleOf?, unsplit, ite_self] at needed
      cases needed
    · rw [moduleOf?_of_mapName_ne same] at needed
      cases needed
  · refine iff_of_false (fun needed => ?_) fun ⟨_, path, split⟩ => ?_
    · have shorter : mapName name ≠ name := by
        intro same
        have length := congrArg String.length unqualified
        rw [same, String.length_append] at length
        exact absurd length (by have : builtinQualifier.length = 9 := rfl; omega)
      rw [moduleOf?_of_mapName_ne shorter] at needed
      cases needed
    · obtain ⟨dotted, -⟩ := QualifiedName.split?_eq_some_iff.mp split
      rw [dotted, ← String.append_assoc, ← String.append_assoc] at unqualified
      exact plain _ _ unqualified
  · rw [moduleOf?, same]
    by_cases union : name = unionName
    · rw [if_neg (by simp [union])]
      exact iff_of_false nofun fun both => both.1 union
    rw [if_pos (by simp [union]), and_iff_right union]
    cases split : QualifiedName.split? name with
    | none => exact iff_of_false nofun fun ⟨_, found⟩ => nomatch found
    | some found =>
      obtain ⟨own, path⟩ := found
      have outside : own ≠ "builtins" := by
        rintro rfl
        obtain ⟨dotted, -⟩ := QualifiedName.split?_eq_some_iff.mp split
        exact notBuiltin path dotted
      simp only [if_neg outside, Option.some_inj, Prod.mk.injEq, exists_and_left, exists_eq', and_true]

/-- A name of two parts has no dot left behind the qualifier of built-in names. -/
theorem ne_of_length_dottedParts_le
    (short : (Text.dottedParts name).head? = some "builtins" → (Text.dottedParts name).length ≤ 2)
    (a b : String) : name ≠ builtinQualifier ++ a ++ "." ++ b := by
  rintro rfl
  have parts : Text.dottedParts (builtinQualifier ++ a ++ "." ++ b) =
      "builtins" :: (Text.dottedParts a ++ Text.dottedParts b) :=
    (Text.dottedParts_append ("builtins" ++ "." ++ a) b).trans
      (congrArg (· ++ Text.dottedParts b) (Text.dottedParts_append "builtins" a))
  rw [parts, List.length_cons, List.length_append] at short
  have first := List.length_pos_of_ne_nil (Text.dottedParts_ne_nil a)
  have second := List.length_pos_of_ne_nil (Text.dottedParts_ne_nil b)
  have := short rfl
  omega

/-! ### Ascending lists -/

theorem mem_insertName_iff : other ∈ insertName name names ↔ other = name ∨ other ∈ names := by
  induction names with
  | nil => simp [insertName]
  | cons first others inductionHypothesis =>
    rw [insertName]
    split
    · exact List.mem_cons
    · split
      · next same => rw [List.mem_cons, same, or_self_left]
      · rw [List.mem_cons, inductionHypothesis, List.mem_cons, or_left_comm]

/-- An ascending list is still ascending with a name inserted. -/
theorem pairwise_insertName (ascending : names.Pairwise (· < ·)) (name : String) :
    (insertName name names).Pairwise (· < ·) := by
  induction names with
  | nil => exact List.pairwise_singleton _ _
  | cons first others inductionHypothesis =>
    obtain ⟨below, later⟩ := List.pairwise_cons.mp ascending
    rw [insertName]
    split
    · next smaller =>
      refine List.pairwise_cons.mpr ⟨fun other member => ?_, ascending⟩
      rcases List.mem_cons.mp member with rfl | behind
      · exact smaller
      · exact smaller.trans (below other behind)
    · next notSmaller =>
      split
      · exact ascending
      · next differ =>
        refine List.pairwise_cons.mpr ⟨fun other member => ?_, inductionHypothesis later⟩
        rcases mem_insertName_iff.mp member with rfl | behind
        · exact lt_of_le_of_ne (not_lt.mp notSmaller) (Ne.symm differ)
        · exact below other behind

/-! ### The modules of a type -/

mutual

/-- The modules that a type adds are those of the names of its nodes. -/
theorem mem_addModules_iff : (t : Descriptor) → ∀ {modules : List String},
    (moduleName ∈ addModules t modules ↔
      moduleName ∈ modules ∨ ∃ node ∈ t.nodes, moduleOf? node.name = some moduleName)
  | ⟨name, nullable, arguments⟩, modules => by
    rw [addModules, mem_addAllModules_iff arguments, Descriptor.nodes, List.exists_mem_cons_iff,
      ← or_assoc]
    refine or_congr_left ?_
    cases moduleOf? name with
    | none => simp
    | some own => rw [mem_insertName_iff, or_comm, Option.some_inj, eq_comm]

theorem mem_addAllModules_iff : (types : List Descriptor) → ∀ {modules : List String},
    (moduleName ∈ addModules.addAllModules types modules ↔
      moduleName ∈ modules ∨ ∃ node ∈ Descriptor.nodesOfAll types, moduleOf? node.name = some moduleName)
  | [], modules => by simp [addModules.addAllModules, Descriptor.nodesOfAll]
  | first :: others, modules => by
    rw [addModules.addAllModules, mem_addAllModules_iff others, mem_addModules_iff first,
      Descriptor.nodesOfAll, or_assoc]
    simp only [List.mem_append, or_and_right, exists_or]

end

mutual

/-- A type adds its modules where they belong. -/
theorem pairwise_addModules : (t : Descriptor) → ∀ {modules : List String},
    modules.Pairwise (· < ·) → (addModules t modules).Pairwise (· < ·)
  | ⟨name, nullable, arguments⟩, modules, ascending => by
    rw [addModules]
    refine pairwise_addAllModules arguments ?_
    split
    · exact pairwise_insertName ascending _
    · exact ascending

theorem pairwise_addAllModules : (types : List Descriptor) → ∀ {modules : List String},
    modules.Pairwise (· < ·) → (addModules.addAllModules types modules).Pairwise (· < ·)
  | [], _, ascending => ascending
  | first :: others, _, ascending =>
    pairwise_addAllModules others (pairwise_addModules first ascending)

end

/-! ### Names in annotations -/

/-- The annotations of arguments in brackets; nothing if there are no arguments. -/
def bracketed : List String → String
  | [] => ""
  | texts => "[" ++ ", ".intercalate texts ++ "]"

/-- Whether a name is what the annotation of a node begins with: behind it there are only the
annotations of the arguments, in brackets, and what is written for the null type. A union has no such
name. -/
structure Writes (node : Descriptor) (name : String) : Prop where
  named : node.name ≠ unionName
  written : write node = orNull node.nullable (name ++ bracketed (node.arguments.map write))

/-- The null type is added to different texts in different ways. -/
theorem orNull_inj {nullable : Bool} {text textOther : String}
    (same : orNull nullable text = orNull nullable textOther) : text = textOther := by
  have marked (text : String) : text ++ " | " ++ nullName ≠ nullName := by
    intro same
    have length := congrArg String.length same
    simp only [String.length_append] at length
    exact absurd length (by have : " | ".length = 3 := rfl; omega)
  cases nullable with
  | false => exact same
  | true =>
    simp only [orNull, Bool.true_and, decide_eq_true_eq, ne_eq, ite_not] at same
    split at same
    · next null =>
      split at same
      · next nullOther => exact null.trans nullOther.symm
      · exact absurd (same.symm.trans null) (marked textOther)
    · split at same
      · next nullOther => exact absurd (same.trans nullOther) (marked text)
      · exact (String.append_left_inj _).mp ((String.append_left_inj _).mp same)

/-- The name that is written for a node is that of the node, mapped. -/
theorem writes_iff : Writes node name ↔ node.name ≠ unionName ∧ name = mapName node.name := by
  have written (named : node.name ≠ unionName) : write node =
      orNull node.nullable (mapName node.name ++ bracketed (node.arguments.map write)) := by
    obtain ⟨own, nullable, arguments⟩ := node
    rw [write, if_neg named, writeAll_eq_map]
    cases arguments with
    | nil => exact congrArg (orNull nullable) String.append_empty.symm
    | cons first others =>
      rw [List.isEmpty_cons, if_neg Bool.false_ne_true, List.map_cons, bracketed]
      · simp only [String.append_assoc]
      · exact List.cons_ne_nil _ _
  constructor
  · rintro ⟨named, begins⟩
    exact ⟨named, (String.append_left_inj _).mp (orNull_inj (begins.symm.trans (written named)))⟩
  · rintro ⟨named, rfl⟩
    exact ⟨named, written named⟩

end TypeText

/-! ### The modules of a schema -/

namespace Schema

variable {s : Schema} {moduleName : String}

theorem mem_typeImports_iff : moduleName ∈ s.typeImports ↔
    ∃ p ∈ s.properties, ∃ node ∈ p.type.nodes, TypeText.moduleOf? node.name = some moduleName := by
  have added : ∀ {properties : List Property} {modules : List String},
      moduleName ∈ properties.foldl (fun modules p => TypeText.addModules p.type modules) modules ↔
        moduleName ∈ modules ∨ ∃ p ∈ properties, ∃ node ∈ p.type.nodes,
          TypeText.moduleOf? node.name = some moduleName := by
    intro properties
    induction properties with
    | nil => simp
    | cons first others inductionHypothesis =>
      intro modules
      rw [List.foldl_cons, inductionHypothesis, TypeText.mem_addModules_iff, or_assoc,
        List.exists_mem_cons_iff]
  rw [typeImports, added, or_iff_right List.not_mem_nil]

theorem pairwise_typeImports (s : Schema) : s.typeImports.Pairwise (· < ·) := by
  have kept : ∀ {properties : List Property} {modules : List String}, modules.Pairwise (· < ·) →
      (properties.foldl (fun modules p => TypeText.addModules p.type modules) modules).Pairwise
        (· < ·) := by
    intro properties
    induction properties with
    | nil => exact id
    | cons first others inductionHypothesis =>
      exact fun ascending => inductionHypothesis (TypeText.pairwise_addModules first.type ascending)
  exact kept List.Pairwise.nil

/-- If no dot is left behind the qualifier of a built-in name, a generated module imports exactly the
modules of the names that the annotations of its properties write for the nodes of their types, at any
depth, and the modules are listed in strictly ascending order. -/
theorem typeImports_synthesize_iff (s : Schema)
    (plain : ∀ p ∈ s.properties, ∀ node ∈ p.type.nodes, ∀ a b,
      node.name ≠ TypeText.builtinQualifier ++ a ++ "." ++ b) :
    (∀ moduleName, moduleName ∈ s.synthesize.typeImports ↔
      ∃ p ∈ s.properties, ∃ node ∈ p.type.nodes, ∃ name path,
        TypeText.Writes node name ∧ QualifiedName.split? name = some (moduleName, path)) ∧
    s.synthesize.typeImports.Pairwise (· < ·) := by
  refine ⟨fun moduleName => ?_, s.pairwise_typeImports⟩
  refine mem_typeImports_iff.trans (exists_congr fun p => and_congr_right fun listed =>
    exists_congr fun node => and_congr_right fun inside => ?_)
  rw [TypeText.moduleOf?_eq_some_iff (plain p listed node inside)]
  simp only [TypeText.writes_iff]
  constructor
  · rintro ⟨named, path, split⟩
    exact ⟨_, path, ⟨named, rfl⟩, split⟩
  · rintro ⟨_, path, ⟨named, rfl⟩, split⟩
    exact ⟨named, path, split⟩

/-- Two properties with types that have arguments: names with counterparts, built-in names, a union
and names of two modules. -/
def schedule : Schema :=
  classify [
    { name := "due", type := ⟨"kotlin.collections.Map", false,
      [⟨"kotlin.String", false, []⟩, ⟨"datetime.datetime", true, []⟩]⟩ },
    { name := "shapes", type := ⟨"builtins.list", false,
      [⟨"typing.Union", false, [⟨"lib.shapes.Outer.Inner", false, []⟩, ⟨"builtins.int", false, []⟩]⟩]⟩ }]
    ⟨"ScheduleState", "app.schedule", none⟩

theorem typeImports_schedule :
    (∀ p ∈ schedule.properties, ∀ node ∈ p.type.nodes, ∀ a b,
      node.name ≠ TypeText.builtinQualifier ++ a ++ "." ++ b) ∧
    schedule.synthesize.typeImports = ["datetime", "lib.shapes"] ∧
    (∃ p ∈ schedule.properties, ∃ node ∈ p.type.nodes, ∃ name path,
      TypeText.Writes node name ∧ QualifiedName.split? name = some ("lib.shapes", path)) ∧
    ["datetime", "lib.shapes"].Pairwise (· < ·) := by
  have short : ∀ p ∈ schedule.properties, ∀ node ∈ p.type.nodes,
      (Text.dottedParts node.name).head? = some "builtins" →
        (Text.dottedParts node.name).length ≤ 2 := by decide
  have plain : ∀ p ∈ schedule.properties, ∀ node ∈ p.type.nodes, ∀ a b,
      node.name ≠ TypeText.builtinQualifier ++ a ++ "." ++ b :=
    fun p listed node inside => TypeText.ne_of_length_dottedParts_le (short p listed node inside)
  obtain ⟨imports, ascending⟩ := typeImports_synthesize_iff schedule plain
  have only : schedule.synthesize.typeImports = ["datetime", "lib.shapes"] := by decide
  rw [only] at imports ascending
  exact ⟨plain, only, (imports "lib.shapes").mp (by decide), ascending⟩

end Schema

end StateContainer
