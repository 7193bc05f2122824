/-
This file reads back from the text of a generated module what definition it was generated for.

The text begins with a title and with imports. The import of the runtime ends at the first line
that is a closing bracket alone, and the line behind it imports the definition from its module. As
neither of the two names holds a blank, nor any line before a line break, the line can be found in
the text, and the names in the line: texts of definitions in different modules, or with
different names, differ.
-/

import StateContainer.ModuleText
import StateContainer.Proofs.Generation.Importing
import StateContainer.Proofs.Generation.Place

namespace StateContainer

/-! ### Modules of types -/

/-- A module that is split off a qualified name is written on one line. -/
theorem QualifiedName.not_mem_of_split? {name moduleName path : String}
    (split : split? name = some (moduleName, path)) : '\n' ∉ moduleName.toList := by
  obtain ⟨-, isModule, -⟩ := split?_eq_some_iff.mp split
  exact Text.not_mem_of_dottedParts (by decide) fun part listed =>
    Text.not_mem_of_isIdentifier (isModule.identifiers part listed) rfl rfl

/-- A module that a type has to be imported from is written on one line. -/
theorem TypeText.not_mem_of_moduleOf? {name moduleName : String}
    (needed : moduleOf? name = some moduleName) : '\n' ∉ moduleName.toList := by
  rw [moduleOf?] at needed
  split at needed
  · split at needed
    · next found path split =>
      split at needed
      · cases needed
      · cases needed
        exact QualifiedName.not_mem_of_split? split
    · cases needed
  · cases needed

theorem Schema.not_mem_of_mem_typeImports {s : Schema} {moduleName : String}
    (member : moduleName ∈ s.typeImports) : '\n' ∉ moduleName.toList := by
  obtain ⟨p, -, node, -, needed⟩ := mem_typeImports_iff.mp member
  exact TypeText.not_mem_of_moduleOf? needed

/-! ### The lines of a heading -/

/-- Whether a line is kept on one line and does not begin with a closing bracket. -/
def IsOpening (line : String) : Prop :=
  '\n' ∉ line.toList ∧ line.toList.head? ≠ some ')'

instance (line : String) : Decidable (IsOpening line) :=
  inferInstanceAs (Decidable (_ ∧ _))

/-- A name that is put into a line does not change how the line begins. -/
theorem IsOpening.framed {first name last : String} (opening : IsOpening first) (begun : first ≠ "")
    (whole : '\n' ∉ name.toList) (wholeLast : '\n' ∉ last.toList) :
    IsOpening (first ++ name ++ last) := by
  rw [IsOpening, String.toList_append, String.toList_append, List.mem_append, List.mem_append,
    not_or, not_or]
  refine ⟨⟨⟨opening.1, whole⟩, wholeLast⟩, ?_⟩
  cases characters : first.toList with
  | nil => exact absurd (String.toList_eq_nil_iff.mp characters) begun
  | cons c rest =>
    have head := opening.2
    rw [characters] at head
    exact head

namespace ArtifactSet

/-- The lines in front of the closing bracket behind the imports of the runtime. -/
def headingLines (a : ArtifactSet) (runtimeImport : String) : List String :=
  a.titleLines ++ a.standardImportLines ++ a.typeImportLines ++
    ("from " ++ runtimeImport ++ " import (") ::
      a.runtimeNames.map fun name => "    " ++ name ++ ","

/-- The line that imports the definition. -/
def importLine (a : ArtifactSet) : String :=
  "from " ++ a.schema.definition.moduleName ++ " import " ++ a.name

variable {a b : ArtifactSet} {runtimeImport : String}

theorem not_mem_of_mem_runtimeNames : ∀ name ∈ a.runtimeNames, '\n' ∉ name.toList := by
  rw [runtimeNames]
  simp only [List.forall_mem_append]
  refine ⟨⟨⟨⟨⟨⟨by decide, ?_⟩, by decide⟩, ?_⟩, ?_⟩, by decide⟩, ?_⟩ <;> split <;> decide

theorem isOpening_of_mem_headingLines (named : Text.isIdentifier a.name = true)
    (typed : ∀ moduleName ∈ a.typeImports, '\n' ∉ moduleName.toList)
    (whole : '\n' ∉ runtimeImport.toList) :
    ∀ line ∈ a.headingLines runtimeImport, IsOpening line := by
  have title : ∀ line ∈ a.titleLines, IsOpening line := by
    rw [titleLines, List.forall_mem_cons]
    exact ⟨.framed (by decide) (by decide) (Text.not_mem_of_isIdentifier named rfl rfl) (by decide),
      by decide⟩
  have standard : ∀ line ∈ a.standardImportLines, IsOpening line := by
    rw [standardImportLines]
    simp only [List.forall_mem_append, List.forall_mem_singleton]
    refine ⟨⟨?_, ?_⟩, ?_⟩ <;> split <;> decide
  have types : ∀ line ∈ a.typeImportLines, IsOpening line := by
    rw [typeImportLines]
    split
    · exact List.forall_mem_nil _
    · rw [List.forall_mem_cons, List.forall_mem_map]
      refine ⟨by decide, fun moduleName member => ?_⟩
      rw [← String.append_empty (s := "import " ++ moduleName)]
      exact .framed (by decide) (by decide) (typed moduleName member) (by decide)
  rw [headingLines]
  simp only [List.forall_mem_append, List.forall_mem_cons, List.forall_mem_map]
  exact ⟨⟨⟨title, standard⟩, types⟩, .framed (by decide) (by decide) whole (by decide),
    fun name member =>
      .framed (by decide) (by decide) (not_mem_of_mem_runtimeNames name member) (by decide)⟩

/-- The text begins with the heading, the closing bracket and the import of the definition. -/
theorem exists_toList_render (a : ArtifactSet) (runtimeImport : String) :
    ∃ rest, (a.render runtimeImport).toList =
      ((a.headingLines runtimeImport ++ [")", a.importLine]).flatMap fun line =>
        line.toList ++ ['\n']) ++ rest := by
  have begins : ∃ others, (a.moduleText runtimeImport).lines =
      (a.headingLines runtimeImport ++ [")", a.importLine]) ++ others := by
    refine ⟨a.definitionImportLines.tail ++ a.interfaceLines ++ a.snapshotLines ++ a.inputLines ++
      a.delegateLines ++ a.factoryLines, ?_⟩
    have runtime : a.runtimeImportLines runtimeImport = ("from " ++ runtimeImport ++ " import (") ::
        (a.runtimeNames.map fun name => "    " ++ name ++ ",") ++ [")"] := rfl
    have definition : a.definitionImportLines = a.importLine :: a.definitionImportLines.tail := rfl
    rw [ModuleText.lines, moduleText]
    dsimp only
    rw [runtime, definition, headingLines]
    simp only [List.append_assoc, List.cons_append, List.nil_append, List.tail_cons]
  obtain ⟨others, begins⟩ := begins
  refine ⟨others.flatMap fun line => line.toList ++ ['\n'], ?_⟩
  have ended : (fun line : String => (line ++ "\n").toList) = fun line => line.toList ++ ['\n'] :=
    funext fun line => String.toList_append
  rw [render, ModuleText.text, String.toList_join, List.flatMap_map, begins, ended,
    List.flatMap_append]

/-- The import of the definition is kept on one line. -/
theorem not_mem_importLine (named : a.schema.definition.IsNamed) {c : Char}
    (noDot : c ≠ '.') (noStart : Text.isIdentifierStart c = false)
    (noContinue : Text.isIdentifierContinue c = false) :
    c ∉ a.schema.definition.moduleName.toList ∧ c ∉ a.name.toList :=
  ⟨Text.not_mem_of_dottedParts noDot fun part member =>
      Text.not_mem_of_isIdentifier (named.2 part member) noStart noContinue,
    Text.not_mem_of_isIdentifier named.1 noStart noContinue⟩

/-- The line behind the first closing bracket that stands alone imports the definition. -/
theorem head?_tail_dropWhile_render (named : a.schema.definition.IsNamed)
    (typed : ∀ moduleName ∈ a.typeImports, '\n' ∉ moduleName.toList)
    (whole : '\n' ∉ runtimeImport.toList) :
    ((Text.pieces '\n' (a.render runtimeImport).toList).dropWhile (· ≠ [')'])).tail.head? =
      some a.importLine.toList := by
  have opening := isOpening_of_mem_headingLines named.1 typed whole
  have single : ∀ line ∈ a.headingLines runtimeImport ++ [")", a.importLine], '\n' ∉ line.toList := by
    rw [List.forall_mem_append, List.forall_mem_cons, List.forall_mem_singleton]
    refine ⟨fun line member => (opening line member).1, by decide, ?_⟩
    have names := not_mem_importLine (a := a) named (c := '\n') (by decide) rfl rfl
    rw [importLine, String.toList_append, String.toList_append, String.toList_append]
    simp only [List.mem_append, not_or]
    exact ⟨⟨⟨by decide, names.1⟩, by decide⟩, names.2⟩
  have skipped : ∀ line ∈ (a.headingLines runtimeImport).map String.toList,
      decide (line ≠ [')']) = true := by
    rw [List.forall_mem_map]
    intro line member
    refine decide_eq_true fun closing => (opening line member).2 ?_
    rw [closing]
    rfl
  obtain ⟨rest, written⟩ := a.exists_toList_render runtimeImport
  rw [written, Text.pieces_lines single, List.map_append, List.append_assoc,
    List.dropWhile_append_of_pos skipped]
  rfl

/-- The text of a module determines the definition that it was generated for. -/
theorem definition_of_render_eq (named : a.schema.definition.IsNamed)
    (namedOther : b.schema.definition.IsNamed)
    (typed : ∀ moduleName ∈ a.typeImports, '\n' ∉ moduleName.toList)
    (typedOther : ∀ moduleName ∈ b.typeImports, '\n' ∉ moduleName.toList)
    (whole : '\n' ∉ runtimeImport.toList)
    (same : a.render runtimeImport = b.render runtimeImport) :
    a.schema.definition.qualifiedName = b.schema.definition.qualifiedName := by
  have words {a : ArtifactSet} (named : a.schema.definition.IsNamed) :
      Text.pieces ' ' a.importLine.toList =
        ["from".toList, a.schema.definition.moduleName.toList, "import".toList, a.name.toList] := by
    have names := not_mem_importLine (a := a) named (c := ' ') (by decide) rfl rfl
    have written : a.importLine.toList = "from".toList ++ ' ' ::
        (a.schema.definition.moduleName.toList ++ ' ' :: ("import".toList ++ ' ' :: a.name.toList)) := by
      rw [importLine, String.toList_append, String.toList_append, String.toList_append,
        List.append_assoc, List.append_assoc]
      rfl
    rw [written, Text.pieces_append_cons, Text.pieces_append_cons, Text.pieces_append_cons,
      Text.pieces_of_not_mem names.1, Text.pieces_of_not_mem names.2]
    rfl
  have line := head?_tail_dropWhile_render named typed whole
  rw [same, head?_tail_dropWhile_render namedOther typedOther whole] at line
  have read := congrArg (Text.pieces ' ') (Option.some.inj line)
  rw [words named, words namedOther] at read
  obtain ⟨-, behind⟩ := List.cons.inj read
  obtain ⟨moduleName, behind⟩ := List.cons.inj behind
  obtain ⟨name, -⟩ := List.cons.inj (List.cons.inj behind).2
  have names : b.name = a.name := String.toList_inj.mp name
  rw [Definition.qualifiedName, Definition.qualifiedName, String.toList_inj.mp moduleName]
  exact congrArg (a.schema.definition.moduleName ++ "." ++ ·) names.symm

end ArtifactSet

end StateContainer
