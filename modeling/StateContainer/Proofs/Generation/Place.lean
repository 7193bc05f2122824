/-
This file finds the places at which generated modules lie. In memory a module has its qualified
name as its key, and in a directory tree it has a path below the root. Modules that are named by
identifiers share a key, or a place in the tree, exactly if they have the same package and the
same name.

A definition goes to the package of its module, under the lowered words of its own name. For
definitions that are named by identifiers, keys and paths lose nothing beyond that: two of them
share a key, or a path, exactly if they share the package and the lowered words. What is lost
before is the last part of the name of the module and the capitals.

At the end, what is stored in memory is compared with what is written to a directory tree when the
same modules are put into both, one after the other. The files of the tree are the entries of the
memory, each at the place of its key and in the same order, and each entry is the module that came
last with its key. Nothing is written anywhere but below the root.
-/

import StateContainer.Artifact
import StateContainer.Proofs.OrderedMap
import StateContainer.Proofs.Text
import StateContainer.Sink

namespace StateContainer

/-! ### Folders -/

/-- The folders that the modules of a package lie in. -/
def foldersOf (package : String) : List String :=
  if package = "" then [] else Text.dottedParts package

/-- A package is its folders with dots between them. -/
theorem joined_foldersOf (package : String) :
    String.ofList (Text.joined '.' ((foldersOf package).map String.toList)) = package := by
  rw [foldersOf]
  split
  · next nowhere => exact nowhere.symm
  · rw [Text.joined_dottedParts, String.ofList_toList]

theorem foldersOf_inj {package other : String} :
    foldersOf package = foldersOf other ↔ package = other := by
  refine ⟨fun same => ?_, congrArg foldersOf⟩
  rw [← joined_foldersOf package, same, joined_foldersOf]

/-! ### Definitions and their modules -/

namespace Definition

/-- The name of the module that is generated for a definition. -/
def fileName (d : Definition) : String :=
  Text.snakeCase d.name ++ "_gen"

/-- Whether a definition and all parts of the name of its module are named by identifiers. -/
def IsNamed (d : Definition) : Prop :=
  Text.isIdentifier d.name = true ∧
    ∀ part ∈ Text.dottedParts d.moduleName, Text.isIdentifier part = true

instance (d : Definition) : Decidable d.IsNamed :=
  inferInstanceAs (Decidable (_ ∧ _))

/-- Whether two definitions lie in the same package and have names of the same lowered words. -/
def Meets (d other : Definition) : Prop :=
  d.package = other.package ∧ Text.snakeCase d.name = Text.snakeCase other.name

instance (d other : Definition) : Decidable (d.Meets other) :=
  inferInstanceAs (Decidable (_ ∧ _))

variable {d other : Definition}

theorem Meets.symm (meets : d.Meets other) : other.Meets d :=
  ⟨meets.1.symm, meets.2.symm⟩

theorem fileName_eq_iff : d.fileName = other.fileName ↔
    Text.snakeCase d.name = Text.snakeCase other.name := by
  rw [fileName, fileName, String.append_left_inj]

/-- The name of a generated module holds no separator. -/
theorem IsNamed.isSeparator_of_mem_fileName (named : d.IsNamed) :
    ∀ c ∈ d.fileName.toList, Text.isSeparator c = false := by
  have ending : "_gen".toList = ['_', 'g', 'e', 'n'] := rfl
  rw [fileName, String.toList_append, List.forall_mem_append, ending]
  simp only [List.forall_mem_cons]
  exact ⟨Text.isSeparator_of_mem_snakeCase named.1, rfl, rfl, rfl, rfl, List.forall_mem_nil _⟩

/-- The folders of a definition are parts of the name of its module. -/
theorem folders_subset (d : Definition) : foldersOf d.package ⊆ Text.dottedParts d.moduleName := by
  rw [foldersOf]
  split
  · exact List.nil_subset _
  · next somewhere =>
    have written : d.package.toList =
        Text.joined '.' (Text.pieces '.' d.moduleName.toList).dropLast := String.toList_ofList
    have nonempty : (Text.pieces '.' d.moduleName.toList).dropLast ≠ [] := by
      intro none
      rw [none] at written
      exact somewhere (String.toList_eq_nil_iff.mp written)
    rw [Text.dottedParts, Text.dottedParts, written, Text.pieces_joined nonempty fun part member =>
      Text.not_mem_of_mem_pieces (List.dropLast_subset _ member)]
    exact List.map_subset _ (List.dropLast_subset _)

end Definition

/-! ### Keys -/

namespace MemorySink

variable {package moduleName packageOther moduleNameOther : String}

/-- Modules without dots in their names share a key exactly if they have the same package and the same
name. -/
theorem key_inj (undotted : '.' ∉ moduleName.toList) (undottedOther : '.' ∉ moduleNameOther.toList) :
    key package moduleName = key packageOther moduleNameOther ↔
      package = packageOther ∧ moduleName = moduleNameOther := by
  have apart {package moduleName other : String} (undotted : '.' ∉ other.toList) :
      other ≠ package ++ "." ++ moduleName := by
    rintro rfl
    refine undotted ?_
    rw [String.toList_append, String.toList_append]
    simp
  refine ⟨fun same => ?_, fun same => by rw [same.1, same.2]⟩
  rw [key, key] at same
  split at same
  · next nowhere =>
    split at same
    · next nowhereOther => exact ⟨nowhere.trans nowhereOther.symm, same⟩
    · exact absurd same (apart undotted)
  · split at same
    · exact absurd same.symm (apart undottedOther)
    · have characters := congrArg String.toList same
      rw [String.toList_append, String.toList_append, String.toList_append, String.toList_append,
        List.append_assoc, List.append_assoc] at characters
      obtain ⟨packages, names⟩ := Text.append_cons_inj undotted undottedOther characters
      exact ⟨String.toList_inj.mp packages, String.toList_inj.mp names⟩

/-- Definitions that are named by identifiers share a key exactly if they meet. -/
theorem key_eq_iff {d other : Definition} (named : d.IsNamed) (namedOther : other.IsNamed) :
    key d.package d.fileName = key other.package other.fileName ↔ d.Meets other := by
  have undotted {d : Definition} (named : d.IsNamed) : '.' ∉ d.fileName.toList := fun member =>
    absurd (named.isSeparator_of_mem_fileName _ member) (by decide)
  rw [Definition.Meets, ← Definition.fileName_eq_iff, key_inj (undotted named) (undotted namedOther)]

end MemorySink

/-! ### Paths -/

namespace Path

/-- Whether a text is one part of a path that leads down. -/
def IsStep (text : String) : Prop :=
  text ≠ "" ∧ text ≠ "." ∧ text ≠ ".." ∧ '/' ∉ text.toList

variable {text : String} {base : Path} {parts partsOther : List String}

/-- A single part is put behind the others. -/
theorem join_of_isStep (step : IsStep text) (base : Path) :
    base.join text = { base with parts := base.parts ++ [text] } := by
  obtain ⟨nonempty, noDot, -, whole⟩ := step
  have noRoot : text.toList.takeWhile (· = '/') = [] := by
    cases characters : text.toList with
    | nil => rfl
    | cons first rest =>
      rw [characters, List.mem_cons, not_or] at whole
      rw [List.takeWhile_cons, if_neg]
      simpa using Ne.symm whole.1
  have read : ofString text = ⟨"", [text]⟩ := by
    rw [ofString, noRoot, Text.pieces_of_not_mem whole]
    simp [nonempty, noDot]
  rw [join, read]
  rfl

theorem foldl_join (steps : ∀ part ∈ parts, IsStep part) (base : Path) :
    parts.foldl join base = { base with parts := base.parts ++ parts } := by
  induction parts generalizing base with
  | nil => rw [List.foldl_nil, List.append_nil]
  | cons part others inductionHypothesis =>
    rw [List.forall_mem_cons] at steps
    rw [List.foldl_cons, join_of_isStep steps.1, inductionHypothesis steps.2, List.append_assoc,
      List.singleton_append]

/-- Parts that lead down stay as they are. -/
theorem directParts_of_steps (steps : ∀ part ∈ parts, part ≠ "..") (before : List String) :
    directParts before parts = before.reverse ++ parts := by
  fun_induction directParts before parts with
  | case1 => exact (List.append_nil _).symm
  | case2 => exact absurd rfl (steps _ List.mem_cons_self)
  | case3 => exact absurd rfl (steps _ List.mem_cons_self)
  | case4 => exact absurd rfl (steps _ List.mem_cons_self)
  | case5 before part rest _ inductionHypothesis =>
    rw [inductionHypothesis (List.forall_mem_cons.mp steps).2, List.reverse_cons,
      List.append_assoc]
    rfl

theorem directParts_append (steps : ∀ part ∈ parts, part ≠ "..") (before first : List String) :
    directParts before (first ++ parts) = directParts before first ++ parts := by
  fun_induction directParts before first with
  | case1 before => exact directParts_of_steps steps before
  | case2 rest inductionHypothesis =>
    rw [List.cons_append, directParts]
    exact inductionHypothesis
  | case3 rest others inductionHypothesis =>
    rw [List.cons_append, directParts]
    exact inductionHypothesis
  | case4 rest first others noDetour inductionHypothesis =>
    rw [List.cons_append, directParts]
    · exact inductionHypothesis
    · exact noDetour
  | case5 before part rest noDetour inductionHypothesis =>
    rw [List.cons_append, directParts]
    · exact inductionHypothesis
    · exact noDetour

/-- Below one place, ways down lead to the same place only if they are the same. -/
theorem direct_append_inj (steps : ∀ part ∈ parts, part ≠ "..")
    (stepsOther : ∀ part ∈ partsOther, part ≠ "..")
    (same : ({ base with parts := base.parts ++ parts } : Path).direct =
      ({ base with parts := base.parts ++ partsOther } : Path).direct) : parts = partsOther := by
  have kept {parts : List String} (steps : ∀ part ∈ parts, part ≠ "..") :
      parts.filter (· ≠ "..") = parts :=
    List.filter_eq_self.mpr fun part member => decide_eq_true (steps part member)
  have sameParts := congrArg Path.parts same
  rw [direct, direct] at sameParts
  dsimp only at sameParts
  rw [directParts_append steps, directParts_append stepsOther] at sameParts
  split at sameParts
  · exact List.append_cancel_left sameParts
  · rw [List.filter_append, List.filter_append, kept steps, kept stepsOther] at sameParts
    exact List.append_cancel_left sameParts

/-- An identifier is one part of a path. -/
theorem isStep_of_isIdentifier (named : Text.isIdentifier text = true) : IsStep text := by
  refine ⟨Text.ne_empty_of_isIdentifier named, ?_, ?_, ?_⟩
  · rintro rfl
    cases named
  · rintro rfl
    cases named
  · exact Text.not_mem_of_isIdentifier named rfl rfl

/-- The name of a file is one part of a path. -/
theorem isStep_file {stem : String} (plain : ∀ c ∈ stem.toList, Text.isSeparator c = false) :
    IsStep (stem ++ ".py") := by
  have differs {text : String} (short : text.length < 3) : stem ++ ".py" ≠ text := by
    rintro rfl
    rw [String.length_append] at short
    exact absurd short (by have : ".py".length = 3 := rfl; omega)
  refine ⟨differs (by decide), differs (by decide), differs (by decide), ?_⟩
  rw [String.toList_append, List.mem_append, not_or]
  exact ⟨fun member => absurd (plain _ member) (by decide), by decide⟩

end Path

namespace DirectorySink

variable {sink : DirectorySink} {package moduleName packageOther moduleNameOther : String}
  {d other : Definition}

/-- The parts of the path of a module below the root. -/
def stepsTo (package moduleName : String) : List String :=
  foldersOf package ++ [moduleName ++ ".py"]

theorem stepsTo_inj : stepsTo package moduleName = stepsTo packageOther moduleNameOther ↔
    package = packageOther ∧ moduleName = moduleNameOther := by
  refine ⟨fun same => ?_, fun same => by rw [same.1, same.2]⟩
  obtain ⟨folders, files⟩ := List.append_inj' same rfl
  exact ⟨foldersOf_inj.mp folders, (String.append_left_inj _).mp (List.singleton_inj.mp files)⟩

/-- Folders that are identifiers, and a file without separators in its name, lead down. -/
theorem isStep_of_mem_stepsTo
    (folders : ∀ folder ∈ foldersOf package, Text.isIdentifier folder = true)
    (plain : ∀ c ∈ moduleName.toList, Text.isSeparator c = false) :
    ∀ part ∈ stepsTo package moduleName, Path.IsStep part := by
  rw [stepsTo, List.forall_mem_append, List.forall_mem_singleton]
  exact ⟨fun folder member => Path.isStep_of_isIdentifier (folders folder member),
    Path.isStep_file plain⟩

/-- In a tree, the path of a module leads down from the root through the folders of its package. -/
theorem pathFor_eq (deep : sink.flat = false)
    (steps : ∀ part ∈ stepsTo package moduleName, Path.IsStep part) :
    sink.pathFor package moduleName =
      { sink.root with parts := sink.root.parts ++ stepsTo package moduleName } := by
  rw [stepsTo, List.forall_mem_append, List.forall_mem_singleton] at steps
  rw [pathFor, deep, stepsTo, ← List.append_assoc]
  dsimp only
  by_cases nowhere : package = ""
  · rw [if_neg (by simp [nowhere]), Path.join_of_isStep steps.2, foldersOf, if_pos nowhere,
      List.append_nil]
  · rw [foldersOf, if_neg nowhere] at steps ⊢
    rw [if_pos (by simp [nowhere]), Path.foldl_join steps.1, Path.join_of_isStep steps.2]

/-- In a tree, modules share a place exactly if they have the same package and the same name. -/
theorem direct_pathFor_inj (deep : sink.flat = false)
    (steps : ∀ part ∈ stepsTo package moduleName, Path.IsStep part)
    (stepsOther : ∀ part ∈ stepsTo packageOther moduleNameOther, Path.IsStep part) :
    (sink.pathFor package moduleName).direct = (sink.pathFor packageOther moduleNameOther).direct ↔
      package = packageOther ∧ moduleName = moduleNameOther := by
  rw [← stepsTo_inj, pathFor_eq deep steps, pathFor_eq deep stepsOther]
  refine ⟨Path.direct_append_inj (fun part member => (steps part member).2.2.1)
    fun part member => (stepsOther part member).2.2.1, fun same => by rw [same]⟩

/-- In a tree, definitions that are named by identifiers share a path exactly if they meet. -/
theorem direct_pathFor_eq_iff (deep : sink.flat = false) (named : d.IsNamed)
    (namedOther : other.IsNamed) :
    (sink.pathFor d.package d.fileName).direct =
      (sink.pathFor other.package other.fileName).direct ↔ d.Meets other := by
  have steps {d : Definition} (named : d.IsNamed) :
      ∀ part ∈ stepsTo d.package d.fileName, Path.IsStep part :=
    isStep_of_mem_stepsTo (fun folder member => named.2 folder (d.folders_subset member))
      named.isSeparator_of_mem_fileName
  rw [direct_pathFor_inj deep (steps named) (steps namedOther), Definition.Meets,
    Definition.fileName_eq_iff]

end DirectorySink

/-! ### Putting modules into a store -/

/-- A module on its way to a store. -/
structure Emission where
  package : String
  moduleName : String
  body : String
deriving DecidableEq, Repr

/-- Puts a module into a store. -/
def Sink.take {σ : Type} (destination : Sink σ) (store : σ) (e : Emission) : σ :=
  destination.emit store e.package e.moduleName e.body

namespace Emission

/-- Whether a module is named by an identifier, and lies in a package that is named by identifiers, if
it lies in one. -/
structure IsNamed (e : Emission) : Prop where
  folders : ∀ folder ∈ foldersOf e.package, Text.isIdentifier folder = true
  name : Text.isIdentifier e.moduleName = true

instance (e : Emission) : Decidable e.IsNamed :=
  decidable_of_iff ((∀ folder ∈ foldersOf e.package, Text.isIdentifier folder = true) ∧
      Text.isIdentifier e.moduleName = true)
    ⟨fun ⟨folders, name⟩ => ⟨folders, name⟩, fun ⟨folders, name⟩ => ⟨folders, name⟩⟩

/-- The key of a module in memory. -/
def key (e : Emission) : String :=
  MemorySink.key e.package e.moduleName

variable {e other : Emission}

theorem IsNamed.undotted (named : e.IsNamed) : '.' ∉ e.moduleName.toList :=
  Text.not_mem_of_isIdentifier named.name rfl rfl

theorem IsNamed.steps (named : e.IsNamed) :
    ∀ part ∈ DirectorySink.stepsTo e.package e.moduleName, Path.IsStep part :=
  DirectorySink.isStep_of_mem_stepsTo named.folders fun _ => Text.isSeparator_of_mem named.name

end Emission

/-- Puts modules into a store, one after the other. -/
def Sink.emitAll {σ : Type} (destination : Sink σ) (store : σ) (emissions : List Emission) : σ :=
  emissions.foldl destination.take store

/-! ### Memory -/

namespace MemorySink

/-- What is put into an empty memory is kept under the keys. -/
theorem emitAll_eq (emissions : List Emission) : destination.emitAll {} emissions =
    OrderedMap.ofList (emissions.map fun e => (e.key, e.body)) := by
  rw [OrderedMap.ofList, List.foldl_map]
  rfl

/-- What is kept under a key in the end is the body of the last module with that key. -/
theorem get?_emitAll_iff {emissions : List Emission} {key body : String} :
    (destination.emitAll {} emissions).get? key = some body ↔
      ∃ before e after, emissions = before ++ e :: after ∧ e.key = key ∧ e.body = body ∧
        ∀ later ∈ after, later.key ≠ key := by
  rw [emitAll_eq, OrderedMap.get?_ofList_eq_some_iff]
  constructor
  · rintro ⟨before, after, split, last⟩
    obtain ⟨earlier, rest, rfl, rfl, behind⟩ := List.map_eq_append_iff.mp split
    obtain ⟨e, later, rfl, own, rfl⟩ := List.map_eq_cons_iff.mp behind
    obtain ⟨rfl, rfl⟩ := Prod.mk.inj own
    refine ⟨earlier, e, later, rfl, rfl, rfl, fun other member same => last ?_⟩
    rw [List.map_map]
    exact List.mem_map.mpr ⟨other, member, same⟩
  · rintro ⟨before, e, after, rfl, rfl, rfl, last⟩
    refine ⟨_, _, by rw [List.map_append, List.map_cons], fun again => ?_⟩
    rw [List.map_map] at again
    obtain ⟨other, member, same⟩ := List.mem_map.mp again
    exact last other member same

end MemorySink

/-! ### Directories -/

/-- Whether a place is below another one: it is reached by going down, at least one step. -/
def Path.IsBelow (place base : Path) : Prop :=
  ∃ parts, parts ≠ [] ∧ (∀ part ∈ parts, part ≠ "..") ∧
    place = { base with parts := base.parts ++ parts }

theorem Path.isBelow_direct {base : Path} {parts : List String} (nonempty : parts ≠ [])
    (steps : ∀ part ∈ parts, part ≠ "..") :
    ({ base with parts := base.parts ++ parts } : Path).direct.IsBelow base.direct := by
  refine ⟨parts, nonempty, steps, ?_⟩
  rw [direct, direct, directParts_append steps]
  dsimp only
  split
  · rfl
  · rw [List.filter_append, List.filter_eq_self.mpr fun part member =>
      decide_eq_true (steps part member)]

namespace DirectorySink

variable {sink : DirectorySink} {e other : Emission} {emissions : List Emission}

/-- The path of the module with a key. -/
def pathOfKey (sink : DirectorySink) (key : String) : Path :=
  sink.pathFor (QualifiedName.package key) (String.ofList (Text.afterLast '.' key.toList))

/-- The path of a module. -/
def pathOf (sink : DirectorySink) (e : Emission) : Path :=
  sink.pathFor e.package e.moduleName

/-- A key tells the package and the name. -/
theorem pathOfKey_key (named : e.IsNamed) : sink.pathOfKey e.key = sink.pathOf e := by
  have single := Text.pieces_of_not_mem named.undotted
  rw [pathOfKey, pathOf, QualifiedName.package, Text.beforeLast, Text.afterLast, Emission.key,
    MemorySink.key]
  split
  · next nowhere =>
    rw [single, nowhere]
    exact congrArg (sink.pathFor "") String.ofList_toList
  · have characters : (e.package ++ "." ++ e.moduleName).toList =
        e.package.toList ++ '.' :: e.moduleName.toList := by
      rw [String.toList_append, String.toList_append, List.append_assoc]
      rfl
    rw [characters, Text.pieces_append_cons, single, List.dropLast_concat, List.getLastD_concat,
      Text.joined_pieces, String.ofList_toList, String.ofList_toList]

/-- In a tree, modules share a place exactly if they share a key. -/
theorem direct_pathOf_eq_iff (deep : sink.flat = false) (named : e.IsNamed)
    (namedOther : other.IsNamed) :
    (sink.pathOf e).direct = (sink.pathOf other).direct ↔ e.key = other.key := by
  rw [pathOf, pathOf, direct_pathFor_inj deep named.steps namedOther.steps, Emission.key,
    Emission.key, MemorySink.key_inj named.undotted namedOther.undotted]

/-- In a tree, the place of a module is below the root. -/
theorem isBelow_pathOf (deep : sink.flat = false) (named : e.IsNamed) :
    (sink.pathOf e).direct.IsBelow sink.root.direct := by
  rw [pathOf, pathFor_eq deep named.steps]
  refine Path.isBelow_direct ?_ fun part member => (named.steps part member).2.2.1
  exact List.append_ne_nil_of_right_ne_nil _ (List.cons_ne_nil _ _)

/-- Each module is written to its path, and its file is at the place of the path. -/
theorem emitAll_eq (sink : DirectorySink) (emissions : List Emission) :
    destination.emitAll sink emissions = { sink with
      written := sink.written ++ emissions.map sink.pathOf
      files := (emissions.map fun e => ((sink.pathOf e).direct, e.body)).foldl
        (fun files pair => files.insert pair.1 pair.2) sink.files } := by
  induction emissions generalizing sink with
  | nil => rw [List.map_nil, List.append_nil]; rfl
  | cons first others inductionHypothesis =>
    have step : destination.emitAll sink (first :: others) =
        destination.emitAll (destination.emit sink first.package first.moduleName first.body) others :=
      rfl
    rw [step, inductionHypothesis, List.map_cons, ← List.singleton_append, ← List.append_assoc]
    rfl

section
variable {root : Path} (named : ∀ e ∈ emissions, e.IsNamed)
include named

/-- The files are at the places of the keys. -/
theorem files_emitAll : (destination.emitAll { root } emissions).files =
    OrderedMap.ofList ((emissions.map fun e => (e.key, e.body)).map fun pair =>
      ((pathOfKey { root } pair.1).direct, pair.2)) := by
  have places : (emissions.map fun e => ((pathOf { root } e).direct, e.body)) =
      (emissions.map fun e => (e.key, e.body)).map fun pair =>
        ((pathOfKey { root } pair.1).direct, pair.2) := by
    rw [List.map_map]
    refine List.map_congr_left fun e member => Prod.ext ?_ rfl
    exact congrArg Path.direct (pathOfKey_key (named e member)).symm
  rw [← places, emitAll_eq]
  rfl

/-- Different keys lead to different places. -/
theorem direct_pathOfKey_inj : ∀ key ∈ emissions.map Emission.key,
    ∀ other ∈ emissions.map Emission.key,
      (pathOfKey { root } key).direct = (pathOfKey { root } other).direct → key = other := by
  rw [List.forall_mem_map]
  intro e member
  rw [List.forall_mem_map]
  intro other memberOther
  rw [pathOfKey_key (named e member), pathOfKey_key (named other memberOther)]
  exact (direct_pathOf_eq_iff rfl (named e member) (named other memberOther)).mp

/-- Modules that are named by identifiers, put one after the other into an empty memory and into an
empty directory tree: the files are the entries of the memory, each at the place of its key; an entry is
the body of the last module with its key; modules share a place exactly if they share a key; all
files lie below the root; and the paths are noted in order. -/
theorem emitAll_agrees (root : Path) :
    ((destination.emitAll { root } emissions).files.entries =
      (MemorySink.destination.emitAll {} emissions).entries.map fun entry =>
        ((pathOfKey { root } entry.1).direct, entry.2)) ∧
    (∀ key body, (MemorySink.destination.emitAll {} emissions).get? key = some body ↔
      ∃ before e after, emissions = before ++ e :: after ∧ e.key = key ∧ e.body = body ∧
        ∀ later ∈ after, later.key ≠ key) ∧
    (∀ e ∈ emissions, ∀ other ∈ emissions,
      (pathOf { root } e).direct = (pathOf { root } other).direct ↔ e.key = other.key) ∧
    (∀ place ∈ (destination.emitAll { root } emissions).files.keys, place.IsBelow root.direct) ∧
    (destination.emitAll { root } emissions).written = emissions.map (pathOf { root }) := by
  refine ⟨?_, fun key body => MemorySink.get?_emitAll_iff, fun e member other memberOther =>
    direct_pathOf_eq_iff rfl (named e member) (named other memberOther), ?_, ?_⟩
  · rw [files_emitAll named, MemorySink.emitAll_eq]
    refine OrderedMap.entries_ofList_rename (fun key => (pathOfKey { root } key).direct) ?_
    rw [List.map_map]
    exact direct_pathOfKey_inj named
  · intro place inside
    rw [files_emitAll named, OrderedMap.mem_keys_ofList, List.map_map, List.map_map] at inside
    obtain ⟨e, listed, rfl⟩ := List.mem_map.mp inside
    show (pathOfKey { root } e.key).direct.IsBelow _
    rw [pathOfKey_key (named e listed)]
    exact isBelow_pathOf rfl (named e listed)
  · rw [emitAll_eq]
    exact List.nil_append _

end

/-- Modules of one name in different packages, and one that is put in once more. -/
def repeated : List Emission :=
  [⟨"app", "s_gen", "1"⟩, ⟨"", "s_gen", "2"⟩, ⟨"app.sub", "s_gen", "3"⟩, ⟨"app", "s_gen", "4"⟩]

theorem emitAll_agrees_repeated : (∀ e ∈ repeated, e.IsNamed) ∧
    ((destination.emitAll { root := ⟨"", ["out"]⟩ } repeated).files.entries =
      (MemorySink.destination.emitAll {} repeated).entries.map fun entry =>
        ((pathOfKey { root := ⟨"", ["out"]⟩ } entry.1).direct, entry.2)) ∧
    (MemorySink.destination.emitAll {} repeated).get? "app.s_gen" = some "4" ∧
    (pathOf { root := ⟨"", ["out"]⟩ } ⟨"app", "s_gen", "1"⟩).direct =
      (pathOf { root := ⟨"", ["out"]⟩ } ⟨"app", "s_gen", "4"⟩).direct ∧
    (destination.emitAll { root := ⟨"", ["out"]⟩ } repeated).written.length = 4 := by
  have named : ∀ e ∈ repeated, e.IsNamed := by decide
  obtain ⟨files, last, shared, -, written⟩ := emitAll_agrees named ⟨"", ["out"]⟩
  have kept := (last "app.s_gen" "4").mpr
    ⟨repeated.dropLast, ⟨"app", "s_gen", "4"⟩, [], rfl, rfl, rfl, List.forall_mem_nil _⟩
  have together := (shared ⟨"app", "s_gen", "1"⟩ (by decide) ⟨"app", "s_gen", "4"⟩ (by decide)).mpr rfl
  exact ⟨named, files, kept, together, by rw [written]; rfl⟩

end DirectorySink

end StateContainer
