/-
This file says how the lines of the types in a generated module begin and end.

Names and annotations are written into the middle of a line, or at its end. What a line begins with
and what it ends with are thus a few fixed texts, whatever the names and the annotations are, and most
questions about the lines are answered by them alone.
-/

import StateContainer.ModuleText
import StateContainer.Proofs.Generation.Heading
import StateContainer.Proofs.Generation.Shaping

namespace StateContainer

/-! ### Frames -/

/-- Whether a line is one line that begins with some characters and ends with others. They may
overlap. -/
structure IsFramed (first last : List Char) (line : String) : Prop where
  begins : first <+: line.toList
  ends : last <:+ line.toList
  whole : '\n' ∉ line.toList

namespace IsFramed

variable {first last : List Char}

theorem toList_foldl (first : String) (parts : List String) :
    (parts.foldl (· ++ ·) first).toList = first.toList ++ parts.flatMap String.toList := by
  induction parts generalizing first with
  | nil => exact (List.append_nil _).symm
  | cons part others inductionHypothesis =>
    rw [List.foldl_cons, inductionHypothesis, String.toList_append, List.append_assoc, List.flatMap_cons]

theorem prefix_foldl (first : String) (parts : List String) :
    first.toList <+: (parts.foldl (· ++ ·) first).toList := by
  rw [toList_foldl]
  exact List.prefix_append _ _

theorem not_mem_foldl {first : String} {parts : List String} (whole : '\n' ∉ first.toList)
    (wholes : ∀ part ∈ parts, '\n' ∉ part.toList) : '\n' ∉ (parts.foldl (· ++ ·) first).toList := by
  rw [toList_foldl, List.mem_append, List.mem_flatMap, not_or]
  exact ⟨whole, fun ⟨part, listed, inside⟩ => wholes part listed inside⟩

/-- A line that has no parts begins and ends with itself. -/
theorem fixed (whole : '\n' ∉ first) : IsFramed first first (String.ofList first) := by
  refine ⟨?_, ?_, ?_⟩ <;> rewrite [String.toList_ofList]
  · exact List.prefix_rfl
  · exact List.suffix_rfl
  · exact whole

/-- A line that is put together of parts begins with the first one. -/
theorem begun (parts : List String) (whole : '\n' ∉ first)
    (wholes : ∀ part ∈ parts, '\n' ∉ part.toList) :
    IsFramed first [] (parts.foldl (· ++ ·) (String.ofList first)) := by
  have characters : (String.ofList first).toList = first := String.toList_ofList
  refine ⟨?_, List.nil_suffix, not_mem_foldl ?_ wholes⟩
  · have front := prefix_foldl (String.ofList first) parts
    rw [characters] at front
    exact front
  · rw [characters]
    exact whole

/-- A line that is put together of parts begins with the first one and ends with the last one. -/
theorem closed (parts : List String) (whole : '\n' ∉ first ++ last)
    (wholes : ∀ part ∈ parts, '\n' ∉ part.toList) :
    IsFramed first last (parts.foldl (· ++ ·) (String.ofList first) ++ String.ofList last) := by
  rw [List.mem_append, not_or] at whole
  have front := begun parts whole.1 wholes
  refine ⟨?_, ?_, ?_⟩ <;> rw [String.toList_append, String.toList_ofList]
  · exact front.begins.trans (List.prefix_append _ _)
  · exact List.suffix_append _ _
  · exact List.not_mem_append front.whole whole.2

end IsFramed

/-- Whether a line stands inside of a type, indented. -/
def IsInside (line : String) : Prop :=
  ∃ first last, IsFramed first last line ∧ [' ', ' ', ' ', ' '].isPrefixOf first = true

/-- Whether no line with a frame gives the key of snapshots, which it would begin with, or wraps a value
in an event. One that does ends in a bracket, behind another one or behind the name of an event alone. -/
def isQuietFrame (first last : List Char) : Bool :=
  (first.drop 4).head?.any (· ≠ 'S') &&
    (last.getLast?.any (· ≠ ')') ||
      match first.dropWhile (· = ' '), last.reverse with
      | head :: _, ')' :: before :: _ => head ≠ 'S' && head ≠ 'M' && before ≠ ')'
      | _, _ => false)

/-- Whether a line stands inside of a type, gives no key and wraps nothing, as its frame tells. -/
def IsQuiet (line : String) : Prop :=
  ∃ first last, IsFramed first last line ∧ [' ', ' ', ' ', ' '].isPrefixOf first = true ∧
    isQuietFrame first last = true

theorem IsQuiet.isInside {line : String} : IsQuiet line → IsInside line :=
  fun ⟨first, last, framed, indented, _⟩ => ⟨first, last, framed, indented⟩

/-! ### Names and annotations on one line -/

/-- A view model that is known is named on one line. -/
theorem ArtifactSet.not_mem_of_viewModel? {a : ArtifactSet} {moduleName path : String}
    (known : a.viewModel? = some (moduleName, path)) :
    '\n' ∉ moduleName.toList ∧ '\n' ∉ path.toList := by
  obtain ⟨name, split⟩ : ∃ name, QualifiedName.split? name = some (moduleName, path) := by
    rw [viewModel?] at known
    split at known
    · cases known
    · next name _ =>
      split at known
      · cases known
      · exact ⟨name, known⟩
  obtain ⟨-, -, isPath⟩ := QualifiedName.split?_eq_some_iff.mp split
  exact ⟨QualifiedName.not_mem_of_split? split, Text.not_mem_of_dottedParts (by decide)
    fun part listed => Text.not_mem_of_isIdentifier (isPath.identifiers part listed) rfl rfl⟩

/-- Whether the names of a schema are identifiers, and its annotations are written on one line. -/
structure Schema.IsNamed (s : Schema) : Prop where
  definition : s.definition.IsNamed
  properties : ∀ p ∈ s.properties, Text.isIdentifier p.name = true
  annotations : ∀ p ∈ s.properties, '\n' ∉ p.typeText.toList

namespace Schema

variable {s : Schema}

namespace IsNamed

variable (named : s.IsNamed)
include named

theorem not_mem_name : '\n' ∉ s.name.toList :=
  Text.not_mem_of_isIdentifier named.definition.1 rfl rfl

theorem not_mem_property {p : Property} (member : p ∈ s.properties) : '\n' ∉ p.name.toList :=
  Text.not_mem_of_isIdentifier (named.properties p member) rfl rfl

theorem not_mem_snapshotKey : '\n' ∉ (snapshotKey s.name).toList := by
  rw [snapshotKey, String.toList_append, List.mem_append, String.toList_ofList, not_or]
  exact ⟨Text.not_mem_upper named.not_mem_name, by decide⟩

end IsNamed

/-! ### The lines of the sections -/

/-- The line of a property in a snapshot or an input. -/
def fieldLine (p : Property) : String :=
  "    " ++ p.name ++ ": " ++ p.typeText

theorem snapshotLines_synthesize (s : Schema) : s.synthesize.snapshotLines =
    if s.hasPersisted = true then
      ["@dataclass", "class " ++ (s.name ++ "Snapshot") ++ "(Snapshot):",
        "    \"\"\"Persisted fields of " ++ s.name ++ ".\"\"\"", ""] ++ s.persisted.map fieldLine
    else [] := by
  unfold ArtifactSet.snapshotLines synthesize snapshot?
  cases s.hasPersisted with
  | false => rfl
  | true => exact congrArg (_ ++ ·) List.map_map

theorem inputLines_synthesize (s : Schema) : s.synthesize.inputLines =
    if s.hasInput = true then
      ["@dataclass", "class " ++ (s.name ++ "Input") ++ ":",
        "    \"\"\"Caller-supplied initial values of " ++ s.name ++ ".\"\"\"", ""] ++
        s.inputs.map fieldLine
    else [] := by
  unfold ArtifactSet.inputLines synthesize input?
  cases s.hasInput with
  | false => rfl
  | true => exact congrArg (_ ++ ·) List.map_map

/-- A line that wraps the initial value of a property in an event. -/
def wrapLine (p : Property) : String :=
  "            " ++ p.eventKind.className ++ "(initial." ++ p.name ++ ")"

/-- A line that wraps a pushed value in an event. -/
def pushLine (p : Property) : String :=
  "        self._" ++ p.name ++ "_channel.push(" ++ p.eventKind.className ++ "(value))"

theorem declaredParameters_synthesize (s : Schema) : s.synthesize.declaredParameters =
    (if s.hasPersisted = true then [snapshotSourceName ++ ": SnapshotStore | None = None"] else []) ++
    if s.hasInput = true then [stateInputName ++ ": " ++ (s.name ++ "Input") ++ " | None = None"]
    else [] := by
  unfold ArtifactSet.declaredParameters synthesize input? plan
  cases s.hasPersisted <;> cases s.hasInput <;> rfl

theorem inputTypeText_synthesize (s : Schema) : s.synthesize.inputTypeText =
    if s.hasInput = true then s.name ++ "Input" ++ " | None" else "object" := by
  unfold ArtifactSet.inputTypeText synthesize input?
  cases s.hasInput <;> rfl

theorem snapshotName_synthesize (s : Schema) :
    s.synthesize.snapshotName = if s.hasPersisted = true then s.name ++ "Snapshot" else "" := by
  show (s.snapshot?.map (·.name)).getD "" = _
  rw [snapshot?]
  cases s.hasPersisted <;> rfl

theorem parameters_plan (s : Schema) : s.plan.parameters =
    (if s.hasPersisted = true then [snapshotSourceName] else []) ++
    if s.hasInput = true then [stateInputName] else [] := rfl

theorem isEmpty_restoredFields (s : Schema) : s.plan.restoredFields.isEmpty = !s.hasPersisted := by
  show (s.persisted.map (·.name)).isEmpty = !s.hasPersisted
  rw [List.isEmpty_map, persisted, hasPersisted]
  induction s.properties with
  | nil => rfl
  | cons first others inductionHypothesis =>
    rw [List.filter_cons, List.any_cons]
    split
    · next own => rw [own]; rfl
    · next foreign => rw [inductionHypothesis, Bool.eq_false_iff.mpr foreign, Bool.false_or]

theorem mergeSnapshotLines_synthesize (s : Schema) : s.synthesize.mergeSnapshotLines =
    if s.hasPersisted = true then
      ["        restored = restore_snapshot(snapshot_source, cls.SNAPSHOT_KEY, " ++ s.name ++ "Snapshot)",
        "        if restored is None:", "            return initial",
        "        return dataclasses.replace(", "            initial,"] ++
      s.persisted.map (fun p => "            " ++ p.name ++ "=restored." ++ p.name ++ ",") ++
      ["        )"]
    else ["        return initial"] := by
  have empty : s.synthesize.plan.restoredFields.isEmpty = !s.hasPersisted := s.isEmpty_restoredFields
  rw [ArtifactSet.mergeSnapshotLines, empty, snapshotName_synthesize]
  cases s.hasPersisted with
  | false => rfl
  | true =>
    have written (first : String) :
        first ++ (s.name ++ "Snapshot") ++ ")" = first ++ s.name ++ "Snapshot)" := by
      rw [String.append_assoc, String.append_assoc, String.append_assoc]
      rfl
    show _ :: _ ++ (s.persisted.map (·.name)).map _ ++ _ = _
    rw [List.map_map]
    exact congrArg (· :: _) (written _)

theorem constructorLines_synthesize (s : Schema) : s.synthesize.constructorLines =
    ["    def __init__(self" ++ s.synthesize.furtherParameters ++ ") -> None:",
      "        initial = self.get_initial_state(" ++ ", ".intercalate s.plan.parameters ++ ")"] ++
    s.properties.flatMap fun p => [
      "        self." ++ ("_" ++ p.name ++ "_channel") ++ ": " ++
        ("StateChannel[Event[" ++ p.typeText ++ "]]") ++ " = StateChannel(",
      wrapLine p, "        )"] := by
  have channels : s.synthesize.delegate.ofKind .channel = s.properties.map (·.channel) :=
    s.ofKind_delegate .channel
  rw [ArtifactSet.constructorLines, channels, List.flatMap_map]
  rfl

theorem initialStateLines_synthesize (s : Schema) : s.synthesize.initialStateLines =
    ["    @classmethod",
      "    def get_initial_state(cls" ++ s.synthesize.furtherParameters ++ ") -> " ++ s.name ++ ":",
      "        \"\"\"Merge field defaults, input values and the restored snapshot.\"\"\""] ++
    s.synthesize.mergeInputLines ++ s.synthesize.mergeSnapshotLines := by
  have merging : s.synthesize.delegate.ofKind .initialState = [initialStateMember s.name] :=
    s.ofKind_delegate .initialState
  rw [ArtifactSet.initialStateLines, merging]
  exact List.append_nil _

theorem propertyLines_synthesize (s : Schema) : s.synthesize.propertyLines =
    (s.properties.flatMap fun p => [
      "    def " ++ ("observe_" ++ p.name) ++ "(self) -> " ++
        ("Observable[Event[" ++ p.typeText ++ "]]") ++ ":",
      "        return self._" ++ p.name ++ "_channel.hide()"]) ++
    s.properties.flatMap fun p => [
      "    def " ++ ("push_" ++ p.name) ++ "(self, value: " ++ p.typeText ++ ") -> None:",
      pushLine p] := by
  have accessors : s.synthesize.delegate.ofKind .accessor = s.properties.map (·.accessor) :=
    s.ofKind_delegate .accessor
  have mutators : s.synthesize.delegate.ofKind .mutator = s.properties.map (·.mutator) :=
    s.ofKind_delegate .mutator
  rw [ArtifactSet.propertyLines, accessors, mutators, List.flatMap_map, List.flatMap_map]
  rfl

theorem currentStateLines_synthesize (s : Schema) : s.synthesize.currentStateLines =
    ["    def current_state(self) -> " ++ s.name ++ ":",
      "        \"\"\"Rebuild the state record from the channels without consuming events.\"\"\""] ++
    if s.properties.isEmpty = true then ["        return " ++ s.name ++ "()"]
    else
      ["        return " ++ s.name ++ "("] ++
        s.properties.map (fun p => ArtifactSet.peekLine p.name) ++ ["        )"] := by
  have rebuilding : s.synthesize.delegate.ofKind .currentState = [currentStateMember s.name] :=
    s.ofKind_delegate .currentState
  rw [ArtifactSet.currentStateLines, rebuilding]
  exact List.append_nil _

theorem saveLines_synthesize (s : Schema) : s.synthesize.saveLines =
    if s.hasPersisted = true then
      ["    def save_snapshot(self, target: SnapshotStore | None) -> None:",
        "        value = " ++ s.synthesize.snapshotName ++ "("] ++
      s.plan.restoredFields.map ArtifactSet.peekLine ++
      ["        )", "        if target is not None:",
        "            target.save_snapshot(self.SNAPSHOT_KEY, value)"]
    else [] := by
  have saving : s.synthesize.delegate.ofKind .saveSnapshot = s.saveMembers :=
    s.ofKind_delegate .saveSnapshot
  rw [ArtifactSet.saveLines, saving, saveMembers]
  split
  · exact List.append_nil _
  · rfl

/-- The line that gives the key of snapshots. -/
def keyLine (s : Schema) : String :=
  "    SNAPSHOT_KEY: ClassVar[str] = \"" ++ snapshotKey s.name ++ "\""

theorem delegateLines_synthesize (s : Schema) : s.synthesize.delegateLines =
    ["class " ++ (s.name ++ "Delegate") ++ "(" ++ (s.name ++ "Client") ++ "):",
      "    \"\"\"Channels backing " ++ s.name ++ ".\"\"\""] ++
    (if s.hasPersisted = true then [keyLine s] else []) ++
    s.synthesize.constructorLines ++ s.synthesize.initialStateLines ++ s.synthesize.propertyLines ++
    s.synthesize.currentStateLines ++ s.synthesize.saveLines := by
  have key : s.synthesize.snapshotKey = if s.hasPersisted then some (snapshotKey s.name) else none := rfl
  rw [ArtifactSet.delegateLines, key]
  cases s.hasPersisted <;> rfl

/-- The lines of a factory in front of the function that creates a delegate. -/
def factoryFront (s : Schema) : List String :=
  ["class " ++ (s.name ++ "Factory") ++ "(StateFactory[" ++ (s.name ++ "Delegate") ++ "]):",
    "    \"\"\"Builds " ++ (s.name ++ "Delegate") ++ " instances.\"\"\""] ++
  (match s.synthesize.viewModel? with
    | some (_, path) => ["    view_model_type = " ++ path]
    | none => [])

/-- The lines that begin the function that creates a delegate. -/
def createHead (s : Schema) : List String :=
  ["    def create(", "        self,", "        snapshot_source: SnapshotStore | None = None,",
    "        state_input: " ++ s.synthesize.inputTypeText ++ " = None,",
    "    ) -> " ++ (s.name ++ "Delegate") ++ ":"]

/-- The line that passes a parameter on, or else what the factory holds in its place. -/
def fallbackLine (parameter : String) : String :=
  "            " ++ parameter ++ " if " ++ parameter ++ " is not None else self." ++ parameter ++ ","

theorem factoryLines_synthesize (s : Schema) : s.synthesize.factoryLines =
    factoryFront s ++ (createHead s ++ ("        return " ++ (s.name ++ "Delegate") ++ "(") ::
      (s.plan.parameters.map fallbackLine ++ ["        )"])) := by
  have creating : s.synthesize.factory.ofKind .create = [createMember (s.name ++ "Delegate")] := rfl
  have arguments : s.synthesize.fallbackLines snapshotSourceName ++
      s.synthesize.fallbackLines stateInputName = s.plan.parameters.map fallbackLine := by
    show (if s.plan.parameters.contains snapshotSourceName then _ else []) ++
      (if s.plan.parameters.contains stateInputName then _ else []) = _
    rw [parameters_plan]
    cases s.hasPersisted <;> cases s.hasInput <;> rfl
  rw [ArtifactSet.factoryLines, creating, ← arguments]
  unfold factoryFront createHead
  simp only [List.flatMap_cons, List.flatMap_nil, List.append_assoc, List.append_nil, List.cons_append,
    List.nil_append]
  rfl

section
variable (named : s.IsNamed)
include named

theorem not_mem_of_mem_delegate {member : Member} (inside : member ∈ s.delegate.members) :
    '\n' ∉ member.name.toList ∧ '\n' ∉ member.typeText.toList := by
  have name := named.not_mem_name
  have own {p : Property} (member : p ∈ s.properties) := named.not_mem_property member
  have annotation := named.annotations
  rcases mem_delegate.mp inside with ⟨p, member, rfl⟩ | rfl | ⟨p, member, rfl⟩ | ⟨p, member, rfl⟩ | rfl |
    saves
  · simp [Property.channel, String.toList_append, own member, annotation p member]
  · simp [initialStateMember, name]
  · simp [Property.accessor, String.toList_append, own member, annotation p member]
  · simp [Property.mutator, String.toList_append, own member, annotation p member]
  · simp [currentStateMember, name]
  · rw [(mem_saveMembers.mp saves).2]
    decide

/-- The lines of an interface behind the first one are inside of it. -/
theorem isInside_interfaceLines :
    ∀ line ∈ s.synthesize.interfaceLines,
      line = "class " ++ (s.name ++ "Client") ++ "(Protocol):" ∨ IsInside line := by
  have name := named.not_mem_name
  have member {kind : MemberKind} {member : Member} (inside : member ∈ s.interface.ofKind kind) :=
    not_mem_of_mem_delegate named (interface_subset (List.mem_of_mem_filter inside))
  rw [ArtifactSet.interfaceLines]
  simp only [List.forall_mem_append, List.forall_mem_cons, List.forall_mem_map]
  refine ⟨⟨⟨.inl rfl, .inr ?_, List.forall_mem_nil _⟩, fun accessor inside => .inr ?_⟩,
    fun saving inside => .inr ?_⟩
  · exact ⟨_, _, .closed [s.name] (by decide) (by simp [name]), by decide⟩
  · exact ⟨_, _, .closed [accessor.name, "(self) -> ", accessor.typeText] (by decide)
      (by simp [member inside]), by decide⟩
  · exact ⟨_, _, .closed [saving.name] (by decide) (by simp [member inside]), by decide⟩

theorem isInside_fieldLine {p : Property} (member : p ∈ s.properties) : IsInside (fieldLine p) :=
  ⟨_, _, .begun [p.name, ": ", p.typeText] (by decide)
    (by simp [named.not_mem_property member, named.annotations p member]), by decide⟩

theorem isInside_snapshotLines :
    ∀ line ∈ s.synthesize.snapshotLines,
      line ∈ ["@dataclass", "class " ++ (s.name ++ "Snapshot") ++ "(Snapshot):", ""] ∨ IsInside line := by
  rw [snapshotLines_synthesize]
  split
  · simp only [List.forall_mem_append, List.forall_mem_cons, List.forall_mem_map]
    refine ⟨⟨.inl (by simp), .inl (by simp), .inr ?_, .inl (by simp), List.forall_mem_nil _⟩,
      fun p member => .inr (isInside_fieldLine named (List.mem_of_mem_filter member))⟩
    exact ⟨_, _, .closed [s.name] (by decide) (by simp [named.not_mem_name]), by decide⟩
  · exact List.forall_mem_nil _

theorem isInside_inputLines :
    ∀ line ∈ s.synthesize.inputLines,
      line ∈ ["@dataclass", "class " ++ (s.name ++ "Input") ++ ":", ""] ∨ IsInside line := by
  rw [inputLines_synthesize]
  split
  · simp only [List.forall_mem_append, List.forall_mem_cons, List.forall_mem_map]
    refine ⟨⟨.inl (by simp), .inl (by simp), .inr ?_, .inl (by simp), List.forall_mem_nil _⟩,
      fun p member => .inr (isInside_fieldLine named (List.mem_of_mem_filter member))⟩
    exact ⟨_, _, .closed [s.name] (by decide) (by simp [named.not_mem_name]), by decide⟩
  · exact List.forall_mem_nil _

theorem not_mem_furtherParameters : '\n' ∉ s.synthesize.furtherParameters.toList := by
  have name := named.not_mem_name
  rw [ArtifactSet.furtherParameters, declaredParameters_synthesize]
  cases s.hasPersisted <;> cases s.hasInput <;>
    simp [String.toList_append, snapshotSourceName, stateInputName, name]

/-- Whether a line stands inside of a delegate behind the key of snapshots: it wraps a value of a
property in an event, or nothing. -/
def IsDelegateLine (s : Schema) (line : String) : Prop :=
  IsQuiet line ∨ ∃ p ∈ s.properties, line = wrapLine p ∨ line = pushLine p

theorem isDelegateLine_constructorLines :
    ∀ line ∈ s.synthesize.constructorLines, s.IsDelegateLine line := by
  rw [constructorLines_synthesize]
  simp only [List.forall_mem_append, List.forall_mem_cons, List.forall_mem_flatMap]
  refine ⟨⟨.inl ?_, .inl ?_, List.forall_mem_nil _⟩, fun p member =>
    ⟨.inl ?_, .inr ⟨p, member, .inl rfl⟩, .inl ?_, List.forall_mem_nil _⟩⟩
  · exact ⟨_, _, .closed [s.synthesize.furtherParameters] (by decide)
      (by simp [not_mem_furtherParameters named]), by decide⟩
  · rw [parameters_plan]
    cases s.hasPersisted <;> cases s.hasInput
    · show IsQuiet "        initial = self.get_initial_state()"
      exact ⟨_, _, .fixed (by decide), by decide⟩
    · show IsQuiet "        initial = self.get_initial_state(state_input)"
      exact ⟨_, _, .fixed (by decide), by decide⟩
    · show IsQuiet "        initial = self.get_initial_state(snapshot_source)"
      exact ⟨_, _, .fixed (by decide), by decide⟩
    · show IsQuiet "        initial = self.get_initial_state(snapshot_source, state_input)"
      exact ⟨_, _, .fixed (by decide), by decide⟩
  · exact ⟨_, _, .closed ["_" ++ p.name ++ "_channel", ": ", "StateChannel[Event[" ++ p.typeText ++ "]]"]
      (by decide) (by simp [String.toList_append, named.not_mem_property member,
        named.annotations p member]), by decide⟩
  · exact ⟨_, _, .fixed (by decide), by decide⟩

theorem isQuiet_mergeInputLines : ∀ line ∈ s.synthesize.mergeInputLines, IsQuiet line := by
  have name := named.not_mem_name
  rw [ArtifactSet.mergeInputLines]
  split
  · refine List.forall_mem_singleton.mpr ?_
    exact ⟨_, _, .closed [s.name] (by decide) (by simp [name]), by decide⟩
  · simp only [List.forall_mem_append, List.forall_mem_cons, List.forall_mem_map]
    refine ⟨⟨⟨?_, ?_, ?_, ?_, List.forall_mem_nil _⟩, fun field inside => ?_⟩, ?_, List.forall_mem_nil _⟩
    · exact ⟨_, _, .fixed (by decide), by decide⟩
    · exact ⟨_, _, .closed [s.name] (by decide) (by simp [name]), by decide⟩
    · exact ⟨_, _, .fixed (by decide), by decide⟩
    · exact ⟨_, _, .closed [s.name] (by decide) (by simp [name]), by decide⟩
    · obtain ⟨p, member, rfl⟩ := List.mem_map.mp inside
      have own := named.not_mem_property (List.mem_of_mem_filter member)
      exact ⟨_, _, .closed [p.name, "=state_input.", p.name] (by decide) (by simp [own]), by decide⟩
    · exact ⟨_, _, .fixed (by decide), by decide⟩

theorem isQuiet_mergeSnapshotLines : ∀ line ∈ s.synthesize.mergeSnapshotLines, IsQuiet line := by
  rw [mergeSnapshotLines_synthesize]
  split
  · simp only [List.forall_mem_append, List.forall_mem_cons, List.forall_mem_map]
    refine ⟨⟨⟨?_, ?_, ?_, ?_, ?_, List.forall_mem_nil _⟩, fun p member => ?_⟩, ?_,
      List.forall_mem_nil _⟩
    · exact ⟨_, _, .closed [s.name] (by decide) (by simp [named.not_mem_name]), by decide⟩
    · exact ⟨_, _, .fixed (by decide), by decide⟩
    · exact ⟨_, _, .fixed (by decide), by decide⟩
    · exact ⟨_, _, .fixed (by decide), by decide⟩
    · exact ⟨_, _, .fixed (by decide), by decide⟩
    · have own := named.not_mem_property (List.mem_of_mem_filter member)
      exact ⟨_, _, .closed [p.name, "=restored.", p.name] (by decide) (by simp [own]), by decide⟩
    · exact ⟨_, _, .fixed (by decide), by decide⟩
  · exact List.forall_mem_singleton.mpr ⟨_, _, .fixed (by decide), by decide⟩

theorem isQuiet_initialStateLines : ∀ line ∈ s.synthesize.initialStateLines, IsQuiet line := by
  rw [initialStateLines_synthesize]
  simp only [List.forall_mem_append, List.forall_mem_cons]
  refine ⟨⟨⟨?_, ?_, ?_, List.forall_mem_nil _⟩, isQuiet_mergeInputLines named⟩,
    isQuiet_mergeSnapshotLines named⟩
  · exact ⟨_, _, .fixed (by decide), by decide⟩
  · exact ⟨_, _, .closed [s.synthesize.furtherParameters, ") -> ", s.name] (by decide)
      (by simp [not_mem_furtherParameters named, named.not_mem_name]), by decide⟩
  · exact ⟨_, _, .fixed (by decide), by decide⟩

theorem isDelegateLine_propertyLines :
    ∀ line ∈ s.synthesize.propertyLines, s.IsDelegateLine line := by
  have own {p : Property} (member : p ∈ s.properties) := named.not_mem_property member
  have annotation := named.annotations
  rw [propertyLines_synthesize]
  simp only [List.forall_mem_append, List.forall_mem_cons, List.forall_mem_flatMap]
  refine ⟨fun p member => ⟨.inl ?_, .inl ?_, List.forall_mem_nil _⟩, fun p member =>
    ⟨.inl ?_, .inr ⟨p, member, .inr rfl⟩, List.forall_mem_nil _⟩⟩
  · exact ⟨_, _, .closed ["observe_" ++ p.name, "(self) -> ", "Observable[Event[" ++ p.typeText ++ "]]"]
      (by decide) (by simp [String.toList_append, own member, annotation p member]), by decide⟩
  · exact ⟨_, _, .closed [p.name] (by decide) (by simp [own member]), by decide⟩
  · exact ⟨_, _, .closed ["push_" ++ p.name, "(self, value: ", p.typeText] (by decide)
      (by simp [String.toList_append, own member, annotation p member]), by decide⟩

theorem isQuiet_peekLine {p : Property} (member : p ∈ s.properties) :
    IsQuiet (ArtifactSet.peekLine p.name) :=
  ⟨_, _, .closed [p.name, "=self._", p.name] (by decide) (by simp [named.not_mem_property member]),
    by decide⟩

theorem isQuiet_currentStateLines : ∀ line ∈ s.synthesize.currentStateLines, IsQuiet line := by
  have name := named.not_mem_name
  rw [currentStateLines_synthesize]
  refine List.forall_mem_append.mpr ⟨List.forall_mem_cons.mpr ⟨?_, List.forall_mem_singleton.mpr ?_⟩, ?_⟩
  · exact ⟨_, _, .closed [s.name] (by decide) (by simp [name]), by decide⟩
  · exact ⟨_, _, .fixed (by decide), by decide⟩
  · split
    · refine List.forall_mem_singleton.mpr ?_
      exact ⟨_, _, .closed [s.name] (by decide) (by simp [name]), by decide⟩
    · simp only [List.forall_mem_append, List.forall_mem_cons, List.forall_mem_map]
      refine ⟨⟨⟨?_, List.forall_mem_nil _⟩, fun p member => isQuiet_peekLine named member⟩, ?_,
        List.forall_mem_nil _⟩
      · exact ⟨_, _, .closed [s.name] (by decide) (by simp [name]), by decide⟩
      · exact ⟨_, _, .fixed (by decide), by decide⟩

theorem isQuiet_saveLines : ∀ line ∈ s.synthesize.saveLines, IsQuiet line := by
  rw [saveLines_synthesize, snapshotName_synthesize]
  split
  · simp only [List.forall_mem_append, List.forall_mem_cons, List.forall_mem_map]
    refine ⟨⟨⟨?_, ?_, List.forall_mem_nil _⟩, fun field inside => ?_⟩, ?_, ?_, ?_, List.forall_mem_nil _⟩
    · exact ⟨_, _, .fixed (by decide), by decide⟩
    · exact ⟨_, _, .closed [s.name ++ "Snapshot"] (by decide)
        (by simp [String.toList_append, named.not_mem_name]), by decide⟩
    · obtain ⟨p, member, rfl⟩ := List.mem_map.mp inside
      exact isQuiet_peekLine named (List.mem_of_mem_filter member)
    · exact ⟨_, _, .fixed (by decide), by decide⟩
    · exact ⟨_, _, .fixed (by decide), by decide⟩
    · exact ⟨_, _, .fixed (by decide), by decide⟩
  · exact List.forall_mem_nil _

/-- The lines of a delegate: the first one, the one that gives the key if there is one, and those that
are inside of it otherwise. -/
theorem isDelegateLine_delegateLines : ∀ line ∈ s.synthesize.delegateLines,
    line = "class " ++ (s.name ++ "Delegate") ++ "(" ++ (s.name ++ "Client") ++ "):" ∨
      s.hasPersisted = true ∧ line = keyLine s ∨ s.IsDelegateLine line := by
  rw [delegateLines_synthesize]
  simp only [List.forall_mem_append, List.forall_mem_cons]
  refine ⟨⟨⟨⟨⟨⟨⟨.inl trivial, .inr (.inr (.inl ?_)), List.forall_mem_nil _⟩, ?_⟩, fun line inside => ?_⟩,
    fun line inside => ?_⟩, fun line inside => ?_⟩, fun line inside => ?_⟩, fun line inside => ?_⟩
  · exact ⟨_, _, .closed [s.name] (by decide) (by simp [named.not_mem_name]), by decide⟩
  · split
    · next persisted => exact List.forall_mem_singleton.mpr (.inr (.inl ⟨persisted, rfl⟩))
    · exact List.forall_mem_nil _
  · exact .inr (.inr (isDelegateLine_constructorLines named line inside))
  · exact .inr (.inr (.inl (isQuiet_initialStateLines named line inside)))
  · exact .inr (.inr (isDelegateLine_propertyLines named line inside))
  · exact .inr (.inr (.inl (isQuiet_currentStateLines named line inside)))
  · exact .inr (.inr (.inl (isQuiet_saveLines named line inside)))

theorem isInside_keyLine : IsInside (keyLine s) :=
  ⟨_, _, .closed [snapshotKey s.name] (by decide) (by simp [named.not_mem_snapshotKey]), by decide⟩

theorem isInside_of_isDelegateLine {line : String} (own : s.IsDelegateLine line) : IsInside line := by
  have plain (p : Property) : '\n' ∉ p.eventKind.className.toList := by
    cases p.eventKind <;> decide
  rcases own with quiet | ⟨p, member, rfl | rfl⟩
  · exact quiet.isInside
  · exact ⟨_, _, .closed [p.eventKind.className, "(initial.", p.name] (by decide)
      (by simp [plain p, named.not_mem_property member]), by decide⟩
  · exact ⟨_, _, .closed [p.name, "_channel.push(", p.eventKind.className] (by decide)
      (by simp [plain p, named.not_mem_property member]), by decide⟩

/-- The lines of a factory behind the first one are inside of it. -/
theorem isInside_factoryLines : ∀ line ∈ s.synthesize.factoryLines,
    line = "class " ++ (s.name ++ "Factory") ++ "(StateFactory[" ++ (s.name ++ "Delegate") ++ "]):" ∨
      IsInside line := by
  have name := named.not_mem_name
  have inputText : '\n' ∉ s.synthesize.inputTypeText.toList := by
    rw [inputTypeText_synthesize]
    split
    · simp [String.toList_append, name]
    · decide
  rw [factoryLines_synthesize]
  unfold factoryFront createHead
  simp only [List.forall_mem_append, List.forall_mem_cons, List.forall_mem_map]
  refine ⟨⟨⟨.inl trivial, .inr ?_, List.forall_mem_nil _⟩, ?_⟩,
    ⟨.inr ?_, .inr ?_, .inr ?_, .inr ?_, .inr ?_, List.forall_mem_nil _⟩, .inr ?_,
    fun parameter listed => .inr ?_, .inr ?_, List.forall_mem_nil _⟩
  · exact ⟨_, _, .closed [s.name ++ "Delegate"] (by decide) (by simp [String.toList_append, name]),
      by decide⟩
  · split
    · next moduleName path known =>
      refine List.forall_mem_singleton.mpr (.inr ?_)
      exact ⟨_, _, .begun [path] (by decide)
        (by simp [(ArtifactSet.not_mem_of_viewModel? known).2]), by decide⟩
    · exact List.forall_mem_nil _
  · exact ⟨_, _, .fixed (by decide), by decide⟩
  · exact ⟨_, _, .fixed (by decide), by decide⟩
  · exact ⟨_, _, .fixed (by decide), by decide⟩
  · exact ⟨_, _, .closed [s.synthesize.inputTypeText] (by decide) (by simp [inputText]), by decide⟩
  · exact ⟨_, _, .closed [s.name ++ "Delegate"] (by decide) (by simp [String.toList_append, name]),
      by decide⟩
  · exact ⟨_, _, .closed [s.name ++ "Delegate"] (by decide) (by simp [String.toList_append, name]),
      by decide⟩
  · rcases mem_parameters_iff.mp listed with ⟨-, rfl⟩ | ⟨-, rfl⟩ <;>
      exact ⟨_, _, .closed [_, " if ", _, " is not None else self.", _] (by decide)
        (by decide), by decide⟩
  · exact ⟨_, _, .fixed (by decide), by decide⟩

theorem not_mem_definitionImportLines :
    ∀ line ∈ s.synthesize.definitionImportLines, '\n' ∉ line.toList := by
  have imports : '\n' ∉ s.definition.moduleName.toList ∧ '\n' ∉ s.name.toList :=
    ArtifactSet.not_mem_importLine (a := s.synthesize) named.definition (by decide) rfl rfl
  have lines : s.synthesize.definitionImportLines =
      ("from " ++ s.definition.moduleName ++ " import " ++ s.name) ::
      (match s.synthesize.viewModel? with
      | some (moduleName, path) => ["from " ++ moduleName ++ " import " ++ QualifiedName.outermost path]
      | none => []) := rfl
  rw [lines, List.forall_mem_cons]
  refine ⟨by simp [String.toList_append, imports], ?_⟩
  split
  · next moduleName path known =>
    obtain ⟨wholeModule, wholePath⟩ := ArtifactSet.not_mem_of_viewModel? known
    have outermost : '\n' ∉ (QualifiedName.outermost path).toList := by
      rw [QualifiedName.outermost, String.toList_ofList]
      exact fun inside => wholePath (List.takeWhile_subset _ inside)
    simp [String.toList_append, wholeModule, outermost]
  · exact List.forall_mem_nil _

/-- No line of a generated module is broken if the import path of the runtime is not. -/
theorem not_mem_lines {runtimeImport : String} (whole : '\n' ∉ runtimeImport.toList) :
    ∀ line ∈ (s.synthesize.moduleText runtimeImport).lines, '\n' ∉ line.toList := by
  have name := named.not_mem_name
  have inside {line : String} : IsInside line → '\n' ∉ line.toList := fun ⟨_, _, framed, _⟩ => framed.whole
  have decorated {first line : String} (single : '\n' ∉ first.toList)
      (head : line ∈ ["@dataclass", first, ""]) : '\n' ∉ line.toList := by
    simp only [List.mem_cons, List.not_mem_nil, or_false] at head
    rcases head with rfl | rfl | rfl
    · decide
    · exact single
    · decide
  have heading : ∀ line ∈ s.synthesize.headingLines runtimeImport, '\n' ∉ line.toList := fun line listed =>
    (ArtifactSet.isOpening_of_mem_headingLines (a := s.synthesize) named.definition.1
      (fun moduleName => not_mem_of_mem_typeImports) whole line listed).1
  have sections : (s.synthesize.moduleText runtimeImport).lines =
      s.synthesize.headingLines runtimeImport ++ ([")"] ++ s.synthesize.definitionImportLines ++
        s.synthesize.interfaceLines ++ s.synthesize.snapshotLines ++ s.synthesize.inputLines ++
        s.synthesize.delegateLines ++ s.synthesize.factoryLines) := by
    have runtime : s.synthesize.runtimeImportLines runtimeImport =
        ("from " ++ runtimeImport ++ " import (") ::
          (s.synthesize.runtimeNames.map fun name => "    " ++ name ++ ",") ++ [")"] := rfl
    rw [ModuleText.lines, ArtifactSet.moduleText]
    dsimp only
    rw [runtime, ArtifactSet.headingLines]
    simp only [List.append_assoc, List.cons_append, List.nil_append]
  rw [sections]
  simp only [List.forall_mem_append]
  refine ⟨heading, ⟨⟨⟨⟨⟨⟨by decide, not_mem_definitionImportLines named⟩, fun line listed => ?_⟩,
    fun line listed => ?_⟩, fun line listed => ?_⟩, fun line listed => ?_⟩, fun line listed => ?_⟩⟩
  · rcases isInside_interfaceLines named line listed with rfl | own
    · simp [String.toList_append, name]
    · exact inside own
  · rcases isInside_snapshotLines named line listed with head | own
    · exact decorated (by simp [String.toList_append, name]) head
    · exact inside own
  · rcases isInside_inputLines named line listed with head | own
    · exact decorated (by simp [String.toList_append, name]) head
    · exact inside own
  · rcases isDelegateLine_delegateLines named line listed with rfl | ⟨-, rfl⟩ | own
    · simp [String.toList_append, name]
    · exact inside (isInside_keyLine named)
    · exact inside (isInside_of_isDelegateLine named own)
  · rcases isInside_factoryLines named line listed with rfl | own
    · simp [String.toList_append, name]
    · exact inside own

/-- The text of a generated module is cut at the ends of its lines. -/
theorem pieces_render {runtimeImport : String} (whole : '\n' ∉ runtimeImport.toList) :
    Text.pieces '\n' (s.synthesize.render runtimeImport).toList =
      (s.synthesize.moduleText runtimeImport).lines.map String.toList ++ [[]] := by
  have ended : (fun line : String => (line ++ "\n").toList) = fun line => line.toList ++ ['\n'] :=
    funext fun line => String.toList_append
  have cut := Text.pieces_lines (not_mem_lines named whole) []
  rw [List.append_nil] at cut
  rw [ArtifactSet.render, ModuleText.text, String.toList_join, List.flatMap_map, ended, cut]
  rfl

end

end Schema

end StateContainer
