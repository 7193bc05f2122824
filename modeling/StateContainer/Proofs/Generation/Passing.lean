/-
This file says that a generated module hands the parameters on as they are.

Constructor, merge of the initial state and factory each write the parameters down: they declare them,
or they pass them on. What each of them writes is read back from its lines, as the names that its first
brackets list, and all these lists are compared with the parameters of the plan.
-/

import StateContainer.Proofs.Generation.Lines

namespace StateContainer

/-! ### Reading lines -/

namespace ModuleText

/-- Whether a line begins with a text. -/
def begins (start line : String) : Bool :=
  start.toList.isPrefixOf line.toList

/-- The lines from the first one on that begins with a text. -/
def linesFrom (start : String) (lines : List String) : List String :=
  lines.dropWhile (!begins start ·)

/-- The name that comes first in a part of a list, behind blanks. -/
def leadingName (part : List Char) : List Char :=
  (part.dropWhile (· = ' ')).takeWhile fun c => c ≠ ' ' && c ≠ ':'

/-- The names that come first in the parts, between commas, of what the first brackets hold. -/
def listedNames (lines : List String) : List String :=
  let held := Text.beforeFirst ')' (((lines.flatMap String.toList).dropWhile (· ≠ '(')).drop 1)
  (((Text.pieces ',' held).map leadingName).filter (· ≠ [])).map String.ofList

/-- The parameters behind the first one of the function that begins so. -/
def acceptedNames (start : String) (lines : List String) : List String :=
  (listedNames (linesFrom start lines)).drop 1

/-- The parameters that are passed on by the call that begins so. -/
def passedNames (start : String) (lines : List String) : List String :=
  listedNames (linesFrom start lines)

end ModuleText

open ModuleText

/-! ### Beginnings of lines -/

namespace ModuleText

variable {start line : String}

theorem begins_iff : begins start line = true ↔ start.toList <+: line.toList :=
  List.isPrefixOf_iff_prefix

/-- A line that is put together of parts begins as the first one does. -/
theorem begins_foldl {start first : List Char} (parts : List String)
    (begun : start.isPrefixOf first = true) :
    begins (String.ofList start) (parts.foldl (· ++ ·) (String.ofList first)) = true := by
  rw [begins_iff, String.toList_ofList]
  have front := IsFramed.prefix_foldl (String.ofList first) parts
  rw [String.toList_ofList] at front
  exact (List.isPrefixOf_iff_prefix.mp begun).trans front

/-- Whether neither of two texts begins with the other. -/
def differ (text other : List Char) : Bool :=
  !text.isPrefixOf other && !other.isPrefixOf text

/-- A line does not begin in two ways that differ. -/
theorem begins_eq_false_of_differ {start first : List Char}
    (begun : begins (String.ofList first) line = true) (unlike : differ start first = true) :
    begins (String.ofList start) line = false := by
  rw [Bool.eq_false_iff, ne_eq, begins_iff, String.toList_ofList]
  rw [begins_iff, String.toList_ofList] at begun
  simp only [differ, Bool.and_eq_true, Bool.not_eq_true', Bool.eq_false_iff, ne_eq,
    List.isPrefixOf_iff_prefix] at unlike
  intro begins
  rcases List.prefix_or_prefix_of_prefix begins begun with within | beyond
  · exact unlike.1 within
  · exact unlike.2 beyond

theorem begins_foldl_eq_false {start first : List Char} (parts : List String)
    (unlike : differ start first = true) :
    begins (String.ofList start) (parts.foldl (· ++ ·) (String.ofList first)) = false :=
  begins_eq_false_of_differ (begins_foldl parts (List.isPrefixOf_iff_prefix.mpr List.prefix_rfl)) unlike

/-- Lines that do not begin so are skipped. -/
theorem linesFrom_append {front others : List String}
    (skipped : ∀ line ∈ front, begins start line = false) (begun : begins start line = true) :
    linesFrom start (front ++ line :: others) = line :: others := by
  rw [linesFrom, List.dropWhile_append_of_pos fun line listed => by rw [skipped line listed]; rfl,
    List.dropWhile_cons_of_neg (by rw [begun]; decide)]

/-- What is listed is read back from the parts that it is joined of. -/
theorem listedNames_of_written {lines : List String} {opening first rest behind : List Char}
    {parts : List (List Char)} (written : lines.flatMap String.toList = opening ++ rest)
    (opened : opening.dropWhile (· ≠ '(') = '(' :: first)
    (joined : first ++ rest = Text.joined ',' parts ++ ')' :: behind) (nonempty : parts ≠ [])
    (apart : ∀ part ∈ parts, ',' ∉ part ∧ ')' ∉ part) :
    listedNames lines = ((parts.map leadingName).filter (· ≠ [])).map String.ofList := by
  have held : ∀ c ∈ Text.joined ',' parts, decide (c ≠ ')') = true := by
    refine fun c inside => decide_eq_true fun bracket => ?_
    rcases Text.mem_joined (bracket ▸ inside) with comma | ⟨part, listed, within⟩
    · cases comma
    · exact (apart part listed).2 within
  rw [listedNames, written, List.dropWhile_append, opened, List.isEmpty_cons, if_neg Bool.false_ne_true,
    List.cons_append, joined, Text.beforeFirst]
  show (((Text.pieces ',' ((Text.joined ',' parts ++ ')' :: behind).takeWhile _)).map leadingName).filter
    (· ≠ [])).map String.ofList = _
  rw [List.takeWhile_append_of_pos held, List.takeWhile_cons_of_neg (by decide), List.append_nil,
    Text.pieces_joined nonempty fun part listed => (apart part listed).1]

end ModuleText

namespace Schema

variable {s : Schema}

/-! ### The lines of a delegate -/

/-- The line that begins the constructor of a delegate. -/
def constructorLine (s : Schema) : String :=
  "    def __init__(self" ++ s.synthesize.furtherParameters ++ ") -> None:"

/-- The line of the constructor that merges the initial state. -/
def mergingLine (s : Schema) : String :=
  "        initial = self.get_initial_state(" ++ ", ".intercalate s.plan.parameters ++ ")"

/-- The line that begins the merge of the initial state. -/
def initialStateLine (s : Schema) : String :=
  "    def get_initial_state(cls" ++ s.synthesize.furtherParameters ++ ") -> " ++ s.name ++ ":"

/-- The lines of the merge behind the one that begins it. -/
def initialStateBody (s : Schema) : List String :=
  "        \"\"\"Merge field defaults, input values and the restored snapshot.\"\"\"" ::
    (s.synthesize.mergeInputLines ++ s.synthesize.mergeSnapshotLines)

/-- The lines of a delegate in front of its constructor. -/
def frontLines (s : Schema) : List String :=
  ["class " ++ (s.name ++ "Delegate") ++ "(" ++ (s.name ++ "Client") ++ "):",
    "    \"\"\"Channels backing " ++ s.name ++ ".\"\"\""] ++
  (if s.hasPersisted = true then [keyLine s] else [])

/-- The lines of a delegate up to the one behind the merge of the initial state. -/
theorem exists_delegateLines (s : Schema) : ∃ channels next others,
    (∀ line ∈ channels, begins "        " line = true) ∧ begins "        " next = false ∧
    s.synthesize.delegateLines = frontLines s ++ constructorLine s :: mergingLine s ::
      (channels ++ "    @classmethod" :: initialStateLine s :: (initialStateBody s ++ next :: others)) := by
  obtain ⟨next, others, ended, behind⟩ : ∃ next others, begins "        " next = false ∧
      s.synthesize.propertyLines ++ s.synthesize.currentStateLines ++ s.synthesize.saveLines =
        next :: others := by
    rw [propertyLines_synthesize, currentStateLines_synthesize]
    cases s.properties with
    | nil =>
      refine ⟨_, _, ?_, rfl⟩
      exact begins_foldl_eq_false [s.name, ":"] (by decide)
    | cons first later =>
      refine ⟨_, _, ?_, rfl⟩
      exact begins_foldl_eq_false ["observe_" ++ first.name, "(self) -> ",
        "Observable[Event[" ++ first.typeText ++ "]]", ":"] (by decide)
  refine ⟨s.properties.flatMap fun p => [
    "        self." ++ ("_" ++ p.name ++ "_channel") ++ ": " ++
      ("StateChannel[Event[" ++ p.typeText ++ "]]") ++ " = StateChannel(", wrapLine p, "        )"],
    next, others, ?_, ended, ?_⟩
  · simp only [List.forall_mem_flatMap, List.forall_mem_cons]
    intro p member
    refine ⟨?_, ?_, by decide, List.forall_mem_nil _⟩
    · exact begins_foldl ["_" ++ p.name ++ "_channel", ": ",
        "StateChannel[Event[" ++ p.typeText ++ "]]", " = StateChannel("] (by decide)
    · exact begins_foldl [p.eventKind.className, "(initial.", p.name, ")"] (by decide)
  · rw [delegateLines_synthesize, constructorLines_synthesize, initialStateLines_synthesize]
    unfold frontLines initialStateBody
    simp only [List.append_assoc, List.cons_append, List.nil_append] at behind ⊢
    rewrite [behind]
    rfl

theorem begins_frontLines {start : List Char} (type : differ start ['c'] = true)
    (doc : differ start [' ', ' ', ' ', ' ', '"'] = true)
    (key : differ start [' ', ' ', ' ', ' ', 'S'] = true) :
    ∀ line ∈ frontLines s, begins (String.ofList start) line = false := by
  unfold frontLines
  simp only [List.forall_mem_append, List.forall_mem_cons]
  refine ⟨⟨begins_eq_false_of_differ ?_ type, begins_eq_false_of_differ ?_ doc, List.forall_mem_nil _⟩, ?_⟩
  · exact begins_foldl [s.name ++ "Delegate", "(", s.name ++ "Client", "):"] (by decide)
  · exact begins_foldl [s.name, ".\"\"\""] (by decide)
  · split
    · refine List.forall_mem_singleton.mpr (begins_eq_false_of_differ ?_ key)
      exact begins_foldl [snapshotKey s.name, "\""] (by decide)
    · exact List.forall_mem_nil _

/-- The lines of a delegate in front of the merge of the initial state, and those of the merge. -/
theorem exists_initialStateLines (s : Schema) : ∃ front next others,
    (∀ line ∈ front, begins "    def get_initial_state(" line = false) ∧ begins "        " next = false ∧
    s.synthesize.delegateLines = front ++ initialStateLine s :: (initialStateBody s ++ next :: others) := by
  obtain ⟨channels, next, others, indented, ended, lines⟩ := exists_delegateLines s
  refine ⟨frontLines s ++ constructorLine s :: mergingLine s :: (channels ++ ["    @classmethod"]), next,
    others, ?_, ended, ?_⟩
  · simp only [List.forall_mem_append, List.forall_mem_cons]
    refine ⟨begins_frontLines (by decide) (by decide) (by decide), ?_, ?_, fun line listed =>
      begins_eq_false_of_differ (indented line listed) (by decide), by decide, List.forall_mem_nil _⟩
    · exact begins_foldl_eq_false [s.synthesize.furtherParameters, ") -> None:"] (by decide)
    · exact begins_foldl_eq_false [", ".intercalate s.plan.parameters, ")"] (by decide)
  · rw [lines]
    simp only [List.append_assoc, List.cons_append, List.nil_append]

theorem begins_initialStateLine (s : Schema) :
    begins "    def get_initial_state(" (initialStateLine s) = true :=
  begins_foldl [s.synthesize.furtherParameters, ") -> ", s.name, ":"] (by decide)

/-! ### Declared parameters -/

/-- A character that stands neither in identifiers nor between them is not in a fixed text of such. -/
theorem not_mem_ofList {c : Char} (noContinue : Text.isIdentifierContinue c = false)
    (foreign : c ∉ [' ', ':', '|', '=']) {text : List Char}
    (known : (text.all fun d => Text.isIdentifierContinue d || [' ', ':', '|', '='].contains d) = true) :
    c ∉ (String.ofList text).toList := by
  rw [String.toList_ofList]
  intro inside
  have own := List.all_eq_true.mp known c inside
  rw [noContinue, Bool.false_or, List.contains_iff_mem] at own
  exact foreign own

section
variable (named : s.IsNamed) {c : Char} (noStart : Text.isIdentifierStart c = false)
  (noContinue : Text.isIdentifierContinue c = false) (foreign : c ∉ [' ', ':', '|', '='])
include named noStart noContinue foreign

theorem not_mem_declaredParameters : ∀ text ∈ s.synthesize.declaredParameters, c ∉ text.toList := by
  have own := Text.not_mem_of_isIdentifier named.definition.1 noStart noContinue
  have fixed := @not_mem_ofList c noContinue foreign
  rw [declaredParameters_synthesize, List.forall_mem_append]
  refine ⟨?_, ?_⟩ <;> split
  · rw [List.forall_mem_singleton, String.toList_append, List.mem_append, not_or]
    exact ⟨fixed (by decide), fixed (by decide)⟩
  · exact List.forall_mem_nil _
  · rw [List.forall_mem_singleton]
    simp only [String.toList_append, List.mem_append, not_or]
    exact ⟨⟨⟨fixed (by decide), fixed (by decide)⟩, own, fixed (by decide)⟩, fixed (by decide)⟩
  · exact List.forall_mem_nil _

theorem not_mem_inputTypeText : c ∉ s.synthesize.inputTypeText.toList := by
  have own := Text.not_mem_of_isIdentifier named.definition.1 noStart noContinue
  have fixed := @not_mem_ofList c noContinue foreign
  rw [inputTypeText_synthesize]
  split
  · simp only [String.toList_append, List.mem_append, not_or]
    exact ⟨⟨own, fixed (by decide)⟩, fixed (by decide)⟩
  · exact fixed (by decide)

end

/-- The declared parameters are listed behind a first one. -/
theorem joined_declaredParameters (s : Schema) (first : List Char) :
    first ++ s.synthesize.furtherParameters.toList =
      Text.joined ',' (first :: s.synthesize.declaredParameters.map fun text => ' ' :: text.toList) := by
  rw [ArtifactSet.furtherParameters]
  induction s.synthesize.declaredParameters generalizing first with
  | nil => exact List.append_nil first
  | cons text others inductionHypothesis =>
    rw [List.map_cons, List.map_cons, Text.joined, String.join_cons, String.toList_append,
      ← inductionHypothesis, String.toList_append]
    rfl

theorem leadingName_declaredParameters (s : Schema) :
    (s.synthesize.declaredParameters.map fun text => leadingName (' ' :: text.toList)) =
      s.plan.parameters.map String.toList := by
  have input : leadingName
      (' ' :: (stateInputName ++ ": " ++ (s.name ++ "Input") ++ " | None = None").toList) =
      stateInputName.toList := by
    simp only [String.toList_append, List.append_assoc]
    rfl
  rw [declaredParameters_synthesize, parameters_plan]
  cases s.hasPersisted <;> cases s.hasInput
  · rfl
  · exact congrArg (· :: []) input
  · rfl
  · exact congrArg (_ :: · :: []) input

theorem map_ofList_parameters (s : Schema) :
    (((s.plan.parameters.map String.toList).filter (· ≠ [])).map String.ofList) = s.plan.parameters := by
  rw [parameters_plan]
  cases s.hasPersisted <;> cases s.hasInput <;> decide

/-- A function with the declared parameters accepts those of the plan. -/
theorem acceptedNames_of_written (named : s.IsNamed) (first : List Char) (parts : List String)
    {opening closing : List Char} {start : String} {lines others : List String}
    (begun : linesFrom start lines = parts.foldl (· ++ ·)
      (String.ofList opening ++ s.synthesize.furtherParameters ++ String.ofList closing) :: others)
    (opened : opening.dropWhile (· ≠ '(') = '(' :: first) (closed : closing.head? = some ')')
    (apart : ',' ∉ first ∧ ')' ∉ first) (own : leadingName first ≠ []) :
    acceptedNames start lines = s.plan.parameters := by
  obtain ⟨behind, rfl⟩ := List.head?_eq_some_iff.mp closed
  have listed : (linesFrom start lines).flatMap String.toList = opening ++
      (s.synthesize.furtherParameters.toList ++ ')' :: (behind ++ parts.flatMap String.toList ++
        others.flatMap String.toList)) := by
    rw [begun, List.flatMap_cons, IsFramed.toList_foldl, String.toList_append, String.toList_append,
      String.toList_ofList, String.toList_ofList]
    simp only [List.append_assoc, List.cons_append]
  have joined := (List.append_assoc first s.synthesize.furtherParameters.toList
    (')' :: (behind ++ parts.flatMap String.toList ++ others.flatMap String.toList))).symm
  rw [joined_declaredParameters] at joined
  have separate : ∀ part ∈ first :: s.synthesize.declaredParameters.map fun text => ' ' :: text.toList,
      ',' ∉ part ∧ ')' ∉ part := by
    rw [List.forall_mem_cons, List.forall_mem_map]
    refine ⟨apart, fun text declared => ⟨List.not_mem_cons_of_ne_of_not_mem (by decide) ?_,
      List.not_mem_cons_of_ne_of_not_mem (by decide) ?_⟩⟩ <;>
      exact not_mem_declaredParameters named rfl rfl (by decide) text declared
  have names : (first :: s.synthesize.declaredParameters.map fun text => ' ' :: text.toList).map leadingName =
      leadingName first :: s.plan.parameters.map String.toList := by
    rw [List.map_cons, List.map_map]
    exact congrArg (leadingName first :: ·) (leadingName_declaredParameters s)
  rw [acceptedNames, listedNames_of_written listed opened joined (List.cons_ne_nil _ _) separate, names,
    List.filter_cons, if_pos (decide_eq_true own), List.map_cons, List.drop_one, List.tail_cons,
    map_ofList_parameters]

theorem acceptedNames_constructor (named : s.IsNamed) :
    acceptedNames "    def __init__(" s.synthesize.delegateLines = s.plan.parameters := by
  obtain ⟨channels, next, others, -, -, lines⟩ := exists_delegateLines s
  refine acceptedNames_of_written named "self".toList [] (lines ▸ linesFrom_append
    (begins_frontLines (by decide) (by decide) (by decide))
    (begins_foldl [s.synthesize.furtherParameters, ") -> None:"] (by decide))) (by decide) (by decide)
    (by decide) (by decide)

theorem acceptedNames_initialState (named : s.IsNamed) :
    acceptedNames "    def get_initial_state(" s.synthesize.delegateLines = s.plan.parameters := by
  obtain ⟨front, next, others, skipped, -, lines⟩ := exists_initialStateLines s
  refine acceptedNames_of_written named "cls".toList [s.name, ":"]
    (lines ▸ linesFrom_append skipped (begins_initialStateLine s)) (by decide) (by decide)
    (by decide) (by decide)

/-- The parameters of the plan are the names of the parts of a list. -/
theorem exists_joined_parameters (s : Schema) : ∃ parts : List (List Char),
    (", ".intercalate s.plan.parameters).toList = Text.joined ',' parts ∧ parts ≠ [] ∧
    (∀ part ∈ parts, ',' ∉ part ∧ ')' ∉ part) ∧
    ((parts.map leadingName).filter (· ≠ [])).map String.ofList = s.plan.parameters := by
  rw [parameters_plan]
  cases s.hasPersisted <;> cases s.hasInput
  · exact ⟨[[]], by decide⟩
  · exact ⟨["state_input".toList], by decide⟩
  · exact ⟨["snapshot_source".toList], by decide⟩
  · exact ⟨["snapshot_source".toList, " state_input".toList], by decide⟩

/-- The constructor passes the parameters of the plan on to the merge of the initial state. -/
theorem passedNames_constructor (s : Schema) :
    passedNames "        initial = self.get_initial_state(" s.synthesize.delegateLines =
      s.plan.parameters := by
  obtain ⟨channels, next, others, -, -, lines⟩ := exists_delegateLines s
  obtain ⟨parts, joined, nonempty, apart, names⟩ := exists_joined_parameters s
  have skipped : ∀ line ∈ frontLines s ++ [constructorLine s],
      begins "        initial = self.get_initial_state(" line = false := by
    rw [List.forall_mem_append, List.forall_mem_singleton]
    exact ⟨begins_frontLines (by decide) (by decide) (by decide),
      begins_foldl_eq_false [s.synthesize.furtherParameters, ") -> None:"] (by decide)⟩
  have begun : begins "        initial = self.get_initial_state(" (mergingLine s) = true :=
    begins_foldl [", ".intercalate s.plan.parameters, ")"] (by decide)
  have regrouped (rest : List String) : frontLines s ++ constructorLine s :: mergingLine s :: rest =
      frontLines s ++ [constructorLine s] ++ mergingLine s :: rest := by
    simp only [List.append_assoc, List.cons_append, List.nil_append]
  have written (rest : List String) : (mergingLine s :: rest).flatMap String.toList =
      "        initial = self.get_initial_state(".toList ++
        (Text.joined ',' parts ++ ')' :: rest.flatMap String.toList) := by
    unfold mergingLine
    rw [List.flatMap_cons, String.toList_append, String.toList_append, joined]
    simp only [List.append_assoc]
    rfl
  have opened : "        initial = self.get_initial_state(".toList.dropWhile (· ≠ '(') = ['('] := by decide
  rw [passedNames, lines, regrouped, linesFrom_append skipped begun,
    listedNames_of_written (written _) opened (List.nil_append _) nonempty apart, names]

/-! ### The lines of a factory -/

theorem begins_factoryFront {start : List Char} (type : differ start ['c'] = true)
    (doc : differ start [' ', ' ', ' ', ' ', '"'] = true)
    (model : differ start [' ', ' ', ' ', ' ', 'v'] = true) :
    ∀ line ∈ factoryFront s, begins (String.ofList start) line = false := by
  unfold factoryFront
  simp only [List.forall_mem_append, List.forall_mem_cons]
  refine ⟨⟨begins_eq_false_of_differ ?_ type, begins_eq_false_of_differ ?_ doc, List.forall_mem_nil _⟩, ?_⟩
  · exact begins_foldl [s.name ++ "Factory", "(StateFactory[", s.name ++ "Delegate", "]):"] (by decide)
  · exact begins_foldl [s.name ++ "Delegate", " instances.\"\"\""] (by decide)
  · split
    · next moduleName path known =>
      refine List.forall_mem_singleton.mpr (begins_eq_false_of_differ ?_ model)
      exact begins_foldl [path] (by decide)
    · exact List.forall_mem_nil _

/-- A factory accepts a source of snapshots and an input, whatever the properties are. -/
theorem acceptedNames_create (named : s.IsNamed) :
    acceptedNames "    def create(" s.synthesize.factoryLines = [snapshotSourceName, stateInputName] := by
  have skipped : ∀ line ∈ factoryFront s, begins "    def create(" line = false :=
    begins_factoryFront (by decide) (by decide) (by decide)
  have begun : linesFrom "    def create(" s.synthesize.factoryLines =
      createHead s ++ ("        return " ++ (s.name ++ "Delegate") ++ "(") ::
        (s.plan.parameters.map fallbackLine ++ ["        )"]) := by
    rw [factoryLines_synthesize]
    exact linesFrom_append skipped (begins_foldl [] (by decide))
  let parts := ["        self".toList, "        snapshot_source: SnapshotStore | None = None".toList,
    "        state_input: ".toList ++ s.synthesize.inputTypeText.toList ++ " = None".toList, "    ".toList]
  have written (rest : List String) : (createHead s ++ rest).flatMap String.toList =
      "    def create(".toList ++ (Text.joined ',' parts ++ ')' :: ((" -> " ++ (s.name ++ "Delegate") ++
        ":").toList ++ rest.flatMap String.toList)) := by
    unfold createHead
    simp only [parts, Text.joined, List.flatMap_cons, String.toList_append, String.reduceToList,
      List.append_assoc, List.cons_append, List.nil_append]
  have opened : "    def create(".toList.dropWhile (· ≠ '(') = ['('] := by decide
  have apart : ∀ part ∈ parts, ',' ∉ part ∧ ')' ∉ part := by
    have comma := not_mem_inputTypeText named (c := ',') rfl rfl (by decide)
    have bracket := not_mem_inputTypeText named (c := ')') rfl rfl (by decide)
    simp only [parts, List.forall_mem_cons, List.mem_append, not_or]
    exact ⟨by decide, by decide, ⟨⟨⟨by decide, comma⟩, by decide⟩, ⟨by decide, bracket⟩, by decide⟩,
      by decide, List.forall_mem_nil _⟩
  rw [acceptedNames, begun, listedNames_of_written (written _) opened (List.nil_append _)
    (List.cons_ne_nil _ _) apart]
  rfl

/-- What is between the blanks and the comma of a fallback. -/
def fallbackPart (parameter : String) : List Char :=
  "            ".toList ++ parameter.toList ++ " if ".toList ++ parameter.toList ++
    " is not None else self.".toList ++ parameter.toList

theorem flatMap_fallbackLine (parameters : List String) :
    (parameters.map fallbackLine ++ ["        )"]).flatMap String.toList =
      Text.joined ',' (parameters.map fallbackPart ++ ["        ".toList]) ++ [')'] := by
  induction parameters with
  | nil => rfl
  | cons parameter others inductionHypothesis =>
    have next : Text.joined ',' ((parameter :: others).map fallbackPart ++ ["        ".toList]) =
        fallbackPart parameter ++ ',' :: Text.joined ',' (others.map fallbackPart ++ ["        ".toList]) := by
      cases others <;> rfl
    have line : (fallbackLine parameter).toList = fallbackPart parameter ++ [','] := by
      unfold fallbackLine
      rw [String.toList_append, String.toList_append, String.toList_append, String.toList_append,
        String.toList_append, String.toList_append]
      rfl
    rw [List.map_cons, List.cons_append, List.flatMap_cons, inductionHypothesis, next, line]
    simp only [List.append_assoc, List.cons_append, List.nil_append]

/-- A factory passes the parameters of the plan on to the delegate. -/
theorem passedNames_create (named : s.IsNamed) :
    passedNames "        return " s.synthesize.factoryLines = s.plan.parameters := by
  have skipped : ∀ line ∈ factoryFront s ++ createHead s, begins "        return " line = false := by
    unfold createHead
    simp only [List.forall_mem_append, List.forall_mem_cons]
    refine ⟨begins_factoryFront (by decide) (by decide) (by decide), begins_foldl_eq_false [] (by decide),
      begins_foldl_eq_false [] (by decide), begins_foldl_eq_false [] (by decide), ?_, ?_, List.forall_mem_nil _⟩
    · exact begins_foldl_eq_false [s.synthesize.inputTypeText, " = None,"] (by decide)
    · exact begins_foldl_eq_false [s.name ++ "Delegate", ":"] (by decide)
  have begun : linesFrom "        return " s.synthesize.factoryLines =
      ("        return " ++ (s.name ++ "Delegate") ++ "(") ::
        (s.plan.parameters.map fallbackLine ++ ["        )"]) := by
    rw [factoryLines_synthesize, ← List.append_assoc]
    exact linesFrom_append skipped (begins_foldl [s.name ++ "Delegate", "("] (by decide))
  have front : ∀ c ∈ ("        return " ++ (s.name ++ "Delegate")).toList, decide (c ≠ '(') = true := by
    refine fun c inside => decide_eq_true fun bracket => ?_
    have own := Text.not_mem_of_isIdentifier named.definition.1 (c := '(') rfl rfl
    simp [String.toList_append, bracket, own, name] at inside
  have opened : (("        return " ++ (s.name ++ "Delegate")).toList ++ ['(']).dropWhile (· ≠ '(') = ['('] := by
    rw [List.dropWhile_append_of_pos front]
    rfl
  have written : (linesFrom "        return " s.synthesize.factoryLines).flatMap String.toList =
      (("        return " ++ (s.name ++ "Delegate")).toList ++ ['(']) ++
        (Text.joined ',' (s.plan.parameters.map fallbackPart ++ ["        ".toList]) ++ [')']) := by
    rw [begun, List.flatMap_cons, flatMap_fallbackLine, String.toList_append]
    rfl
  have apart : ∀ part ∈ s.plan.parameters.map fallbackPart ++ ["        ".toList], ',' ∉ part ∧ ')' ∉ part := by
    rw [parameters_plan]
    cases s.hasPersisted <;> cases s.hasInput <;> decide
  rw [passedNames, listedNames_of_written written opened (List.nil_append _) (by simp) apart, parameters_plan]
  cases s.hasPersisted <;> cases s.hasInput <;> decide

end Schema

/-! ### The parameters of a module -/

/-- Whether the parameters that the constructor of the delegate accepts are those that it passes on to
the merge of the initial state, that the merge accepts and that the factory passes on to the delegate.
The factory itself accepts these two, in this order. -/
structure ModuleText.HandsOn (text : ModuleText) : Prop where
  passed : passedNames "        initial = self.get_initial_state(" text.delegate =
    acceptedNames "    def __init__(" text.delegate
  merged : acceptedNames "    def get_initial_state(" text.delegate =
    acceptedNames "    def __init__(" text.delegate
  built : passedNames "        return " text.factory = acceptedNames "    def __init__(" text.delegate
  taken : acceptedNames "    def create(" text.factory = [snapshotSourceName, stateInputName]
  ordered : (acceptedNames "    def __init__(" text.delegate).Sublist
    (acceptedNames "    def create(" text.factory)

namespace Schema

theorem handsOn_moduleText {s : Schema} {runtimeImport : String} (named : s.IsNamed) :
    (s.synthesize.moduleText runtimeImport).HandsOn where
  passed := (passedNames_constructor s).trans (acceptedNames_constructor named).symm
  merged := (acceptedNames_initialState named).trans (acceptedNames_constructor named).symm
  built := (passedNames_create named).trans (acceptedNames_constructor named).symm
  taken := acceptedNames_create named
  ordered := by
    show (acceptedNames _ s.synthesize.delegateLines).Sublist (acceptedNames _ s.synthesize.factoryLines)
    rw [acceptedNames_constructor named, acceptedNames_create named, parameters_plan]
    cases s.hasPersisted <;> cases s.hasInput <;> decide

end Schema

end StateContainer
