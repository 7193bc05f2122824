/-
This file says that a generated module imports what its types use.

The imports and the types are written by different conditions on the same schema. Here the types are read
as text: which lines wrap a value in an event, which begin a class, what the merge of the initial state
calls. Frames of lines tell most lines apart; the few that could be taken for each other are compared
with what they are put together of.
-/

import StateContainer.Proofs.Generation.Passing

namespace StateContainer

/-! ### Reading types -/

namespace ModuleText

/-- The lines of the types. -/
def body (text : ModuleText) : List String :=
  text.interface ++ text.snapshot ++ text.input ++ text.delegate ++ text.factory

/-- Whether a line wraps a value in an event of a class: it is nothing but a call of the class, or it
ends in pushing one. -/
inductive Wraps (event line : String) : Prop where
  | started (value : List Char)
      (written : line.toList.dropWhile (· = ' ') = event.toList ++ '(' :: (value ++ [')']))
  | pushed (channel value : List Char)
      (written : line.toList =
        channel ++ (".push(".toList ++ (event.toList ++ '(' :: (value ++ [')', ')']))))

/-- Whether some class of the text is one of snapshots. -/
def DefinesSnapshot (text : ModuleText) : Prop :=
  ∃ name, "class " ++ name ++ "(Snapshot):" ∈ text.body

/-- Whether some class of the text stands for itself, as that of inputs does. -/
def DefinesInput (text : ModuleText) : Prop :=
  ∃ name, Text.isIdentifier name = true ∧ "class " ++ name ++ ":" ∈ text.body

/-- The first line that begins so, and those behind it that are indented as the body of a function. -/
def functionLines (start : String) (lines : List String) : List String :=
  match linesFrom start lines with
  | [] => []
  | first :: others => first :: others.takeWhile (begins "        ")

/-- Whether a line calls what a dotted name stands for. -/
def Calls (name line : String) : Prop :=
  (name ++ "(").toList <:+: line.toList

end ModuleText

open ModuleText

/-! ### Events -/

namespace ModuleText

variable {kind other : EventKind} {line : String}

theorem getLast?_append_ofList (front : String) {last : List Char} {c : Char}
    (final : last.getLast? = some c) : (front ++ String.ofList last).toList.getLast? = some c := by
  rw [String.toList_append, String.toList_ofList, List.getLast?_append, final, Option.some_or]

/-- A line that wraps a value in an event is closed by a bracket. -/
theorem getLast?_of_wraps {event : String} (wraps : Wraps event line) :
    line.toList.getLast? = some ')' := by
  cases wraps with
  | started value written =>
    rw [← List.takeWhile_append_dropWhile (p := (· = ' ')) (l := line.toList), written,
      ← List.cons_append, ← List.append_assoc, ← List.append_assoc, List.getLast?_concat]
  | pushed channel value written =>
    have closed : channel ++ (".push(".toList ++ (event.toList ++ '(' :: (value ++ [')', ')']))) =
        channel ++ ".push(".toList ++ event.toList ++ '(' :: (value ++ [')']) ++ [')'] := by
      simp only [List.append_assoc, List.cons_append, List.nil_append]
    rw [written, closed, List.getLast?_concat]

/-- A line whose frame is quiet wraps nothing in an event. -/
theorem not_wraps_of_isQuiet (quiet : IsQuiet line) : ¬ Wraps kind.className line := by
  obtain ⟨first, last, ⟨⟨rest, begins⟩, ⟨front, ends⟩, -⟩, -, frame⟩ := quiet
  intro wraps
  have closes := getLast?_of_wraps wraps
  rw [isQuietFrame, Bool.and_eq_true, Bool.or_eq_true] at frame
  rcases frame.2 with unlike | apart
  · rw [Option.any_eq_true] at unlike
    obtain ⟨c, final, differs⟩ := unlike
    rw [← ends, List.getLast?_append, final] at closes
    exact of_decide_eq_true differs (Option.some.inj closes)
  · split at apart
    · next head others before behind opened reversed =>
      simp only [Bool.and_eq_true, decide_eq_true_eq] at apart
      cases wraps with
      | started value written =>
        rw [← begins, List.dropWhile_append, opened] at written
        cases kind with
        | single => exact apart.1.1 (List.cons.inj written).1
        | multi => exact apart.1.2 (List.cons.inj written).1
      | pushed channel value written =>
        have closes := congrArg List.reverse written
        rw [← ends, List.reverse_append, reversed] at closes
        simp only [List.reverse_append, List.reverse_cons, List.cons_append, List.append_assoc,
          List.nil_append, List.reverse_nil, List.cons.injEq] at closes
        exact apart.2 closes.2.1
    · cases apart

theorem eventKind_unique {rest restOther : List Char}
    (same : kind.className.toList ++ '(' :: rest = other.className.toList ++ '(' :: restOther) :
    kind = other := by
  cases kind <;> cases other
  · rfl
  · cases (List.cons.inj same).1
  · cases (List.cons.inj same).1
  · rfl

/-- A line that wraps the initial value of a property wraps it in an event of the kind of the property. -/
theorem wraps_wrapLine_iff {p : Property} (named : Text.isIdentifier p.name = true) :
    Wraps kind.className (Schema.wrapLine p) ↔ p.eventKind = kind := by
  have characters : (Schema.wrapLine p).toList = List.replicate 12 ' ' ++
      (p.eventKind.className.toList ++ '(' :: ("initial.".toList ++ p.name.toList ++ [')'])) := by
    unfold Schema.wrapLine
    simp only [String.toList_append, List.append_assoc]
    rfl
  have bare : (Schema.wrapLine p).toList.dropWhile (· = ' ') =
      p.eventKind.className.toList ++ '(' :: ("initial.".toList ++ p.name.toList ++ [')']) := by
    rw [characters]
    cases p.eventKind <;> rfl
  constructor
  · intro wraps
    cases wraps with
    | started value written =>
      rw [bare] at written
      exact eventKind_unique written
    | pushed channel value written =>
      -- the name stands before the last bracket, and has none itself
      obtain ⟨front, final, ends⟩ := List.eq_nil_or_concat p.name.toList |>.resolve_left fun empty =>
        Text.ne_empty_of_isIdentifier named (String.toList_eq_nil_iff.mp empty)
      rw [List.concat_eq_append] at ends
      have inside : final ∈ p.name.toList := ends ▸ List.mem_concat_self
      have closes := congrArg List.reverse written
      rw [characters, ends] at closes
      simp only [List.reverse_append, List.reverse_cons, List.cons_append, List.append_assoc,
        List.nil_append, List.reverse_nil, List.cons.injEq] at closes
      rw [closes.2.1] at inside
      exact absurd inside (Text.not_mem_of_isIdentifier named rfl rfl)
  · rintro rfl
    exact .started _ bare

/-- A line that pushes a value of a property wraps it in an event of the kind of the property. -/
theorem wraps_pushLine_iff {p : Property} (named : Text.isIdentifier p.name = true) :
    Wraps kind.className (Schema.pushLine p) ↔ p.eventKind = kind := by
  have characters : (Schema.pushLine p).toList =
      "        self._".toList ++ p.name.toList ++ "_channel".toList ++
        (".push(".toList ++ (p.eventKind.className.toList ++ '(' :: ("value".toList ++ [')', ')']))) := by
    unfold Schema.pushLine
    simp only [String.toList_append, List.append_assoc]
    rfl
  constructor
  · intro wraps
    cases wraps with
    | started value written =>
      rw [characters] at written
      cases kind <;> cases (List.cons.inj written).1
    | pushed channel value written =>
      -- the name of the event stands alone between the first two brackets
      have plain (kind : EventKind) : '(' ∉ kind.className.toList := by cases kind <;> decide
      have front : '(' ∉ "        self._".toList ++ p.name.toList ++ "_channel.push".toList := by
        simp [Text.not_mem_of_isIdentifier named (c := '(') rfl rfl]
      have own : (Schema.pushLine p).toList =
          ("        self._".toList ++ p.name.toList ++ "_channel.push".toList) ++
            '(' :: (p.eventKind.className.toList ++ '(' :: "value))".toList) := by
        rw [characters]
        simp only [List.append_assoc]
        rfl
      have given : channel ++ (".push(".toList ++ (kind.className.toList ++ '(' :: (value ++ [')', ')']))) =
          (channel ++ ".push".toList) ++ '(' :: (kind.className.toList ++ '(' :: (value ++ [')', ')'])) := by
        simp only [List.append_assoc]
        rfl
      have cut := congrArg (Text.pieces '(') (own.symm.trans (written.trans given))
      rw [Text.pieces_append_cons, Text.pieces_append_cons, Text.pieces_append_cons,
        Text.pieces_append_cons, Text.pieces_of_not_mem front, Text.pieces_of_not_mem (plain _),
        Text.pieces_of_not_mem (plain kind)] at cut
      have listed : kind.className.toList ∈
          ["        self._".toList ++ p.name.toList ++ "_channel.push".toList] ++
            ([p.eventKind.className.toList] ++ Text.pieces '(' "value))".toList) := by
        rw [cut]
        exact List.mem_append_right _ (List.mem_append_left _ List.mem_cons_self)
      rcases List.mem_cons.mp listed with opening | named
      · cases kind <;> cases (List.cons.inj opening).1
      · rcases List.mem_cons.mp named with same | closing
        · exact (eventKind_unique (congrArg (· ++ '(' :: []) same)).symm
        · cases kind <;> exact absurd closing (by decide)
  · rintro rfl
    exact .pushed _ _ characters

end ModuleText

namespace Schema

variable {s : Schema} {kind : EventKind}

/-- A delegate wraps something in an event of a kind if some property is of that kind. -/
theorem exists_wraps_delegateLines_iff (named : s.IsNamed) :
    (∃ line ∈ s.synthesize.delegateLines, Wraps kind.className line) ↔
      ∃ p ∈ s.properties, p.eventKind = kind := by
  constructor
  · rintro ⟨line, listed, wraps⟩
    have closes := getLast?_of_wraps wraps
    rcases isDelegateLine_delegateLines named line listed with rfl | ⟨-, rfl⟩ | quiet | ⟨p, member, written⟩
    · exact absurd ((getLast?_append_ofList _ rfl).symm.trans closes) (by decide)
    · exact absurd ((getLast?_append_ofList _ rfl).symm.trans closes) (by decide)
    · exact absurd wraps (not_wraps_of_isQuiet quiet)
    · refine ⟨p, member, ?_⟩
      rcases written with rfl | rfl
      · exact (wraps_wrapLine_iff (named.properties p member)).mp wraps
      · exact (wraps_pushLine_iff (named.properties p member)).mp wraps
  · rintro ⟨p, member, same⟩
    refine ⟨wrapLine p, ?_, (wraps_wrapLine_iff (named.properties p member)).mpr same⟩
    have inside : wrapLine p ∈ s.synthesize.constructorLines := by
      rw [constructorLines_synthesize]
      refine List.mem_append_right _ (List.mem_flatMap.mpr ⟨p, member, ?_⟩)
      exact List.mem_cons_of_mem _ List.mem_cons_self
    rw [delegateLines_synthesize]
    simp only [List.mem_append]
    exact .inl (.inl (.inl (.inl (.inr inside))))

end Schema

/-- The import of the runtime has a line for each name that the runtime supplies. -/
theorem ArtifactSet.mem_runtimeImportLines_iff {a : ArtifactSet} {name runtimeImport : String} :
    "    " ++ name ++ "," ∈ a.runtimeImportLines runtimeImport ↔ name ∈ a.runtimeNames := by
  have opening : "    " ++ name ++ "," ≠ "from " ++ runtimeImport ++ " import (" := by
    intro same
    have characters := congrArg String.toList same
    rw [String.toList_append, String.toList_append, String.toList_append, String.toList_append]
      at characters
    cases (List.cons.inj characters).1
  have closing : "    " ++ name ++ "," ≠ ")" := by
    intro same
    have characters := congrArg String.toList same
    rw [String.toList_append, String.toList_append] at characters
    cases (List.cons.inj characters).1
  have lines : a.runtimeImportLines runtimeImport =
      ("from " ++ runtimeImport ++ " import (") ::
        (a.runtimeNames.map fun name => "    " ++ name ++ ",") ++ [")"] := rfl
  rw [lines, List.mem_append, List.mem_cons, or_iff_right opening, List.mem_singleton,
    or_iff_left closing, List.mem_map]
  constructor
  · rintro ⟨other, listed, same⟩
    rw [← (String.append_right_inj _).mp ((String.append_left_inj _).mp same)]
    exact listed
  · exact fun listed => ⟨name, listed, rfl⟩

namespace Schema

variable {s : Schema}

theorem runtimeNames_synthesize (s : Schema) : s.synthesize.runtimeNames = ["Event"] ++
    (if s.multiRead.isEmpty then [] else ["MultiEvent"]) ++ ["Observable"] ++
    (if s.singleRead.isEmpty then [] else ["SingleEvent"]) ++
    (if s.hasPersisted then ["Snapshot"] else []) ++ ["SnapshotStore", "StateChannel", "StateFactory"] ++
    (if s.hasPersisted then ["restore_snapshot"] else []) := rfl

/-- The runtime supplies the class of the events of a kind if some property is of that kind. -/
theorem className_mem_runtimeNames_iff (kind : EventKind) :
    kind.className ∈ s.synthesize.runtimeNames ↔ ∃ p ∈ s.properties, p.eventKind = kind := by
  rw [runtimeNames_synthesize]
  cases kind with
  | single =>
    have some_single : (∃ p ∈ s.properties, p.eventKind = .single) ↔ s.singleRead.isEmpty = false := by
      simp [singleRead, Property.eventKind]
    rw [some_single]
    cases s.singleRead.isEmpty <;> cases s.multiRead.isEmpty <;> cases s.hasPersisted <;> decide
  | multi =>
    have some_multi : (∃ p ∈ s.properties, p.eventKind = .multi) ↔ s.multiRead.isEmpty = false := by
      simp [multiRead, Property.eventKind]
    rw [some_multi]
    cases s.singleRead.isEmpty <;> cases s.multiRead.isEmpty <;> cases s.hasPersisted <;> decide

theorem mem_runtimeNames_iff_hasPersisted {name : String}
    (listed : name ∈ ["Snapshot", "restore_snapshot"]) :
    name ∈ s.synthesize.runtimeNames ↔ s.hasPersisted = true := by
  rw [runtimeNames_synthesize]
  revert name
  cases s.singleRead.isEmpty <;> cases s.multiRead.isEmpty <;> cases s.hasPersisted <;> decide

end Schema

/-! ### Classes -/

namespace ModuleText

/-- A line that stands inside of a type begins no class. -/
theorem begins_class_of_isInside {line : String} (inside : IsInside line) :
    begins "class " line = false := by
  obtain ⟨first, last, framed, indented⟩ := inside
  obtain ⟨rest, characters⟩ := (List.isPrefixOf_iff_prefix.mp indented).trans framed.begins
  rw [begins, ← characters]
  rfl

/-- If one line alone begins a class, each that does is that one. -/
theorem class_mem_iff {lines : List String} {head rest : String} (listed : "class " ++ head ∈ lines)
    (only : ∀ line ∈ lines, line = "class " ++ head ∨ begins "class " line = false) :
    "class " ++ rest ∈ lines ↔ rest = head := by
  constructor
  · intro member
    have begun : begins "class " ("class " ++ rest) = true := begins_foldl [rest] (by decide)
    refine (String.append_right_inj _).mp ((only _ member).resolve_right fun unlike => ?_)
    exact absurd (begun.symm.trans unlike) (by decide)
  · rintro rfl
    exact listed

/-- If one line alone begins a class, which is decorated, each that does is that one. -/
theorem class_mem_iff_of_decorated {lines : List String} {head rest : String}
    (listed : "class " ++ head ∈ lines)
    (only : ∀ line ∈ lines, line ∈ ["@dataclass", "class " ++ head, ""] ∨ IsInside line) :
    "class " ++ rest ∈ lines ↔ rest = head := by
  refine class_mem_iff listed fun line member => ?_
  rcases only line member with outside | inside
  · simp only [List.mem_cons, List.not_mem_nil, or_false] at outside
    rcases outside with rfl | rfl | rfl
    · exact .inr (by decide)
    · exact .inl rfl
    · exact .inr (by decide)
  · exact .inr (begins_class_of_isInside inside)

theorem regroup_head (first a b c d : String) :
    first ++ a ++ b ++ c ++ d = first ++ (a ++ (b ++ c ++ d)) := by
  simp only [String.append_assoc]

end ModuleText

namespace Schema

variable {s : Schema} {rest : String}

section
variable (named : s.IsNamed)
include named

theorem class_mem_interfaceLines_iff : "class " ++ rest ∈ s.synthesize.interfaceLines ↔
    rest = s.name ++ "Client" ++ "(Protocol):" := by
  have only := isInside_interfaceLines named
  rw [String.append_assoc] at only
  refine class_mem_iff ?_ fun line listed => (only line listed).imp_right begins_class_of_isInside
  rw [← String.append_assoc]
  exact List.mem_append_left _ (List.mem_append_left _ List.mem_cons_self)

theorem class_mem_snapshotLines_iff : "class " ++ rest ∈ s.synthesize.snapshotLines ↔
    s.hasPersisted = true ∧ rest = s.name ++ "Snapshot" ++ "(Snapshot):" := by
  have only := isInside_snapshotLines named
  rw [String.append_assoc] at only
  cases persisted : s.hasPersisted with
  | false => simp [snapshotLines_synthesize, persisted]
  | true =>
    refine (class_mem_iff_of_decorated ?_ only).trans (and_iff_right rfl).symm
    rw [snapshotLines_synthesize, persisted, ← String.append_assoc]
    exact List.mem_append_left _ (List.mem_cons_of_mem _ List.mem_cons_self)

theorem class_mem_inputLines_iff : "class " ++ rest ∈ s.synthesize.inputLines ↔
    s.hasInput = true ∧ rest = s.name ++ "Input" ++ ":" := by
  have only := isInside_inputLines named
  rw [String.append_assoc] at only
  cases input : s.hasInput with
  | false => simp [inputLines_synthesize, input]
  | true =>
    refine (class_mem_iff_of_decorated ?_ only).trans (and_iff_right rfl).symm
    rw [inputLines_synthesize, input, ← String.append_assoc]
    exact List.mem_append_left _ (List.mem_cons_of_mem _ List.mem_cons_self)

theorem class_mem_delegateLines_iff : "class " ++ rest ∈ s.synthesize.delegateLines ↔
    rest = s.name ++ "Delegate" ++ ("(" ++ (s.name ++ "Client") ++ "):") := by
  have only := isDelegateLine_delegateLines named
  have head := regroup_head "class " (s.name ++ "Delegate") "(" (s.name ++ "Client") "):"
  rw [head] at only
  refine class_mem_iff ?_ fun line listed => ?_
  · rw [delegateLines_synthesize, ← head]
    simp only [List.mem_append]
    exact .inl (.inl (.inl (.inl (.inl (.inl List.mem_cons_self)))))
  · rcases only line listed with head | ⟨-, rfl⟩ | own
    · exact .inl head
    · exact .inr (begins_class_of_isInside (isInside_keyLine named))
    · exact .inr (begins_class_of_isInside (isInside_of_isDelegateLine named own))

theorem class_mem_factoryLines_iff : "class " ++ rest ∈ s.synthesize.factoryLines ↔
    rest = s.name ++ "Factory" ++ ("(StateFactory[" ++ (s.name ++ "Delegate") ++ "]):") := by
  have only := isInside_factoryLines named
  have head := regroup_head "class " (s.name ++ "Factory") "(StateFactory[" (s.name ++ "Delegate") "]):"
  rw [head] at only
  refine class_mem_iff ?_ fun line listed => (only line listed).imp_right begins_class_of_isInside
  rw [factoryLines_synthesize, factoryFront, ← head]
  exact List.mem_append_left _ (List.mem_append_left _ List.mem_cons_self)

theorem class_mem_body_iff {runtimeImport : String} :
    "class " ++ rest ∈ (s.synthesize.moduleText runtimeImport).body ↔
      rest = s.name ++ "Client" ++ "(Protocol):" ∨
      s.hasPersisted = true ∧ rest = s.name ++ "Snapshot" ++ "(Snapshot):" ∨
      s.hasInput = true ∧ rest = s.name ++ "Input" ++ ":" ∨
      rest = s.name ++ "Delegate" ++ ("(" ++ (s.name ++ "Client") ++ "):") ∨
      rest = s.name ++ "Factory" ++ ("(StateFactory[" ++ (s.name ++ "Delegate") ++ "]):") := by
  have sections : (s.synthesize.moduleText runtimeImport).body = s.synthesize.interfaceLines ++
      s.synthesize.snapshotLines ++ s.synthesize.inputLines ++ s.synthesize.delegateLines ++
      s.synthesize.factoryLines := rfl
  rw [sections]
  simp only [List.mem_append, class_mem_interfaceLines_iff named, class_mem_snapshotLines_iff named,
    class_mem_inputLines_iff named, class_mem_delegateLines_iff named, class_mem_factoryLines_iff named,
    or_assoc]

theorem definesSnapshot_iff {runtimeImport : String} :
    (s.synthesize.moduleText runtimeImport).DefinesSnapshot ↔ s.hasPersisted = true := by
  have unlike {name line : String} (same : name ++ "(Snapshot):" = line) (last : List Char)
      (ends : last <:+ line.toList)
      (differ : ¬ "(Snapshot):".toList <:+ last ∧ ¬ last <:+ "(Snapshot):".toList) : False := by
    rw [← same, String.toList_append] at ends
    rcases List.suffix_or_suffix_of_suffix ends (List.suffix_append _ _) with within | beyond
    · exact differ.2 within
    · exact differ.1 beyond
  constructor
  · rintro ⟨name, listed⟩
    rw [String.append_assoc, class_mem_body_iff named] at listed
    rcases listed with same | ⟨persisted, -⟩ | ⟨-, same⟩ | same | same
    · refine (unlike same ['l', ')', ':'] ⟨(s.name ++ "Client" ++ "(Protoco").toList, ?_⟩
        (by decide)).elim
      simp only [String.toList_append, List.append_assoc]
      rfl
    · exact persisted
    · refine (unlike same ['t', ':'] ⟨(s.name ++ "Inpu").toList, ?_⟩ (by decide)).elim
      simp only [String.toList_append, List.append_assoc]
      rfl
    · refine (unlike same ['n', 't', ')', ':']
        ⟨(s.name ++ "Delegate" ++ "(" ++ s.name ++ "Clie").toList, ?_⟩ (by decide)).elim
      simp only [String.toList_append, List.append_assoc]
      rfl
    · refine (unlike same [']', ')', ':']
        ⟨(s.name ++ "Factory" ++ "(StateFactory[" ++ (s.name ++ "Delegate")).toList, ?_⟩ (by decide)).elim
      simp only [String.toList_append, List.append_assoc]
      rfl
  · intro persisted
    refine ⟨s.name ++ "Snapshot", ?_⟩
    rw [String.append_assoc, class_mem_body_iff named]
    exact .inr (.inl ⟨persisted, rfl⟩)

theorem definesInput_iff {runtimeImport : String} :
    (s.synthesize.moduleText runtimeImport).DefinesInput ↔ s.hasInput = true := by
  constructor
  · rintro ⟨name, isName, listed⟩
    -- the other classes have brackets
    have plain : '(' ∉ (name ++ ":").toList := by
      simp [String.toList_append, Text.not_mem_of_isIdentifier isName (c := '(') rfl rfl]
    rw [String.append_assoc, class_mem_body_iff named] at listed
    rcases listed with same | ⟨-, same⟩ | ⟨input, -⟩ | same | same
    · exact absurd (by simp [same, String.toList_append]) plain
    · exact absurd (by simp [same, String.toList_append]) plain
    · exact input
    · exact absurd (by simp [same, String.toList_append]) plain
    · exact absurd (by simp [same, String.toList_append]) plain
  · intro input
    refine ⟨s.name ++ "Input", Text.isIdentifier_append named.definition.1 (by decide), ?_⟩
    rw [String.append_assoc, class_mem_body_iff named]
    exact .inr (.inr (.inl ⟨input, rfl⟩))

end

end Schema

/-! ### The merge of the initial state -/

namespace ModuleText

/-- A function goes on while the lines are indented. -/
theorem functionLines_append {next : String} {front body others : List String}
    (skipped : ∀ line ∈ front, begins start line = false) (begun : begins start line = true)
    (indented : ∀ line ∈ body, begins "        " line = true) (ended : begins "        " next = false) :
    functionLines start (front ++ line :: (body ++ next :: others)) = line :: body := by
  rw [functionLines, linesFrom_append skipped begun]
  show line :: (body ++ next :: others).takeWhile (begins "        ") = line :: body
  rw [List.takeWhile_append_of_pos indented, List.takeWhile_cons_of_neg (by rw [ended]; decide),
    List.append_nil]

/-- Whether a character has to stand in a call by a dotted name. -/
def isMark (c : Char) : Bool :=
  c == '.' || c == '('

def marks (line : String) : List Char :=
  line.toList.filter isMark

theorem marks_append (first second : String) : marks (first ++ second) = marks first ++ marks second := by
  rw [marks, String.toList_append, List.filter_append]
  rfl

theorem marks_of_isIdentifier {text : String} (named : Text.isIdentifier text = true) : marks text = [] := by
  refine List.filter_eq_nil_iff.mpr fun c inside mark => ?_
  rw [isMark, Bool.or_eq_true, beq_iff_eq, beq_iff_eq] at mark
  rcases mark with rfl | rfl <;> exact Text.not_mem_of_isIdentifier named rfl rfl inside

theorem marks_foldl (first : List Char) (parts : List String) :
    marks (parts.foldl (· ++ ·) (String.ofList first)) = first.filter isMark ++ parts.flatMap marks := by
  rw [marks, IsFramed.toList_foldl, String.toList_ofList, List.filter_append, List.filter_flatMap]
  rfl

/-- In a call by a dotted name a bracket is the first mark behind a dot. -/
theorem not_calls_foldl {first : List Char} (parts : List String) (found : List Char)
    (marked : parts.flatMap marks = found) (apart : ¬ ['.', '('] <:+: first.filter isMark ++ found) :
    ¬ Calls "dataclasses.replace" (parts.foldl (· ++ ·) (String.ofList first)) := by
  intro calls
  have within : ['.', '('] <:+: marks (parts.foldl (· ++ ·) (String.ofList first)) := calls.filter isMark
  rw [marks_foldl, marked] at within
  exact apart within

end ModuleText

namespace Schema

variable {s : Schema}

theorem begins_initialStateBody : ∀ line ∈ initialStateBody s, begins "        " line = true := by
  have fixed {line : List Char} (begun : [' ', ' ', ' ', ' ', ' ', ' ', ' ', ' '].isPrefixOf line = true) :
      begins "        " (String.ofList line) = true := begins_foldl [] begun
  have input : ∀ line ∈ s.synthesize.mergeInputLines, begins "        " line = true := by
    rw [ArtifactSet.mergeInputLines]
    split
    · exact List.forall_mem_singleton.mpr (begins_foldl [s.name, "()"] (by decide))
    · simp only [List.forall_mem_append, List.forall_mem_cons, List.forall_mem_map]
      refine ⟨⟨⟨fixed (by decide), ?_, fixed (by decide), ?_, List.forall_mem_nil _⟩,
        fun field inside => ?_⟩, fixed (by decide), List.forall_mem_nil _⟩
      · exact begins_foldl [s.name, "()"] (by decide)
      · exact begins_foldl [s.name, "("] (by decide)
      · exact begins_foldl [field, "=state_input.", field, ","] (by decide)
  have snapshot : ∀ line ∈ s.synthesize.mergeSnapshotLines, begins "        " line = true := by
    rw [mergeSnapshotLines_synthesize]
    split
    · simp only [List.forall_mem_append, List.forall_mem_cons, List.forall_mem_map]
      refine ⟨⟨⟨?_, fixed (by decide), fixed (by decide), fixed (by decide), fixed (by decide),
        List.forall_mem_nil _⟩, fun p member => ?_⟩, fixed (by decide), List.forall_mem_nil _⟩
      · exact begins_foldl [s.name, "Snapshot)"] (by decide)
      · exact begins_foldl [p.name, "=restored.", p.name, ","] (by decide)
    · exact List.forall_mem_singleton.mpr (fixed (by decide))
  unfold initialStateBody
  rw [List.forall_mem_cons, List.forall_mem_append]
  exact ⟨fixed (by decide), input, snapshot⟩

/-- The merge of the initial state is a function of the delegate. -/
theorem functionLines_initialState (s : Schema) :
    functionLines "    def get_initial_state(" s.synthesize.delegateLines =
      initialStateLine s :: initialStateBody s := by
  obtain ⟨front, next, others, skipped, ended, lines⟩ := exists_initialStateLines s
  rw [lines]
  exact functionLines_append skipped (begins_initialStateLine s) begins_initialStateBody ended

section
variable (named : s.IsNamed)
include named

theorem marks_name : marks s.name = [] :=
  marks_of_isIdentifier named.definition.1

theorem marks_furtherParameters : marks s.synthesize.furtherParameters = [] := by
  have joined (texts : List String) : marks (String.join texts) = texts.flatMap marks := by
    induction texts with
    | nil => rfl
    | cons first others inductionHypothesis =>
      rw [String.join_cons, marks_append, inductionHypothesis, List.flatMap_cons]
  rw [ArtifactSet.furtherParameters, joined, List.flatMap_eq_nil_iff, List.forall_mem_map]
  intro text declared
  rw [marks_append]
  refine List.append_eq_nil_iff.mpr ⟨rfl, List.filter_eq_nil_iff.mpr fun c inside mark => ?_⟩
  rw [isMark, Bool.or_eq_true, beq_iff_eq, beq_iff_eq] at mark
  rcases mark with rfl | rfl <;>
    exact not_mem_declaredParameters named rfl rfl (by decide) text declared inside

theorem not_calls_mergeInputLines :
    ∀ line ∈ s.synthesize.mergeInputLines, ¬ Calls "dataclasses.replace" line := by
  have behind (last : String) : [s.name, last].flatMap marks = marks last := by
    rw [List.flatMap_cons, marks_name named]
    exact List.append_nil _
  rw [ArtifactSet.mergeInputLines]
  split
  · exact List.forall_mem_singleton.mpr (not_calls_foldl [s.name, "()"] ['('] (behind "()") (by decide))
  · simp only [List.forall_mem_append, List.forall_mem_cons, List.forall_mem_map]
    refine ⟨⟨⟨?_, ?_, ?_, ?_, List.forall_mem_nil _⟩, fun field inside => ?_⟩, ?_, List.forall_mem_nil _⟩
    · exact not_calls_foldl [] [] rfl (by decide)
    · exact not_calls_foldl [s.name, "()"] ['('] (behind "()") (by decide)
    · exact not_calls_foldl [] [] rfl (by decide)
    · exact not_calls_foldl [s.name, "("] ['('] (behind "(") (by decide)
    · obtain ⟨p, member, rfl⟩ := List.mem_map.mp inside
      have own := marks_of_isIdentifier (named.properties p (List.mem_of_mem_filter member))
      refine not_calls_foldl [p.name, "=state_input.", p.name, ","] ['.'] ?_ (by decide)
      simp only [List.flatMap_cons, own]
      rfl
    · exact not_calls_foldl [] [] rfl (by decide)

/-- The merge of the initial state calls for a replacement if some property is persisted. -/
theorem exists_calls_initialState_iff :
    (∃ line ∈ functionLines "    def get_initial_state(" s.synthesize.delegateLines,
      Calls "dataclasses.replace" line) ↔ s.hasPersisted = true := by
  have begun : ¬ Calls "dataclasses.replace" (initialStateLine s) := by
    refine not_calls_foldl [s.synthesize.furtherParameters, ") -> ", s.name, ":"] [] ?_ (by decide)
    simp only [List.flatMap_cons, marks_furtherParameters named, marks_name named]
    rfl
  have doc : ¬ Calls "dataclasses.replace"
      "        \"\"\"Merge field defaults, input values and the restored snapshot.\"\"\"" :=
    not_calls_foldl [] [] rfl (by decide)
  rw [functionLines_initialState, initialStateBody, mergeSnapshotLines_synthesize]
  simp only [List.exists_mem_cons_iff, begun, doc, false_or, List.mem_append]
  cases s.hasPersisted with
  | false =>
    refine iff_of_false ?_ Bool.false_ne_true
    rintro ⟨line, input | last, calls⟩
    · exact not_calls_mergeInputLines named line input calls
    · rw [List.mem_singleton.mp last] at calls
      exact not_calls_foldl [] [] rfl (by decide) calls
  | true =>
    refine iff_of_true ⟨"        return dataclasses.replace(", ?_, ?_⟩ rfl
    · exact .inr (List.mem_append_left _ (List.mem_append_left _ (by simp)))
    · exact ⟨"        return ".toList, [], by decide⟩

end

/-! ### The imports of the standard library -/

theorem standardImportLines_synthesize (s : Schema) : s.synthesize.standardImportLines =
    (if s.hasPersisted then ["import dataclasses"] else []) ++
    (if s.hasPersisted || s.hasInput then ["from dataclasses import dataclass"] else []) ++
    [if s.hasPersisted then "from typing import ClassVar, Protocol" else "from typing import Protocol"] := by
  have restored : s.synthesize.plan.restoredFields.isEmpty = !s.hasPersisted := s.isEmpty_restoredFields
  have snapshot : s.synthesize.snapshot.isSome = s.hasPersisted := by
    show s.snapshot?.isSome = s.hasPersisted
    rw [snapshot?]
    cases s.hasPersisted <;> rfl
  have input : s.synthesize.input.isSome = s.hasInput := by
    show s.input?.isSome = s.hasInput
    rw [input?]
    cases s.hasInput <;> rfl
  rw [ArtifactSet.standardImportLines, restored, snapshot, input]
  cases s.hasPersisted <;> rfl

/-- The delegate gives a key of snapshots if some property is persisted. -/
theorem exists_begins_key_iff (named : s.IsNamed) : (∃ line ∈ s.synthesize.delegateLines,
    begins "    SNAPSHOT_KEY:" line = true) ↔ s.hasPersisted = true := by
  constructor
  · rintro ⟨line, listed, begun⟩
    have unlike {line : String} (otherwise : begins "    SNAPSHOT_KEY:" line = false)
        (begun : begins "    SNAPSHOT_KEY:" line = true) : s.hasPersisted = true :=
      absurd (begun.symm.trans otherwise) (by decide)
    rcases isDelegateLine_delegateLines named line listed with rfl | ⟨persisted, -⟩ | quiet | ⟨p, -, rfl | rfl⟩
    · exact unlike (begins_foldl_eq_false [s.name ++ "Delegate", "(", s.name ++ "Client", "):"]
        (by decide)) begun
    · exact persisted
    · obtain ⟨first, last, ⟨⟨rest, written⟩, -, -⟩, -, frame⟩ := quiet
      obtain ⟨behind, characters⟩ := begins_iff.mp begun
      rw [isQuietFrame, Bool.and_eq_true, List.head?_drop, Option.any_eq_true] at frame
      obtain ⟨⟨c, fifth, other⟩, -⟩ := frame
      have same : (first ++ rest)[4]? = first[4]? :=
        List.getElem?_append_left (List.getElem?_eq_some_iff.mp fifth).1
      rw [written, ← characters, fifth] at same
      exact absurd (Option.some.inj same).symm (of_decide_eq_true other)
    · exact unlike (begins_foldl_eq_false [p.eventKind.className, "(initial.", p.name, ")"] (by decide)) begun
    · exact unlike (begins_foldl_eq_false [p.name, "_channel.push(", p.eventKind.className, "(value))"]
        (by decide)) begun
  · intro persisted
    refine ⟨keyLine s, ?_, begins_foldl [snapshotKey s.name, "\""] (by decide)⟩
    rw [delegateLines_synthesize, if_pos persisted]
    simp only [List.mem_append]
    exact .inl (.inl (.inl (.inl (.inl (.inr List.mem_cons_self)))))

/-- The variables of classes are imported if some property is persisted. -/
theorem exists_mentions_classVar_iff (s : Schema) :
    (∃ line ∈ s.synthesize.standardImportLines, "ClassVar".toList <:+: line.toList) ↔
      s.hasPersisted = true := by
  rw [standardImportLines_synthesize]
  cases s.hasPersisted with
  | false =>
    have plain : ∀ line ∈ (if s.hasInput then ["from dataclasses import dataclass"] else []) ++
        ["from typing import Protocol"], 'V' ∉ line.toList := by
      cases s.hasInput <;> decide
    refine iff_of_false ?_ Bool.false_ne_true
    rintro ⟨line, listed, mentions⟩
    exact plain line listed (mentions.subset (by decide))
  | true =>
    refine iff_of_true ⟨"from typing import ClassVar, Protocol", ?_, ?_⟩ rfl
    · exact List.mem_append_right _ List.mem_cons_self
    · refine ⟨"from typing import ".toList, ", Protocol".toList, ?_⟩
      simp only [String.reduceToList, List.cons_append, List.nil_append]

end Schema

/-! ### The module -/

/-- Whether a module imports what its types use, and nothing in vain: the classes of events that the
delegate wraps values in, what snapshots and their restoring need if there are any, and what the classes
of snapshots and of inputs are decorated with. -/
structure ModuleText.IsSupplied (text : ModuleText) : Prop where
  event (kind : EventKind) : "    " ++ kind.className ++ "," ∈ text.runtimeImports ↔
    ∃ line ∈ text.delegate, Wraps kind.className line
  snapshot : "    " ++ "Snapshot" ++ "," ∈ text.runtimeImports ↔ text.DefinesSnapshot
  restore : "    " ++ "restore_snapshot" ++ "," ∈ text.runtimeImports ↔ text.DefinesSnapshot
  replace : "import dataclasses" ∈ text.standardImports ↔
    ∃ line ∈ functionLines "    def get_initial_state(" text.delegate, Calls "dataclasses.replace" line
  dataclass : "from dataclasses import dataclass" ∈ text.standardImports ↔
    text.DefinesSnapshot ∨ text.DefinesInput
  classVar : (∃ line ∈ text.standardImports, "ClassVar".toList <:+: line.toList) ↔
    ∃ line ∈ text.delegate, begins "    SNAPSHOT_KEY:" line = true

namespace Schema

theorem isSupplied_moduleText {s : Schema} {runtimeImport : String} (named : s.IsNamed) :
    (s.synthesize.moduleText runtimeImport).IsSupplied where
  event kind := ArtifactSet.mem_runtimeImportLines_iff.trans <|
    (className_mem_runtimeNames_iff kind).trans (exists_wraps_delegateLines_iff named).symm
  snapshot := ArtifactSet.mem_runtimeImportLines_iff.trans <|
    (mem_runtimeNames_iff_hasPersisted (by simp)).trans (definesSnapshot_iff named).symm
  restore := ArtifactSet.mem_runtimeImportLines_iff.trans <|
    (mem_runtimeNames_iff_hasPersisted (by simp)).trans (definesSnapshot_iff named).symm
  replace := by
    refine Iff.trans ?_ (exists_calls_initialState_iff named).symm
    show _ ∈ s.synthesize.standardImportLines ↔ _
    rw [standardImportLines_synthesize]
    cases s.hasPersisted <;> cases s.hasInput <;> decide
  dataclass := by
    rw [definesSnapshot_iff named, definesInput_iff named]
    show _ ∈ s.synthesize.standardImportLines ↔ _
    rw [standardImportLines_synthesize]
    cases s.hasPersisted <;> cases s.hasInput <;> decide
  classVar := (exists_mentions_classVar_iff s).trans (exists_begins_key_iff named).symm

/-- Whatever the markers of the properties are, a generated module imports what its types use, and the
parameters are handed on as they are. Its text is cut at the ends of its lines. -/
theorem moduleText_classify (properties : List Property) (definition : Definition) (runtimeImport : String)
    (named : (classify properties definition).IsNamed) :
    ((classify properties definition).synthesize.moduleText runtimeImport).IsSupplied ∧
    ((classify properties definition).synthesize.moduleText runtimeImport).HandsOn ∧
    ('\n' ∉ runtimeImport.toList →
      Text.pieces '\n' ((classify properties definition).synthesize.render runtimeImport).toList =
        ((classify properties definition).synthesize.moduleText runtimeImport).lines.map String.toList ++
          [[]]) :=
  ⟨isSupplied_moduleText named, handsOn_moduleText named, pieces_render named⟩

theorem moduleText_cityAndToast :
    (classify cityAndToast ⟨"MainState", "app.state", none⟩).IsNamed ∧
    ((classify cityAndToast ⟨"MainState", "app.state", none⟩).synthesize.moduleText "lib.runtime").IsSupplied ∧
    ((classify cityAndToast ⟨"MainState", "app.state", none⟩).synthesize.moduleText "lib.runtime").HandsOn ∧
    Text.pieces '\n'
        ((classify cityAndToast ⟨"MainState", "app.state", none⟩).synthesize.render "lib.runtime").toList =
      ((classify cityAndToast ⟨"MainState", "app.state", none⟩).synthesize.moduleText
        "lib.runtime").lines.map String.toList ++ [[]] := by
  have named : (classify cityAndToast ⟨"MainState", "app.state", none⟩).IsNamed :=
    ⟨by decide, by decide, by decide⟩
  obtain ⟨supplied, handed, cut⟩ := moduleText_classify cityAndToast ⟨"MainState", "app.state", none⟩
    "lib.runtime" named
  exact ⟨named, supplied, handed, cut (by decide)⟩

/-- A factory accepts parameters that the constructor of its delegate does not accept. -/
theorem acceptedNames_ne_of_empty :
    (classify [] ⟨"MainState", "app.state", none⟩).IsNamed ∧
    acceptedNames "    def create("
        ((classify [] ⟨"MainState", "app.state", none⟩).synthesize.moduleText "lib.runtime").factory ≠
      acceptedNames "    def __init__("
        ((classify [] ⟨"MainState", "app.state", none⟩).synthesize.moduleText "lib.runtime").delegate := by
  have named : (classify [] ⟨"MainState", "app.state", none⟩).IsNamed := ⟨by decide, by decide, by decide⟩
  refine ⟨named, ?_⟩
  show acceptedNames _ (classify [] ⟨"MainState", "app.state", none⟩).synthesize.factoryLines ≠
    acceptedNames _ (classify [] ⟨"MainState", "app.state", none⟩).synthesize.delegateLines
  rw [acceptedNames_create named, acceptedNames_constructor named]
  decide

end Schema

end StateContainer
