/-
This file says all that one token can do to the reader of signatures, and that the reader never
fails to find what it needs.

A token that is accepted changes the state in one of six ways, and one that is rejected is so for
one of nine reasons. In each case the guard that lets it happen is kept, so that what holds along a
whole signature is proved one case at a time, without looking into the reader again. The first thing
that holds is that the state is sound: a completed type is there, every open list has a type in front
of its bracket that is to own it, and all types have names.

Then signatures are read with a single stack, of which nothing is taken for granted. The types that
have been read and the brackets that are open lie on one stack, and every look at the stack is
checked: an entry may be missing, a type may lie where a bracket has to lie, or a bracket where a
type has to lie, and a description may be made without a name. Each of these is a fault of its own,
apart from what is wrong with a signature.

The main statement is that there are no such faults. The stack of this reader always holds what the
reader with a list for every level holds, one level below the other, and both end in the same way.
-/

import StateContainer.Proofs.Except
import StateContainer.Proofs.Signature.Soundness

namespace StateContainer.Signature

/-! ### Tokens that are accepted -/

/-- What a token that is accepted does to the state. -/
inductive Taken (s : State) : PlacedToken → State → Prop where
  | opened (bracket : Bracket) (position : Nat) (complete : s.complete = true) :
      Taken s ⟨.opening bracket, position⟩
        { s with
          items := []
          levels := ⟨bracket, position, s.items⟩ :: s.levels
          complete := false }
  | closed (bracket : Bracket) (position : Nat) {openedAt : Nat} {owner : Item}
      {before : List Item} {outer : List Level} (settled : s.waiting = none)
      (written : s.items ≠ []) (enclosed : s.levels = ⟨bracket, openedAt, owner :: before⟩ :: outer)
      (unclosed : owner.closed = false) :
      Taken s ⟨.closing bracket, position⟩
        { s with
          items := { owner with
            descriptor := owner.descriptor.withArguments (s.items.map (·.descriptor)).reverse
            closed := true } :: before
          levels := outer
          complete := true }
  | separated (position : Nat) (complete : s.complete = true) :
      Taken s ⟨.comma, position⟩ { s with complete := false, waiting := some position }
  | skipped {run : List Char} (position : Nat) (blank : Text.trim run = []) :
      Taken s ⟨.run run, position⟩ s
  | marked {run : List Char} (position : Nat) {latest : Item} {earlier : List Item}
      (mark : Text.trim run = ['?']) (complete : s.complete = true)
      (items : s.items = latest :: earlier) :
      Taken s ⟨.run run, position⟩ { s with items := latest.marked true :: earlier }
  | named {run name : List Char} {nullable : Bool} (position : Nat)
      (expects : s.complete = false) (names : Names run name nullable) :
      Taken s ⟨.run run, position⟩
        (s.added [{ descriptor := ⟨String.ofList name, nullable, []⟩, position }])

/-- Why a token is rejected, with the error and the position that are given. -/
inductive Rejected (s : State) : PlacedToken → Failure → Prop where
  | opened (bracket : Bracket) (position : Nat) (expects : s.complete = false) :
      Rejected s ⟨.opening bracket, position⟩ (.bracketWithoutName bracket, position)
  | waiting (bracket : Bracket) (position : Nat) (waits : s.waiting ≠ none) :
      Rejected s ⟨.closing bracket, position⟩ (.missingBeforeClosing bracket, position)
  | unopened (bracket : Bracket) (position : Nat) (enclosed : s.levels = []) :
      Rejected s ⟨.closing bracket, position⟩ (.unmatchedClosing bracket, position)
  | mismatched (bracket : Bracket) (position : Nat) {level : Level} {outer : List Level}
      (enclosed : s.levels = level :: outer) (differs : level.bracket ≠ bracket) :
      Rejected s ⟨.closing bracket, position⟩
        (.mismatchedClosing bracket level.bracket level.position, position)
  | empty (bracket : Bracket) (position : Nat) {level : Level} {outer : List Level}
      (enclosed : s.levels = level :: outer) (items : s.items = []) :
      Rejected s ⟨.closing bracket, position⟩ (.emptyArguments, level.position)
  | unowned (bracket : Bracket) (position : Nat) {level : Level} {outer : List Level}
      (enclosed : s.levels = level :: outer) (before : level.before = []) :
      Rejected s ⟨.closing bracket, position⟩ (.argumentsWithoutName, level.position)
  | repeated (bracket : Bracket) (position : Nat) {level : Level} {outer : List Level}
      (enclosed : s.levels = level :: outer) {owner : Item} {before : List Item}
      (owned : level.before = owner :: before) (closed : owner.closed = true) :
      Rejected s ⟨.closing bracket, position⟩ (.repeatedArguments, level.position)
  | separated (position : Nat) (expects : s.complete = false) :
      Rejected s ⟨.comma, position⟩ (.missingBeforeComma, position)
  | following {run : List Char} (position : Nat) (written : Text.trim run ≠ [])
      (complete : s.complete = true) :
      Rejected s ⟨.run run, position⟩ (.missingComma, position)

/-- How a token is taken: it is accepted, or it is rejected. -/
abbrev Takes (s : State) (placed : PlacedToken) : Except Failure State → Prop :=
  EndsAs (Taken s placed) (Rejected s placed)

section
variable (s : State) (bracket : Bracket) (position : Nat)

theorem takes_openList : Takes s ⟨.opening bracket, position⟩ (openList s bracket position) := by
  rw [openList]
  split
  next complete => exact .opened bracket position complete
  next expects => exact .opened bracket position (Bool.eq_false_iff.mpr expects)

theorem takes_closeList : Takes s ⟨.closing bracket, position⟩ (closeList s bracket position) := by
  cases closed : closeList s bracket position with
  | ok next =>
    obtain ⟨settled, written, openedAt, owner, before, outer, enclosed, unclosed, rfl⟩ :=
      closeList_eq_ok closed
    exact .closed bracket position settled written enclosed unclosed
  | error failure =>
    rw [closeList] at closed
    split at closed
    next waits =>
      cases closed
      exact .waiting bracket position (Option.isSome_iff_ne_none.mp waits)
    split at closed
    next enclosed =>
      cases closed
      exact .unopened bracket position enclosed
    next level outer enclosed =>
    split at closed
    next differs =>
      cases closed
      exact .mismatched bracket position enclosed differs
    split at closed
    next items =>
      cases closed
      exact .empty bracket position enclosed (List.isEmpty_iff.mp items)
    split at closed
    next before =>
      cases closed
      exact .unowned bracket position enclosed before
    next owner before owned =>
    split at closed
    next repeated =>
      cases closed
      exact .repeated bracket position enclosed owned repeated
    · cases closed

theorem takes_separate : Takes s ⟨.comma, position⟩ (separate s position) := by
  rw [separate]
  split
  next complete => exact .separated position complete
  next expects => exact .separated position (Bool.eq_false_iff.mpr expects)

/-- Behind a completed type only a mark is taken, and only if there is a type to mark. -/
theorem takes_takeRun (run : List Char) :
    Takes s ⟨.run run, position⟩ (takeRun s run position) := by
  by_cases blank : Text.trim run = []
  · rw [takeRun_blank blank]
    exact .skipped position blank
  cases complete : s.complete with
  | false =>
    have names := names_readName blank
    rw [takeRun_name names complete]
    exact .named position complete names
  | true =>
    by_cases mark : Text.trim run = ['?']
    · cases items : s.items with
      | nil =>
        have rejected : takeRun s run position = .error (.missingComma, position) := by
          rw [takeRun, mark, complete, items]
          rfl
        rw [rejected]
        exact .following position blank complete
      | cons latest earlier =>
        rw [takeRun_mark mark complete items]
        exact .marked position mark complete items
    · rw [takeRun_after blank mark complete]
      exact .following position blank complete

/-- Every token is accepted in one of the ways, or rejected for one of the reasons. -/
theorem takes_step (placed : PlacedToken) : Takes s placed (step s placed) := by
  obtain ⟨token, position⟩ := placed
  cases token with
  | opening bracket => exact takes_openList s bracket position
  | closing bracket => exact takes_closeList s bracket position
  | comma => exact takes_separate s position
  | run text => exact takes_takeRun s position text

end

/-! ### Sound states -/

/-- Whether a type has a name. -/
def Item.IsNamed (item : Item) : Prop :=
  item.descriptor.name ≠ ""

/-- What holds of the state while a signature is read. -/
structure State.Sound (s : State) : Prop where
  completed : s.complete = true → s.items ≠ []
  named : ∀ item ∈ s.items, item.IsNamed
  owned : ∀ level ∈ s.levels, level.before ≠ []
  namedBefore : ∀ level ∈ s.levels, ∀ item ∈ level.before, item.IsNamed

theorem State.sound_initial : State.Sound {} where
  completed := nofun
  named := List.forall_mem_nil _
  owned := List.forall_mem_nil _
  namedBefore := List.forall_mem_nil _

/-- A token that is accepted keeps the state sound. -/
theorem Taken.sound {s next : State} {placed : PlacedToken} (taken : Taken s placed next)
    (sound : s.Sound) : next.Sound := by
  cases taken with
  | opened bracket position complete =>
    exact
      { completed := nofun
        named := List.forall_mem_nil _
        owned := List.forall_mem_cons.mpr ⟨sound.completed complete, sound.owned⟩
        namedBefore := List.forall_mem_cons.mpr ⟨sound.named, sound.namedBefore⟩ }
  | closed bracket position settled written enclosed unclosed =>
    obtain ⟨_, owned⟩ := List.forall_mem_cons.mp (enclosed ▸ sound.owned)
    obtain ⟨namedHere, namedBefore⟩ := List.forall_mem_cons.mp (enclosed ▸ sound.namedBefore)
    obtain ⟨ownerNamed, named⟩ := List.forall_mem_cons.mp namedHere
    exact
      { completed := fun _ => List.cons_ne_nil _ _
        named := List.forall_mem_cons.mpr ⟨ownerNamed, named⟩
        owned
        namedBefore }
  | separated position complete => exact { sound with completed := nofun }
  | skipped position blank => exact sound
  | marked position mark complete items =>
    obtain ⟨latestNamed, named⟩ := List.forall_mem_cons.mp (items ▸ sound.named)
    exact
      { sound with
        completed := fun _ => List.cons_ne_nil _ _
        named := List.forall_mem_cons.mpr ⟨latestNamed, named⟩ }
  | @named run name nullable position expects names =>
    have written : String.ofList name ≠ "" := fun empty =>
      names.name_ne_nil (String.ofList_eq_empty_iff.mp empty)
    exact
      { sound with
        completed := fun _ => List.cons_ne_nil _ _
        named := List.forall_mem_cons.mpr ⟨written, sound.named⟩ }

/-- In a sound state a list of arguments has its owner. -/
theorem State.Sound.before_ne_nil {s : State} (sound : s.Sound) {level : Level}
    {outer : List Level} (enclosed : s.levels = level :: outer) : level.before ≠ [] :=
  sound.owned level (enclosed ▸ List.mem_cons_self)

/-! ### The stack -/

/-- What lies on the stack. -/
inductive Entry where
  | opening (bracket : Bracket) (position : Nat)
  | type (item : Item)
deriving DecidableEq, Repr

/-- The position of an entry. -/
def Entry.position : Entry → Nat
  | opening _ position => position
  | type item => item.position

/-- How a reader that checks its stack may fail. -/
inductive StackFault (Error : Type) where
  /-- Something is wrong with the signature. -/
  | malformed (error : Error)
  /-- The stack has no such entry. -/
  | missingEntry
  /-- A type lies where a bracket has to lie. -/
  | noBracket
  /-- A bracket lies where a type has to lie. -/
  | noType
  /-- A description is made without a name. -/
  | unnamed
deriving DecidableEq, Repr

/-- What the reader remembers between two tokens. -/
structure StackState where
  /-- The entries, latest first. -/
  entries : List Entry := []
  /-- Whether a type was completed and no comma has followed yet. -/
  complete : Bool := false
  /-- The position of a comma that still waits for the type behind it. -/
  waiting : Option Nat := none
deriving DecidableEq, Repr

/-! ### The reader -/

/-- A description, which has to have a name. -/
def named (t : Descriptor) : Except (StackFault Failure) Descriptor :=
  match Descriptor.ofParts? t.name t.nullable t.arguments with
  | some made => .ok made
  | none => .error .unnamed

/-- The types on top of the stack, latest first, and what lies below them. -/
def takeItems : List Entry → List Item × List Entry
  | .type item :: below =>
    let (items, rest) := takeItems below
    (item :: items, rest)
  | entries => ([], entries)

/-- Takes the innermost list of arguments off the stack and hands it to the type below it. -/
def reduce (entries : List Entry) (bracket : Bracket) (position : Nat) :
    Except (StackFault Failure) (List Entry) :=
  match takeItems entries with
  | (_, []) => .error (.malformed (.unmatchedClosing bracket, position))
  | (_, .type _ :: _) => .error .noBracket
  | (items, .opening opening openedAt :: below) =>
    if opening ≠ bracket then
      .error (.malformed (.mismatchedClosing bracket opening openedAt, position))
    else if items.isEmpty then .error (.malformed (.emptyArguments, openedAt))
    else
      match below with
      | .type owner :: below =>
        if owner.closed then .error (.malformed (.repeatedArguments, openedAt))
        else do
          let arguments := (items.map (·.descriptor)).reverse
          let descriptor ← named (owner.descriptor.withArguments arguments)
          .ok (.type { owner with descriptor, closed := true } :: below)
      | _ => .error (.malformed (.argumentsWithoutName, openedAt))

/-- The type that a run of characters gives. -/
def itemOnStack (run : List Char) (position : Nat) : Except (StackFault Failure) Item :=
  let (name, nullable) := readName run
  if name.isEmpty then .error (.malformed (.emptyName, position))
  else do
    let descriptor ← named ⟨String.ofList name, nullable, []⟩
    .ok { descriptor, position }

/-- Takes a run of characters that follows a type and is not blank: a question mark if the latest
entry is a type. -/
def stackMark (s : StackState) (run : List Char) (position : Nat) :
    Except (StackFault Failure) StackState :=
  if Text.trim run = ['?'] then
    match s.entries with
    | [] => .error .missingEntry
    | .opening _ _ :: _ => .error (.malformed (.missingComma, position))
    | .type latest :: below => do
      let descriptor ← named (latest.descriptor.asNullable true)
      .ok { s with entries := .type { latest with descriptor } :: below }
  else .error (.malformed (.missingComma, position))

/-- Takes one token. -/
def stackStep (s : StackState) (placed : PlacedToken) : Except (StackFault Failure) StackState :=
  match placed.token with
  | .opening bracket =>
    if s.complete then
      .ok { s with entries := .opening bracket placed.position :: s.entries, complete := false }
    else .error (.malformed (.bracketWithoutName bracket, placed.position))
  | .closing bracket =>
    if s.waiting.isSome then .error (.malformed (.missingBeforeClosing bracket, placed.position))
    else do
      let entries ← reduce s.entries bracket placed.position
      .ok { s with entries, complete := true }
  | .comma =>
    if s.complete then .ok { s with complete := false, waiting := some placed.position }
    else .error (.malformed (.missingBeforeComma, placed.position))
  | .run run =>
    if Text.trim run = [] then .ok s
    else if s.complete then stackMark s run placed.position
    else do
      let item ← itemOnStack run placed.position
      .ok { entries := .type item :: s.entries, complete := true, waiting := none }

/-- The first bracket among some entries. -/
def firstOpening? (entries : List Entry) : Option (Bracket × Nat) :=
  entries.findSome? fun
    | .opening bracket position => some (bracket, position)
    | .type _ => none

/-- The single type on the stack when the tokens end. -/
def stackFinish (s : StackState) : Except (StackFault Failure) Descriptor :=
  match s.waiting with
  | some position => .error (.malformed (.missingAfterComma, position))
  | none =>
    let upward := s.entries.reverse
    if upward.isEmpty then .error (.malformed (.emptySignature, 0))
    else
      match firstOpening? upward with
      | some (bracket, position) => .error (.malformed (.unmatchedOpening bracket, position))
      | none =>
        if upward.length ≠ 1 then
          match upward[1]? with
          | some second => .error (.malformed (.severalTypes, second.position))
          | none => .error .missingEntry
        else
          match upward[0]? with
          | some (Entry.type single) => .ok single.descriptor
          | some (Entry.opening _ _) => .error .noType
          | none => .error .missingEntry

/-- Reads the characters of a signature. -/
def readStackChars (signature : List Char) : Except (StackFault Failure) Descriptor := do
  let final ← (scan signature).foldlM stackStep {}
  stackFinish final

/-- An error of the signature, where there is one, with the signature attached. -/
def StackFault.attach (signature : String) : StackFault Failure → StackFault ParseError
  | malformed (cause, position) => malformed ⟨cause, position, signature⟩
  | missingEntry => missingEntry
  | noBracket => noBracket
  | noType => noType
  | unnamed => unnamed

/-- Reads a signature. -/
def readStack (signature : String) : Except (StackFault ParseError) Descriptor :=
  (readStackChars signature.toList).mapError (·.attach signature)

/-! ### One stack for all levels -/

/-- The entries of the open lists, innermost first: every bracket with the types before it. -/
def entriesOfLevels (levels : List Level) : List Entry :=
  levels.flatMap fun level =>
    .opening level.bracket level.position :: level.before.map Entry.type

/-- The state with all levels on one stack. -/
def State.stacked (s : State) : StackState :=
  { entries := s.items.map Entry.type ++ entriesOfLevels s.levels
    complete := s.complete
    waiting := s.waiting }

/-- How the reader with one stack ends where the reader with levels ends in some way. -/
def lifted {Result Stacked : Type} (stacked : Result → Stacked) (result : Except Failure Result) :
    Except (StackFault Failure) Stacked :=
  (result.mapError StackFault.malformed).map stacked

/-- A description that has a name is left as it is. -/
theorem named_eq_ok (t : Descriptor) (written : t.name ≠ "") : named t = .ok t := by
  obtain ⟨name, nullable, arguments⟩ := t
  rw [named, Descriptor.ofParts?, if_neg written]

/-- A bracket, or the end of the stack, lies below the types of the innermost list. -/
theorem takeItems_stacked (items : List Item) (levels : List Level) :
    takeItems (items.map Entry.type ++ entriesOfLevels levels) = (items, entriesOfLevels levels) := by
  induction items with
  | nil =>
    cases levels with
    | nil => rfl
    | cons level outer => rfl
  | cons item others inductionHypothesis =>
    rw [List.map_cons, List.cons_append, takeItems, inductionHypothesis]

/-- The reader with one stack takes an argument list off as the reader with levels does. -/
theorem stackStep_closing {s : State} (sound : s.Sound) (bracket : Bracket) (position : Nat) :
    stackStep s.stacked ⟨.closing bracket, position⟩ =
      lifted State.stacked (closeList s bracket position) := by
  by_cases waits : s.waiting.isSome = true
  · rw [closeList, if_pos waits]
    exact if_pos waits
  rw [closeList, if_neg waits]
  refine (if_neg waits).trans ?_
  obtain ⟨items, levels, complete, waiting⟩ := s
  rw [State.stacked, reduce, takeItems_stacked]
  cases levels with
  | nil => rfl
  | cons level outer =>
    obtain ⟨opening, openedAt, before⟩ := level
    simp only [entriesOfLevels, List.flatMap_cons, List.cons_append]
    by_cases differs : opening ≠ bracket
    · rw [if_pos differs, if_pos differs]
      rfl
    rw [if_neg differs, if_neg differs]
    by_cases empty : items.isEmpty = true
    · rw [if_pos empty, if_pos empty]
      rfl
    rw [if_neg empty, if_neg empty]
    cases before with
    | nil => exact absurd rfl (sound.before_ne_nil rfl)
    | cons owner before =>
      have written : owner.IsNamed := sound.namedBefore _ List.mem_cons_self _ List.mem_cons_self
      simp only [List.map_cons, List.cons_append]
      by_cases closed : owner.closed = true
      · rw [if_pos closed, if_pos closed]
        rfl
      rw [if_neg closed, if_neg closed, named_eq_ok (owner.descriptor.withArguments _) written]
      rfl

/-- The reader with one stack takes a run as the reader with levels does. -/
theorem stackStep_run {s : State} (sound : s.Sound) (run : List Char) (position : Nat) :
    stackStep s.stacked ⟨.run run, position⟩ = lifted State.stacked (takeRun s run position) := by
  rw [stackStep]
  dsimp only
  by_cases blank : Text.trim run = []
  · rw [if_pos blank, takeRun_blank blank]
    rfl
  rw [if_neg blank]
  cases complete : s.complete with
  | false =>
    have names := names_readName blank
    have written : String.ofList (readName run).1 ≠ "" := fun empty =>
      names.name_ne_nil (String.ofList_eq_empty_iff.mp empty)
    have nonempty : (readName run).1.isEmpty = false :=
      List.isEmpty_eq_false_iff.mpr names.name_ne_nil
    rw [takeRun_name names complete, itemOnStack, if_neg (by rw [State.stacked, complete]; nofun)]
    dsimp only
    rw [if_neg (by rw [nonempty]; nofun), named_eq_ok _ written]
    rfl
  | true =>
    rw [if_pos (by rw [State.stacked, complete]), stackMark]
    by_cases mark : Text.trim run = ['?']
    · obtain ⟨latest, earlier, items⟩ := List.exists_cons_of_ne_nil (sound.completed complete)
      have written : latest.IsNamed := sound.named latest (items ▸ List.mem_cons_self)
      rw [if_pos mark, takeRun_mark mark complete items, latest.marked_true]
      simp only [State.stacked, items, List.map_cons, List.cons_append]
      rw [named_eq_ok (latest.descriptor.asNullable true) written]
      rfl
    · rw [if_neg mark, takeRun_after blank mark complete]
      rfl

/-- The reader with one stack takes every token as the reader with levels does. -/
theorem stackStep_stacked {s : State} (sound : s.Sound) (placed : PlacedToken) :
    stackStep s.stacked placed = lifted State.stacked (step s placed) := by
  obtain ⟨token, position⟩ := placed
  cases token with
  | closing bracket => exact stackStep_closing sound bracket position
  | run text => exact stackStep_run sound text position
  | opening bracket =>
    change _ = lifted State.stacked (openList s bracket position)
    rw [openList]
    by_cases complete : s.complete = true
    · rw [if_pos complete]
      exact if_pos complete
    · rw [if_neg complete]
      exact if_neg complete
  | comma =>
    change _ = lifted State.stacked (separate s position)
    rw [separate]
    by_cases complete : s.complete = true
    · rw [if_pos complete]
      exact if_pos complete
    · rw [if_neg complete]
      exact if_neg complete

/-- Both readers take all tokens alike. -/
theorem foldlM_stackStep_stacked {s : State} (sound : s.Sound) (tokens : List PlacedToken) :
    tokens.foldlM stackStep s.stacked = lifted State.stacked (tokens.foldlM step s) := by
  induction tokens generalizing s with
  | nil => rfl
  | cons placed rest inductionHypothesis =>
    rw [List.foldlM_cons, List.foldlM_cons, stackStep_stacked sound]
    cases stepped : step s placed with
    | error failure => rfl
    | ok next =>
      have taken : Taken s placed next := (takes_step s placed).of_ok stepped
      exact inductionHypothesis (taken.sound sound)

/-! ### The end of the signature -/

/-- There is no bracket among types. -/
theorem firstOpening?_items (items : List Item) : firstOpening? (items.map Entry.type) = none := by
  rw [firstOpening?, List.findSome?_eq_none_iff]
  rintro _ member
  obtain ⟨item, -, rfl⟩ := List.mem_map.mp member
  rfl

/-- The lowest bracket on the stack is that of the outermost list. -/
theorem firstOpening?_stacked (items : List Item) (levels : List Level) :
    firstOpening? (items.map Entry.type ++ entriesOfLevels levels).reverse =
      levels.getLast?.map fun level => (level.bracket, level.position) := by
  rcases List.eq_nil_or_concat levels with rfl | ⟨inner, outermost, rfl⟩
  · rw [entriesOfLevels, List.flatMap_nil, List.append_nil, ← List.map_reverse]
    exact firstOpening?_items items.reverse
  · have lowest : firstOpening? (outermost.before.map Entry.type).reverse = none := by
      rw [← List.map_reverse]
      exact firstOpening?_items outermost.before.reverse
    rw [firstOpening?] at lowest ⊢
    rw [List.concat_eq_append, entriesOfLevels, List.flatMap_append, List.flatMap_singleton,
      List.reverse_append, List.reverse_append, List.reverse_cons, List.findSome?_append,
      List.findSome?_append, List.findSome?_append, lowest, List.getLast?_concat]
    rfl

/-- Both readers end alike. -/
theorem stackFinish_stacked (s : State) : stackFinish s.stacked = lifted id (finish s) := by
  obtain ⟨items, levels, complete, waiting⟩ := s
  rw [stackFinish, finish]
  dsimp only [State.stacked]
  cases waiting with
  | some position => rfl
  | none =>
    rw [firstOpening?_stacked]
    cases outermost : levels.getLast? with
    | some level =>
      have enclosed : levels ≠ [] := by
        rintro rfl
        cases outermost
      obtain ⟨innermost, outer, rfl⟩ := List.exists_cons_of_ne_nil enclosed
      rw [if_neg (by simp [entriesOfLevels])]
      rfl
    | none =>
      obtain rfl := List.getLast?_eq_none_iff.mp outermost
      rw [entriesOfLevels, List.flatMap_nil, List.append_nil, ← List.map_reverse]
      generalize items.reverse = upward
      cases upward with
      | nil => rfl
      | cons first others => cases others <;> rfl

/-- The reader with one stack has no faults of its own: it ends as the reader with levels does. -/
theorem readStack_eq_parse (signature : String) :
    readStack signature = (parse signature).mapError StackFault.malformed := by
  have start : State.stacked {} = {} := rfl
  have chars : readStackChars signature.toList = lifted id (parseChars signature.toList) := by
    rw [readStackChars, parseChars, ← start, foldlM_stackStep_stacked State.sound_initial]
    cases (scan signature.toList).foldlM step {} with
    | error failure => rfl
    | ok final => exact stackFinish_stacked final
  rw [readStack, parse, chars]
  cases parseChars signature.toList with
  | error failure => rfl
  | ok t => rfl

end StateContainer.Signature
