/-
This file proves that the grammar derives whatever the reader accepts, with the same
meaning.

What has been read of the innermost list is some types with commas behind them, and
perhaps one more type. In front of it stand the open lists, each with the types before
its bracket, the last of which is to own the list. Every token that is accepted keeps
this, since two runs never follow each other: behind a run comes a bracket or a comma.
-/

import StateContainer.Proofs.Signature.Completeness

namespace StateContainer.Signature

/-! ### Runs do not follow each other -/

/-- Whether every run in a list of tokens is a run, and none follows another. The first token may be
a run only if this is said. -/
def Alternates (mayRun : Bool) : List PlacedToken → Prop
  | [] => True
  | placed :: rest =>
    match placed.token with
    | .run text => mayRun = true ∧ IsRun text ∧ Alternates false rest
    | _ => Alternates true rest

/-- A character that extends the first run does not make two of it. -/
theorem Alternates.extendRun {tokens : List PlacedToken} (alternates : Alternates true tokens)
    {c : Char} (ordinary : isSpecial c = false) (position : Nat) :
    Alternates true (extendRun c position tokens) := by
  have single : IsRun [c] := by
    intro d member
    rw [List.mem_singleton.mp member]
    exact ordinary
  match tokens, alternates with
  | [], _ => exact ⟨rfl, single, trivial⟩
  | ⟨.run text, _⟩ :: others, ⟨_, plain, rest⟩ =>
    refine ⟨rfl, ?_, rest⟩
    intro d member
    rcases List.mem_cons.mp member with rfl | member
    · exact ordinary
    · exact plain d member
  | ⟨.opening bracket, _⟩ :: others, rest => exact ⟨rfl, single, rest⟩
  | ⟨.closing bracket, _⟩ :: others, rest => exact ⟨rfl, single, rest⟩
  | ⟨.comma, _⟩ :: others, rest => exact ⟨rfl, single, rest⟩

/-- The runs of a text are as long as they can be. -/
theorem alternates_scanFrom (position : Nat) (text : List Char) :
    Alternates true (scanFrom position text) := by
  induction text generalizing position with
  | nil => trivial
  | cons c rest inductionHypothesis =>
    cases kind : Token.ofChar? c with
    | none =>
      rw [scanFrom_ordinary kind]
      exact (inductionHypothesis (position + 1)).extendRun (by rw [isSpecial, kind]; rfl) position
    | some token =>
      rw [scanFrom_special kind]
      cases token with
      | run text => exact absurd kind (ofChar?_ne_run c text)
      | opening bracket => exact inductionHypothesis (position + 1)
      | closing bracket => exact inductionHypothesis (position + 1)
      | comma => exact inductionHypothesis (position + 1)

/-! ### What has been read -/

/-- The text in front of the type that is read: nothing, or a list of types and a comma. The types
are given as the reader has them, latest first. -/
inductive Front : List Char → List Item → Prop where
  | nil : Front [] []
  | comma {text : List Char} {items : List Item}
      (list : DerivesList text (items.map (·.descriptor)).reverse) : Front (text ++ [',']) items

/-- The text of the type that has been read last. A run may follow only if it is a list of arguments
and no run stands behind it yet. -/
inductive Body (mayRun : Bool) : List Char → Item → Prop where
  | name {run name : List Char} {nullable : Bool} (plain : IsRun run)
      (names : Names run name nullable) (position : Nat) (last : mayRun = false) :
      Body mayRun run { descriptor := ⟨String.ofList name, nullable, []⟩, position }
  | generic {run name : List Char} {nullable : Bool} (plain : IsRun run)
      (names : Names run name nullable) (bracket : Bracket) {inner : List Char}
      {arguments : List Descriptor} (list : DerivesList inner arguments) {mark : List Char}
      (plainMark : IsRun mark) (ending : Text.trim mark = [] ∨ Text.trim mark = ['?'])
      (position : Nat) (unmarked : mayRun = true → mark = []) :
      Body mayRun (run ++ bracket.opening :: inner ++ bracket.closing :: mark)
        { descriptor := ⟨String.ofList name, nullable || Text.trim mark = ['?'], arguments⟩
          position
          closed := true }

/-- The text of a list that is complete so far. -/
inductive Completed (mayRun : Bool) : List Char → List Item → Prop where
  | intro {before last : List Char} {item : Item} {earlier : List Item}
      (front : Front before earlier) (body : Body mayRun last item) :
      Completed mayRun (before ++ last) (item :: earlier)

/-- The text in front of the innermost list. -/
inductive Enclosing : List Level → List Char → Prop where
  | nil : Enclosing [] []
  | cons {level : Level} {levels : List Level} {outer own : List Char} {mayRun : Bool}
      (enclosing : Enclosing levels outer) (completed : Completed mayRun own level.before) :
      Enclosing (level :: levels) (outer ++ own ++ [level.bracket.opening])

/-- What a text has been read to. In a state that expects a type, the text may end in characters that
say nothing; while a comma waits for a type, only a type can follow. -/
inductive Reads (mayRun : Bool) : List Char → State → Prop where
  | expecting {s : State} {outer own gap : List Char} (enclosing : Enclosing s.levels outer)
      (front : Front own s.items) (fresh : mayRun = true → gap = [])
      (expects : s.complete = false) (waiting : s.waiting = none → s.items = []) :
      Reads mayRun (outer ++ own ++ gap) s
  | completed {s : State} {outer own : List Char} (enclosing : Enclosing s.levels outer)
      (completed : Completed mayRun own s.items) (complete : s.complete = true)
      (settled : s.waiting = none) : Reads mayRun (outer ++ own) s

theorem Body.derives {mayRun : Bool} {text : List Char} {item : Item}
    (body : Body mayRun text item) : Derives text item.descriptor := by
  cases body with
  | name plain names => exact .name plain names
  | generic plain names bracket list plainMark ending =>
    exact .generic plain names bracket list plainMark ending

/-- A list that is complete so far is a list of types. -/
theorem Completed.derives {mayRun : Bool} {text : List Char} {items : List Item}
    (completed : Completed mayRun text items) :
    DerivesList text (items.map (·.descriptor)).reverse := by
  obtain ⟨front, body⟩ := completed
  cases front with
  | nil => exact .single body.derives
  | comma list =>
    rw [List.append_assoc, List.map_cons, List.reverse_cons]
    exact list.snoc body.derives

/-- A name with a list of arguments behind it is a type. -/
theorem Body.withArguments {mayRun : Bool} {text : List Char} {owner : Item}
    (body : Body mayRun text owner) (unclosed : owner.closed = false) (bracket : Bracket)
    {inner : List Char} {arguments : List Descriptor} (list : DerivesList inner arguments) :
    Body true (text ++ bracket.opening :: inner ++ [bracket.closing])
      { owner with descriptor := owner.descriptor.withArguments arguments, closed := true } := by
  cases body with
  | generic => cases unclosed
  | @name _ name nullable plain names position last =>
    have unmarked : (nullable || decide (Text.trim [] = ['?'])) = nullable := by
      rw [Text.trim_nil]
      exact Bool.or_false nullable
    have blank : IsRun [] := fun _ member => absurd member List.not_mem_nil
    have generic := Body.generic plain names bracket list blank (Or.inl rfl) position
      fun marked : true = true => rfl
    rw [unmarked] at generic
    exact generic

/-- A run behind a list of arguments marks the type that owns the list, or is blank. -/
theorem Body.marked {text run : List Char} {item : Item} (body : Body true text item)
    (plain : IsRun run) (ending : Text.trim run = [] ∨ Text.trim run = ['?']) :
    Body false (text ++ run) (item.marked (Text.trim run = ['?'])) := by
  cases body with
  | name _ _ _ last => cases last
  | @generic _ name nullable plainName names bracket inner arguments list mark _ _ position unmarked =>
    obtain rfl := unmarked rfl
    have marked : (nullable || decide (Text.trim [] = ['?']) || decide (Text.trim run = ['?'])) =
        (nullable || decide (Text.trim run = ['?'])) := by
      rw [Text.trim_nil, decide_eq_false (by simp), Bool.or_false]
    rw [Item.marked, marked, List.append_assoc, List.cons_append, List.nil_append]
    exact .generic plainName names bracket list plain ending position
      fun never => absurd never Bool.false_ne_true

/-! ### Tokens that are accepted -/

section
variable {mayRun : Bool} {text : List Char} {s next : State} {position : Nat}

/-- A type is expected right behind the text that stands in front of it. -/
theorem Reads.beginning {outer own : List Char} (enclosing : Enclosing s.levels outer)
    (front : Front own s.items) (expects : s.complete = false)
    (waiting : s.waiting = none → s.items = []) : Reads mayRun (outer ++ own) s := by
  have reads : Reads mayRun (outer ++ own ++ []) s :=
    .expecting enclosing front (fun _ => rfl) expects waiting
  rw [List.append_nil] at reads
  exact reads

/-- A list of arguments is opened behind a type. -/
theorem Reads.openList {bracket : Bracket} (reads : Reads mayRun text s)
    (opened : openList s bracket position = .ok next) :
    Reads true (text ++ [bracket.opening]) next := by
  rw [Signature.openList] at opened
  cases reads with
  | expecting enclosing front fresh expects waiting =>
    rw [if_neg (by rw [expects]; exact Bool.false_ne_true)] at opened
    cases opened
  | @completed s outer own enclosing completed complete settled =>
    rw [if_pos complete] at opened
    cases opened
    have inner : Enclosing (⟨bracket, position, s.items⟩ :: s.levels)
        (outer ++ own ++ [bracket.opening]) := .cons enclosing completed
    rw [← List.append_nil (outer ++ own ++ [bracket.opening])]
    exact .beginning inner .nil rfl fun _ => rfl

/-- A comma follows a type. -/
theorem Reads.separate (reads : Reads mayRun text s)
    (separated : separate s position = .ok next) : Reads true (text ++ [',']) next := by
  rw [Signature.separate] at separated
  cases reads with
  | expecting enclosing front fresh expects waiting =>
    rw [if_neg (by rw [expects]; exact Bool.false_ne_true)] at separated
    cases separated
  | completed enclosing completed complete settled =>
    rw [if_pos complete] at separated
    cases separated
    rw [List.append_assoc]
    exact .beginning enclosing (.comma completed.derives) rfl nofun

/-- What closing a list of arguments needs and does. -/
theorem closeList_eq_ok {bracket : Bracket} (closed : closeList s bracket position = .ok next) :
    s.waiting = none ∧ s.items ≠ [] ∧ ∃ openedAt owner before outer,
      s.levels = ⟨bracket, openedAt, owner :: before⟩ :: outer ∧ owner.closed = false ∧
      next =
        { s with
          items := { owner with
            descriptor := owner.descriptor.withArguments (s.items.map (·.descriptor)).reverse
            closed := true } :: before
          levels := outer
          complete := true } := by
  rw [closeList] at closed
  split at closed
  · cases closed
  next settled =>
  obtain ⟨items, levels, complete, waiting⟩ := s
  cases levels with
  | nil => cases closed
  | cons level outer =>
    obtain ⟨opening, openedAt, before⟩ := level
    dsimp only at closed
    split at closed
    · cases closed
    next same =>
    split at closed
    · cases closed
    next nonempty =>
    cases before with
    | nil => cases closed
    | cons owner before =>
      dsimp only at closed
      split at closed
      · cases closed
      next unclosed =>
      cases closed
      refine ⟨Option.not_isSome_iff_eq_none.mp settled, ?_, openedAt, owner, before, outer, ?_,
        Bool.eq_false_iff.mpr unclosed, rfl⟩
      · rintro rfl
        exact nonempty rfl
      · rw [not_not.mp same]

/-- A list of arguments is closed behind its last type, and the type in front of it, which is a name
alone, owns it. -/
theorem Reads.closeList {bracket : Bracket} (reads : Reads mayRun text s)
    (closed : closeList s bracket position = .ok next) :
    Reads true (text ++ [bracket.closing]) next := by
  obtain ⟨settled, nonempty, openedAt, owner, before, levels, enclosed, unclosed, rfl⟩ :=
    closeList_eq_ok closed
  cases reads with
  | expecting enclosing front fresh expects waiting => exact absurd (waiting settled) nonempty
  | @completed s outer own enclosing completed complete =>
    rw [enclosed] at enclosing
    obtain _ | @⟨_, _, outer, _, _, enclosing, completedBefore⟩ := enclosing
    obtain ⟨front, body⟩ := completedBefore
    have owns := body.withArguments unclosed bracket completed.derives
    have reads : Reads true _ { s with items := _, levels := _, complete := true } :=
      .completed enclosing (.intro front owns) rfl settled
    simpa using reads

/-- A run is a name, marks the type in front of it, or says nothing. -/
theorem Reads.takeRun {run : List Char} (reads : Reads true text s) (plain : IsRun run)
    (taken : takeRun s run position = .ok next) : Reads false (text ++ run) next := by
  cases reads with
  | expecting enclosing front fresh expects waiting =>
    obtain rfl := fresh rfl
    rw [List.append_nil]
    by_cases blank : Text.trim run = []
    · rw [takeRun_blank blank] at taken
      cases taken
      exact .expecting enclosing front nofun expects waiting
    · have names := names_readName blank
      rw [takeRun_name names expects] at taken
      cases taken
      rw [List.append_assoc]
      exact .completed enclosing (.intro front (.name plain names position rfl)) rfl rfl
  | @completed s outer own enclosing completed complete settled =>
    rw [List.append_assoc]
    generalize listed : s.items = items at completed
    obtain ⟨front, body⟩ := completed
    rw [List.append_assoc]
    by_cases marked : Text.trim run = ['?']
    · have owner := body.marked plain (Or.inr marked)
      rw [marked, decide_eq_true rfl] at owner
      rw [takeRun_mark marked complete listed] at taken
      cases taken
      exact .completed enclosing (.intro front owner) complete settled
    · by_cases blank : Text.trim run = []
      · have owner := body.marked plain (Or.inl blank)
        rw [blank, decide_eq_false (by simp), Item.marked_false] at owner
        rw [takeRun_blank blank] at taken
        cases taken
        exact .completed enclosing (listed ▸ .intro front owner) complete settled
      · rw [takeRun_after blank marked complete] at taken
        cases taken

/-- Every token that is accepted is read. -/
theorem Reads.step {token : Token} {rest : List PlacedToken} (reads : Reads mayRun text s)
    (alternates : Alternates mayRun (⟨token, position⟩ :: rest))
    (taken : step s ⟨token, position⟩ = .ok next) :
    ∃ mayRun, Reads mayRun (text ++ token.text) next ∧ Alternates mayRun rest := by
  cases token with
  | opening bracket => exact ⟨true, reads.openList taken, alternates⟩
  | closing bracket => exact ⟨true, reads.closeList taken, alternates⟩
  | comma => exact ⟨true, reads.separate taken, alternates⟩
  | run run =>
    obtain ⟨rfl, plain, rest⟩ := alternates
    exact ⟨false, reads.takeRun plain taken, rest⟩

/-- All tokens that are accepted are read. -/
theorem Reads.tokens {tokens : List PlacedToken} (reads : Reads mayRun text s)
    (alternates : Alternates mayRun tokens) (taken : tokens.foldlM Signature.step s = .ok next) :
    ∃ mayRun, Reads mayRun (text ++ spelling tokens) next := by
  induction tokens generalizing mayRun text s with
  | nil =>
    cases taken
    refine ⟨mayRun, ?_⟩
    rw [spelling, List.flatMap_nil, List.append_nil]
    exact reads
  | cons placed rest inductionHypothesis =>
    rw [List.foldlM_cons] at taken
    cases stepped : Signature.step s placed with
    | error failure =>
      rw [stepped] at taken
      cases taken
    | ok middle =>
      rw [stepped] at taken
      obtain ⟨_, reads, alternates⟩ := reads.step alternates stepped
      obtain ⟨mayRun, reads⟩ := inductionHypothesis reads alternates taken
      refine ⟨mayRun, ?_⟩
      rw [spelling, List.flatMap_cons, ← List.append_assoc]
      exact reads

end

/-! ### Signatures that are accepted -/

/-- What ending a signature needs and gives. -/
theorem finish_eq_ok {s : State} {t : Descriptor} (finished : finish s = .ok t) :
    s.waiting = none ∧ s.levels = [] ∧ ∃ only, s.items = [only] ∧ only.descriptor = t := by
  rw [finish] at finished
  split at finished
  · cases finished
  next settled =>
  split at finished
  · cases finished
  next closed =>
  split at finished
  · cases finished
  · next only single =>
    cases finished
    exact ⟨settled, List.getLast?_eq_none_iff.mp closed, only,
      List.reverse_eq_iff.mp single, rfl⟩
  · cases finished

/-- The single type of a text that has been read is derived from it. -/
theorem Reads.finish {mayRun : Bool} {text : List Char} {s : State} {t : Descriptor}
    (reads : Reads mayRun text s) (finished : finish s = .ok t) : Derives text t := by
  obtain ⟨settled, closed, only, single, rfl⟩ := finish_eq_ok finished
  cases reads with
  | expecting enclosing front fresh expects waiting =>
    rw [waiting settled] at single
    cases single
  | completed enclosing completed complete =>
    rw [closed] at enclosing
    rw [single] at completed
    cases enclosing
    obtain ⟨front, body⟩ := completed
    cases front with
    | nil => exact body.derives
    | comma list => exact absurd rfl list.ne_nil

/-- The grammar derives what the reader accepts, with the same meaning. -/
theorem derives_of_parseChars {text : List Char} {t : Descriptor}
    (parsed : parseChars text = .ok t) : Derives text t := by
  rw [parseChars] at parsed
  cases taken : (scan text).foldlM step {} with
  | error failure =>
    rw [taken] at parsed
    cases parsed
  | ok final =>
    rw [taken] at parsed
    have start : Reads true ([] ++ []) {} := .beginning .nil .nil rfl fun _ => rfl
    obtain ⟨mayRun, reads⟩ := start.tokens (alternates_scanFrom 0 text) taken
    rw [List.nil_append, List.nil_append, spelling_scanFrom] at reads
    exact reads.finish parsed

/-- A signature is accepted exactly if the grammar derives it, and what is read is its meaning. -/
theorem parse_eq_ok_iff (signature : String) (t : Descriptor) :
    parse signature = .ok t ↔ Derives signature.toList t := by
  rw [parse]
  constructor
  · intro parsed
    cases read : parseChars signature.toList with
    | error failure =>
      rw [read] at parsed
      cases parsed
    | ok found =>
      rw [read] at parsed
      cases parsed
      exact derives_of_parseChars read
  · intro derived
    rw [parseChars_of_derives derived]
    rfl

end StateContainer.Signature
