/-
This file proves that the reader accepts whatever the grammar derives, with the same
meaning.

A text that goes on with a bracket or a comma is scanned apart from what follows it. So
the tokens of a type are those of its name, of the brackets, of the list between them and
of the mark behind them, and each of these parts is read by itself: from a state that
expects a type, the reader gets to one in which just that type has been added.
-/

import StateContainer.Proofs.Signature.Grammar

namespace StateContainer.Signature

/-! ### Scanning by parts -/

@[simp] theorem ofChar?_opening (bracket : Bracket) :
    Token.ofChar? bracket.opening = some (.opening bracket) := by
  cases bracket <;> rfl

@[simp] theorem ofChar?_closing (bracket : Bracket) :
    Token.ofChar? bracket.closing = some (.closing bracket) := by
  cases bracket <;> rfl

theorem ofChar?_comma : Token.ofChar? ',' = some .comma := rfl

/-- A special character is a token by itself. -/
theorem scanFrom_special {c : Char} {token : Token} (special : Token.ofChar? c = some token)
    (position : Nat) (rest : List Char) :
    scanFrom position (c :: rest) = ⟨token, position⟩ :: scanFrom (position + 1) rest := by
  rw [scanFrom, special]

/-- Other characters extend the run that follows them. -/
theorem scanFrom_ordinary {c : Char} (ordinary : Token.ofChar? c = none) (position : Nat)
    (rest : List Char) :
    scanFrom position (c :: rest) = extendRun c position (scanFrom (position + 1) rest) := by
  rw [scanFrom, ordinary]

/-- Whether a text ends here or goes on with a bracket or a comma. -/
def IsBoundary (text : List Char) : Prop :=
  ∀ c, text.head? = some c → isSpecial c = true

theorem isBoundary_of_ofChar? {c : Char} {token : Token} (special : Token.ofChar? c = some token)
    (rest : List Char) : IsBoundary (c :: rest) := by
  rintro _ ⟨⟩
  rw [isSpecial, special]
  rfl

theorem ofChar?_ne_run (c : Char) (text : List Char) : Token.ofChar? c ≠ some (.run text) := by
  unfold Token.ofChar?
  split_ifs <;> simp

/-- The tokens of what follows a boundary do not begin with a run. -/
theorem head_scanFrom_ne_run {text : List Char} (boundary : IsBoundary text) (position : Nat)
    (run : List Char) : (scanFrom position text).head?.map (·.token) ≠ some (.run run) := by
  cases text with
  | nil => exact nofun
  | cons c rest =>
    obtain ⟨token, special⟩ := Option.isSome_iff_exists.mp (boundary c rfl)
    rw [scanFrom_special special, List.head?_cons, Option.map_some, ← special]
    exact ofChar?_ne_run c run

/-- What does not begin with a run is left as it is when a character is put in front of it. -/
theorem extendRun_append (c : Char) (position : Nat) (first second : List PlacedToken)
    (boundary : first = [] → ∀ text, second.head?.map (·.token) ≠ some (.run text)) :
    extendRun c position (first ++ second) = extendRun c position first ++ second := by
  match first, boundary with
  | ⟨.run text, _⟩ :: others, _ => rfl
  | ⟨.opening bracket, _⟩ :: others, _ => rfl
  | ⟨.closing bracket, _⟩ :: others, _ => rfl
  | ⟨.comma, _⟩ :: others, _ => rfl
  | [], boundary =>
    match second, boundary rfl with
    | [], _ => rfl
    | ⟨.run text, _⟩ :: others, boundary => exact absurd rfl (boundary text)
    | ⟨.opening bracket, _⟩ :: others, _ => rfl
    | ⟨.closing bracket, _⟩ :: others, _ => rfl
    | ⟨.comma, _⟩ :: others, _ => rfl

/-- What follows a boundary is scanned apart from what stands before it. -/
theorem scanFrom_append (first : List Char) {second : List Char} (boundary : IsBoundary second)
    (position : Nat) :
    scanFrom position (first ++ second) =
      scanFrom position first ++ scanFrom (position + first.length) second := by
  induction first generalizing position with
  | nil => rfl
  | cons c rest inductionHypothesis =>
    have shifted : position + (c :: rest).length = position + 1 + rest.length := by
      rw [List.length_cons]
      omega
    rw [List.cons_append, shifted]
    cases kind : Token.ofChar? c with
    | some token =>
      rw [scanFrom_special kind, scanFrom_special kind, inductionHypothesis, List.cons_append]
    | none =>
      rw [scanFrom_ordinary kind, scanFrom_ordinary kind, inductionHypothesis]
      exact extendRun_append c position _ _ fun _ => head_scanFrom_ne_run boundary _

/-- A run is one token. -/
theorem scanFrom_run {run : List Char} (plain : IsRun run) (written : run ≠ []) (position : Nat) :
    scanFrom position run = [⟨.run run, position⟩] := by
  induction run generalizing position with
  | nil => exact absurd rfl written
  | cons c rest inductionHypothesis =>
    have ordinary : Token.ofChar? c = none :=
      Option.not_isSome_iff_eq_none.mp (Bool.eq_false_iff.mp (plain c List.mem_cons_self))
    rw [scanFrom_ordinary ordinary]
    cases rest with
    | nil => rfl
    | cons next others =>
      rw [inductionHypothesis (fun d member => plain d (List.mem_cons_of_mem c member))
        (List.cons_ne_nil _ _)]
      rfl

/-! ### Reading by parts -/

/-- Reading the tokens of a text from a state. -/
def readFrom (s : State) (position : Nat) (text : List Char) : Except Failure State :=
  (scanFrom position text).foldlM step s

/-- Reading goes on behind a boundary in the state that it has got to. -/
theorem readFrom_append {first second : List Char} (boundary : IsBoundary second) {s next : State}
    {position : Nat} (read : readFrom s position first = .ok next) :
    readFrom s position (first ++ second) = readFrom next (position + first.length) second := by
  rw [readFrom] at read
  rw [readFrom, scanFrom_append first boundary, List.foldlM_append, read]
  rfl

/-- Reading goes on behind a special character in the state that its token leads to. -/
theorem readFrom_cons {c : Char} {token : Token} (special : Token.ofChar? c = some token)
    {s next : State} {position : Nat} (taken : step s ⟨token, position⟩ = .ok next)
    (rest : List Char) : readFrom s position (c :: rest) = readFrom next (position + 1) rest := by
  rw [readFrom, scanFrom_special special, List.foldlM_cons, taken]
  rfl

theorem readFrom_run {run : List Char} (plain : IsRun run) (written : run ≠ []) (s : State)
    (position : Nat) : readFrom s position run = takeRun s run position := by
  rw [readFrom, scanFrom_run plain written, List.foldlM_cons]
  cases taken : takeRun s run position with
  | error failure => exact congrArg (Except.bind · _) taken
  | ok s => exact congrArg (Except.bind · _) taken

/-- The state in which types have been added to those of the innermost list. -/
def State.added (s : State) (items : List Item) : State :=
  { s with items := items ++ s.items, complete := true, waiting := none }

/-- The item whose type is nullable also if there is a mark. -/
def Item.marked (item : Item) (mark : Bool) : Item :=
  { item with
    descriptor := { item.descriptor with nullable := item.descriptor.nullable || mark } }

theorem Item.marked_false (item : Item) : item.marked false = item := by
  obtain ⟨⟨name, nullable, arguments⟩, position, closed⟩ := item
  rw [marked, Bool.or_false]

theorem Item.marked_true (item : Item) :
    item.marked true = { item with descriptor := item.descriptor.asNullable true } := by
  rw [marked, Bool.or_true]
  rfl

/-- A run that is not blank is a name where a type is expected. -/
theorem takeRun_name {run name : List Char} {nullable : Bool} (names : Names run name nullable)
    {s : State} (expects : s.complete = false) (position : Nat) :
    takeRun s run position =
      .ok (s.added [{ descriptor := ⟨String.ofList name, nullable, []⟩, position }]) := by
  rw [takeRun, expects]
  cases trimmed : Text.trim run with
  | nil => exact absurd trimmed names.trim_ne_nil
  | cons c rest =>
    simp only [names.itemOfRun_eq position]
    rfl

/-- A blank run says nothing. -/
theorem takeRun_blank {run : List Char} (blank : Text.trim run = []) (s : State)
    (position : Nat) : takeRun s run position = .ok s := by
  rw [takeRun, blank]

/-- A question mark behind a list of arguments marks the type that owns the list. -/
theorem takeRun_mark {run : List Char} (marked : Text.trim run = ['?']) {s : State}
    (complete : s.complete = true) {item : Item} {earlier : List Item}
    (items : s.items = item :: earlier) (position : Nat) :
    takeRun s run position = .ok { s with items := item.marked true :: earlier } := by
  rw [takeRun, marked, complete, items, item.marked_true]
  rfl

/-- No other run may follow a type. -/
theorem takeRun_after {run : List Char} (written : Text.trim run ≠ [])
    (unmarked : Text.trim run ≠ ['?']) {s : State} (complete : s.complete = true)
    (position : Nat) : takeRun s run position = .error (.missingComma, position) := by
  rw [takeRun, complete]
  split
  · next trimmed _ _ => exact absurd trimmed unmarked
  · next trimmed => exact absurd trimmed written
  · rfl
  · next never => cases never

/-- A name is read where a type is expected. -/
theorem readFrom_name {run name : List Char} {nullable : Bool} (plain : IsRun run)
    (names : Names run name nullable) {s : State} (expects : s.complete = false)
    (position : Nat) :
    readFrom s position run =
      .ok (s.added [{ descriptor := ⟨String.ofList name, nullable, []⟩, position }]) := by
  have written : run ≠ [] := by
    rintro rfl
    exact names.trim_ne_nil Text.trim_nil
  rw [readFrom_run plain written, takeRun_name names expects]

/-- A run behind a list of arguments marks the type that owns the list, or is blank. -/
theorem readFrom_mark {mark : List Char} (plain : IsRun mark)
    (ending : Text.trim mark = [] ∨ Text.trim mark = ['?']) {s : State} {item : Item}
    {earlier : List Item} (complete : s.complete = true) (items : s.items = item :: earlier)
    (position : Nat) :
    readFrom s position mark =
      .ok { s with items := item.marked (Text.trim mark = ['?']) :: earlier } := by
  rcases ending with blank | marked
  · have unmoved : { s with items := item :: earlier } = s := by rw [← items]
    rw [blank, decide_eq_false (by simp), item.marked_false, unmoved]
    by_cases written : mark = []
    · subst written
      rfl
    · rw [readFrom_run plain written, takeRun_blank blank]
  · have written : mark ≠ [] := by
      rintro rfl
      exact absurd marked (by simp)
    rw [readFrom_run plain written, takeRun_mark marked complete items, marked,
      decide_eq_true rfl]

/-- A list of arguments is opened behind a name. -/
theorem openList_added (s : State) (item : Item) (bracket : Bracket) (position : Nat) :
    openList (s.added [item]) bracket position =
      .ok { items := [], levels := ⟨bracket, position, item :: s.items⟩ :: s.levels } := rfl

/-- A list of arguments is closed and given to the type before it. -/
theorem closeList_added (s : State) (owner : Item) (unclosed : owner.closed = false)
    (bracket : Bracket) (openedAt position : Nat) {items : List Item} (written : items ≠ []) :
    closeList (State.added
        { items := [], levels := ⟨bracket, openedAt, owner :: s.items⟩ :: s.levels } items)
        bracket position =
      .ok (s.added [{ owner with
        descriptor := owner.descriptor.withArguments (items.map (·.descriptor)).reverse
        closed := true }]) := by
  cases items with
  | nil => exact absurd rfl written
  | cons item rest =>
    rw [closeList]
    simp [State.added, unclosed]

/-- A text is read as a type where a type is expected. -/
def ReadsType (text : List Char) (t : Descriptor) : Prop :=
  ∀ (s : State) (position : Nat), s.complete = false →
    ∃ item, item.descriptor = t ∧ readFrom s position text = .ok (s.added [item])

/-- A text is read as a list of types where a type is expected. -/
def ReadsList (text : List Char) (types : List Descriptor) : Prop :=
  ∀ (s : State) (position : Nat), s.complete = false →
    ∃ items, items.map (·.descriptor) = types.reverse ∧
      readFrom s position text = .ok (s.added items)

theorem ReadsList.single {text : List Char} {t : Descriptor} (reads : ReadsType text t) :
    ReadsList text [t] := by
  intro s position expects
  obtain ⟨item, rfl, read⟩ := reads s position expects
  exact ⟨[item], rfl, read⟩

theorem ReadsList.cons {text others : List Char} {t : Descriptor} {rest : List Descriptor}
    (first : ReadsType text t) (list : ReadsList others rest) :
    ReadsList (text ++ ',' :: others) (t :: rest) := by
  intro s position expects
  obtain ⟨item, rfl, read⟩ := first s position expects
  obtain ⟨items, types, readOthers⟩ := list
    { s.added [item] with complete := false, waiting := some (position + text.length) }
    (position + text.length + 1) rfl
  refine ⟨items ++ [item], ?_, ?_⟩
  · rw [List.map_append, types, List.reverse_cons]
    rfl
  · rw [readFrom_append (isBoundary_of_ofChar? ofChar?_comma others) read]
    refine (readFrom_cons ofChar?_comma rfl others).trans (readOthers.trans ?_)
    simp [State.added]

theorem ReadsType.generic {run name : List Char} {nullable : Bool} (plain : IsRun run)
    (names : Names run name nullable) (bracket : Bracket) {inner : List Char}
    {arguments : List Descriptor} (written : arguments ≠ []) (list : ReadsList inner arguments)
    {mark : List Char} (plainMark : IsRun mark) (ending : Text.trim mark = [] ∨ Text.trim mark = ['?']) :
    ReadsType (run ++ bracket.opening :: inner ++ bracket.closing :: mark)
      ⟨String.ofList name, nullable || Text.trim mark = ['?'], arguments⟩ := by
  intro s position expects
  have regroup : run ++ bracket.opening :: inner ++ bracket.closing :: mark =
      run ++ bracket.opening :: (inner ++ bracket.closing :: mark) := by
    simp
  obtain ⟨items, types, read⟩ := list
    { items := []
      levels := ⟨bracket, position + run.length,
        { descriptor := ⟨String.ofList name, nullable, []⟩, position } :: s.items⟩ :: s.levels }
    (position + run.length + 1) rfl
  have nonempty : items ≠ [] := by
    rintro rfl
    exact written (List.reverse_eq_nil_iff.mp types.symm)
  have named := readFrom_name plain names expects position
  have closed := closeList_added s { descriptor := ⟨String.ofList name, nullable, []⟩, position }
    rfl bracket (position + run.length) (position + run.length + 1 + inner.length) nonempty
  refine ⟨Item.marked
    { descriptor := ⟨String.ofList name, nullable, (items.map (·.descriptor)).reverse⟩
      position
      closed := true } (Text.trim mark = ['?']), ?_, ?_⟩
  · rw [types, List.reverse_reverse]
    rfl
  · rw [regroup, readFrom_append (isBoundary_of_ofChar? (ofChar?_opening bracket) _) named,
      readFrom_cons (ofChar?_opening bracket) (openList_added s _ bracket _),
      readFrom_append (isBoundary_of_ofChar? (ofChar?_closing bracket) _) read,
      readFrom_cons (ofChar?_closing bracket) closed]
    exact readFrom_mark plainMark ending rfl rfl _

mutual

/-- Whatever is derived as a type is read as one. -/
theorem Derives.reads {text : List Char} {t : Descriptor} (derived : Derives text t) :
    ReadsType text t := by
  cases derived with
  | name plain names => exact fun s position expects =>
      ⟨_, rfl, readFrom_name plain names expects position⟩
  | generic plain names bracket list plainMark ending =>
    exact .generic plain names bracket list.ne_nil list.reads plainMark ending

/-- Whatever is derived as a list of types is read as one. -/
theorem DerivesList.reads {text : List Char} {types : List Descriptor}
    (list : DerivesList text types) : ReadsList text types := by
  cases list with
  | single first => exact .single first.reads
  | cons first list => exact .cons first.reads list.reads

end

/-- The reader accepts what the grammar derives, with the same meaning. -/
theorem parseChars_of_derives {text : List Char} {t : Descriptor} (derived : Derives text t) :
    parseChars text = .ok t := by
  obtain ⟨item, rfl, read⟩ := derived.reads {} 0 rfl
  rw [readFrom] at read
  rw [parseChars, scan, read]
  rfl

end StateContainer.Signature
