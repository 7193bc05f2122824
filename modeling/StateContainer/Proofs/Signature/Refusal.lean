/-
This file says where the tokens of a signature stand in it, and how a signature is refused.

Every token stands where the characters before it end. A bracket or a comma is the character at its
position. A run begins at its position and is as long as it can be: a special character or an end of
the text stands on either side of it.

While the tokens are read, every type and every open list that is remembered stands at a place of
the signature where something is written: a run that is not blank, a bracket or a comma. An error is
given at the token that is rejected or at one of these places, so it stands at such a place too,
unless there is none, as in a blank signature. The lists that are open are those whose brackets are
not closed in what has been read, and the error at the end names the outermost of them.

The main statement adds that nothing else can go wrong when the stack is not trusted: there is no
other failure than such an error.
-/

import StateContainer.Proofs.Signature.Depth
import StateContainer.Proofs.Signature.Stack

namespace StateContainer.Signature

/-! ### Landmarks -/

/-- Whether a position of a text is that of a bracket or a comma, or the start of a run that is not
blank. -/
inductive IsLandmark (text : List Char) (position : Nat) : Prop where
  | special {c : Char} (here : text[position]? = some c) (special : isSpecial c = true)
  | run {before run after : List Char} (split : text = before ++ run ++ after)
      (place : before.length = position) (plain : IsRun run) (visible : Text.trim run ≠ [])
      (starts : ∀ c, before.getLast? = some c → isSpecial c = true) (ends : IsBoundary after)

/-- A landmark is the position of a character. -/
theorem IsLandmark.lt {text : List Char} {position : Nat} (landmark : IsLandmark text position) :
    position < text.length := by
  cases landmark with
  | special here special => exact (List.getElem?_eq_some_iff.mp here).1
  | @run before run after split place plain visible starts ends =>
    have written : run ≠ [] := by
      rintro rfl
      exact visible Text.trim_nil
    have size : 0 < run.length := List.length_pos_iff.mpr written
    rw [split, ← place, List.length_append, List.length_append]
    omega

/-! ### Tokens in their places -/

/-- Whether every token stands where the token before it ends. -/
def PlacedFrom (position : Nat) : List PlacedToken → Prop
  | [] => True
  | placed :: rest =>
    placed.position = position ∧ PlacedFrom (position + placed.token.text.length) rest

/-- A character that extends the first run moves the place of that run only. -/
theorem PlacedFrom.extendRun {position : Nat} {tokens : List PlacedToken}
    (place : PlacedFrom (position + 1) tokens) (c : Char) :
    PlacedFrom position (extendRun c position tokens) := by
  match tokens, place with
  | [], _ => exact ⟨rfl, trivial⟩
  | ⟨.run text, _⟩ :: others, ⟨_, rest⟩ =>
    refine ⟨rfl, ?_⟩
    have shifted : position + (c :: text).length = position + 1 + text.length := by
      rw [List.length_cons]
      omega
    rw [Token.text, shifted]
    exact rest
  | ⟨.opening bracket, _⟩ :: others, place => exact ⟨rfl, place⟩
  | ⟨.closing bracket, _⟩ :: others, place => exact ⟨rfl, place⟩
  | ⟨.comma, _⟩ :: others, place => exact ⟨rfl, place⟩

theorem placedFrom_scanFrom (position : Nat) (text : List Char) :
    PlacedFrom position (scanFrom position text) := by
  induction text generalizing position with
  | nil => trivial
  | cons c rest inductionHypothesis =>
    cases kind : Token.ofChar? c with
    | none =>
      rw [scanFrom_ordinary kind]
      exact (inductionHypothesis (position + 1)).extendRun c
    | some token =>
      rw [scanFrom_special kind]
      refine ⟨rfl, ?_⟩
      rw [Token.text_of_ofChar? kind]
      exact inductionHypothesis (position + 1)

/-- A token stands behind the characters of those before it. -/
theorem PlacedFrom.position_eq {position : Nat} {before after : List PlacedToken}
    {placed : PlacedToken} (place : PlacedFrom position (before ++ placed :: after)) :
    placed.position = position + (spelling before).length := by
  induction before generalizing position with
  | nil => exact place.1
  | cons first others inductionHypothesis =>
    rw [inductionHypothesis place.2, spelling, spelling, List.flatMap_cons, List.length_append,
      Nat.add_assoc]

/-! ### Neighbours -/

/-- Whether a token is a bracket or a comma. -/
def Token.IsMark : Token → Prop
  | run _ => False
  | _ => True

/-- A bracket or a comma is one special character. -/
theorem Token.IsMark.exists_text_eq {token : Token} (mark : token.IsMark) :
    ∃ c, token.text = [c] ∧ isSpecial c = true := by
  cases token with
  | opening bracket => exact ⟨bracket.opening, rfl, by cases bracket <;> rfl⟩
  | closing bracket => exact ⟨bracket.closing, rfl, by cases bracket <;> rfl⟩
  | comma => exact ⟨',', rfl, rfl⟩
  | run text => exact mark.elim

/-- Tokens that do not begin with a run spell a text that begins with a bracket or a comma. -/
theorem Alternates.isBoundary {tokens : List PlacedToken} (alternates : Alternates false tokens) :
    IsBoundary (spelling tokens) := by
  match tokens, alternates with
  | [], _ => exact nofun
  | ⟨.run text, _⟩ :: others, ⟨never, _⟩ => cases never
  | ⟨.opening bracket, _⟩ :: others, _ => exact isBoundary_of_ofChar? (ofChar?_opening bracket) _
  | ⟨.closing bracket, _⟩ :: others, _ => exact isBoundary_of_ofChar? (ofChar?_closing bracket) _
  | ⟨.comma, _⟩ :: others, _ => exact isBoundary_of_ofChar? ofChar?_comma _

/-- What follows the first token of a list in which no run follows another. -/
theorem Alternates.tail {mayRun : Bool} {first : PlacedToken} {rest : List PlacedToken}
    (alternates : Alternates mayRun (first :: rest)) :
    (first.token.IsMark ∧ Alternates true rest) ∨ (¬ first.token.IsMark ∧ Alternates false rest) := by
  obtain ⟨token, position⟩ := first
  cases token with
  | run text => exact .inr ⟨id, alternates.2.2⟩
  | opening bracket => exact .inl ⟨trivial, alternates⟩
  | closing bracket => exact .inl ⟨trivial, alternates⟩
  | comma => exact .inl ⟨trivial, alternates⟩

/-- A run in a list of tokens is a run, and none follows it. -/
theorem Alternates.of_run {mayRun : Bool} {before after : List PlacedToken} {run : List Char}
    {position : Nat} (alternates : Alternates mayRun (before ++ ⟨.run run, position⟩ :: after)) :
    IsRun run ∧ Alternates false after := by
  induction before generalizing mayRun with
  | nil => exact alternates.2
  | cons first others inductionHypothesis =>
    rcases alternates.tail with ⟨_, rest⟩ | ⟨_, rest⟩
    · exact inductionHypothesis rest
    · exact inductionHypothesis rest

/-- What stands in front of a run is a bracket or a comma. -/
theorem Alternates.isMark_before_run {mayRun : Bool} {front after : List PlacedToken}
    {last : PlacedToken} {run : List Char} {position : Nat}
    (alternates : Alternates mayRun (front ++ last :: ⟨.run run, position⟩ :: after)) :
    last.token.IsMark := by
  induction front generalizing mayRun with
  | nil =>
    rcases alternates.tail with ⟨mark, _⟩ | ⟨_, rest⟩
    · exact mark
    · exact absurd rest.1 Bool.false_ne_true
  | cons first others inductionHypothesis =>
    rcases alternates.tail with ⟨_, rest⟩ | ⟨_, rest⟩
    · exact inductionHypothesis rest
    · exact inductionHypothesis rest

/-- A run has a bracket, a comma or an end of the text on either side. -/
theorem Alternates.around {mayRun : Bool} {before after : List PlacedToken} {run : List Char}
    {position : Nat} (alternates : Alternates mayRun (before ++ ⟨.run run, position⟩ :: after)) :
    IsRun run ∧ (∀ c, (spelling before).getLast? = some c → isSpecial c = true) ∧
      IsBoundary (spelling after) := by
  obtain ⟨plain, rest⟩ := alternates.of_run
  refine ⟨plain, fun c last => ?_, rest.isBoundary⟩
  rcases List.eq_nil_or_concat before with rfl | ⟨front, mark, rfl⟩
  · cases last
  · rw [List.concat_eq_append, List.append_assoc] at alternates
    obtain ⟨d, text, special⟩ := alternates.isMark_before_run.exists_text_eq
    rw [List.concat_eq_append, spelling, List.flatMap_append, List.flatMap_singleton, text,
      List.getLast?_concat] at last
    cases last
    exact special

/-! ### Tokens of a text -/

/-- Whether a token says something: it is a bracket or a comma, or a run that is not blank. -/
def Token.IsVisible : Token → Prop
  | run text => Text.trim text ≠ []
  | _ => True

/-- Every token of a text stands where the characters before it end. -/
theorem exists_split_of_mem_scan {text : List Char} {placed : PlacedToken}
    (member : placed ∈ scan text) :
    ∃ before after, scan text = before ++ placed :: after ∧
      text = spelling before ++ placed.token.text ++ spelling after ∧
      placed.position = (spelling before).length := by
  obtain ⟨before, after, split⟩ := List.append_of_mem member
  have spelled : spelling (scan text) = text := spelling_scanFrom 0 text
  have place : PlacedFrom 0 (scan text) := placedFrom_scanFrom 0 text
  rw [split] at spelled place
  refine ⟨before, after, split, ?_, ?_⟩
  · rw [← spelled, spelling, List.flatMap_append, List.flatMap_cons, ← List.append_assoc]
    rfl
  · rw [place.position_eq, Nat.zero_add]

/-- A bracket or a comma is the character at its position. -/
theorem getElem?_of_mem_scan {text : List Char} {token : Token} {position : Nat} {c : Char}
    (member : ⟨token, position⟩ ∈ scan text) (whole : token.text = [c]) :
    text[position]? = some c := by
  obtain ⟨before, after, -, split, place⟩ := exists_split_of_mem_scan member
  dsimp only at split place
  rw [split, whole, place, List.append_assoc, List.getElem?_append_right (Nat.le_refl _),
    Nat.sub_self]
  rfl

/-- The runs of a text are runs. -/
theorem isRun_of_mem_scan {text run : List Char} {position : Nat}
    (member : ⟨.run run, position⟩ ∈ scan text) : IsRun run := by
  obtain ⟨before, after, tokens, -, -⟩ := exists_split_of_mem_scan member
  have alternates : Alternates true (scan text) := alternates_scanFrom 0 text
  rw [tokens] at alternates
  exact alternates.of_run.1

/-- Every token that says something stands at a landmark. -/
theorem isLandmark_of_mem_scan {text : List Char} {placed : PlacedToken}
    (member : placed ∈ scan text) (visible : placed.token.IsVisible) :
    IsLandmark text placed.position := by
  obtain ⟨before, after, tokens, split, place⟩ := exists_split_of_mem_scan member
  obtain ⟨token, position⟩ := placed
  have ofMark (mark : token.IsMark) : IsLandmark text position := by
    obtain ⟨c, whole, special⟩ := mark.exists_text_eq
    exact .special (getElem?_of_mem_scan member whole) special
  cases token with
  | run run =>
    have alternates : Alternates true (scan text) := alternates_scanFrom 0 text
    rw [tokens] at alternates
    obtain ⟨plain, starts, ends⟩ := alternates.around
    exact .run split place.symm plain visible starts ends
  | opening bracket => exact ofMark trivial
  | closing bracket => exact ofMark trivial
  | comma => exact ofMark trivial

/-! ### Errors and their places -/

/-- What an error tells of the text that is refused. -/
structure Refusal (text : List Char) (failure : Failure) : Prop where
  /-- In a blank text the error stands at the beginning. -/
  blank : Text.trim text = [] → failure.2 = 0
  place : Text.trim text ≠ [] → IsLandmark text failure.2
  named : failure.1 ≠ .emptyName
  owned : failure.1 ≠ .argumentsWithoutName
  closing : ∀ bracket, failure.1 = .unmatchedClosing bracket →
    text[failure.2]? = some bracket.closing
  /-- Of several brackets that are not closed the outermost is named. -/
  opening : ∀ bracket, failure.1 = .unmatchedOpening bracket →
    text[failure.2]? = some bracket.opening ∧
      IsLeast {position | IsUnclosed text position} failure.2

/-- There are no landmarks in a blank text. -/
theorem IsLandmark.trim_ne_nil {text : List Char} {position : Nat}
    (landmark : IsLandmark text position) : Text.trim text ≠ [] := by
  intro empty
  have blank := Text.trim_eq_nil_iff.mp empty
  cases landmark with
  | special here special =>
    have ordinary := isSpecial_eq_false_of_isBlank (blank _ (List.mem_of_getElem? here))
    exact Bool.false_ne_true (ordinary.symm.trans special)
  | @run before run after split place plain visible =>
    refine visible (Text.trim_eq_nil_iff.mpr fun c member => blank c ?_)
    rw [split]
    exact List.mem_append_left _ (List.mem_append_right _ member)

/-- An error at a landmark that is none of brackets alone. -/
theorem IsLandmark.refusal {text : List Char} {position : Nat} (landmark : IsLandmark text position)
    {cause : Malformed} (named : cause ≠ .emptyName) (owned : cause ≠ .argumentsWithoutName)
    (closing : ∀ bracket, cause ≠ .unmatchedClosing bracket)
    (opening : ∀ bracket, cause ≠ .unmatchedOpening bracket) : Refusal text (cause, position) where
  blank empty := absurd empty landmark.trim_ne_nil
  place _ := landmark
  named
  owned
  closing bracket same := absurd same (closing bracket)
  opening bracket same := absurd same (opening bracket)

/-! ### What is remembered -/

/-- What holds of the state when some tokens of a text have been read. -/
structure Known (text : List Char) (done : List PlacedToken) (s : State) : Prop where
  sound : s.Sound
  /-- Where nothing is remembered, nothing was written. -/
  blank : s.items = [] → s.levels = [] → ∀ c ∈ spelling done, Text.isBlank c
  placed : ∀ item ∈ s.items, IsLandmark text item.position
  placedBefore : ∀ level ∈ s.levels, ∀ item ∈ level.before, IsLandmark text item.position
  opened : ∀ level ∈ s.levels, text[level.position]? = some level.bracket.opening
  waits : ∀ position, s.waiting = some position → IsLandmark text position
  unclosed : Unclosed s.levels (spelling done)

theorem known_initial (text : List Char) : Known text [] {} where
  sound := State.sound_initial
  blank _ _ := List.forall_mem_nil _
  placed := List.forall_mem_nil _
  placedBefore := List.forall_mem_nil _
  opened := List.forall_mem_nil _
  waits := nofun
  unclosed := .nil isBalanced_nil

section
variable {text : List Char} {done rest : List PlacedToken} {s next : State}

/-- An open list stands at its bracket. -/
theorem Known.isLandmark_level (known : Known text done s) {level : Level} {outer : List Level}
    (enclosed : s.levels = level :: outer) : IsLandmark text level.position := by
  have here := known.opened level (enclosed ▸ List.mem_cons_self)
  refine .special here ?_
  rw [isSpecial, ofChar?_opening]
  rfl

theorem spelling_concat (done : List PlacedToken) (token : Token) (position : Nat) :
    spelling (done ++ [⟨token, position⟩]) = spelling done ++ token.text := by
  rw [spelling, List.flatMap_append, List.flatMap_singleton, spelling]

/-- What is known when a token has been accepted. -/
theorem Known.taken {placed : PlacedToken} (known : Known text done s)
    (split : scan text = done ++ placed :: rest) (taken : Taken s placed next) :
    Known text (done ++ [placed]) next := by
  have member : placed ∈ scan text := by
    rw [split]
    exact List.mem_append_right _ List.mem_cons_self
  have visible (written : placed.token.IsVisible) : IsLandmark text placed.position :=
    isLandmark_of_mem_scan member written
  have sound := taken.sound known.sound
  cases taken with
  | opened bracket position complete =>
    have place : position = (spelling done).length := by
      have places : PlacedFrom 0 (scan text) := placedFrom_scanFrom 0 text
      rw [split] at places
      exact places.position_eq.trans (Nat.zero_add _)
    have here : text[position]? = some bracket.opening := getElem?_of_mem_scan member rfl
    exact
      { sound
        blank := nofun
        placed := List.forall_mem_nil _
        placedBefore := List.forall_mem_cons.mpr ⟨known.placed, known.placedBefore⟩
        opened := List.forall_mem_cons.mpr ⟨here, known.opened⟩
        waits := known.waits
        unclosed := by
          rw [spelling_concat]
          exact .cons known.unclosed place isBalanced_nil }
  | closed bracket position settled written enclosed unclosed =>
    obtain ⟨placedHere, placedBefore⟩ := List.forall_mem_cons.mp (enclosed ▸ known.placedBefore)
    obtain ⟨_, opened⟩ := List.forall_mem_cons.mp (enclosed ▸ known.opened)
    obtain ⟨owner, before⟩ := List.forall_mem_cons.mp placedHere
    exact
      { sound
        blank := nofun
        placed := List.forall_mem_cons.mpr ⟨owner, before⟩
        placedBefore
        opened
        waits := known.waits
        unclosed := by
          rw [spelling_concat]
          exact (enclosed ▸ known.unclosed).close bracket }
  | separated position complete =>
    have flat : IsBalanced [','] := isBalanced_of_forall (List.forall_mem_singleton.mpr rfl)
    exact
      { known with
        sound
        blank := fun empty => absurd empty (known.sound.completed complete)
        waits := by
          rintro _ ⟨⟩
          exact visible trivial
        unclosed := by
          rw [spelling_concat]
          exact known.unclosed.append flat }
  | @skipped run position blank =>
    have plain : IsRun run := fun c member =>
      isSpecial_eq_false_of_isBlank (Text.trim_eq_nil_iff.mp blank c member)
    exact
      { known with
        blank := fun items levels => by
          rw [spelling_concat]
          exact List.forall_mem_append.mpr
            ⟨known.blank items levels, Text.trim_eq_nil_iff.mp blank⟩
        unclosed := by
          rw [spelling_concat]
          exact known.unclosed.append plain.isBalanced }
  | marked position mark complete items =>
    obtain ⟨latest, earlier⟩ := List.forall_mem_cons.mp (items ▸ known.placed)
    exact
      { known with
        sound
        blank := nofun
        placed := List.forall_mem_cons.mpr ⟨latest, earlier⟩
        unclosed := by
          rw [spelling_concat]
          exact known.unclosed.append (isRun_of_mem_scan member).isBalanced }
  | named position expects names =>
    exact
      { known with
        sound
        blank := nofun
        placed := List.forall_mem_cons.mpr ⟨visible names.trim_ne_nil, known.placed⟩
        waits := nofun
        unclosed := by
          rw [spelling_concat]
          exact known.unclosed.append (isRun_of_mem_scan member).isBalanced }

/-- A rejected token refuses the text. -/
theorem Known.rejected {placed : PlacedToken} {failure : Failure} (known : Known text done s)
    (member : placed ∈ scan text) (rejected : Rejected s placed failure) : Refusal text failure := by
  have visible (written : placed.token.IsVisible) : IsLandmark text placed.position :=
    isLandmark_of_mem_scan member written
  cases rejected with
  | opened => exact (visible trivial).refusal nofun nofun nofun nofun
  | waiting => exact (visible trivial).refusal nofun nofun nofun nofun
  | unopened bracket position =>
    have landmark : IsLandmark text position := visible trivial
    have here : text[position]? = some bracket.closing := getElem?_of_mem_scan member rfl
    exact
      { blank := fun empty => absurd empty landmark.trim_ne_nil
        place := fun _ => landmark
        named := nofun
        owned := nofun
        closing := by
          rintro _ ⟨⟩
          exact here
        opening := nofun }
  | mismatched => exact (visible trivial).refusal nofun nofun nofun nofun
  | empty _ _ enclosed => exact (known.isLandmark_level enclosed).refusal nofun nofun nofun nofun
  | unowned _ _ enclosed before => exact absurd before (known.sound.before_ne_nil enclosed)
  | repeated _ _ enclosed => exact (known.isLandmark_level enclosed).refusal nofun nofun nofun nofun
  | separated => exact (visible trivial).refusal nofun nofun nofun nofun
  | following _ written => exact (visible written).refusal nofun nofun nofun nofun

/-- Whatever is taken, what is known goes on or the text is refused. -/
theorem Known.endsAs_foldlM (known : Known text done s) (split : scan text = done ++ rest) :
    EndsAs (Known text (scan text)) (Refusal text) (rest.foldlM step s) := by
  induction rest generalizing done s with
  | nil =>
    rw [List.append_nil] at split
    exact endsAs_ok (split ▸ known)
  | cons placed others inductionHypothesis =>
    have member : placed ∈ scan text := by
      rw [split]
      exact List.mem_append_right _ List.mem_cons_self
    have ends : EndsAs (Known text (done ++ [placed])) (Refusal text) (step s placed) :=
      (takes_step s placed).weaken (fun _ taken => known.taken split taken)
        fun _ rejected => known.rejected member rejected
    rw [List.foldlM_cons]
    refine ends.bind fun next known => inductionHypothesis known ?_
    rw [split, List.append_assoc]
    rfl

/-- At the end of the text there is a single type, or the text is refused. -/
theorem Known.endsAs_finish (known : Known text (scan text) s) :
    EndsAs (fun _ => True) (Refusal text) (finish s) := by
  have spelled : spelling (scan text) = text := spelling_scanFrom 0 text
  rw [finish]
  split
  next position waits =>
    exact (known.waits position waits).refusal Malformed.noConfusion Malformed.noConfusion
      (fun _ => Malformed.noConfusion) fun _ => Malformed.noConfusion
  split
  next outermost last =>
    have here := known.opened outermost (List.mem_of_getLast? last)
    have unclosed := known.unclosed
    rw [spelled] at unclosed
    have landmark : IsLandmark text outermost.position := by
      refine .special here ?_
      rw [isSpecial, ofChar?_opening]
      rfl
    exact
      { blank := fun empty => absurd empty landmark.trim_ne_nil
        place := fun _ => landmark
        named := Malformed.noConfusion
        owned := Malformed.noConfusion
        closing := fun _ => Malformed.noConfusion
        opening := by
          rintro _ ⟨⟩
          exact ⟨here, unclosed.isLeast last⟩ }
  next closed =>
  split
  next empty =>
    have blank := known.blank (List.reverse_eq_nil_iff.mp empty) (List.getLast?_eq_none_iff.mp closed)
    rw [spelled] at blank
    exact
      { blank := fun _ => rfl
        place := fun written => absurd (Text.trim_eq_nil_iff.mpr blank) written
        named := Malformed.noConfusion
        owned := Malformed.noConfusion
        closing := fun _ => Malformed.noConfusion
        opening := fun _ => Malformed.noConfusion }
  next => trivial
  next first second others several =>
    have member : second ∈ s.items := by
      rw [← List.mem_reverse, several]
      exact List.mem_cons_of_mem _ List.mem_cons_self
    exact (known.placed second member).refusal Malformed.noConfusion Malformed.noConfusion
      (fun _ => Malformed.noConfusion) fun _ => Malformed.noConfusion

end

theorem endsAs_parseChars (text : List Char) :
    EndsAs (fun _ => True) (Refusal text) (parseChars text) :=
  ((known_initial text).endsAs_foldlM rfl).bind fun _ known => known.endsAs_finish

/-- A signature that is not read is refused for something that stands at a place of it, and for
nothing else: also a reader that checks each look at its stack, and each name, ends as this one. -/
theorem readStack_eq_and_refusal (signature : String) :
    readStack signature = (parse signature).mapError StackFault.malformed ∧
      ∀ error, parse signature = .error error →
        error.signature = signature ∧
          (Text.trim signature.toList ≠ [] → error.position < signature.length) ∧
          Refusal signature.toList (error.cause, error.position) := by
  refine ⟨readStack_eq_parse signature, fun error refused => ?_⟩
  obtain ⟨⟨cause, position⟩, fails, rfl⟩ := mapError_eq_error_iff.mp refused
  have refusal : Refusal signature.toList (cause, position) :=
    (endsAs_parseChars signature.toList).of_error fails
  refine ⟨rfl, fun written => ?_, refusal⟩
  have inside : position < signature.toList.length := (refusal.place written).lt
  rwa [String.length_toList] at inside

/-- Of two brackets that are not closed the outer one is named. -/
theorem readStack_unclosed_twice :
    parse "a<b[c" = .error ⟨.unmatchedOpening .angle, 1, "a<b[c"⟩ ∧
      readStack "a<b[c" = .error (.malformed ⟨.unmatchedOpening .angle, 1, "a<b[c"⟩) ∧
      IsLeast {position | IsUnclosed "a<b[c".toList position} 1 := by
  have refused : parse "a<b[c" = .error ⟨.unmatchedOpening .angle, 1, "a<b[c"⟩ := by decide
  obtain ⟨same, refusal⟩ := readStack_eq_and_refusal "a<b[c"
  rw [refused] at same
  exact ⟨refused, same, ((refusal _ refused).2.2.opening .angle rfl).2⟩

end StateContainer.Signature
