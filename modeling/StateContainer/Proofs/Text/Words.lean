/-
This file says how names are written in lower case with underscores between their words.

Within ASCII a text is lowered character by character, so nothing depends on where an underscore is
put: what is written is the lowered name with some underscores more, and a name that is written
already has no capitals left at which a word could begin. A name that is put together of words, each
a capital with small letters or digits behind it, is separated where its words meet and nowhere
else. Words hold no underscores, so they are found again in what is written, and the modules of two
such names are called the same only if the words are.
-/

import StateContainer.Artifact
import StateContainer.Proofs.Text

namespace StateContainer.Text

/-! ### Lower case within ASCII -/

/-- Whether all characters of a text are ASCII. -/
def IsAscii (text : List Char) : Prop :=
  ∀ c ∈ text, c.toNat < 128

instance (text : List Char) : Decidable (IsAscii text) :=
  List.decidableBAll (fun c : Char => c.toNat < 128) text

section
variable {text : List Char}

theorem lowerAfter_of_isAscii (ascii : IsAscii text) (before : List Char) :
    lowerAfter before text = text.map Char.toLower := by
  induction text generalizing before with
  | nil => rfl
  | cons c rest inductionHypothesis =>
    rw [IsAscii, List.forall_mem_cons] at ascii
    have notSigma : c ≠ 'Σ' := by
      rintro rfl
      exact absurd ascii.1 (by decide)
    rw [lowerAfter, if_neg notSigma, lowerChar, if_pos ascii.1, inductionHypothesis ascii.2]
    rfl

theorem lower_of_isAscii (ascii : IsAscii text) : lower text = text.map Char.toLower :=
  lowerAfter_of_isAscii ascii []

theorem toLower_eq_underscore_iff {c : Char} (ascii : c.toNat < 128) : c.toLower = '_' ↔ c = '_' :=
  forall_ascii (motive := fun c => c.toLower = '_' ↔ c = '_') (by decide) ascii

/-- The lower case of a character is its own lower case, and no capital. -/
theorem toLower_settled {c : Char} (ascii : c.toNat < 128) : c.toLower.toNat < 128 ∧
    c.toLower.toLower = c.toLower ∧ c.toLower.isUpper = false :=
  forall_ascii (motive := fun c => c.toLower.toNat < 128 ∧ c.toLower.toLower = c.toLower ∧
    c.toLower.isUpper = false) (by decide) ascii

/-- Lowering neither makes underscores nor takes any away. -/
theorem filter_map_toLower (ascii : IsAscii text) :
    (text.map Char.toLower).filter (· ≠ '_') = (text.filter (· ≠ '_')).map Char.toLower := by
  rw [List.filter_map]
  refine congrArg (List.map _) (List.filter_congr fun c member => ?_)
  exact decide_eq_decide.mpr (not_congr (toLower_eq_underscore_iff (ascii c member)))

/-! ### Where words begin -/

theorem separateWordsAfter_append {front : List Char} (small : ∀ c ∈ front, c.isUpper = false)
    (previous : Char) (rest : List Char) : separateWordsAfter previous (front ++ rest) =
      front ++ separateWordsAfter (front.getLastD previous) rest := by
  induction front generalizing previous with
  | nil => rfl
  | cons c front inductionHypothesis =>
    rw [List.forall_mem_cons] at small
    -- What follows a character is only looked at if it is a capital.
    have within (next : Option Char) : wordBegins previous c next = false := by
      rw [wordBegins, small.1, Bool.false_and]
    rw [List.cons_append, separateWordsAfter, within, if_neg Bool.false_ne_true,
      inductionHypothesis small.2, List.getLastD_cons]
    rfl

/-- No word begins within a text without capitals. -/
theorem separateWords_of_small (small : ∀ c ∈ text, c.isUpper = false) :
    separateWords text = text := by
  cases text with
  | nil => rfl
  | cons first rest =>
    rw [List.forall_mem_cons] at small
    have unseparated := separateWordsAfter_append small.2 first []
    rw [List.append_nil, separateWordsAfter, List.append_nil] at unseparated
    rw [separateWords, unseparated]

/-- Underscores are all that is put between words. -/
theorem filter_separateWordsAfter (previous : Char) (text : List Char) :
    (separateWordsAfter previous text).filter (· ≠ '_') = text.filter (· ≠ '_') := by
  induction text generalizing previous with
  | nil => rfl
  | cons c rest inductionHypothesis =>
    rw [separateWordsAfter]
    split
    · rw [List.filter_cons_of_neg (by decide), List.filter_cons, List.filter_cons,
        inductionHypothesis]
    · rw [List.filter_cons, List.filter_cons, inductionHypothesis]

theorem filter_separateWords (text : List Char) :
    (separateWords text).filter (· ≠ '_') = text.filter (· ≠ '_') := by
  cases text with
  | nil => rfl
  | cons first rest =>
    rw [separateWords, List.filter_cons, List.filter_cons, filter_separateWordsAfter]

theorem IsAscii.separateWords (ascii : IsAscii text) : IsAscii (separateWords text) :=
  forall_mem_separateWords (motive := fun c => c.toNat < 128) (by decide) ascii

end

/-! ### Names that are written -/

section
variable {name : String}

/-- A name in ASCII is separated, and then each character is lowered. -/
theorem toList_snakeCase (ascii : IsAscii name.toList) :
    (snakeCase name).toList = (separateWords name.toList).map Char.toLower := by
  rw [snakeCase, String.toList_ofList, lower_of_isAscii ascii.separateWords]

/-- What is written is still in ASCII. -/
theorem isAscii_snakeCase (ascii : IsAscii name.toList) : IsAscii (snakeCase name).toList := by
  rw [toList_snakeCase ascii]
  exact List.forall_mem_map.mpr fun c member => (toLower_settled (ascii.separateWords c member)).1

/-- A written name is written as it is. -/
theorem snakeCase_snakeCase (ascii : IsAscii name.toList) :
    snakeCase (snakeCase name) = snakeCase name := by
  have small : ∀ c ∈ (snakeCase name).toList, c.isUpper = false := by
    rw [toList_snakeCase ascii]
    exact List.forall_mem_map.mpr fun c member =>
      (toLower_settled (ascii.separateWords c member)).2.2
  have lowered : ∀ c ∈ (snakeCase name).toList, c.toLower = c := by
    rw [toList_snakeCase ascii]
    exact List.forall_mem_map.mpr fun c member =>
      (toLower_settled (ascii.separateWords c member)).2.1
  rw [← String.toList_inj, toList_snakeCase (isAscii_snakeCase ascii), separateWords_of_small small]
  exact (List.map_congr_left lowered).trans (List.map_id' _)

/-- Apart from underscores, what is written is the lower case of the name. -/
theorem filter_snakeCase (ascii : IsAscii name.toList) :
    (snakeCase name).toList.filter (· ≠ '_') = (lower name.toList).filter (· ≠ '_') := by
  rw [toList_snakeCase ascii, lower_of_isAscii ascii, filter_map_toLower ascii.separateWords,
    filter_map_toLower ascii, filter_separateWords]

end

/-! ### Words -/

theorem isAlphanum_eq (c : Char) : c.isAlphanum = (c.isUpper || (c.isLower || c.isDigit)) :=
  Bool.or_assoc c.isUpper c.isLower c.isDigit

theorem isAscii_of_isAlphanum {c : Char} (named : c.isAlphanum = true) : c.toNat < 128 := by
  rw [isAlphanum_eq, Bool.or_eq_true, Bool.or_eq_true] at named
  rcases named with upper | lower | digit
  · have bounds : 'A'.val ≤ c.val ∧ c.val ≤ 'Z'.val := of_decide_eq_true upper
    exact (UInt32.le_iff_toNat_le.mp bounds.2).trans_lt (by decide)
  · have bounds : (decide ('a'.val ≤ c.val) && decide (c.val ≤ 'z'.val)) = true := lower
    have upTo : c.val ≤ 'z'.val := of_decide_eq_true (Bool.and_eq_true_iff.mp bounds).2
    exact (UInt32.le_iff_toNat_le.mp upTo).trans_lt (by decide)
  · exact (Char.isDigit_iff_toNat.mp digit).2.trans_lt (by decide)

/-- A word of a name: an ASCII capital with one or more small letters or digits of ASCII behind it. -/
structure Word where
  capital : Char
  tail : List Char
  isUpper_capital : capital.isUpper = true
  tail_ne_nil : tail ≠ []
  small : ∀ c ∈ tail, (c.isLower || c.isDigit) = true

namespace Word

/-- The characters of a word. -/
def chars (w : Word) : List Char :=
  w.capital :: w.tail

/-- A word as it stands in a name. -/
def text (w : Word) : String :=
  String.ofList w.chars

/-- A word in lower case. -/
def lowered (w : Word) : String :=
  String.ofList (lower w.chars)

theorem isAlphanum_of_mem {w : Word} : ∀ c ∈ w.chars, c.isAlphanum = true := by
  rw [chars, List.forall_mem_cons]
  refine ⟨?_, fun c member => ?_⟩
  · rw [isAlphanum_eq, w.isUpper_capital, Bool.true_or]
  · rw [isAlphanum_eq, w.small c member, Bool.or_true]

theorem isAscii_chars (w : Word) : IsAscii w.chars :=
  fun c member => isAscii_of_isAlphanum (isAlphanum_of_mem c member)

theorem toList_lowered (w : Word) : w.lowered.toList = w.chars.map Char.toLower := by
  rw [lowered, String.toList_ofList, lower_of_isAscii w.isAscii_chars]

/-- The lower case of a word holds no underscore. -/
theorem underscore_not_mem_lowered (w : Word) : '_' ∉ w.lowered.toList := by
  rw [toList_lowered, List.mem_map]
  rintro ⟨c, member, same⟩
  have named := isAlphanum_of_mem c member
  rw [(toLower_eq_underscore_iff (w.isAscii_chars c member)).mp same] at named
  cases named

/-- Behind its capital a word has no other. -/
theorem isUpper_of_mem_tail {w : Word} : ∀ c ∈ w.tail, c.isUpper = false :=
  fun c member => forall_ascii
    (motive := fun c => (c.isLower || c.isDigit) = true → c.isUpper = false) (by decide)
    (w.isAscii_chars c (List.mem_cons_of_mem _ member)) (w.small c member)

/-- A word ends in a small letter or in a digit. -/
theorem small_last (w : Word) :
    ((w.tail.getLastD w.capital).isLower || (w.tail.getLastD w.capital).isDigit) = true := by
  rw [List.getLastD_eq_getLast?, List.getLast?_eq_getLast_of_ne_nil w.tail_ne_nil, Option.getD_some]
  exact w.small _ (List.getLast_mem _)

end Word

/-! ### Names that are put together of words -/

/-- The name that words are put together to. -/
def nameOf (words : List Word) : String :=
  String.join (words.map Word.text)

section
variable {words others : List Word}

theorem toList_nameOf (words : List Word) : (nameOf words).toList = words.flatMap Word.chars := by
  rw [nameOf, String.toList_join, List.flatMap_map]
  exact congrArg (List.flatMap · words) (funext fun w => String.toList_ofList)

theorem isAscii_nameOf (words : List Word) : IsAscii (nameOf words).toList := by
  rw [toList_nameOf]
  intro c member
  obtain ⟨w, -, inside⟩ := List.mem_flatMap.mp member
  exact w.isAscii_chars c inside

/-- Behind a small letter or a digit, each word begins anew. -/
theorem separateWordsAfter_words {previous : Char}
    (small : (previous.isLower || previous.isDigit) = true) (words : List Word) :
    separateWordsAfter previous (words.flatMap Word.chars) =
      (words.map Word.chars).flatMap ('_' :: ·) := by
  -- Each word ends in a small letter or a digit itself, so the next one begins anew as well.
  induction words generalizing previous with
  | nil => rfl
  | cons w others inductionHypothesis =>
    have begins (next : Option Char) : wordBegins previous w.capital next = true := by
      rw [wordBegins, w.isUpper_capital, small]
      rfl
    rw [List.flatMap_cons, Word.chars, List.cons_append, separateWordsAfter, begins, if_pos rfl,
      separateWordsAfter_append Word.isUpper_of_mem_tail, inductionHypothesis w.small_last,
      List.map_cons, List.flatMap_cons]
    rfl

/-- A name is separated where its words meet. -/
theorem separateWords_words (words : List Word) :
    separateWords (words.flatMap Word.chars) = joined '_' (words.map Word.chars) := by
  cases words with
  | nil => rfl
  | cons w others =>
    rw [List.flatMap_cons, Word.chars, List.cons_append, separateWords,
      separateWordsAfter_append Word.isUpper_of_mem_tail, separateWordsAfter_words w.small_last,
      List.map_cons, joined_cons]
    rfl

theorem toList_intercalate_lowered (words : List Word) :
    ("_".intercalate (words.map Word.lowered)).toList =
      joined '_' (words.map (·.lowered.toList)) := by
  rw [String.toList_intercalate, List.map_map]
  exact intercalate_eq_joined '_' _

/-- A name is written by its words in lower case, with underscores between them. -/
theorem snakeCase_nameOf (words : List Word) :
    snakeCase (nameOf words) = "_".intercalate (words.map Word.lowered) := by
  have lowered : (words.map Word.chars).map (List.map Char.toLower) =
      words.map (·.lowered.toList) := by
    rw [List.map_map]
    exact List.map_congr_left fun w _ => w.toList_lowered.symm
  rw [← String.toList_inj, toList_snakeCase (isAscii_nameOf words), toList_nameOf, separateWords_words,
    map_joined, lowered, toList_intercalate_lowered]
  rfl

/-- The words are found again in what is written. -/
theorem filter_pieces_intercalate_lowered (words : List Word) :
    (pieces '_' ("_".intercalate (words.map Word.lowered)).toList).filter (· ≠ []) =
      (words.map Word.lowered).map String.toList := by
  rw [toList_intercalate_lowered, filter_pieces_joined, List.map_map]
  · rfl
  · rw [List.forall_mem_map]
    intro w _
    rw [w.toList_lowered]
    exact List.cons_ne_nil _ _
  · rw [List.forall_mem_map]
    exact fun w _ => w.underscore_not_mem_lowered

/-- Names are written alike only if their words are alike in lower case. -/
theorem snakeCase_nameOf_inj :
    snakeCase (nameOf words) = snakeCase (nameOf others) ↔
      words.map Word.lowered = others.map Word.lowered := by
  rw [snakeCase_nameOf, snakeCase_nameOf]
  refine ⟨fun same => ?_, congrArg _⟩
  refine List.map_injective_iff.mpr (fun _ _ => String.toList_inj.mp) ?_
  rw [← filter_pieces_intercalate_lowered, same, filter_pieces_intercalate_lowered]

end

/-! ### Modules that are named after their words -/

theorem moduleName_synthesize_inj {s other : Schema} {words others : List Word}
    (named : s.name = nameOf words) (namedOther : other.name = nameOf others) :
    s.synthesize.moduleName = other.synthesize.moduleName ↔
      words.map Word.lowered = others.map Word.lowered := by
  rw [Schema.synthesize, Schema.synthesize, String.append_left_inj, named, namedOther,
    snakeCase_nameOf_inj]

/-- A name that is put together of words is written by its words in lower case with underscores between
them, so that modules which are named after words that differ have different names. Of any name in
ASCII only the case and the underscores change, and a name that is written already is written as it
is. -/
theorem snakeCase_spells_words :
    (∀ words : List Word,
      snakeCase (nameOf words) = "_".intercalate (words.map Word.lowered)) ∧
    (∀ (s other : Schema) (words others : List Word), s.name = nameOf words →
      other.name = nameOf others → words.map Word.lowered ≠ others.map Word.lowered →
        s.synthesize.moduleName ≠ other.synthesize.moduleName) ∧
    ∀ name : String, IsAscii name.toList → snakeCase (snakeCase name) = snakeCase name ∧
      (snakeCase name).toList.filter (· ≠ '_') = (lower name.toList).filter (· ≠ '_') := by
  refine ⟨snakeCase_nameOf, ?_, ?_⟩
  · intro s other words others named namedOther differ same
    exact differ ((moduleName_synthesize_inj named namedOther).mp same)
  · intro name ascii
    exact ⟨snakeCase_snakeCase ascii, filter_snakeCase ascii⟩

/-- The names `MainState` and `Mainstate`, of two words and of one, and a name that runs together. -/
theorem snakeCase_spells_words_mainState :
    (Schema.mk ⟨"MainState", "app", none⟩ []).synthesize.moduleName ≠
      (Schema.mk ⟨"Mainstate", "app", none⟩ []).synthesize.moduleName ∧
    IsAscii "HTTPServer_v2Go".toList ∧
    snakeCase (snakeCase "HTTPServer_v2Go") = snakeCase "HTTPServer_v2Go" ∧
    (snakeCase "HTTPServer_v2Go").toList.filter (· ≠ '_') =
      (lower "HTTPServer_v2Go".toList).filter (· ≠ '_') := by
  have ascii : IsAscii "HTTPServer_v2Go".toList := by decide
  let main : Word := ⟨'M', ['a', 'i', 'n'], rfl, by decide, List.all_eq_true.mp rfl⟩
  let state : Word := ⟨'S', ['t', 'a', 't', 'e'], rfl, by decide, List.all_eq_true.mp rfl⟩
  let whole : Word := ⟨'M', main.tail ++ 's' :: state.tail, rfl, by decide, List.all_eq_true.mp rfl⟩
  exact ⟨snakeCase_spells_words.2.1 _ _ [main, state] [whole] rfl rfl (by decide), ascii,
    snakeCase_spells_words.2.2 _ ascii⟩

end StateContainer.Text
