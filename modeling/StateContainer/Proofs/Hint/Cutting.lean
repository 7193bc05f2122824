/-
This file cuts the annotation of a type into tokens: those of dotted names, square brackets, commas
and bars.

Cutting goes from the left to the right. A word ends where something else begins, brackets are
counted, and what is left of the text is shorter after every token, so that there is enough fuel for
all of it. The tokens of a part of an annotation are therefore the same wherever the part stands, up
to the number of brackets around it.
-/

import Mathlib.Data.List.Forall2
import StateContainer.Hint.Reader
import StateContainer.Proofs.Text
import StateContainer.TypeText

namespace StateContainer

open Hint (Token Expression)
open Hint.Token (Placed Scan Brackets)

namespace TypeText

/-! ### Annotations as expressions -/

/-- Whether a part of a dotted name is a word that expressions take for a name, and as it is. -/
def IsWord (part : String) : Prop :=
  Text.isIdentifier part = true ∧ part ∉ Token.keywords ∧ Text.normalName part = part

instance (part : String) : Decidable (IsWord part) := instDecidableAnd

/-- Whether a written name can be read: it is the null type, or its parts are words. -/
def IsName (name : String) : Prop :=
  name = nullName ∨ ∀ part ∈ Text.dottedParts name, IsWord part

instance (name : String) : Decidable (IsName name) := instDecidableOr

/-- The expression that a written name is. -/
def nameExpression (name : String) : Expression :=
  if name = nullName then .value .null
  else
    match Text.dottedParts name with
    | [] => .name name
    | first :: others => others.foldl .attribute (.name first)

/-- Operands with bars between them, each taken together with what stands before it. -/
def barred : List Expression → Expression
  | [] => .value .null
  | first :: others => others.foldl (.binary "|") first

/-- What stands in square brackets. -/
def indexExpression : List Expression → Expression
  | [only] => only
  | several => .tuple several

mutual

/-- The expression that the annotation of a type is. -/
def expression : Descriptor → Expression
  | ⟨name, nullable, arguments⟩ =>
    let inner := expressions arguments
    let plain :=
      if name = unionName then barred inner
      else if arguments.isEmpty then nameExpression (mapName name)
      else .subscript (nameExpression (mapName name)) (indexExpression inner)
    if nullable then .binary "|" plain (.value .null) else plain

/-- The expressions that the annotations of several types are. -/
def expressions : List Descriptor → List Expression
  | [] => []
  | first :: others => expression first :: expressions others

end

/-- Whether the annotation of a type can be read, be it anywhere or, if it is a single one, between
bars. -/
inductive IsReadable : Bool → Descriptor → Prop
  | plain {single : Bool} {name : String} {arguments : List Descriptor} (named : IsName (mapName name))
      (noUnion : name ≠ unionName) (each : ∀ t ∈ arguments, IsReadable false t) :
      IsReadable single ⟨name, false, arguments⟩
  | orNull {name : String} {arguments : List Descriptor}
      (plain : IsReadable true ⟨name, false, arguments⟩) (notNull : mapName name ≠ nullName) :
      IsReadable false ⟨name, true, arguments⟩
  | union {nullable : Bool} {members : List Descriptor} (each : ∀ t ∈ members, IsReadable true t)
      (several : 2 ≤ members.length) : IsReadable false ⟨unionName, nullable, members⟩

theorem IsReadable.anywhere {single : Bool} {t : Descriptor} (readable : IsReadable single t) :
    IsReadable false t := by
  cases readable with
  | plain named noUnion each => exact .plain named noUnion each
  | orNull plain notNull => exact .orNull plain notNull
  | union each several => exact .union each several

mutual

/-- How deep square brackets are nested in the annotation of a type. -/
def nesting : Descriptor → Nat
  | ⟨name, _, arguments⟩ =>
    if name = unionName then nestingOfAll arguments
    else if arguments.isEmpty then 0
    else nestingOfAll arguments + 1

/-- The depth of the deepest of several types. -/
def nestingOfAll : List Descriptor → Nat
  | [] => 0
  | first :: others => max (nesting first) (nestingOfAll others)

end

/-! ### Tokens -/

/-- A token of the first line. -/
def place (depth : Nat) (token : Token) : Placed := ⟨token, 1, depth⟩

/-- A symbol of the first line. -/
def placeSymbol (depth : Nat) (symbol : String) : Placed := place depth (.symbol symbol)

/-- The tokens of a dotted name. -/
def partTokens (depth : Nat) : List String → List Placed
  | [] => []
  | first :: others =>
    place depth (.name first) ::
      others.flatMap fun part => [placeSymbol depth ".", place depth (.name part)]

/-- The tokens of a written name. -/
def nameTokens (depth : Nat) (name : String) : List Placed :=
  if name = nullName then [place depth (.keyword nullName)]
  else partTokens depth (Text.dottedParts name)

mutual

/-- The tokens of the annotation of a type inside so many brackets. -/
def tokens (depth : Nat) : Descriptor → List Placed
  | ⟨name, nullable, arguments⟩ =>
    let plain :=
      if name = unionName then [placeSymbol depth "|"].intercalate (allTokens depth arguments)
      else if arguments.isEmpty then nameTokens depth (mapName name)
      else
        nameTokens depth (mapName name) ++ placeSymbol (depth + 1) "[" ::
          ([placeSymbol (depth + 1) ","].intercalate (allTokens (depth + 1) arguments) ++
            [placeSymbol depth "]"])
    if nullable then plain ++ [placeSymbol depth "|", place depth (.keyword nullName)] else plain

/-- The tokens of the annotations of several types. -/
def allTokens (depth : Nat) : List Descriptor → List (List Placed)
  | [] => []
  | first :: others => tokens depth first :: allTokens depth others

end

/-! ### Cutting a text -/

/-- Puts tokens in front of those of a scan. -/
def withTokens (found : List Placed) (scan : Scan) : Scan :=
  { scan with tokens := found ++ scan.tokens }

/-- Whether a text gives tokens up to a later part of it. There is a character at least for every
token, so that enough fuel for the text leaves enough of it for the later part. -/
def Cuts (opened : Brackets) (text : List Char) (found : List Placed) (opened' : Brackets)
    (rest : List Char) : Prop :=
  found.length + rest.length ≤ text.length ∧
    ∀ fuel, text.length < fuel → ∃ fuel', rest.length < fuel' ∧
      Token.scanFrom fuel 1 opened text =
        (Token.scanFrom fuel' 1 opened' rest).map (withTokens found)

theorem Cuts.refl (opened : Brackets) (text : List Char) : Cuts opened text [] opened text := by
  refine ⟨Nat.le_of_eq (Nat.zero_add _), fun fuel enough => ⟨fuel, enough, ?_⟩⟩
  cases Token.scanFrom fuel 1 opened text <;> rfl

theorem Cuts.trans {opened opened' opened'' : Brackets} {text middle rest : List Char}
    {found found' : List Placed} (first : Cuts opened text found opened' middle)
    (second : Cuts opened' middle found' opened'' rest) :
    Cuts opened text (found ++ found') opened'' rest := by
  refine ⟨?_, fun fuel enough => ?_⟩
  · have := first.1
    have := second.1
    rw [List.length_append]
    omega
  · obtain ⟨fuel', enough', same⟩ := first.2 fuel enough
    obtain ⟨fuel'', enough'', same'⟩ := second.2 fuel' enough'
    refine ⟨fuel'', enough'', ?_⟩
    rw [same, same']
    cases Token.scanFrom fuel'' 1 opened'' rest with
    | error _ => rfl
    | ok scan =>
      show Except.ok (withTokens found (withTokens found' scan)) = _
      rw [withTokens, withTokens, ← List.append_assoc]
      rfl

/-- One step of the scanner gives at most one token. -/
theorem cuts_of_step {opened opened' : Brackets} {text rest : List Char} {found : List Placed}
    (covered : found.length + rest.length ≤ text.length) (shorter : rest.length < text.length)
    (step : ∀ fuel, Token.scanFrom (fuel + 1) 1 opened text =
      (Token.scanFrom fuel 1 opened' rest).map (withTokens found)) :
    Cuts opened text found opened' rest := by
  refine ⟨covered, fun fuel enough => ?_⟩
  obtain ⟨fuel, rfl⟩ := Nat.exists_eq_add_of_lt (Nat.zero_lt_of_lt enough)
  refine ⟨fuel, by omega, ?_⟩
  rw [Nat.zero_add]
  exact step fuel

theorem cuts_symbol {opened opened' : Brackets} {c : Char} {rest : List Char} {symbol : Placed}
    (step : ∀ fuel, Token.scanFrom (fuel + 1) 1 opened (c :: rest) =
      (Token.scanFrom fuel 1 opened' rest).map (withTokens [symbol])) :
    Cuts opened (c :: rest) [symbol] opened' rest :=
  cuts_of_step (Nat.le_of_eq (Nat.add_comm _ _)) (Nat.lt_succ_self _) step

theorem cuts_blank (opened : Brackets) (rest : List Char) :
    Cuts opened (' ' :: rest) [] opened rest := by
  refine cuts_of_step (by simp) (Nat.lt_succ_self _) fun fuel => ?_
  have blank : Token.scanFrom (fuel + 1) 1 opened (' ' :: rest) = Token.scanFrom fuel 1 opened rest :=
    rfl
  rw [blank]
  cases Token.scanFrom fuel 1 opened rest <;> rfl

theorem cuts_comma (opened : Brackets) (rest : List Char) :
    Cuts opened (',' :: rest) [placeSymbol opened.length ","] opened rest :=
  cuts_symbol fun _ => rfl

theorem cuts_bar (opened : Brackets) (rest : List Char) :
    Cuts opened ('|' :: ' ' :: rest) [placeSymbol opened.length "|"] opened (' ' :: rest) :=
  cuts_symbol fun _ => rfl

/-- A symbol without a word in front of it is cut off. -/
theorem scanWord_symbol {scanRest : Brackets → List Char → Except Hint.Problem Token.Scan} {line : Nat}
    {opened next : Brackets} {c : Char} {others rest : List Char} {found : String}
    (symbol : Token.takeSymbol (c :: others) = some (found, rest))
    (brackets : Token.bracketsAfter line opened c = .ok next) :
    Token.scanWord scanRest line opened [] (c :: others) =
      Token.consToken line next (.symbol found) (scanRest next rest) := by
  unfold Token.scanWord
  rw [if_pos List.isEmpty_nil, symbol]
  dsimp only
  rw [brackets]

theorem cuts_open {opened : Brackets} (room : opened.length < Token.bracketLimit) (rest : List Char) :
    Cuts opened ('[' :: rest) [placeSymbol (opened.length + 1) "["] (('[', 1) :: opened) rest := by
  refine cuts_symbol fun fuel => ?_
  have brackets : Token.bracketsAfter 1 opened '[' = .ok (('[', 1) :: opened) := by
    unfold Token.bracketsAfter
    rw [if_pos (by decide), if_neg (Nat.not_le.mpr room)]
  have noWord : Token.scanFrom (fuel + 1) 1 opened ('[' :: rest) =
      Token.scanWord (Token.scanFrom fuel 1) 1 opened [] ('[' :: rest) := rfl
  rw [noWord, scanWord_symbol rfl brackets]
  rfl

theorem cuts_close (opened : Brackets) (rest : List Char) :
    Cuts (('[', 1) :: opened) (']' :: rest) [placeSymbol opened.length "]"] opened rest :=
  cuts_symbol fun _ => rfl

/-! ### Words -/

theorem continuesWord_of_continue {c : Char} (continues : Text.isIdentifierContinue c = true) :
    Token.continuesWord c = true := by
  unfold Text.isIdentifierContinue at continues
  unfold Token.continuesWord
  split at continues
  · rw [continues, Bool.true_or]
  · next beyond => rw [decide_eq_true (Nat.not_lt.mp beyond), Bool.or_true]

theorem continuesWord_of_start {c : Char} (start : Text.isIdentifierStart c = true) :
    Token.continuesWord c = true := by
  unfold Text.isIdentifierStart at start
  unfold Token.continuesWord
  split at start
  · rw [Char.isAlphanum]
    rcases Bool.or_eq_true _ _ ▸ start with letter | underscore
    · rw [letter]
      rfl
    · rw [underscore, Bool.or_true, Bool.true_or]
  · next beyond => rw [decide_eq_true (Nat.not_lt.mp beyond), Bool.or_true]

/-- A word does not begin with a digit. -/
theorem isDigit_of_start {c : Char} (start : Text.isIdentifierStart c = true) : c.isDigit = false := by
  unfold Text.isIdentifierStart at start
  rw [← Bool.not_eq_true]
  intro digit
  simp only [Char.isDigit, Bool.and_eq_true, decide_eq_true_eq, ge_iff_le,
    UInt32.le_iff_toNat_le] at digit
  have low : c.toNat ≤ 57 := digit.2
  split at start
  · rcases Bool.or_eq_true_iff.mp start with letter | underscore
    · rcases Bool.or_eq_true_iff.mp (letter : (c.isUpper || c.isLower) = true) with upper | lower
      · have bounds : c.val ≥ 65 ∧ c.val ≤ 90 := of_decide_eq_true upper
        exact absurd (Nat.le_trans (UInt32.le_iff_toNat_le.mp bounds.1) low) (by decide)
      · have bounds : (decide (c.val ≥ 97) && decide (c.val ≤ 122)) = true := lower
        have least := of_decide_eq_true (Bool.and_eq_true_iff.mp bounds).1
        exact absurd (Nat.le_trans (UInt32.le_iff_toNat_le.mp least) low) (by decide)
    · rw [beq_iff_eq.mp underscore] at low
      exact absurd low (by decide)
  · omega

/-- A word begins with no other character than those of words. -/
theorem ne_of_start {c d : Char} (start : Text.isIdentifierStart c = true)
    (other : Token.continuesWord d = false) : c ≠ d := by
  rintro rfl
  rw [continuesWord_of_start start] at other
  cases other

theorem isBlankInLine_of_start {c : Char} (start : Text.isIdentifierStart c = true) :
    Token.isBlankInLine c = false := by
  simp only [Token.isBlankInLine, Bool.or_eq_false_iff, beq_eq_false_iff_ne]
  exact ⟨⟨ne_of_start start rfl, ne_of_start start rfl⟩, ne_of_start start rfl⟩

/-- Whether a word ends in front of a text. -/
def EndsWord (rest : List Char) : Prop :=
  ∀ c, rest.head? = some c → c ∈ [' ', ',', '.', '[', ']']

theorem takeWhile_word {word rest : List Char} (continues : ∀ c ∈ word, Token.continuesWord c = true)
    (ends : EndsWord rest) : (word ++ rest).takeWhile Token.continuesWord = word := by
  rw [List.takeWhile_append_of_pos continues]
  cases rest with
  | nil => rw [List.takeWhile_nil, List.append_nil]
  | cons c rest =>
    have stops : Token.continuesWord c = false := by
      have := ends c rfl
      simp only [List.mem_cons, List.not_mem_nil, or_false] at this
      rcases this with rfl | rfl | rfl | rfl | rfl <;> rfl
    rw [List.takeWhile_cons_of_neg (by rw [stops]; exact Bool.false_ne_true), List.append_nil]

/-- A word at the start of a text is cut off as a whole. -/
theorem scanFrom_word {c : Char} {others rest : List Char} (start : Text.isIdentifierStart c = true)
    (continues : ∀ d ∈ others, Text.isIdentifierContinue d = true) (ends : EndsWord rest) (fuel : Nat)
    (opened : Brackets) :
    Token.scanFrom (fuel + 1) 1 opened (c :: (others ++ rest)) =
      Token.scanWord (Token.scanFrom fuel 1) 1 opened (c :: others) rest := by
  have word : (c :: (others ++ rest)).takeWhile Token.continuesWord = c :: others := by
    rw [← List.cons_append]
    exact takeWhile_word (List.forall_mem_cons.mpr ⟨continuesWord_of_start start,
      fun d member => continuesWord_of_continue (continues d member)⟩) ends
  have after : (c :: (others ++ rest)).drop (c :: others).length = rest := by
    rw [← List.cons_append, List.drop_left]
  rw [Token.scanFrom]
  · simp only [isBlankInLine_of_start start, ne_of_start start (d := '\n') rfl, isDigit_of_start start,
      ne_of_start start (d := '.') rfl, word, after,
      Bool.false_eq_true, if_false, decide_false, Bool.false_and, Bool.or_false]
    split
    · next quote _ head _ =>
      have unquoted : (decide (quote = '\'') || decide (quote = '"')) = false := by
        have listed := ends quote head
        simp only [List.mem_cons, List.not_mem_nil, or_false] at listed
        rcases listed with rfl | rfl | rfl | rfl | rfl <;> rfl
      rw [if_neg (by rw [unquoted]; exact Bool.false_ne_true)]
    · rfl
  · exact ne_of_start start rfl
  · exact fun _ same _ => ne_of_start start rfl same
  · exact ne_of_start start rfl

theorem cuts_word {part : String} (named : Text.isIdentifier part = true) (opened : Brackets)
    {rest : List Char} (ends : EndsWord rest) :
    Cuts opened (part.toList ++ rest) [place opened.length (Token.ofWord part)] opened rest := by
  unfold Text.isIdentifier at named
  obtain ⟨c, others, letters⟩ : ∃ c others, part.toList = c :: others := by
    cases letters : part.toList with
    | nil => rw [letters] at named; cases named
    | cons c others => exact ⟨c, others, rfl⟩
  rw [letters, Text.isIdentifierChars, Bool.and_eq_true, List.all_eq_true] at named
  obtain ⟨start, continues⟩ := named
  have own : Token.foreign? (c :: others) = none := by
    rw [Token.foreign?, if_pos start, List.find?_eq_none]
    intro d member
    rw [continues d member]
    exact Bool.false_ne_true
  rw [letters]
  refine cuts_of_step ?_ ?_ fun fuel => ?_
  · simp only [List.length_cons, List.length_nil, List.length_append]
    omega
  · simp only [List.length_append, List.length_cons]
    omega
  · have whole : String.ofList (c :: others) = part := by rw [← letters, String.ofList_toList]
    rw [List.cons_append, scanFrom_word start continues ends]
    unfold Token.scanWord
    rw [if_neg (by rw [List.isEmpty_cons]; exact Bool.false_ne_true), own, whole]
    rfl

/-- The dot between the parts of a name is cut off in front of a word. -/
theorem cuts_dot {part : String} (named : Text.isIdentifier part = true) (opened : Brackets)
    (rest : List Char) :
    Cuts opened ('.' :: (part.toList ++ rest)) [placeSymbol opened.length "."] opened
      (part.toList ++ rest) := by
  unfold Text.isIdentifier at named
  cases letters : part.toList with
  | nil => rw [letters] at named; cases named
  | cons c others =>
    rw [letters, Text.isIdentifierChars, Bool.and_eq_true] at named
    have notDot : ('.' == c) = false := by
      rw [beq_eq_false_iff_ne]
      rintro rfl
      cases named.1
    refine cuts_symbol fun fuel => ?_
    have symbol : Token.takeSymbol ('.' :: (c :: others ++ rest)) = some (".", c :: others ++ rest) := by
      simp [Token.takeSymbol, Token.symbols, List.isPrefixOf, notDot]
      rfl
    have noNumber : Token.scanFrom (fuel + 1) 1 opened ('.' :: (c :: others ++ rest)) =
        Token.scanWord (Token.scanFrom fuel 1) 1 opened [] ('.' :: (c :: others ++ rest)) := by
      rw [Token.scanFrom]
      · simp only [List.cons_append, List.head?_cons, Option.map_some, Option.getD_some,
          isDigit_of_start named.1]
        rfl
      · exact fun same => absurd same (by decide)
      · exact fun _ same => absurd same (by decide)
      · exact fun same => absurd same (by decide)
    rw [noNumber, scanWord_symbol symbol rfl]
    rfl

/-! ### Names -/

theorem endsWord_cons {c : Char} (listed : c ∈ [' ', ',', '.', '[', ']']) (rest : List Char) :
    EndsWord (c :: rest) := by
  rintro _ ⟨⟩
  exact listed

theorem endsWord_nil : EndsWord [] := nofun

theorem ofWord_of_isWord {part : String} (word : IsWord part) : Token.ofWord part = .name part := by
  obtain ⟨-, noKeyword, normal⟩ := word
  rw [Token.ofWord, if_neg (by rwa [List.contains_iff_mem]), normal]

theorem cuts_parts {parts : List String} (some : parts ≠ []) (words : ∀ part ∈ parts, IsWord part)
    (opened : Brackets) {rest : List Char} (ends : EndsWord rest) :
    Cuts opened (Text.joined '.' (parts.map String.toList) ++ rest) (partTokens opened.length parts)
      opened rest := by
  induction parts with
  | nil => exact absurd rfl some
  | cons first others inductionHypothesis =>
    obtain ⟨own, later⟩ := List.forall_mem_cons.mp words
    cases others with
    | nil =>
      have cuts := cuts_word own.1 opened ends
      rw [ofWord_of_isWord own] at cuts
      exact cuts
    | cons next others =>
      have cuts := cuts_word own.1 opened (endsWord_cons (c := '.') (by decide)
        (Text.joined '.' ((next :: others).map String.toList) ++ rest))
      have dot : Cuts opened ('.' :: (Text.joined '.' ((next :: others).map String.toList) ++ rest))
          [placeSymbol opened.length "."] opened
          (Text.joined '.' ((next :: others).map String.toList) ++ rest) := by
        cases others with
        | nil => exact cuts_dot (later next List.mem_cons_self).1 opened rest
        | cons _ _ =>
          have dot := cuts_dot (later next List.mem_cons_self).1 opened
          simp only [List.map_cons, Text.joined, List.append_assoc]
          exact dot _
      rw [ofWord_of_isWord own] at cuts
      have all := (cuts.trans dot).trans (inductionHypothesis (List.cons_ne_nil _ _) later)
      simp only [List.map_cons, Text.joined, List.append_assoc] at all ⊢
      exact all

/-- A written name gives its tokens. -/
theorem cuts_name {name : String} (named : IsName name) (opened : Brackets) {rest : List Char}
    (ends : EndsWord rest) :
    Cuts opened (name.toList ++ rest) (nameTokens opened.length name) opened rest := by
  unfold nameTokens
  split
  · next null =>
    rw [null]
    exact cuts_word (by decide) opened ends
  · next notNull =>
    have cuts :=
      cuts_parts (Text.dottedParts_ne_nil name) (named.resolve_left notNull) opened ends
    rwa [Text.joined_dottedParts] at cuts

/-! ### Whole annotations -/

theorem allTokens_eq_map (depth : Nat) (types : List Descriptor) :
    allTokens depth types = types.map (tokens depth) := by
  induction types with
  | nil => rfl
  | cons first others inductionHypothesis => rw [allTokens, inductionHypothesis, List.map_cons]

theorem expressions_eq_map (types : List Descriptor) : expressions types = types.map expression := by
  induction types with
  | nil => rfl
  | cons first others inductionHypothesis => rw [expressions, inductionHypothesis, List.map_cons]

theorem nesting_le_of_mem {types : List Descriptor} {t : Descriptor} (member : t ∈ types) :
    nesting t ≤ nestingOfAll types := by
  induction types with
  | nil => cases member
  | cons first others inductionHypothesis =>
    rw [nestingOfAll]
    rcases List.mem_cons.mp member with rfl | later
    · exact Nat.le_max_left _ _
    · exact Nat.le_trans (inductionHypothesis later) (Nat.le_max_right _ _)

/-- Texts with a separator between them give their tokens with those of the separator between
them. -/
theorem cuts_intercalate {opened : Brackets} {separator : List Char} {between : List Placed}
    (apart : ∀ rest, Cuts opened (separator ++ rest) between opened rest)
    (follows : ∀ rest, EndsWord (separator ++ rest)) {types : List Descriptor}
    (each : ∀ t ∈ types, ∀ rest, EndsWord rest →
      Cuts opened ((write t).toList ++ rest) (tokens opened.length t) opened rest)
    {rest : List Char} (ends : EndsWord rest) :
    Cuts opened (separator.intercalate (types.map fun t => (write t).toList) ++ rest)
      (between.intercalate (types.map (tokens opened.length))) opened rest := by
  induction types with
  | nil => exact Cuts.refl opened rest
  | cons first others inductionHypothesis =>
    obtain ⟨own, later⟩ := List.forall_mem_cons.mp each
    cases others with
    | nil =>
      rw [List.map_singleton, List.map_singleton, List.intercalate_singleton,
        List.intercalate_singleton]
      exact own rest ends
    | cons next others =>
      simp only [List.map_cons, List.intercalate_cons_cons, List.append_assoc] at inductionHypothesis ⊢
      exact (own _ (follows _)).trans ((apart _).trans (inductionHypothesis later))

theorem cuts_commaSpace (opened : Brackets) (rest : List Char) :
    Cuts opened (", ".toList ++ rest) [placeSymbol opened.length ","] opened rest :=
  (cuts_comma opened (' ' :: rest)).trans (cuts_blank opened rest)

theorem cuts_spacedBar (opened : Brackets) (rest : List Char) :
    Cuts opened (" | ".toList ++ rest) [placeSymbol opened.length "|"] opened rest :=
  (cuts_blank opened _).trans ((cuts_bar opened rest).trans (cuts_blank opened rest))

/-- The null type behind a bar gives two tokens. -/
theorem cuts_orNull {opened : Brackets} {text rest : List Char} {found : List Placed}
    (cuts : ∀ rest, EndsWord rest → Cuts opened (text ++ rest) found opened rest)
    (ends : EndsWord rest) :
    Cuts opened (text ++ (" | " ++ nullName).toList ++ rest)
      (found ++ [placeSymbol opened.length "|", place opened.length (.keyword nullName)]) opened rest := by
  have null :
      Cuts opened (nullName.toList ++ rest) [place opened.length (.keyword nullName)] opened rest :=
    cuts_word (by decide) opened ends
  have all := (cuts _ (endsWord_cons (by decide) _)).trans ((cuts_spacedBar opened _).trans null)
  rw [String.toList_append, List.append_assoc, List.append_assoc]
  exact all

theorem write_eq_orNull (name : String) (nullable : Bool) (arguments : List Descriptor) :
    write ⟨name, nullable, arguments⟩ = orNull nullable (write ⟨name, false, arguments⟩) := by
  rw [write, write]
  rfl

theorem write_plain {name : String} (noUnion : name ≠ unionName) (arguments : List Descriptor) :
    write ⟨name, false, arguments⟩ =
      if arguments.isEmpty then mapName name
      else mapName name ++ "[" ++ ", ".intercalate (arguments.map write) ++ "]" := by
  rw [write, orNull, if_neg (by simp), if_neg noUnion, writeAll_eq_map]

theorem write_union (members : List Descriptor) :
    write ⟨unionName, false, members⟩ = " | ".intercalate (members.map write) := by
  rw [write, orNull, if_neg (by simp), if_pos rfl, writeAll_eq_map]

theorem write_ne_null {name : String} {arguments : List Descriptor} (noUnion : name ≠ unionName)
    (notNull : mapName name ≠ nullName) : write ⟨name, false, arguments⟩ ≠ nullName := by
  rw [write_plain noUnion]
  split
  · exact notNull
  · intro same
    have bracket :
        '[' ∈ (mapName name ++ "[" ++ ", ".intercalate (arguments.map write) ++ "]").toList := by
      simp
    rw [same] at bracket
    exact absurd bracket (by decide)

theorem write_union_ne_null {members : List Descriptor} (several : 2 ≤ members.length) :
    write ⟨unionName, false, members⟩ ≠ nullName := by
  intro same
  have bar : '|' ∈ (write ⟨unionName, false, members⟩).toList := by
    rw [write_union, String.toList_intercalate]
    match members, several with
    | first :: second :: others, _ =>
      rw [List.map_cons, List.map_cons, List.map_cons, List.map_cons, List.intercalate_cons_cons]
      exact List.mem_append_left _ (List.mem_append_right _ (by decide))
  rw [same] at bar
  exact absurd bar (by decide)

/-- A name with arguments gives its tokens and theirs, if there is room for a bracket. -/
theorem cuts_applied {name : String} (named : IsName name) {opened : Brackets}
    (room : opened.length < Token.bracketLimit) {arguments : List Descriptor}
    (each : ∀ t ∈ arguments, ∀ rest, EndsWord rest →
      Cuts (('[', 1) :: opened) ((write t).toList ++ rest) (tokens (opened.length + 1) t)
        (('[', 1) :: opened) rest) (rest : List Char) :
    Cuts opened ((name ++ "[" ++ ", ".intercalate (arguments.map write) ++ "]").toList ++ rest)
      (nameTokens opened.length name ++ placeSymbol (opened.length + 1) "[" ::
        ([placeSymbol (opened.length + 1) ","].intercalate
          (arguments.map (tokens (opened.length + 1))) ++ [placeSymbol opened.length "]"]))
      opened rest := by
  have inner := cuts_intercalate (cuts_commaSpace _)
    (fun _ => endsWord_cons (c := ',') (by decide) _) each (endsWord_cons (c := ']') (by decide) rest)
  have all := (cuts_name named opened (endsWord_cons (c := '[') (by decide) _)).trans
    ((cuts_open room _).trans (inner.trans (cuts_close opened rest)))
  have text : (name ++ "[" ++ ", ".intercalate (arguments.map write) ++ "]").toList ++ rest =
      name.toList ++ '[' :: (", ".toList.intercalate
        (arguments.map fun t => (write t).toList) ++ ']' :: rest) := by
    simp only [String.toList_append, String.toList_intercalate, List.map_map, List.append_assoc]
    rfl
  rw [text]
  exact all

/-- The annotation of a type gives its tokens, if there is room for its brackets. -/
theorem cuts_write {single : Bool} {t : Descriptor} (readable : IsReadable single t) :
    ∀ opened : Brackets, opened.length + nesting t ≤ Token.bracketLimit → ∀ rest, EndsWord rest →
      Cuts opened ((write t).toList ++ rest) (tokens opened.length t) opened rest := by
  induction readable with
  | @plain single name arguments named noUnion each inductionHypothesis =>
    intro opened room rest ends
    rw [write_plain noUnion, tokens, if_neg noUnion, if_neg Bool.false_ne_true]
    by_cases empty : arguments.isEmpty = true
    · rw [if_pos empty, if_pos empty]
      exact cuts_name named opened ends
    · rw [if_neg empty, if_neg empty, allTokens_eq_map]
      rw [nesting, if_neg noUnion, if_neg empty] at room
      refine cuts_applied named (by omega) (fun t member rest ends => ?_) rest
      have deeper := nesting_le_of_mem member
      refine inductionHypothesis t member _ ?_ rest ends
      rw [List.length_cons]
      omega
  | orNull plain notNull inductionHypothesis =>
    intro opened room rest ends
    cases plain with
    | plain named noUnion each =>
      rw [write_eq_orNull, orNull, if_pos (by simp [write_ne_null noUnion notNull])]
      have own := inductionHypothesis opened (by rwa [nesting] at room ⊢)
      have all := cuts_orNull (own) ends
      rw [String.append_assoc, String.toList_append]
      rw [tokens, if_neg Bool.false_ne_true] at all
      rw [tokens, if_pos rfl]
      exact all
  | @union nullable members each several inductionHypothesis =>
    intro opened room rest ends
    rw [nesting, if_pos rfl] at room
    have own : ∀ rest, EndsWord rest →
        Cuts opened ((write ⟨unionName, false, members⟩).toList ++ rest)
          ([placeSymbol opened.length "|"].intercalate (members.map (tokens opened.length))) opened
          rest := by
      intro rest ends
      rw [write_union, String.toList_intercalate, List.map_map]
      exact cuts_intercalate (cuts_spacedBar opened) (fun _ => endsWord_cons (c := ' ') (by decide) _)
        (fun t member => inductionHypothesis t member opened (by
          have := nesting_le_of_mem member
          omega)) ends
    rw [tokens, if_pos rfl, allTokens_eq_map, write_eq_orNull]
    cases nullable with
    | false =>
      exact own rest ends
    | true =>
      rw [orNull, if_pos (by simp [write_union_ne_null several]), if_pos rfl, String.append_assoc,
        String.toList_append]
      exact cuts_orNull own ends

/-! ### The whole text -/

/-- The characters that stand in words and between them. -/
def isWritten (c : Char) : Bool :=
  Token.continuesWord c || [' ', ',', '.', '[', ']', '|'].contains c

/-- Whether a text is a line that begins with a word. -/
def IsLine (text : List Char) : Prop :=
  (∃ c, text.head? = some c ∧ Text.isIdentifierStart c = true) ∧ ∀ c ∈ text, isWritten c = true

theorem IsLine.append {text others : List Char} (line : IsLine text)
    (more : ∀ c ∈ others, isWritten c = true) :
    IsLine (text ++ others) := by
  obtain ⟨⟨c, head, start⟩, each⟩ := line
  refine ⟨⟨c, ?_, start⟩, List.forall_mem_append.mpr ⟨each, more⟩⟩
  rw [List.head?_append, head]
  rfl

theorem isLine_word {part : String} (named : Text.isIdentifier part = true) : IsLine part.toList := by
  unfold Text.isIdentifier at named
  cases letters : part.toList with
  | nil => rw [letters] at named; cases named
  | cons c others =>
    rw [letters, Text.isIdentifierChars, Bool.and_eq_true, List.all_eq_true] at named
    refine ⟨⟨c, rfl, named.1⟩, List.forall_mem_cons.mpr ⟨?_, fun d member => ?_⟩⟩
    · rw [isWritten, continuesWord_of_start named.1, Bool.true_or]
    · rw [isWritten, continuesWord_of_continue (named.2 d member), Bool.true_or]

theorem isLine_parts {parts : List String} (some : parts ≠ []) (words : ∀ part ∈ parts, IsWord part) :
    IsLine (Text.joined '.' (parts.map String.toList)) := by
  induction parts with
  | nil => exact absurd rfl some
  | cons first others inductionHypothesis =>
    obtain ⟨own, later⟩ := List.forall_mem_cons.mp words
    cases others with
    | nil => exact isLine_word own.1
    | cons next others =>
      exact (isLine_word own.1).append (List.forall_mem_cons.mpr
        ⟨by decide, (inductionHypothesis (List.cons_ne_nil _ _) later).2⟩)

theorem isLine_name {name : String} (named : IsName name) : IsLine name.toList := by
  rcases named with rfl | words
  · exact isLine_word (by decide)
  · have line := isLine_parts (Text.dottedParts_ne_nil name) words
    rwa [Text.joined_dottedParts] at line

/-- What is true of all items of a separator and of some lists is true of all items of the lists with
the separator between them. -/
theorem forall_mem_intercalate {α : Type} {holds : α → Prop} {separator : List α}
    (own : ∀ item ∈ separator, holds item) {lists : List (List α)}
    (each : ∀ list ∈ lists, ∀ item ∈ list, holds item) :
    ∀ item ∈ separator.intercalate lists, holds item := by
  induction lists with
  | nil => exact List.forall_mem_nil _
  | cons first others inductionHypothesis =>
    obtain ⟨here, later⟩ := List.forall_mem_cons.mp each
    cases others with
    | nil =>
      rw [List.intercalate_singleton]
      exact here
    | cons next others =>
      rw [List.intercalate_cons_cons]
      exact List.forall_mem_append.mpr
        ⟨List.forall_mem_append.mpr ⟨here, own⟩, inductionHypothesis later⟩

/-- The annotation of a type is a line. -/
theorem isLine_write {single : Bool} {t : Descriptor} (readable : IsReadable single t) :
    IsLine (write t).toList := by
  have orNull : ∀ text : String, IsLine text.toList →
      ∀ nullable, IsLine (orNull nullable text).toList := by
    intro text line nullable
    unfold TypeText.orNull
    split
    · rw [String.append_assoc, String.toList_append]
      exact line.append (List.all_eq_true.mp (by decide))
    · exact line
  induction readable with
  | @plain single name arguments named noUnion each inductionHypothesis =>
    rw [write_plain noUnion]
    split
    · exact isLine_name named
    · rw [String.append_assoc, String.append_assoc, String.toList_append]
      refine (isLine_name named).append ?_
      rw [String.toList_append, String.toList_append, String.toList_intercalate, List.map_map]
      refine List.forall_mem_append.mpr ⟨List.all_eq_true.mp (by decide),
        List.forall_mem_append.mpr ⟨?_, List.all_eq_true.mp (by decide)⟩⟩
      refine forall_mem_intercalate (List.all_eq_true.mp (by decide))
        (List.forall_mem_map.mpr fun t member => ?_)
      exact (inductionHypothesis t member).2
  | orNull plain notNull inductionHypothesis =>
    rw [write_eq_orNull]
    exact orNull _ inductionHypothesis _
  | @union nullable members each several inductionHypothesis =>
    rw [write_eq_orNull]
    refine orNull _ ?_ _
    rw [write_union, String.toList_intercalate]
    match members, several with
    | first :: second :: others, _ =>
      obtain ⟨own, later⟩ := List.forall_mem_cons.mp inductionHypothesis
      rw [List.map_cons, List.map_cons, List.map_cons, List.map_cons, List.intercalate_cons_cons,
        List.append_assoc]
      refine own.append (List.forall_mem_append.mpr ⟨List.all_eq_true.mp (by decide), ?_⟩)
      rw [← List.map_cons, ← List.map_cons, List.map_map]
      exact forall_mem_intercalate (List.all_eq_true.mp (by decide))
        (List.forall_mem_map.mpr fun t member => (later t member).2)

theorem withLineFeeds_of_not_mem {text : List Char} (free : '\r' ∉ text) :
    Token.withLineFeeds text = text := by
  induction text with
  | nil => rfl
  | cons c rest inductionHypothesis =>
    rw [List.mem_cons, not_or] at free
    rw [Token.withLineFeeds, inductionHypothesis free.2]
    · exact fun _ same _ => free.1 same.symm
    · exact fun same => free.1 same.symm

/-- A line that begins with a word is the first one. -/
theorem firstLine_of_isLine {text : List Char} (line : IsLine text) (lines : Nat) :
    Token.firstLine 1 (lines + 1) text = .ok (1, text) := by
  obtain ⟨⟨c, head, start⟩, -⟩ := line
  obtain ⟨rest, rfl⟩ : ∃ rest, text = c :: rest := by
    cases text with
    | nil => cases head
    | cons d rest => exact ⟨rest, by rw [Option.some.inj head]⟩
  have visible : Token.dropRemark ((c :: rest).dropWhile Token.isBlankInLine) = c :: rest := by
    rw [List.dropWhile_cons_of_neg (by rw [isBlankInLine_of_start start]; exact Bool.false_ne_true),
      Token.dropRemark]
    exact fun _ same => ne_of_start start rfl (List.cons.inj same).1
  rw [Token.firstLine, visible]
  simp [ne_of_start start (d := '\n') rfl, isBlankInLine_of_start start]

/-- The annotation of a type is cut into its tokens, unless brackets are nested too deep in it. -/
theorem scan_write {single : Bool} {t : Descriptor} (readable : IsReadable single t)
    (shallow : nesting t ≤ Token.bracketLimit) :
    Token.scan (write t).toList = .ok { tokens := tokens 0 t } ∧
      (tokens 0 t).length ≤ (write t).toList.length := by
  obtain ⟨covered, step⟩ := cuts_write readable [] (by simpa using shallow) [] endsWord_nil
  rw [List.append_nil] at covered step
  refine ⟨?_, covered⟩
  have line := isLine_write readable
  have free : ∀ c, isWritten c = false → c ∉ (write t).toList := fun c other member => by
    rw [line.2 c member] at other
    cases other
  obtain ⟨fuel, positive, same⟩ := step _ (Nat.lt_succ_self _)
  obtain ⟨fuel, rfl⟩ := Nat.exists_eq_add_of_lt (Nat.zero_lt_of_lt positive)
  rw [Token.scan, if_neg (by simpa using free '\x00' rfl),
    withLineFeeds_of_not_mem (free '\r' rfl)]
  dsimp only
  rw [firstLine_of_isLine line]
  refine same.trans ?_
  rw [Nat.zero_add, Token.scanFrom]
  show Except.ok (withTokens (tokens 0 t) {}) = _
  rw [withTokens, List.append_nil]

end TypeText

end StateContainer
