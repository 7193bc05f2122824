/-
This file shows that the annotation of a type is read as the expression that it is meant to be: a
dotted name, a name with arguments in square brackets, or operands with bars between them.

The functions that read call each other from the weakest to the strongest operator. Behind an operand
stands a bar, a comma, a closing bracket or nothing, and none of these is an operator of a stronger
level than the bar, so that all of them leave the operand as it is. Sixteen steps are enough for a
token, and the fuel is twice as much for every character.
-/

import StateContainer.Proofs.Hint.Cutting

namespace StateContainer

open Hint (Token Expression Reader.Reading)
open Hint.Token (Placed)
open Hint.Reader

namespace TypeText

/-! ### Single steps -/

section
variable {α β : Type} {tokens rest : List Placed}

/-- What goes on with something that is read begins behind it. -/
theorem bind_of_eq_ok {reading : Reading α} {next : α → Reading β} {made : α}
    (read : reading tokens = .ok (made, rest)) : (reading >>= next) tokens = next made rest := by
  show (reading tokens >>= fun result => next result.1 result.2) = _
  rw [read]
  rfl

/-- The next token of tokens. -/
def nextToken? (tokens : List Placed) : Option Token :=
  tokens.head?.map (·.token)

theorem exists_of_nextToken? {token : Token} (next : nextToken? tokens = some token) :
    ∃ line depth others, tokens = ⟨token, line, depth⟩ :: others := by
  cases tokens with
  | nil => cases next
  | cons placed others =>
    obtain ⟨found, line, depth⟩ := placed
    obtain rfl := Option.some.inj next
    exact ⟨line, depth, others, rfl⟩

theorem takeSymbol_of_ne {symbol : String} (other : nextToken? tokens ≠ some (.symbol symbol)) :
    takeSymbol symbol tokens = .ok (false, tokens) := by
  cases tokens with
  | nil => rfl
  | cons placed others =>
    obtain ⟨token, line, depth⟩ := placed
    cases token with
    | symbol found =>
      have differ : ¬found = symbol := by
        rintro rfl
        exact other rfl
      show (if found = symbol then (do advance; return true) else (return false) : Reading Bool) _ = _
      rw [if_neg differ]
      rfl
    | _ => rfl

theorem takeSymbol_placeSymbol (symbol : String) (depth : Nat) (rest : List Placed) :
    takeSymbol symbol (placeSymbol depth symbol :: rest) = .ok (true, rest) := by
  show (if symbol = symbol then (do advance; return true) else (return false) : Reading Bool) _ = _
  rw [if_pos rfl]
  rfl

theorem takeKeyword_of_ne {word : String} (other : nextToken? tokens ≠ some (.keyword word)) :
    takeKeyword word tokens = .ok (false, tokens) := by
  cases tokens with
  | nil => rfl
  | cons placed others =>
    obtain ⟨token, line, depth⟩ := placed
    cases token with
    | keyword found =>
      have differ : ¬found = word := by
        rintro rfl
        exact other rfl
      show (if found = word then (do advance; return true) else (return false) : Reading Bool) _ = _
      rw [if_neg differ]
      rfl
    | _ => rfl

end

/-! ### What stands behind an operand -/

/-- Whether one of the given symbols comes next, or nothing at all. -/
def Follows (symbols : List String) (rest : List Placed) : Prop :=
  ∀ token, nextToken? rest = some token → ∃ symbol ∈ symbols, token = .symbol symbol

section
variable {symbols : List String} {rest : List Placed}

theorem follows_placeSymbol {symbol : String} (listed : symbol ∈ symbols) (depth : Nat) :
    Follows symbols (placeSymbol depth symbol :: rest) := by
  rintro _ ⟨⟩
  exact ⟨symbol, listed, rfl⟩

theorem Follows.takeSymbol (follows : Follows symbols rest) {symbol : String}
    (other : symbol ∉ symbols) : takeSymbol symbol rest = .ok (false, rest) := by
  refine takeSymbol_of_ne fun next => ?_
  obtain ⟨found, listed, same⟩ := follows _ next
  exact other (Token.symbol.inj same ▸ listed)

theorem Follows.takeKeyword (follows : Follows symbols rest) (word : String) :
    takeKeyword word rest = .ok (false, rest) := by
  refine takeKeyword_of_ne fun next => ?_
  obtain ⟨found, -, same⟩ := follows _ next
  cases same

theorem Follows.mono {more : List String} (follows : Follows symbols rest) (subset : symbols ⊆ more) :
    Follows more rest := by
  intro token next
  obtain ⟨found, listed, same⟩ := follows token next
  exact ⟨found, subset listed, same⟩

/-- What follows is nothing or one of the symbols. -/
theorem Follows.cases (follows : Follows symbols rest) :
    rest = [] ∨
      ∃ symbol ∈ symbols, ∃ line depth others, rest = ⟨.symbol symbol, line, depth⟩ :: others := by
  cases rest with
  | nil => exact .inl rfl
  | cons placed others =>
    obtain ⟨token, line, depth⟩ := placed
    obtain ⟨symbol, listed, rfl⟩ := follows token rfl
    exact .inr ⟨symbol, listed, line, depth, others, rfl⟩

end

/-- The symbols behind a whole expression. -/
def closers : List String := [",", "]"]

/-- The symbols behind an operand of the bar. -/
def operandEnds : List String := ["|", ",", "]"]

/-! ### Names -/

/-- Whether tokens begin with a name or the null type. -/
def BeginsName (tokens : List Placed) : Prop :=
  (∃ part, nextToken? tokens = some (.name part)) ∨ nextToken? tokens = some (.keyword nullName)

/-- The attributes behind a name are read one after the other. -/
theorem readSuffixes_parts (depth : Nat) {rest : List Placed} {need : Nat}
    {result : Except Stop (Expression × List Placed)} {parts : List String} :
    ∀ {base : Expression} {fuel : Nat}, parts.length + need ≤ fuel →
      (∀ fuel, need ≤ fuel → readSuffixes fuel (parts.foldl .attribute base) rest = result) →
      readSuffixes fuel base
        ((parts.flatMap fun part => [placeSymbol depth ".", place depth (.name part)]) ++ rest) = result := by
  induction parts with
  | nil => exact fun enough reads => reads _ (by simpa using enough)
  | cons first others inductionHypothesis =>
    intro base fuel enough reads
    rw [List.length_cons] at enough
    obtain ⟨fuel, rfl⟩ : ∃ less, fuel = less + 1 := ⟨fuel - 1, by omega⟩
    have later : readSuffixes fuel (.attribute base first)
        ((others.flatMap fun part => [placeSymbol depth ".", place depth (.name part)]) ++ rest) =
          result := inductionHypothesis (by omega) reads
    exact later

/-- A name is read before what stands behind it. -/
theorem readAtom_name {name : String} (depth need : Nat) {rest : List Placed} {fuel : Nat}
    {result : Except Stop (Expression × List Placed)}
    (enough : (nameTokens depth name).length + need ≤ fuel)
    (reads : ∀ fuel, need ≤ fuel → readSuffixes fuel (nameExpression name) rest = result) :
    ∃ atom behind, readAtom fuel (nameTokens depth name ++ rest) = .ok (atom, behind) ∧
      readSuffixes fuel atom behind = result := by
  unfold nameTokens at enough ⊢
  unfold nameExpression at reads
  split at enough
  · next null =>
    rw [if_pos null] at reads ⊢
    rw [List.length_singleton] at enough
    obtain ⟨fuel, rfl⟩ : ∃ less, fuel = less + 1 := ⟨fuel - 1, by omega⟩
    exact ⟨.value .null, rest, rfl, reads _ (by omega)⟩
  · next notNull =>
    rw [if_neg notNull] at reads ⊢
    cases parts : Text.dottedParts name with
    | nil => exact absurd parts (Text.dottedParts_ne_nil name)
    | cons first others =>
      rw [parts] at reads enough
      have length : (partTokens depth (first :: others)).length = 2 * others.length + 1 := by
        rw [partTokens, List.length_cons, List.length_flatMap]
        simp [Nat.mul_comm]
      obtain ⟨fuel, rfl⟩ : ∃ less, fuel = less + 1 := ⟨fuel - 1, by omega⟩
      exact ⟨.name first, _, rfl, readSuffixes_parts depth (by omega) reads⟩

/-! ### Operands -/

/-- Whether tokens are read as an operand of the bar, whatever ends it. -/
def ReadsOperand (found : List Placed) (operand : Expression) : Prop :=
  ∀ rest, Follows operandEnds rest → ∀ fuel, 16 * found.length + 7 ≤ fuel →
    readLevel fuel (levels.drop 1) (found ++ rest) = .ok (operand, rest)

/-- Whether tokens are read as a whole expression. -/
def ReadsExpression (found : List Placed) (whole : Expression) : Prop :=
  ∀ rest, Follows closers rest → ∀ fuel, 16 * found.length + 12 ≤ fuel →
    readExpression fuel (found ++ rest) = .ok (whole, rest)

theorem readSuffixes_of_follows {rest : List Placed} (follows : Follows operandEnds rest)
    (base : Expression) {fuel : Nat} (enough : 1 ≤ fuel) :
    readSuffixes fuel base rest = .ok (base, rest) := by
  obtain ⟨fuel, rfl⟩ : ∃ less, fuel = less + 1 := ⟨fuel - 1, by omega⟩
  rw [readSuffixes, bind_of_eq_ok (follows.takeSymbol (by decide))]
  show (takeSymbol "[" >>= _) rest = _
  rw [bind_of_eq_ok (follows.takeSymbol (by decide))]
  show (takeSymbol "(" >>= _) rest = _
  rw [bind_of_eq_ok (follows.takeSymbol (by decide))]
  rfl

/-- An operand whose name and suffixes are read is an operand of every operator. -/
theorem readPower_of_atom {tokens behind rest : List Placed} {atom operand : Expression} {fuel : Nat}
    (begins : BeginsName tokens) (follows : Follows operandEnds rest)
    (first : readAtom fuel tokens = .ok (atom, behind))
    (suffixes : readSuffixes fuel atom behind = .ok (operand, rest)) :
    readPower (fuel + 1) tokens = .ok (operand, rest) := by
  have noAwait : nextToken? tokens ≠ some (.keyword "await") := by
    rcases begins with ⟨part, next⟩ | next <;> rw [next] <;> simp [nullName]
  rw [readPower, bind_of_eq_ok (takeKeyword_of_ne noAwait), bind_of_eq_ok first, bind_of_eq_ok suffixes]
  show (takeSymbol "**" >>= _) rest = _
  rw [bind_of_eq_ok (follows.takeSymbol (by decide))]
  rfl

theorem readSigned_of_power {tokens rest : List Placed} {operand : Expression} {fuel : Nat}
    (begins : BeginsName tokens) (power : readPower fuel tokens = .ok (operand, rest)) :
    readSigned (fuel + 1) tokens = .ok (operand, rest) := by
  rcases begins with ⟨part, next⟩ | next
  · obtain ⟨line, depth, others, rfl⟩ := exists_of_nextToken? next
    exact power
  · obtain ⟨line, depth, others, rfl⟩ := exists_of_nextToken? next
    exact power

/-- None of the operators of a level stands behind an operand. -/
theorem readLevelRest_of_follows {symbols operators : List String} {stronger : List (List String)}
    {rest : List Placed} (follows : Follows symbols rest) (others : ∀ symbol ∈ symbols, symbol ∉ operators)
    (left : Expression) {fuel : Nat} (enough : 1 ≤ fuel) :
    readLevelRest fuel operators stronger left rest = .ok (left, rest) := by
  obtain ⟨fuel, rfl⟩ : ∃ less, fuel = less + 1 := ⟨fuel - 1, by omega⟩
  rcases follows.cases with rfl | ⟨symbol, listed, line, depth, behind, rfl⟩
  · rfl
  · rw [readLevelRest]
    show (if operators.contains symbol then _ else (return left) : Reading Expression) _ = _
    rw [if_neg (by simpa using others symbol listed)]
    rfl

/-- An operand with a sign is an operand of all levels, unless one of their operators follows. -/
theorem readLevel_of_signed {symbols : List String} {tokens rest : List Placed} {operand : Expression}
    {need : Nat} (follows : Follows symbols rest)
    (signed : ∀ fuel, need ≤ fuel → readSigned fuel tokens = .ok (operand, rest))
    {levels : List (List String)} (others : ∀ operators ∈ levels, ∀ symbol ∈ symbols, symbol ∉ operators) :
    ∀ fuel, need + levels.length + 1 ≤ fuel → readLevel fuel levels tokens = .ok (operand, rest) := by
  induction levels with
  | nil =>
    intro fuel enough
    obtain ⟨fuel, rfl⟩ : ∃ less, fuel = less + 1 := ⟨fuel - 1, by omega⟩
    exact signed fuel (by simpa using enough)
  | cons operators stronger inductionHypothesis =>
    intro fuel enough
    rw [List.length_cons] at enough
    obtain ⟨fuel, rfl⟩ : ∃ less, fuel = less + 1 := ⟨fuel - 1, by omega⟩
    obtain ⟨own, later⟩ := List.forall_mem_cons.mp others
    rw [readLevel, bind_of_eq_ok (inductionHypothesis later fuel (by omega))]
    exact readLevelRest_of_follows follows own operand (by omega)

/-- A name with what belongs to it is an operand, if it is read without anything left. -/
theorem readsOperand_of_atom {found : List Placed} {operand : Expression}
    (begins : ∀ rest, BeginsName (found ++ rest))
    (some : 1 ≤ found.length)
    (reads : ∀ rest, Follows operandEnds rest → ∀ fuel, 16 * found.length ≤ fuel + 1 →
      ∃ atom behind, readAtom fuel (found ++ rest) = .ok (atom, behind) ∧
        readSuffixes fuel atom behind = .ok (operand, rest)) : ReadsOperand found operand := by
  intro rest follows fuel enough
  have signed : ∀ fuel, 16 * found.length + 1 ≤ fuel →
      readSigned fuel (found ++ rest) = .ok (operand, rest) := by
    intro fuel enough
    obtain ⟨fuel, rfl⟩ : ∃ less, fuel = less + 2 := ⟨fuel - 2, by omega⟩
    obtain ⟨atom, behind, first, suffixes⟩ := reads rest follows fuel (by omega)
    exact readSigned_of_power (begins rest) (readPower_of_atom (begins rest) follows first suffixes)
  have count : (levels.drop 1).length = 5 := rfl
  exact readLevel_of_signed follows signed (by decide) fuel (by omega)

/-! ### Bars -/

/-- Operands with bars between them are taken together from the left. -/
theorem readLevelRest_bars (depth : Nat) {rest : List Placed} (follows : Follows closers rest)
    {operands : List (List Placed × Expression)} :
    ∀ {left : Expression} {fuel : Nat}, (∀ o ∈ operands, ReadsOperand o.1 o.2) →
      16 * (operands.flatMap fun o => placeSymbol depth "|" :: o.1).length + 7 ≤ fuel →
        readLevelRest fuel ["|"] (levels.drop 1) left
          ((operands.flatMap fun o => placeSymbol depth "|" :: o.1) ++ rest) =
            .ok ((operands.map (·.2)).foldl (.binary "|") left, rest) := by
  induction operands with
  | nil =>
    intro left fuel _ enough
    exact readLevelRest_of_follows follows (by decide) left (by omega)
  | cons first others inductionHypothesis =>
    intro left fuel each enough
    obtain ⟨own, later⟩ := List.forall_mem_cons.mp each
    rw [List.flatMap_cons, List.length_append, List.length_cons] at enough
    obtain ⟨fuel, rfl⟩ : ∃ less, fuel = less + 1 := ⟨fuel - 1, by omega⟩
    have ends : Follows operandEnds
        ((others.flatMap fun o => placeSymbol depth "|" :: o.1) ++ rest) := by
      cases others with
      | nil => exact follows.mono (by decide)
      | cons _ _ => exact follows_placeSymbol (by decide) depth
    rw [List.flatMap_cons, List.append_assoc, readLevelRest]
    show (readLevel fuel (levels.drop 1) >>= fun right =>
      readLevelRest fuel ["|"] (levels.drop 1) (.binary "|" left right))
        (first.1 ++ ((others.flatMap fun o => placeSymbol depth "|" :: o.1) ++ rest)) = _
    rw [bind_of_eq_ok (own _ ends fuel (by omega))]
    exact inductionHypothesis later (by omega)

theorem intercalate_cons {α : Type} (separator first : List α) (others : List (List α)) :
    separator.intercalate (first :: others) = first ++ others.flatMap (separator ++ ·) := by
  induction others generalizing first with
  | nil => rw [List.intercalate_singleton, List.flatMap_nil, List.append_nil]
  | cons next others inductionHypothesis =>
    rw [List.intercalate_cons_cons, inductionHypothesis, List.flatMap_cons]
    simp only [List.append_assoc]

/-- Operands with bars between them are read as such. -/
theorem readLevel_barred (depth : Nat) {rest : List Placed} (follows : Follows closers rest)
    {first : List Placed × Expression} {others : List (List Placed × Expression)}
    (each : ∀ o ∈ first :: others, ReadsOperand o.1 o.2) {fuel : Nat}
    (enough : 16 * ([placeSymbol depth "|"].intercalate ((first :: others).map (·.1))).length + 8 ≤ fuel) :
    readLevel fuel levels ([placeSymbol depth "|"].intercalate ((first :: others).map (·.1)) ++ rest) =
      .ok (barred ((first :: others).map (·.2)), rest) := by
  obtain ⟨own, later⟩ := List.forall_mem_cons.mp each
  have flat : [placeSymbol depth "|"].intercalate ((first :: others).map (·.1)) =
      first.1 ++ others.flatMap fun o => placeSymbol depth "|" :: o.1 := by
    rw [List.map_cons, intercalate_cons, List.flatMap_map]
    rfl
  rw [flat, List.length_append] at enough
  rw [flat, List.append_assoc]
  obtain ⟨fuel, rfl⟩ : ∃ less, fuel = less + 1 := ⟨fuel - 1, by omega⟩
  have ends : Follows operandEnds
      ((others.flatMap fun o => placeSymbol depth "|" :: o.1) ++ rest) := by
    cases others with
    | nil => exact follows.mono (by decide)
    | cons _ _ => exact follows_placeSymbol (by decide) depth
  show (readLevel fuel (levels.drop 1) >>= readLevelRest fuel ["|"] (levels.drop 1)) _ = _
  rw [bind_of_eq_ok (own _ ends fuel (by omega))]
  exact readLevelRest_bars depth follows later (by omega)

/-! ### Whole expressions -/

section
variable {found rest : List Placed} {whole : Expression}

theorem BeginsName.takeKeyword (begins : BeginsName found) {word : String} (other : word ≠ nullName) :
    takeKeyword word found = .ok (false, found) := by
  refine takeKeyword_of_ne ?_
  rcases begins with ⟨part, next⟩ | next <;> rw [next]
  · exact nofun
  · exact fun same => other (Token.keyword.inj (Option.some.inj same)).symm

theorem BeginsName.takeSymbol (begins : BeginsName found) (symbol : String) :
    takeSymbol symbol found = .ok (false, found) := by
  refine takeSymbol_of_ne ?_
  rcases begins with ⟨part, next⟩ | next <;> rw [next] <;> exact nofun

theorem BeginsName.append (begins : BeginsName found) (rest : List Placed) :
    BeginsName (found ++ rest) := by
  rcases begins with ⟨part, next⟩ | next
  · obtain ⟨line, depth, others, rfl⟩ := exists_of_nextToken? next
    exact .inl ⟨part, rfl⟩
  · obtain ⟨line, depth, others, rfl⟩ := exists_of_nextToken? next
    exact .inr rfl

theorem readComparisons_of_follows (follows : Follows closers rest) {fuel : Nat} (enough : 1 ≤ fuel) :
    readComparisons fuel rest = .ok ([], rest) := by
  obtain ⟨fuel, rfl⟩ : ∃ less, fuel = less + 1 := ⟨fuel - 1, by omega⟩
  rcases follows.cases with rfl | ⟨symbol, listed, line, depth, behind, rfl⟩
  · rfl
  · simp only [closers, List.mem_cons, List.not_mem_nil, or_false] at listed
    rcases listed with rfl | rfl <;> rfl

/-- What is read as an operand of all levels is read as a whole expression. -/
theorem readExpression_of_level {need : Nat} (positive : 1 ≤ need) (begins : BeginsName found)
    (level : ∀ fuel, need ≤ fuel → readLevel fuel levels found = .ok (whole, rest))
    (follows : Follows closers rest) {fuel : Nat} (enough : need + 4 ≤ fuel) :
    readExpression fuel found = .ok (whole, rest) := by
  obtain ⟨fuel, rfl⟩ : ∃ less, fuel = less + 4 := ⟨fuel - 4, by omega⟩
  have negation : readNegation (fuel + 1) found = .ok (whole, rest) := by
    rw [readNegation, bind_of_eq_ok (begins.takeKeyword (by decide))]
    show (readLevel fuel levels >>= _) found = _
    rw [bind_of_eq_ok (level fuel (by omega)),
      bind_of_eq_ok (readComparisons_of_follows follows (by omega))]
    rfl
  have conjunction : readConjunction (fuel + 2) found = .ok (whole, rest) := by
    rw [readConjunction, bind_of_eq_ok negation, bind_of_eq_ok (follows.takeKeyword _)]
    rfl
  have disjunction : readDisjunction (fuel + 3) found = .ok (whole, rest) := by
    rw [readDisjunction, bind_of_eq_ok conjunction, bind_of_eq_ok (follows.takeKeyword _)]
    rfl
  rw [readExpression, bind_of_eq_ok (begins.takeKeyword (by decide))]
  show (get >>= fun start => readDisjunction (fuel + 3) >>= _) found = _
  have start : (get : Reading (List Placed)) found = .ok (found, found) := rfl
  rw [bind_of_eq_ok start, bind_of_eq_ok disjunction, bind_of_eq_ok (follows.takeKeyword _)]
  rcases follows.cases with rfl | ⟨symbol, listed, line, depth, behind, rfl⟩
  · rfl
  · simp only [closers, List.mem_cons, List.not_mem_nil, or_false] at listed
    rcases listed with rfl | rfl <;> rfl

end

/-! ### Square brackets -/

/-- Whether an expression is one that stands for several items. -/
def IsStarred : Expression → Prop
  | .starred _ => True
  | _ => False

/-- What is asked of the tokens and the expression of a part of an annotation. -/
structure IsPart (found : List Placed) (whole : Expression) : Prop where
  begins : BeginsName found
  /-- No name is given to something in it. -/
  unnamed : ∀ placed ∈ found, placed.token ≠ .symbol ":="
  single : ¬IsStarred whole

/-- Whether tokens are an expression that may stand in square brackets. -/
structure IsArgument (found : List Placed) (whole : Expression) : Prop extends IsPart found whole where
  reads : ReadsExpression found whole

/-- Whether tokens are an expression that may stand between bars. -/
structure IsOperand (found : List Placed) (operand : Expression) : Prop
    extends IsPart found operand where
  reads : ReadsOperand found operand

theorem readNamed_of_ne {tokens : List Placed}
    (other : nextToken? (tokens.drop 1) ≠ some (.symbol ":="))
    (fuel : Nat) : readNamed (fuel + 1) tokens = readExpression fuel tokens := by
  have next : nextTwo tokens = .ok ((nextToken? tokens, nextToken? (tokens.drop 1)), tokens) := rfl
  rw [readNamed, bind_of_eq_ok next]
  refine congrFun (g := readExpression fuel) ?_ tokens
  split
  · next named => exact absurd (Prod.mk.inj named).2 other
  · rfl

theorem readIndex_argument {found rest : List Placed} {whole : Expression}
    (argument : IsArgument found whole)
    (follows : Follows closers rest) {fuel : Nat} (enough : 16 * found.length + 14 ≤ fuel) :
    readIndex fuel (found ++ rest) = .ok (whole, rest) := by
  obtain ⟨fuel, rfl⟩ : ∃ less, fuel = less + 2 := ⟨fuel - 2, by omega⟩
  have begins := argument.begins.append rest
  have unnamed : nextToken? ((found ++ rest).drop 1) ≠ some (.symbol ":=") := by
    obtain ⟨placed, others, rfl⟩ : ∃ placed others, found = placed :: others := by
      rcases argument.begins with ⟨part, next⟩ | next <;>
        obtain ⟨line, depth, others, rfl⟩ := exists_of_nextToken? next <;> exact ⟨_, others, rfl⟩
    intro next
    cases others with
    | nil =>
      obtain ⟨symbol, listed, same⟩ := follows _ next
      rw [← Token.symbol.inj same] at listed
      exact absurd listed (by decide)
    | cons second others =>
      exact argument.unnamed second (List.mem_cons_of_mem _ List.mem_cons_self) (Option.some.inj next)
  have named : readNamed (fuel + 1) (found ++ rest) = .ok (whole, rest) := by
    rw [readNamed_of_ne unnamed]
    exact argument.reads rest follows fuel (by omega)
  have noSlice : isSymbolNext ":" (found ++ rest) = .ok (false, found ++ rest) := by
    rcases begins with ⟨part, next⟩ | next
    · obtain ⟨line, depth, others, same⟩ := exists_of_nextToken? next
      rw [same]
      rfl
    · obtain ⟨line, depth, others, same⟩ := exists_of_nextToken? next
      rw [same]
      rfl
  have lower : (some <$> readNamed (fuel + 1)) (found ++ rest) = .ok (some whole, rest) := by
    show (readNamed (fuel + 1) >>= fun named => pure (some named)) (found ++ rest) = _
    rw [bind_of_eq_ok named]
    rfl
  rw [readIndex, bind_of_eq_ok (begins.takeSymbol "*")]
  show (isSymbolNext ":" >>= _) (found ++ rest) = _
  rw [bind_of_eq_ok noSlice]
  show (some <$> readNamed (fuel + 1) >>= _) (found ++ rest) = _
  rw [bind_of_eq_ok lower]
  show (takeSymbol ":" >>= _) rest = _
  rw [bind_of_eq_ok (follows.takeSymbol (by decide))]
  rfl

/-- Arguments with commas between them are read up to the closing bracket. -/
theorem readIndices_arguments (depth outer : Nat) (rest : List Placed)
    {others : List (List Placed × Expression)} :
    ∀ {first : List Placed × Expression} (fuel : Nat),
      (∀ a ∈ first :: others, IsArgument a.1 a.2) →
      16 * (first.1 ++ others.flatMap fun a => placeSymbol depth "," :: a.1).length + 15 ≤ fuel →
        readIndices fuel (first.1 ++ ((others.flatMap fun a => placeSymbol depth "," :: a.1) ++
          placeSymbol outer "]" :: rest)) =
            .ok (((first :: others).map (·.2), !others.isEmpty), rest) := by
  induction others with
  | nil =>
    intro first fuel each enough
    obtain ⟨own, -⟩ := List.forall_mem_cons.mp each
    rw [List.flatMap_nil, List.append_nil] at enough
    obtain ⟨fuel, rfl⟩ : ∃ less, fuel = less + 1 := ⟨fuel - 1, by omega⟩
    have closes : Follows closers (placeSymbol outer "]" :: rest) := follows_placeSymbol (by decide) outer
    rw [List.flatMap_nil, List.nil_append, readIndices,
      bind_of_eq_ok ((own.begins.append _).takeSymbol "]")]
    show (readIndex fuel >>= _) _ = _
    rw [bind_of_eq_ok (readIndex_argument own closes (by omega))]
    rfl
  | cons second others inductionHypothesis =>
    intro first fuel each enough
    obtain ⟨own, later⟩ := List.forall_mem_cons.mp each
    rw [List.flatMap_cons, List.length_append, List.cons_append, List.length_cons] at enough
    obtain ⟨fuel, rfl⟩ : ∃ less, fuel = less + 1 := ⟨fuel - 1, by omega⟩
    rw [List.flatMap_cons, List.cons_append, List.cons_append, List.append_assoc, readIndices,
      bind_of_eq_ok ((own.begins.append _).takeSymbol "]")]
    show (readIndex fuel >>= _) _ = _
    rw [bind_of_eq_ok (readIndex_argument own (follows_placeSymbol (by decide) depth) (by omega)),
      bind_of_eq_ok (takeSymbol_placeSymbol "," depth _)]
    show (readIndices fuel >>= _) _ = _
    rw [bind_of_eq_ok (inductionHypothesis fuel later (by omega))]
    rfl

/-- What is read in square brackets belongs to what stands before them. -/
theorem readSuffixes_bracket (depth : Nat) {tokens rest : List Placed} {items : List Expression}
    {fuel : Nat} (some : items ≠ []) (single : ∀ item ∈ items, ¬IsStarred item)
    (indices : readIndices fuel tokens = .ok ((items, !items.tail.isEmpty), rest)) (base : Expression) :
    readSuffixes (fuel + 1) base (placeSymbol depth "[" :: tokens) =
      readSuffixes fuel (.subscript base (indexExpression items)) rest := by
  have noDot : takeSymbol "." (placeSymbol depth "[" :: tokens) =
      .ok (false, placeSymbol depth "[" :: tokens) :=
    takeSymbol_of_ne (by simp [nextToken?, placeSymbol, place])
  rw [readSuffixes, bind_of_eq_ok noDot]
  show (takeSymbol "[" >>= _) _ = _
  rw [bind_of_eq_ok (takeSymbol_placeSymbol "[" depth _)]
  show (readIndices fuel >>= _) _ = _
  rw [bind_of_eq_ok indices]
  match items, some with
  | [only], _ =>
    have plain := single only List.mem_cons_self
    cases only with
    | starred _ => exact absurd trivial plain
    | _ => rfl
  | first :: second :: others, _ => cases first <;> rfl

/-! ### Annotations -/

theorem not_isStarred_nameExpression (name : String) : ¬IsStarred (nameExpression name) := by
  have attributes : ∀ (parts : List String) (base : Expression), ¬IsStarred base →
      ¬IsStarred (parts.foldl .attribute base) := by
    intro parts
    induction parts with
    | nil => exact fun _ plain => plain
    | cons first others inductionHypothesis => exact fun _ _ => inductionHypothesis _ id
  unfold nameExpression
  split
  · exact id
  · split
    · exact id
    · exact attributes _ _ id

theorem begins_nameTokens (depth : Nat) (name : String) : BeginsName (nameTokens depth name) := by
  unfold nameTokens
  split
  · exact .inr rfl
  · cases parts : Text.dottedParts name with
    | nil => exact absurd parts (Text.dottedParts_ne_nil name)
    | cons first others => exact .inl ⟨first, rfl⟩

theorem unnamed_nameTokens (depth : Nat) (name : String) :
    ∀ placed ∈ nameTokens depth name, placed.token ≠ .symbol ":=" := by
  have inParts : ∀ parts : List String, ∀ placed ∈ partTokens depth parts,
      placed.token ≠ .symbol ":=" := by
    intro parts placed member
    cases parts with
    | nil => cases member
    | cons first others =>
      rcases List.mem_cons.mp member with rfl | later
      · exact nofun
      · obtain ⟨part, -, member⟩ := List.mem_flatMap.mp later
        simp only [List.mem_cons, List.not_mem_nil, or_false] at member
        rcases member with rfl | rfl <;> simp [placeSymbol, place]
  unfold nameTokens
  split
  · intro placed member
    rw [List.mem_singleton.mp member]
    exact nofun
  · exact inParts _

/-- The null type is an operand. -/
theorem isOperand_null (depth : Nat) :
    IsOperand [place depth (.keyword nullName)] (.value .null) := by
  refine { begins := .inr rfl, unnamed := ?_, single := id, reads := ?_ }
  · intro placed member
    rw [List.mem_singleton.mp member]
    exact nofun
  · refine readsOperand_of_atom (fun _ => .inr rfl) (Nat.le_refl 1) fun rest follows fuel enough => ?_
    rw [List.length_singleton] at enough
    obtain ⟨fuel, rfl⟩ : ∃ less, fuel = less + 1 := ⟨fuel - 1, by omega⟩
    exact ⟨.value .null, rest, rfl, readSuffixes_of_follows follows _ (by omega)⟩

/-- A name is an operand. -/
theorem isOperand_name (depth : Nat) (name : String) :
    IsOperand (nameTokens depth name) (nameExpression name) := by
  have begins := begins_nameTokens depth name
  have some : 1 ≤ (nameTokens depth name).length := by
    rcases begins with ⟨part, next⟩ | next <;>
      obtain ⟨line, depth', others, same⟩ := exists_of_nextToken? next <;> rw [same] <;>
        exact Nat.succ_le_succ (Nat.zero_le _)
  refine
    { begins
      unnamed := unnamed_nameTokens depth name
      single := not_isStarred_nameExpression name
      reads := readsOperand_of_atom (fun rest => begins.append rest) some ?_ }
  intro rest follows fuel enough
  exact readAtom_name depth 1 (by omega) fun fuel enough =>
    readSuffixes_of_follows follows _ enough

/-- A name with arguments is an operand. -/
theorem isOperand_applied (depth : Nat) (name : String) (first : List Placed × Expression)
    (others : List (List Placed × Expression)) (each : ∀ a ∈ first :: others, IsArgument a.1 a.2) :
    IsOperand
      (nameTokens depth name ++ placeSymbol (depth + 1) "[" ::
        ([placeSymbol (depth + 1) ","].intercalate ((first :: others).map (·.1)) ++
          [placeSymbol depth "]"]))
      (.subscript (nameExpression name) (indexExpression ((first :: others).map (·.2)))) := by
  have begins := begins_nameTokens depth name
  refine { begins := begins.append _, unnamed := ?_, single := id, reads := ?_ }
  · have symbol : ∀ depth symbol, symbol ≠ ":=" →
        (placeSymbol depth symbol).token ≠ .symbol ":=" :=
      fun _ _ other same => other (Token.symbol.inj same)
    refine List.forall_mem_append.mpr ⟨unnamed_nameTokens depth name, List.forall_mem_cons.mpr
      ⟨symbol _ _ (by decide), List.forall_mem_append.mpr ⟨?_, ?_⟩⟩⟩
    · refine forall_mem_intercalate ?_ (List.forall_mem_map.mpr fun a member => (each a member).unnamed)
      exact List.forall_mem_singleton.mpr (symbol _ _ (by decide))
    · exact List.forall_mem_singleton.mpr (symbol _ _ (by decide))
  · have flat : [placeSymbol (depth + 1) ","].intercalate ((first :: others).map (·.1)) =
        first.1 ++ others.flatMap fun a => placeSymbol (depth + 1) "," :: a.1 := by
      rw [List.map_cons, intercalate_cons, List.flatMap_map]
      rfl
    rw [flat]
    refine readsOperand_of_atom (fun rest => (begins.append _).append rest) ?_
      fun rest follows fuel enough => ?_
    · rw [List.length_append, List.length_cons]
      omega
    · simp only [List.length_append, List.length_cons, List.length_nil] at enough
      rw [List.append_assoc, List.cons_append]
      refine readAtom_name depth
        (16 * (first.1 ++ others.flatMap fun a => placeSymbol (depth + 1) "," :: a.1).length + 16)
        (by rw [List.length_append]; omega) fun fuel enough => ?_
      obtain ⟨fuel, rfl⟩ : ∃ less, fuel = less + 1 := ⟨fuel - 1, by omega⟩
      have indices := readIndices_arguments (depth + 1) depth rest fuel each (by omega)
      have shape : (first.1 ++ others.flatMap fun a => placeSymbol (depth + 1) "," :: a.1) ++
          [placeSymbol depth "]"] ++ rest =
            first.1 ++ ((others.flatMap fun a => placeSymbol (depth + 1) "," :: a.1) ++
              placeSymbol depth "]" :: rest) := by
        simp only [List.append_assoc, List.cons_append, List.nil_append]
      have single : ∀ item ∈ (first :: others).map (·.2), ¬IsStarred item := by
        intro item member
        obtain ⟨a, listed, rfl⟩ := List.mem_map.mp member
        exact (each a listed).single
      have tail : (!others.isEmpty) = !((first :: others).map (·.2)).tail.isEmpty := by
        rw [List.map_cons, List.tail_cons, List.isEmpty_map]
      rw [tail] at indices
      rw [shape, readSuffixes_bracket (depth + 1) (List.cons_ne_nil _ _) single indices]
      exact readSuffixes_of_follows follows _ (by omega)

/-- Operands with bars between them may stand in square brackets. -/
theorem isArgument_barred (depth : Nat) (first : List Placed × Expression)
    (others : List (List Placed × Expression)) (each : ∀ o ∈ first :: others, IsOperand o.1 o.2) :
    IsArgument ([placeSymbol depth "|"].intercalate ((first :: others).map (·.1)))
      (barred ((first :: others).map (·.2))) := by
  obtain ⟨own, -⟩ := List.forall_mem_cons.mp each
  have begins : BeginsName ([placeSymbol depth "|"].intercalate ((first :: others).map (·.1))) := by
    rw [List.map_cons, intercalate_cons]
    exact own.begins.append _
  refine { begins, unnamed := ?_, single := ?_, reads := fun rest follows fuel enough => ?_ }
  · refine forall_mem_intercalate ?_ (List.forall_mem_map.mpr fun o member => (each o member).unnamed)
    exact List.forall_mem_singleton.mpr (by simp [placeSymbol, place])
  · have binary : ∀ (operands : List Expression) (left : Expression), ¬IsStarred left →
        ¬IsStarred (operands.foldl (.binary "|") left) := by
      intro operands
      induction operands with
      | nil => exact fun _ => id
      | cons next operands inductionHypothesis => exact fun _ _ => inductionHypothesis _ id
    exact binary _ _ own.single
  · exact readExpression_of_level (by omega) (begins.append rest)
      (fun fuel enough => readLevel_barred depth follows (fun o member => (each o member).reads) enough)
      follows enough

/-- So do operands with the null type behind them. -/
theorem isArgument_barredOrNull (depth : Nat) (nullable : Bool) (first : List Placed × Expression)
    (others : List (List Placed × Expression)) (each : ∀ o ∈ first :: others, IsOperand o.1 o.2) :
    IsArgument
      (if nullable then
        [placeSymbol depth "|"].intercalate ((first :: others).map (·.1)) ++
          [placeSymbol depth "|", place depth (.keyword nullName)]
      else [placeSymbol depth "|"].intercalate ((first :: others).map (·.1)))
      (if nullable then .binary "|" (barred ((first :: others).map (·.2))) (.value .null)
      else barred ((first :: others).map (·.2))) := by
  cases nullable with
  | false => exact isArgument_barred depth first others each
  | true =>
    have all := isArgument_barred depth first
      (others ++ [([place depth (.keyword nullName)], .value .null)]) (by
        rw [← List.cons_append]
        exact List.forall_mem_append.mpr ⟨each, List.forall_mem_singleton.mpr (isOperand_null depth)⟩)
    simp only [List.map_cons, List.map_append, List.map_nil, intercalate_cons, List.flatMap_append,
      List.flatMap_cons, List.flatMap_nil, List.append_nil, barred, List.foldl_append,
      List.foldl_cons, List.foldl_nil] at all
    simp only [if_true, List.map_cons, intercalate_cons, barred, List.append_assoc]
    exact all

/-- What may stand between bars may stand in square brackets. -/
theorem IsOperand.isArgument {found : List Placed} {operand : Expression}
    (own : IsOperand found operand) : IsArgument found operand := by
  have barred := isArgument_barred 0 (found, operand) [] (List.forall_mem_singleton.mpr own)
  rwa [List.map_singleton, List.intercalate_singleton] at barred

/-- The tokens and the expression of the annotation of a type. -/
def part (depth : Nat) (t : Descriptor) : List Placed × Expression :=
  (tokens depth t, expression t)

theorem map_fst_part (depth : Nat) (types : List Descriptor) :
    (types.map (part depth)).map (·.1) = allTokens depth types := by
  rw [allTokens_eq_map, List.map_map]
  rfl

theorem map_snd_part (depth : Nat) (types : List Descriptor) :
    (types.map (part depth)).map (·.2) = expressions types := by
  rw [expressions_eq_map, List.map_map]
  rfl

/-- A type that is not nullable and no union is an operand. -/
theorem isOperand_plain (depth : Nat) {name : String} {arguments : List Descriptor}
    (noUnion : name ≠ unionName)
    (each : ∀ t ∈ arguments, IsArgument (tokens (depth + 1) t) (expression t)) :
    IsOperand (tokens depth ⟨name, false, arguments⟩) (expression ⟨name, false, arguments⟩) := by
  rw [tokens, expression, if_neg noUnion, if_neg noUnion, if_neg Bool.false_ne_true,
    if_neg Bool.false_ne_true]
  cases arguments with
  | nil => exact isOperand_name depth (mapName name)
  | cons first others =>
    have applied := isOperand_applied depth (mapName name) (part (depth + 1) first)
      (others.map (part (depth + 1))) (by
        rw [← List.map_cons]
        exact List.forall_mem_map.mpr each)
    rwa [← List.map_cons, map_fst_part, map_snd_part] at applied

/-- The tokens of the annotation of a type are read as its expression, be it in square brackets or,
if it may stand there, between bars. -/
theorem isArgument_tokens {single : Bool} {t : Descriptor} (readable : IsReadable single t) :
    ∀ depth, IsArgument (tokens depth t) (expression t) ∧
      (single = true → IsOperand (tokens depth t) (expression t)) := by
  induction readable with
  | plain named noUnion each inductionHypothesis =>
    intro depth
    have own := isOperand_plain depth noUnion fun t member => (inductionHypothesis t member (depth + 1)).1
    exact ⟨own.isArgument, fun _ => own⟩
  | @orNull name arguments plain notNull inductionHypothesis =>
    refine fun depth => ⟨?_, fun same => absurd same Bool.false_ne_true⟩
    have both := isArgument_barredOrNull depth true (part depth ⟨name, false, arguments⟩) []
      (List.forall_mem_singleton.mpr ((inductionHypothesis depth).2 rfl))
    rw [List.map_singleton, List.intercalate_singleton] at both
    simp only [part, tokens, expression, if_neg Bool.false_ne_true] at both
    rw [tokens, expression]
    exact both
  | @union nullable members each several inductionHypothesis =>
    refine fun depth => ⟨?_, fun same => absurd same Bool.false_ne_true⟩
    cases members with
    | nil => exact absurd several (by decide)
    | cons first others =>
      have all := isArgument_barredOrNull depth nullable (part depth first)
        (others.map (part depth)) (by
          rw [← List.map_cons]
          exact List.forall_mem_map.mpr fun t member => (inductionHypothesis t member depth).2 rfl)
      rw [← List.map_cons, map_fst_part, map_snd_part] at all
      rw [tokens, expression, if_pos rfl, if_pos rfl]
      exact all

/-! ### Whole texts -/

/-- The annotation of a type is read as its expression, unless brackets are nested too deep in it. -/
theorem read_write {single : Bool} {t : Descriptor} (readable : IsReadable single t)
    (shallow : nesting t ≤ Token.bracketLimit) : Hint.Reader.read (write t) = .ok (expression t) := by
  obtain ⟨scanned, length⟩ := scan_write readable shallow
  have reads := (isArgument_tokens readable 0).1.reads [] nofun (fuelFor (write t).toList.length) (by
    rw [fuelFor]
    omega)
  rw [List.append_nil] at reads
  have whole : readWhole (fuelFor (write t).toList.length) (tokens 0 t) = .ok (expression t, []) := by
    rw [readWhole, bind_of_eq_ok reads]
    rfl
  rw [Hint.Reader.read, readAll, scanned]
  simp only [bind, Except.bind, whole]
  rfl

end TypeText

end StateContainer
