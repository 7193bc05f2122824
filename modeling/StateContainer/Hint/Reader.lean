/-
This file reads the text of an annotation into an expression.

The operators bind, from the weakest to the strongest: the conditional, `or`,
`and`, `not`, the comparisons, which can be chained, then the six levels of
operators on two operands, the signs, the power, and at last the attribute, the
subscript and the call behind an operand. A comma outside of brackets makes a
tuple.

Reading stops at the first token that cannot stand where it stands. Where a
bracket is open at the end of the text, the bracket is to blame.
-/

import StateContainer.Hint.Expression
import StateContainer.Hint.Token

namespace StateContainer.Hint.Reader

/-! ### Steps -/

/-- Where reading stopped, and why. -/
structure Stop where
  cause : ProblemCause
  rest : List Token.Placed
deriving Repr

/-- Reads something and leaves the tokens behind it. -/
abbrev Reading := StateT (List Token.Placed) (Except Stop)

/-- Stops. -/
def stop {α : Type} (cause : ProblemCause) : Reading α := fun rest => .error ⟨cause, rest⟩

/-- The next token. -/
def next? : Reading (Option Token) := do return (← get).head?.map (·.token)

/-- The next two tokens. -/
def nextTwo : Reading (Option Token × Option Token) := do
  let tokens ← get
  return (tokens.head?.map (·.token), (tokens.drop 1).head?.map (·.token))

/-- Leaves out the next token. -/
def advance : Reading Unit := modify (List.drop 1)

/-- Takes a symbol, if it comes next. -/
def takeSymbol (symbol : String) : Reading Bool := do
  match ← next? with
  | some (.symbol found) => if found = symbol then advance; return true else return false
  | _ => return false

/-- Takes a keyword, if it comes next. -/
def takeKeyword (word : String) : Reading Bool := do
  match ← next? with
  | some (.keyword found) => if found = word then advance; return true else return false
  | _ => return false

/-- Takes a symbol that has to come next. -/
def requireSymbol (symbol : String) : Reading Unit := do
  unless ← takeSymbol symbol do stop .misplaced

/-- Whether a symbol comes next. -/
def isSymbolNext (symbol : String) : Reading Bool := do
  match ← next? with
  | some (.symbol found) => return found == symbol
  | _ => return false

/-- Whether a keyword comes next. -/
def isKeywordNext (word : String) : Reading Bool := do
  match ← next? with
  | some (.keyword found) => return found == word
  | _ => return false

/-! ### Operators -/

/-- The levels of the operators on two operands, the weakest first. -/
def levels : List (List String) :=
  [["|"], ["^"], ["&"], ["<<", ">>"], ["+", "-"], ["*", "/", "//", "%", "@"]]

/-- Takes a comparison, if one comes next. -/
def takeComparison : Reading (Option String) := do
  match ← nextTwo with
  | (some (.keyword "not"), some (.keyword "in")) => advance; advance; return some "not in"
  | (some (.keyword "is"), some (.keyword "not")) => advance; advance; return some "is not"
  | (some (.keyword "in"), _) => advance; return some "in"
  | (some (.keyword "is"), _) => advance; return some "is"
  | (some (.symbol symbol), _) =>
    if ["==", "!=", "<", "<=", ">", ">="].contains symbol then advance; return some symbol
    else return none
  | _ => return none

/-! ### Operands side by side -/

/-- Whether a token begins an operand and cannot go on with one. -/
def beginsOperand : Token → Bool
  | .keyword word => ["None", "True", "False", "not", "lambda", "await"].contains word
  | .symbol symbol => symbol == "\x7b" || symbol == "~" || symbol == "..."
  | _ => true

/-- Names that are keywords in some places. A comma is not missed behind them. -/
def softKeywords : List String := ["_", "case", "match"]

/-- Whether a comma is not missed behind an operand that begins with these tokens. -/
def takesNoComma : List Token.Placed → Bool
  | ⟨.name _, _, _⟩ :: ⟨.literal _, _, _⟩ :: _ => true
  | ⟨.name _, _, _⟩ :: ⟨.format _ _, _, _⟩ :: _ => true
  | ⟨.name word, _, _⟩ :: _ => softKeywords.contains word
  | _ => false

/-- How deep in brackets the last token stands that was read from the given ones. -/
def lastDepth (before after : List Token.Placed) : Nat :=
  match (before.drop (before.length - after.length - 1)).head? with
  | some placed => placed.depth
  | none => 0

/-- Stops because of an operand that stands beside another one, which began with the given
tokens. -/
def stopAtOperand {α : Type} (start : List Token.Placed) (operand : Reading Expression) :
    Reading α := fun tokens =>
  match operand tokens with
  | .ok (_, after) =>
    let missing := lastDepth tokens after != 0 && !takesNoComma start
    .error ⟨if missing then .commaMissing else .misplaced, tokens⟩
  | .error ⟨cause, []⟩ => .error ⟨cause, []⟩
  | .error _ => .error ⟨.misplaced, tokens⟩

/-! ### Literals that show values -/

/-- The characters up to the end of a shown expression, and what follows them. The quote is the
one that is open, and the depth counts the open brackets. -/
def takeShown : Nat → Option Char → List Char → List Char × List Char
  | _, _, [] => ([], [])
  | depth, some quote, c :: rest =>
    let (characters, after) := takeShown depth (if c = quote then none else some quote) rest
    (c :: characters, after)
  | depth, none, c :: rest =>
    if depth = 0 && (c = '\x7d' || c = ':' || (c = '!' && rest.head? ≠ some '=')) then
      ([], c :: rest)
    else
      let open_ := if c = '\'' || c = '"' then some c else none
      let inner :=
        if (Token.closing? c).isSome then depth + 1
        else if c = ')' || c = ']' || c = '\x7d' then depth - 1
        else depth
      let (characters, after) := takeShown inner open_ rest
      (c :: characters, after)

/-- The characters up to a brace, doubled braces being taken for one, and what follows them. -/
def takePlain (nested : Bool) : List Char → List Char × List Char
  | '\x7b' :: '\x7b' :: rest =>
    if nested then ([], '\x7b' :: '\x7b' :: rest)
    else
      let (characters, after) := takePlain nested rest
      ('\x7b' :: characters, after)
  | '\x7d' :: '\x7d' :: rest =>
    if nested then ([], '\x7d' :: '\x7d' :: rest)
    else
      let (characters, after) := takePlain nested rest
      ('\x7d' :: characters, after)
  | c :: rest =>
    if c = '\x7b' || c = '\x7d' then ([], c :: rest)
    else
      let (characters, after) := takePlain nested rest
      (c :: characters, after)
  | [] => ([], [])

/-- A conversion in front of the rest of a shown part. -/
def takeConversion : List Char → Option Char × List Char
  | '!' :: c :: rest => (some c, rest)
  | text => (none, text)

/-- The characters up to the brace that closes a shown part, given how many braces are open
inside, and what follows them. -/
def takeForm : Nat → List Char → List Char × List Char
  | _, [] => ([], [])
  | depth, c :: rest =>
    if c = '\x7d' && depth = 0 then ([], c :: rest)
    else
      let inner := if c = '\x7b' then depth + 1 else if c = '\x7d' then depth - 1 else depth
      let (characters, after) := takeForm inner rest
      (c :: characters, after)

mutual

/-- Whether an expression may stand for what a loop binds. -/
def isTarget : Expression → Bool
  | .name _ => true
  | .tuple items => areTargets items
  | .list items => areTargets items
  | .starred operand => isTarget operand
  | _ => false

/-- Whether all of several expressions may. -/
def areTargets : List Expression → Bool
  | [] => true
  | first :: others => isTarget first && areTargets others

end

/-! ### Expressions -/

/-- What is behind the first item between brackets. -/
inductive Behind where
  | loops (loops : List (Expression × Expression × List Expression))
  | items (items : List Expression) (comma : Bool)

mutual

/-- A conditional expression, or a stronger one. -/
def readExpression : Nat → Reading Expression
  | 0 => stop .tooDeep
  | fuel + 1 => do
    if ← takeKeyword "lambda" then
      let parameters ← readParameters fuel false [] false
      requireSymbol ":"
      return .lambda (parameters.map fun p => (p.name, p.kind, p.default)) (← readExpression fuel)
    else
      let start ← get
      let first ← readDisjunction fuel
      if ← takeKeyword "if" then
        let condition ← readDisjunction fuel
        if ← takeKeyword "else" then
          return .conditional condition first (← readExpression fuel)
        else if ← isSymbolNext ":" then stop .misplaced
        else stop .alternativeMissing
      else
        match ← next? with
        | some token =>
          if beginsOperand token then stopAtOperand start (readExpression fuel) else return first
        | none => return first

/-- An expression that may be given a name. -/
def readNamed : Nat → Reading Expression
  | 0 => stop .tooDeep
  | fuel + 1 => do
    match ← nextTwo with
    | (some (.name identifier), some (.symbol ":=")) =>
      advance
      advance
      return .assign identifier (← readExpression fuel)
    | _ => readExpression fuel

/-- An item of a display, which may stand for several ones. -/
def readItem : Nat → Reading Expression
  | 0 => stop .tooDeep
  | fuel + 1 => do
    if ← takeSymbol "*" then return .starred (← readLevel fuel levels) else readNamed fuel

/-- Operands with `or` between them. -/
def readDisjunction : Nat → Reading Expression
  | 0 => stop .tooDeep
  | fuel + 1 => do
    let first ← readConjunction fuel
    if ← takeKeyword "or" then return .disjunction first (← readDisjunction fuel)
    else return first

/-- Operands with `and` between them. -/
def readConjunction : Nat → Reading Expression
  | 0 => stop .tooDeep
  | fuel + 1 => do
    let first ← readNegation fuel
    if ← takeKeyword "and" then return .conjunction first (← readConjunction fuel)
    else return first

/-- An operand that may be negated. -/
def readNegation : Nat → Reading Expression
  | 0 => stop .tooDeep
  | fuel + 1 => do
    if ← takeKeyword "not" then return .unary "not" (← readNegation fuel)
    else
      let first ← readLevel fuel levels
      match ← readComparisons fuel with
      | [] => return first
      | others => return .compare first others

/-- The comparisons behind an operand. -/
def readComparisons : Nat → Reading (List (String × Expression))
  | 0 => stop .tooDeep
  | fuel + 1 => do
    match ← takeComparison with
    | some operator =>
      let operand ← readLevel fuel levels
      return (operator, operand) :: (← readComparisons fuel)
    | none => return []

/-- Operands with the operators of the given levels between them. -/
def readLevel : Nat → List (List String) → Reading Expression
  | 0, _ => stop .tooDeep
  | fuel + 1, [] => readSigned fuel
  | fuel + 1, operators :: stronger => do
    let first ← readLevel fuel stronger
    readLevelRest fuel operators stronger first

/-- The further operands of one level, each taken together with what stands before it. -/
def readLevelRest : Nat → List String → List (List String) → Expression → Reading Expression
  | 0, _, _, _ => stop .tooDeep
  | fuel + 1, operators, stronger, left => do
    match ← next? with
    | some (.symbol operator) =>
      if operators.contains operator then
        advance
        let right ← readLevel fuel stronger
        readLevelRest fuel operators stronger (.binary operator left right)
      else return left
    | _ => return left

/-- An operand with a sign. -/
def readSigned : Nat → Reading Expression
  | 0 => stop .tooDeep
  | fuel + 1 => do
    match ← next? with
    | some (.symbol operator) =>
      if operator = "+" || operator = "-" || operator = "~" then
        advance
        return .unary operator (← readSigned fuel)
      else readPower fuel
    | _ => readPower fuel

/-- An operand that may be raised to a power. -/
def readPower : Nat → Reading Expression
  | 0 => stop .tooDeep
  | fuel + 1 => do
    let waits ← takeKeyword "await"
    let atom ← readAtom fuel
    let base ← readSuffixes fuel atom
    if waits then stop (.outsideFunction "await")
    else if ← takeSymbol "**" then return .binary "**" base (← readSigned fuel)
    else return base

/-- The attributes, subscripts and calls behind an operand. -/
def readSuffixes : Nat → Expression → Reading Expression
  | 0, _ => stop .tooDeep
  | fuel + 1, base => do
    if ← takeSymbol "." then
      match ← next? with
      | some (.name identifier) =>
        advance
        readSuffixes fuel (.attribute base identifier)
      | _ => stop .misplaced
    else if ← takeSymbol "[" then
      let (items, comma) ← readIndices fuel
      match items, comma with
      | [], _ => stop .misplaced
      | [.starred operand], _ => readSuffixes fuel (.subscript base (.tuple [.starred operand]))
      | [only], false => readSuffixes fuel (.subscript base only)
      | several, _ => readSuffixes fuel (.subscript base (.tuple several))
    else if ← takeSymbol "(" then
      let arguments ← readArguments fuel []
      readSuffixes fuel (.call base arguments)
    else return base

/-- The indices up to the closing bracket, and whether a comma stood behind one of them. -/
def readIndices : Nat → Reading (List Expression × Bool)
  | 0 => stop .tooDeep
  | fuel + 1 => do
    if ← takeSymbol "]" then return ([], false)
    else
      let first ← readIndex fuel
      if ← takeSymbol "," then
        let (others, _) ← readIndices fuel
        return (first :: others, true)
      else
        requireSymbol "]"
        return ([first], false)

/-- An index, which may be a slice. -/
def readIndex : Nat → Reading Expression
  | 0 => stop .tooDeep
  | fuel + 1 => do
    if ← takeSymbol "*" then return .starred (← readExpression fuel)
    else
      let lower ← if ← isSymbolNext ":" then pure none else some <$> readNamed fuel
      if ← takeSymbol ":" then
        let upper ← readBound fuel
        let step ← if ← takeSymbol ":" then readBound fuel else pure none
        return .slice lower upper step
      else
        match lower with
        | some index => return index
        | none => stop .misplaced

/-- A bound of a slice, which may be missing. -/
def readBound : Nat → Reading (Option Expression)
  | 0 => stop .tooDeep
  | fuel + 1 => do
    match ← next? with
    | some (.symbol symbol) =>
      if symbol = ":" || symbol = "]" || symbol = "," then return none
      else some <$> readExpression fuel
    | _ => some <$> readExpression fuel

/-- The arguments of a call up to the closing bracket, given those that were read before. -/
def readArguments : Nat → List (ArgumentKind × Expression) →
    Reading (List (ArgumentKind × Expression))
  | 0, _ => stop .tooDeep
  | fuel + 1, before => do
    if ← takeSymbol ")" then return before
    else
      let argument ← readArgument fuel before
      if ← takeSymbol "," then readArguments fuel (before ++ [argument])
      else
        requireSymbol ")"
        return before ++ [argument]

/-- One argument of a call. -/
def readArgument : Nat → List (ArgumentKind × Expression) → Reading (ArgumentKind × Expression)
  | 0, _ => stop .tooDeep
  | fuel + 1, before => do
    match ← nextTwo with
    | (some (.symbol "*"), _) =>
      if before.any (·.1 = .spreadNames) then
        stop (.misordered "iterable argument unpacking follows keyword argument unpacking")
      else
        advance
        return (.spread, ← readExpression fuel)
    | (some (.symbol "**"), _) =>
      advance
      return (.spreadNames, ← readExpression fuel)
    | (some (.name name), some (.symbol "=")) =>
      advance
      advance
      let given ← readExpression fuel
      if before.any (·.1 = .named name) then stop (.repeatedArgument name)
      else return (.named name, given)
    | _ =>
      let given ← readNamed fuel
      let loops ← readLoops fuel
      if before.any (·.1 = .spreadNames) then
        stop (.misordered "positional argument follows keyword argument unpacking")
      else if before.any fun (kind, _) => match kind with | .named _ => true | _ => false then
        stop (.misordered "positional argument follows keyword argument")
      else if ← isSymbolNext "=" then
        stop (.misordered "expression cannot contain assignment, perhaps you meant \"==\"?")
      else
        match loops with
        | [] => return (.position, given)
        | _ =>
          if !before.isEmpty || (← isSymbolNext ",") then
            stop (.misordered "Generator expression must be parenthesized")
          else return (.position, .collect .generator given loops)

/-- The loops behind an item that is made for each round. -/
def readLoops : Nat → Reading (List (Expression × Expression × List Expression))
  | 0 => stop .tooDeep
  | fuel + 1 => do
    if ← takeKeyword "async" then
      stop (.misordered "asynchronous comprehension outside of an asynchronous function")
    else if ← takeKeyword "for" then
      let target ← readTarget fuel
      if !isTarget target then stop .misplaced
      else if ← takeKeyword "in" then
        let source ← readDisjunction fuel
        let conditions ← readConditions fuel
        return (target, source, conditions) :: (← readLoops fuel)
      else stop .misplaced
    else return []

/-- What a loop binds. -/
def readTarget : Nat → Reading Expression
  | 0 => stop .tooDeep
  | fuel + 1 => do
    let starred ← takeSymbol "*"
    let first ← readLevel fuel levels
    let first := if starred then .starred first else first
    if ← takeSymbol "," then
      if ← isKeywordNext "in" then return .tuple [first]
      else
        match ← readTarget fuel with
        | .tuple others => return .tuple (first :: others)
        | only => return .tuple [first, only]
    else return first

/-- The conditions of a loop. -/
def readConditions : Nat → Reading (List Expression)
  | 0 => stop .tooDeep
  | fuel + 1 => do
    if ← takeKeyword "if" then
      let condition ← readDisjunction fuel
      return condition :: (← readConditions fuel)
    else return []

/-- What is behind the first item between brackets, up to the closing one. -/
def readBehind : Nat → String → Reading Behind
  | 0, _ => stop .tooDeep
  | fuel + 1, closing => do
    match ← readLoops fuel with
    | [] =>
      if ← takeSymbol "," then return .items (← readItems fuel closing) true
      else
        requireSymbol closing
        return .items [] false
    | loops =>
      requireSymbol closing
      return .loops loops

/-- The items up to a closing bracket. -/
def readItems : Nat → String → Reading (List Expression)
  | 0, _ => stop .tooDeep
  | fuel + 1, closing => do
    if ← takeSymbol closing then return []
    else
      let first ← readItem fuel
      if ← takeSymbol "," then return first :: (← readItems fuel closing)
      else
        requireSymbol closing
        return [first]

/-- What is between round brackets. -/
def readRound : Nat → Reading Expression
  | 0 => stop .tooDeep
  | fuel + 1 => do
    if ← takeSymbol ")" then return .tuple []
    else if ← takeKeyword "yield" then stop (.outsideFunction "yield")
    else
      let first ← readItem fuel
      match first, ← readBehind fuel ")" with
      | .starred _, .loops _ =>
        stop (.misordered "iterable unpacking cannot be used in comprehension")
      | _, .loops loops => return .collect .generator first loops
      | .starred _, .items [] false => stop (.misordered "cannot use starred expression here")
      | _, .items [] false => return first
      | _, .items others _ => return .tuple (first :: others)

/-- What is between square brackets. -/
def readSquare : Nat → Reading Expression
  | 0 => stop .tooDeep
  | fuel + 1 => do
    if ← takeSymbol "]" then return .list []
    else
      let first ← readItem fuel
      match first, ← readBehind fuel "]" with
      | .starred _, .loops _ =>
        stop (.misordered "iterable unpacking cannot be used in comprehension")
      | _, .loops loops => return .collect .list first loops
      | _, .items others _ => return .list (first :: others)

/-- What is between braces. -/
def readBraces : Nat → Reading Expression
  | 0 => stop .tooDeep
  | fuel + 1 => do
    if ← takeSymbol "\x7d" then return .dict []
    else if ← isSymbolNext "**" then return .dict (← readEntries fuel)
    else
      let start ← get
      let first ← readItem fuel
      if ← isSymbolNext ":" then
        match first with
        | .starred _ => stop .misplaced
        | .assign _ _ => stop .misplaced
        | key =>
          advance
          let item ← readExpression fuel
          match ← readLoops fuel with
          | [] =>
            modify fun _ => start
            return .dict (← readEntries fuel)
          | loops =>
            requireSymbol "\x7d"
            return .collectEntries key item loops
      else
        match first, ← readBehind fuel "\x7d" with
        | .starred _, .loops _ =>
          stop (.misordered "iterable unpacking cannot be used in comprehension")
        | _, .loops loops => return .collect .set first loops
        | _, .items others _ => return .set (first :: others)

/-- The entries of a map up to the closing brace. -/
def readEntries : Nat → Reading (List (Option Expression × Expression))
  | 0 => stop .tooDeep
  | fuel + 1 => do
    if ← takeSymbol "\x7d" then return []
    else
      let entry ←
        if ← takeSymbol "**" then
          let spread ← readLevel fuel levels
          pure (none, spread)
        else
          let key ← readExpression fuel
          requireSymbol ":"
          let item ← readExpression fuel
          pure (some key, item)
      if ← takeSymbol "," then return entry :: (← readEntries fuel)
      else
        requireSymbol "\x7d"
        return [entry]

/-- A name, a literal or something in brackets. -/
def readAtom : Nat → Reading Expression
  | 0 => stop .tooDeep
  | fuel + 1 => do
    match ← next? with
    | some (.name identifier) => advance; return .name identifier
    | some (.keyword "None") => advance; return .value .null
    | some (.keyword "True") => advance; return .value (.bool true)
    | some (.keyword "False") => advance; return .value (.bool false)
    | some (.number number) => advance; return .value number
    | some (.imaginary x) => advance; return .imaginary x
    | some (.literal (.text first)) => advance; readTexts fuel [.value (.text first)]
    | some (.literal (.bytes first)) => advance; readBytes fuel first
    | some (.format characters raw) =>
      advance
      readTexts fuel (← readParts fuel raw false characters)
    | some (.symbol "...") => advance; return .ellipsis
    | some (.symbol "(") => advance; readRound fuel
    | some (.symbol "[") => advance; readSquare fuel
    | some (.symbol "\x7b") => advance; readBraces fuel
    | _ => stop .misplaced

/-- The literals of bytes behind one. -/
def readBytes : Nat → List UInt8 → Reading Expression
  | 0, _ => stop .tooDeep
  | fuel + 1, before => do
    match ← next? with
    | some (.literal (.bytes more)) => advance; readBytes fuel (before ++ more)
    | some (.literal _) => stop .mixedLiterals
    | some (.format _ _) => stop .mixedLiterals
    | _ => return .value (.bytes before)

/-- The literals of texts behind the given parts of one. -/
def readTexts : Nat → List Expression → Reading Expression
  | 0, _ => stop .tooDeep
  | fuel + 1, before => do
    match ← next? with
    | some (.literal (.text more)) =>
      advance
      match before with
      | [.value (.text only)] => readTexts fuel [.value (.text (only ++ more))]
      | several => readTexts fuel (several ++ [.value (.text more)])
    | some (.literal _) => stop .mixedLiterals
    | some (.format characters raw) =>
      advance
      let parts ← readParts fuel raw false characters
      readTexts fuel (before ++ parts)
    | _ =>
      match before with
      | [.value only] => return .value only
      | parts => return .formatted parts

/-- The parts of a literal that shows values. -/
def readParts : Nat → Bool → Bool → List Char → Reading (List Expression)
  | 0, _, _, _ => stop .tooDeep
  | fuel + 1, raw, nested, characters => do
    let (plain, rest) := takePlain nested characters
    let first ←
      if plain.isEmpty then pure []
      else
        match LiteralForm.value { raw } plain with
        | .ok text => pure [Expression.value text]
        | .error cause => stop cause
    match rest with
    | [] => return first
    | '\x7b' :: inside =>
      let (shown, behind) := takeShown 0 none inside
      let part ← readShown fuel shown
      let (conversion, afterConversion) := takeConversion behind
      match afterConversion with
      | '\x7d' :: after =>
        return first ++ .shown part conversion [] :: (← readParts fuel raw nested after)
      | ':' :: described =>
        let (inner, closed) := takeForm 0 described
        let form ← readParts fuel raw true inner
        match closed with
        | '\x7d' :: after =>
          return first ++ .shown part conversion form :: (← readParts fuel raw nested after)
        | _ => stop .malformedFormat
      | _ => stop .malformedFormat
    | _ => stop .malformedFormat

/-- The expression that a part of a literal shows. -/
def readShown : Nat → List Char → Reading Expression
  | 0, _ => stop .tooDeep
  | fuel + 1, characters => do
    match Token.scan ('(' :: characters ++ [')']) with
    | .error _ => stop .malformedFormat
    | .ok scanned =>
      if scanned.tokens.length = 2 then stop .malformedFormat
      match readAtom fuel scanned.tokens with
      | .ok (found, []) => return found
      | _ => stop .malformedFormat

/-- The parameters of a function, given those that were read before and whether a star stood
before. -/
def readParameters : Nat → Bool → List WrittenParameter → Bool → Reading (List WrittenParameter)
  | 0, _, _, _ => stop .tooDeep
  | fuel + 1, isAnnotated, before, starred => do
    match ← nextTwo with
    | (some (.name _), _) =>
      let parameter ← readParameter fuel isAnnotated (if starred then .name else .either)
      readMoreParameters fuel isAnnotated (before ++ [parameter]) starred
    | (some (.symbol "/"), _) =>
      if starred || before.isEmpty || before.any (·.kind = .position) then stop .misplaced
      else
        advance
        readMoreParameters fuel isAnnotated (before.map fun p => { p with kind := .position }) false
    | (some (.symbol "*"), some (.name _)) =>
      if starred then stop .misplaced
      else
        advance
        let parameter ← readParameter fuel isAnnotated .rest
        if parameter.default.isSome then stop .misplaced
        else readMoreParameters fuel isAnnotated (before ++ [parameter]) true
    | (some (.symbol "*"), some (.symbol ",")) =>
      if starred then stop .misplaced
      else
        advance
        advance
        match ← next? with
        | some (.name _) => readParameters fuel isAnnotated before true
        | some (.symbol "**") => stop (.misordered "named arguments must follow bare *")
        | none => stop (.misordered "named arguments must follow bare *")
        | _ => stop .misplaced
    | (some (.symbol "*"), none) => stop (.misordered "named arguments must follow bare *")
    | (some (.symbol "**"), some (.name _)) =>
      advance
      let parameter ← readParameter fuel isAnnotated .names
      let _ ← takeSymbol ","
      if parameter.default.isSome then stop .misplaced else return before ++ [parameter]
    | (some (.symbol "*"), _) => stop .misplaced
    | (some (.symbol "**"), _) => stop .misplaced
    | _ => return before

/-- The parameters behind the given ones, if a comma follows them. -/
def readMoreParameters : Nat → Bool → List WrittenParameter → Bool →
    Reading (List WrittenParameter)
  | 0, _, _, _ => stop .tooDeep
  | fuel + 1, isAnnotated, before, starred => do
    if ← takeSymbol "," then readParameters fuel isAnnotated before starred else return before

/-- A parameter with its annotation, if it may have one, and its default. -/
def readParameter : Nat → Bool → ParameterKind → Reading WrittenParameter
  | 0, _, _ => stop .tooDeep
  | fuel + 1, isAnnotated, kind => do
    match ← next? with
    | some (.name name) =>
      advance
      let annotation ←
        if isAnnotated then
          if ← takeSymbol ":" then some <$> readExpression fuel else pure none
        else pure none
      let default ← if ← takeSymbol "=" then some <$> readExpression fuel else pure none
      return { name, kind, annotation, default }
    | _ => stop .misplaced

end

/-! ### Whole texts -/

/-- The operands of a tuple outside of brackets. -/
def readTuple : Nat → Reading (List Expression)
  | 0 => stop .tooDeep
  | fuel + 1 => do
    if (← next?).isNone then return []
    else
      let first ← readExpression fuel
      if ← takeSymbol "," then return first :: (← readTuple fuel) else return [first]

/-- Everything that is read from tokens of the given number. -/
def fuelFor (length : Nat) : Nat :=
  32 * (length + 2)

/-- A whole text: an expression, or several ones with commas between them. -/
def readWhole (fuel : Nat) : Reading Expression := do
  let first ← readExpression fuel
  if ← takeSymbol "," then return .tuple (first :: (← readTuple fuel)) else return first

/-- The problem that a stop amounts to. -/
def problemOf (scanned : Token.Scan) (found : Stop) : Problem :=
  let last := (scanned.tokens.getLast?.map (·.line)).getD 1
  match found.rest, scanned.opened with
  | [], (bracket, line) :: _ => ⟨.unclosed bracket, line⟩
  | [], [] => ⟨found.cause, last⟩
  | placed :: _, _ => ⟨found.cause, placed.line⟩

/-- What a text is read as, if nothing is left. -/
def readAll {α : Type} (text : List Char) (reading : Nat → Reading α) : Except Problem α := do
  let scanned ← Token.scan text
  match reading (fuelFor text.length) scanned.tokens with
  | .error found => .error (problemOf scanned found)
  | .ok (found, []) =>
    if scanned.opened.isEmpty then return found
    else .error (problemOf scanned ⟨.misplaced, []⟩)
  | .ok (_, rest) => .error (problemOf scanned ⟨.misplaced, rest⟩)

/-- The expression that a text writes. -/
def read (text : String) : Except Problem Expression :=
  readAll text.toList readWhole

/-! ### Parameters -/

/-- The first name that several parameters have. -/
def repeatedName? : List WrittenParameter → Option String
  | [] => none
  | first :: others =>
    if others.any (·.name = first.name) then some first.name else repeatedName? others

/-- Whether a parameter by position without a default stands behind one with a default. -/
def hasMisplacedDefault : List WrittenParameter → Bool
  | [] => false
  | first :: others =>
    (first.default.isSome && others.any (·.default.isNone)) || hasMisplacedDefault others

/-- The parameters that a text writes. -/
def readParameterList (text : String) : Except Problem (List WrittenParameter) := do
  if (Text.trim text.toList).isEmpty then return []
  let scanned ← Token.scan (Text.trim text.toList)
  match readParameters (fuelFor text.length) true [] false scanned.tokens with
  | .error found => throw (problemOf scanned found)
  | .ok (parameters, []) =>
    if hasMisplacedDefault (parameters.filter fun p => p.kind = .position || p.kind = .either) then
      throw ⟨.misordered "non-default argument follows default argument", 1⟩
    match repeatedName? parameters with
    | some name => throw ⟨.repeatedParameter name, 1⟩
    | none => return parameters
  | .ok (_, rest) => throw (problemOf scanned ⟨.misplaced, rest⟩)

end StateContainer.Hint.Reader
