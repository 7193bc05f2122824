/-
This file evaluates expressions to what annotations stand for.

Names are looked up in a scope. Operands are evaluated from left to right. The
body of a function without a name, and what is made item by item, see fewer names
than the expression around them.
-/

import StateContainer.Hint.Call

namespace StateContainer.Hint

/-- Calls something with arguments. -/
abbrev Caller := Scope → Hint → Given → Evaluation Hint

/-! ### Names -/

/-- What a name stands for. Names that an expression binds come before those of its module. -/
def evaluateName (scope : Scope) (name : String) : Evaluation Hint := do
  match scope.locals.lookup name, (← get).bindings.get? name, scope.find? name with
  | some found, _, _ => return found
  | none, some found, _ => return found
  | none, none, some found => return found
  | none, none, none => throw (.unknownName name)

/-- Takes items apart for the targets that they are bound to. -/
def unpackCount (wanted : Nat) (items : List Hint) : Evaluation Unit :=
  let actual := items.length
  if actual < wanted then
    invalid s!"not enough values to unpack (expected {wanted}, got {actual})"
  else if wanted < actual then invalid s!"too many values to unpack (expected {wanted})"
  else return ()

/-- Whether a target takes several items. -/
def isStarred : Expression → Bool
  | .starred _ => true
  | _ => false

mutual

/-- The names of a target with what they are bound to. -/
def bindTarget (item : Hint) : Expression → Evaluation (List (String × Hint))
  | .name identifier => return [(identifier, item)]
  | .tuple targets => do bindTargets targets targets.length item
  | .list targets => do bindTargets targets targets.length item
  | .starred target => bindTarget item target
  | _ => return []

/-- The names of several targets. -/
def bindTargets (targets : List Expression) (count : Nat) (item : Hint) :
    Evaluation (List (String × Hint)) := do
  let items ← itemsOf (fun kind => .other s!"cannot unpack non-iterable {kind} object") item
  if !targets.any isStarred then unpackCount count items
  else if items.length + 1 < count then
    let least := count - 1
    let actual := items.length
    invalid s!"not enough values to unpack (expected at least {least}, got {actual})"
  bindEach items count targets

/-- The names of several targets of which one may take several items. -/
def bindEach (items : List Hint) (count : Nat) : List Expression → Evaluation (List (String × Hint))
  | [] => return []
  | .starred target :: others => do
    let taken := items.length + 1 - count
    let first ← bindTarget (list (items.take taken)) target
    return first ++ (← bindEach (items.drop taken) (count - 1) others)
  | target :: others => do
    let first ← bindTarget (items.headD null) target
    return first ++ (← bindEach (items.drop 1) (count - 1) others)

end

/-! ### Calls -/

/-- How what is called is named when its arguments are no collection. -/
def calleeText (scope : Scope) (callee : Hint) : Evaluation String := do
  try
    let name ← attributeOf scope "__qualname__" callee
    let owner ← try attributeOf scope "__module__" callee catch _ => pure null
    match name, owner with
    | value (.text path), value (.text m) =>
      return if m = "builtins" then path ++ "()" else m ++ "." ++ path ++ "()"
    | value (.text path), _ => return path ++ "()"
    | _, _ => return callee.written
  catch _ => return callee.written

/-- One more argument by name. -/
def addNamed (scope : Scope) (callee : Hint) (given : Given) (name : String) (item : Hint) :
    Evaluation Given := do
  if given.named.any (·.1 = name) then
    let title ← calleeText scope callee
    misused (.other s!"{title} got multiple values for keyword argument '{name}'")
  else return { given with named := given.named ++ [(name, item)] }

/-- Whether an argument is given by position. -/
def isPositional : ArgumentKind → Bool
  | .position => true
  | .spread => true
  | _ => false

/-- The items of the only argument by position. -/
def onlyItems (scope : Scope) (callee item : Hint) : Evaluation (List Hint) := do
  let title ← calleeText scope callee
  itemsOf (fun other => .other s!"{title} argument after * must be an iterable, not {other}") item

/-- One more argument as it is given in a call, which may be the only one by position. -/
def addGiven (scope : Scope) (callee : Hint) (isOnly : Bool) (given : Given) (kind : ArgumentKind)
    (item : Hint) : Evaluation Given := do
  match kind with
  | .position => return { given with positional := given.positional ++ [item] }
  | .named name => addNamed scope callee given name item
  | .spread =>
    let items ← if isOnly then onlyItems scope callee item else itemsOf .notSpreadable item
    return { given with positional := given.positional ++ items }
  | .spreadNames =>
    match item with
    | dict entries =>
      entries.foldlM (fun given (key, entry) =>
        match key with
        | value (.text name) => addNamed scope callee given name entry
        | _ => misused (.other "keywords must be strings")) given
    | other =>
      let title ← calleeText scope callee
      let actual := other.kindName
      misused (.other s!"{title} argument after ** must be a mapping, not {actual}")

/-! ### Loops -/

/-- Items that are made one by one, and what ends them early. -/
abbrev Produced := List Hint × Option Fault

/-- Goes through items until making one of them fails. -/
def produceAll (items : List Hint) (make : Hint → Evaluation Produced) : Evaluation Produced :=
  items.foldlM (fun (made, failure) item =>
    match failure with
    | some fault => return (made, some fault)
    | none => do
      let (more, failure) ← try make item catch fault => pure ([], some fault)
      return (made ++ more, failure)) ([], none)

/-- The items of something that is gone through, and what ends them early. -/
def produceItems : Hint → Evaluation Produced
  | series items (some (className, text)) => return (items, some (.raised className text))
  | other => do return (← itemsOf .notIterated other, none)

/-- Items that are made one by one as a value. -/
def ofProduced : Produced → Hint
  | (items, none) => series items none
  | (items, some fault) => series items (some (fault.className, fault.message))

/-- All items that are made one by one. -/
def allProduced : Produced → Evaluation (List Hint)
  | (items, none) => return items
  | (_, some fault) => throw fault

/-! ### Expressions -/

mutual

/-- The value of an expression in a scope. -/
def evaluate (call : Caller) (scope : Scope) : Expression → Evaluation Hint
  | .name identifier => evaluateName scope identifier
  | .value v => return value v
  | .imaginary x => return complex (.zero false) x
  | .ellipsis => return ellipsis
  | .attribute base identifier => do
    let owner ← evaluate call scope base
    attributeOf scope identifier owner
  | .subscript base index => do
    let owner ← evaluate call scope base
    let index ← evaluate call scope index
    subscripted owner index
  | .slice lower upper step => do
    let lower ← evaluateOptional call scope lower
    let upper ← evaluateOptional call scope upper
    let step ← evaluateOptional call scope step
    return slice [lower, upper, step]
  | .call callee given => do
    let callee ← evaluate call scope callee
    let isOnly := (given.filter fun (kind, _) => isPositional kind).length = 1
    call scope callee (← evaluateArguments call scope callee isOnly {} given)
  | .tuple items => do return tuple (← evaluateAll call scope .notSpreadable items)
  | .list items => do return list (← evaluateAll call scope .notSpreadable items)
  | .set items => do
    let made ← makeSet false (← evaluateAll call scope .notIterated items)
    return if 2 < items.length && items.all Expression.isConstant then takenOver made else made
  | .dict entries => do return dict (← evaluateEntries call scope [] entries)
  | .starred operand => evaluate call scope operand
  | .unary operator operand => do
    let operand ← evaluate call scope operand
    signed operator operand
  | .binary operator left right => do
    let left ← evaluate call scope left
    let right ← evaluate call scope right
    combine operator left right
  | .compare first others => do
    let first ← evaluate call scope first
    evaluateComparisons call scope first others
  | .conjunction left right => do
    let left ← evaluate call scope left
    if left.truth then evaluate call scope right else return left
  | .disjunction left right => do
    let left ← evaluate call scope left
    if left.truth then return left else evaluate call scope right
  | .conditional condition positive negative => do
    let condition ← evaluate call scope condition
    if condition.truth then evaluate call scope positive else evaluate call scope negative
  | .lambda parameters body => do
    let defaults ← evaluateDefaults call scope parameters
    let named := parameters.map fun parameter => (parameter.1, parameter.2.1)
    return closure named defaults body scope.locals
  | .collect kind item loops => do
    let make (inner : Scope) : Evaluation (List Hint) := do
      let made ← evaluate call inner item
      if kind = .set then checkKey made
      return [made]
    let produced ← evaluateFirstLoop call scope make loops
    match kind with
    | .list => return list (← allProduced produced)
    | .set => return setOf false (← allProduced produced)
    | .generator => return ofProduced produced
  | .collectEntries key item loops => do
    let make (inner : Scope) : Evaluation (List Hint) := do
      let key ← evaluate call inner key
      let item ← evaluate call inner item
      checkKey key
      return [tuple [key, item]]
    let produced ← evaluateFirstLoop call scope make loops
    let entries := (← allProduced produced).map fun entry =>
      match entry with
      | tuple [key, item] => (key, item)
      | other => (other, null)
    return dict (entries.foldl (fun made (key, item) => insertEntry made key item) [])
  | .assign identifier item => do
    let made ← evaluate call scope item
    bindName identifier made
    return made
  | .formatted parts => do
    let parts ← evaluateAll call scope .notSpreadable parts
    let texts ← parts.mapM shownText
    return text (String.join texts)
  | .shown part conversion layout => do
    let part ← evaluate call scope part
    let layout ← (← evaluateAll call scope .notSpreadable layout).mapM shownText
    let converted ←
      match conversion with
      | some 'r' => text <$> representation part
      | some 's' => text <$> shownText part
      | some 'a' => do pure (text (asciiText (← representation part)))
      | _ => pure part
    return text (← laidOut (String.join layout) converted)

/-- The value of an expression that may be missing; then it is null. -/
def evaluateOptional (call : Caller) (scope : Scope) : Option Expression → Evaluation Hint
  | none => return null
  | some expression => evaluate call scope expression

/-- The values of several expressions. One with a star stands for its items. -/
def evaluateAll (call : Caller) (scope : Scope) (refusal : String → Misuse) :
    List Expression → Evaluation (List Hint)
  | [] => return []
  | .starred operand :: others => do
    let operand ← evaluate call scope operand
    let items ← itemsOf refusal operand
    let others ← evaluateAll call scope refusal others
    return items ++ others
  | first :: others => do
    let first ← evaluate call scope first
    let others ← evaluateAll call scope refusal others
    return first :: others

/-- The arguments of a call. -/
def evaluateArguments (call : Caller) (scope : Scope) (callee : Hint) (isOnly : Bool)
    (given : Given) : List (ArgumentKind × Expression) → Evaluation Given
  | [] => return given
  | (kind, item) :: others => do
    let item ← evaluate call scope item
    let given ← addGiven scope callee isOnly given kind item
    evaluateArguments call scope callee isOnly given others

/-- The values of the defaults of parameters. -/
def evaluateDefaults (call : Caller) (scope : Scope) :
    List (String × ParameterKind × Option Expression) → Evaluation (List (String × Hint))
  | [] => return []
  | (name, _, some default) :: others => do
    let first ← evaluate call scope default
    return (name, first) :: (← evaluateDefaults call scope others)
  | (_, _, none) :: others => evaluateDefaults call scope others

/-- The values of the entries of a map. The last one of equal keys counts. -/
def evaluateEntries (call : Caller) (scope : Scope) (made : List (Hint × Hint)) :
    List (Option Expression × Expression) → Evaluation (List (Hint × Hint))
  | [] => return made
  | (some key, item) :: others => do
    let key ← evaluate call scope key
    let item ← evaluate call scope item
    checkKey key
    evaluateEntries call scope (insertEntry made key item) others
  | (none, source) :: others => do
    match ← evaluate call scope source with
    | dict entries =>
      evaluateEntries call scope
        (entries.foldl (fun made (key, item) => insertEntry made key item) made) others
    | other => misused (.other ("'" ++ other.kindName ++ "' object is not a mapping"))

/-- The value of a chain of comparisons, which ends with the first one that fails. -/
def evaluateComparisons (call : Caller) (scope : Scope) (left : Hint) :
    List (String × Expression) → Evaluation Hint
  | [] => return bool true
  | (operator, right) :: others => do
    let right ← evaluate call scope right
    if ← compared operator left right then evaluateComparisons call scope right others
    else return bool false

/-- What the loops of a collection make. The first source is seen as the expression around sees
it. -/
def evaluateFirstLoop (call : Caller) (scope : Scope) (make : Scope → Evaluation (List Hint)) :
    List (Expression × Expression × List Expression) → Evaluation Produced
  | [] => return ([], none)
  | (target, source, conditions) :: others => do
    let source ← evaluate call scope source
    let (items, failure) ← produceItems source
    let inner := scope.body scope.locals
    let (made, stopped) ← produceAll items fun item => do
      let bound ← bindTarget item target
      let inner := inner.body (bound ++ inner.locals)
      if ← evaluateConditions call inner conditions then evaluateLoops call inner make others
      else return ([], none)
    return (made, stopped.or failure)

/-- What further loops make. -/
def evaluateLoops (call : Caller) (scope : Scope) (make : Scope → Evaluation (List Hint)) :
    List (Expression × Expression × List Expression) → Evaluation Produced
  | [] => do return (← make scope, none)
  | (target, source, conditions) :: others => do
    let source ← evaluate call scope source
    let (items, failure) ← produceItems source
    let (made, stopped) ← produceAll items fun item => do
      let bound ← bindTarget item target
      let inner := scope.body (bound ++ scope.locals)
      if ← evaluateConditions call inner conditions then evaluateLoops call inner make others
      else return ([], none)
    return (made, stopped.or failure)

/-- Whether all conditions hold. -/
def evaluateConditions (call : Caller) (scope : Scope) : List Expression → Evaluation Bool
  | [] => return true
  | first :: others => do
    let first ← evaluate call scope first
    if first.truth then evaluateConditions call scope others else return false

end

/-! ### Functions without a name -/

/-- What the names in the body of a function are bound to. -/
def argumentsBound (parameters : List (String × ParameterKind)) (defaults : List (String × Hint))
    (given : Given) : Evaluation (List (String × Hint)) := do
  let header : Header :=
    { title := "<lambda>"
      parameters := parameters.map fun (name, kind) =>
        { name, kind, hasDefault := (defaults.lookup name).isSome } }
  let bound ← bindGiven header given
  return parameters.map fun (name, kind) =>
    match kind with
    | .rest => (name, tuple bound.rest)
    | .names => (name, dict (bound.names.map fun (key, item) => (text key, item)))
    | _ => (name, ((bound.single.lookup name).or (defaults.lookup name)).getD null)

/-- Calls something with arguments. Calls may be nested to a given depth. -/
def callNested : Nat → Caller
  | 0, _, _, _ => throw .endless
  | depth + 1, scope, callee, given =>
    match callee with
    | closure parameters defaults body bound => do
      let taken ← argumentsBound parameters defaults given
      evaluate (callNested depth) (scope.body (taken ++ bound)) body
    | other =>
      callKnown scope scope.moduleName
        (fun f items => callNested depth scope f { positional := items }) other given

/-- How deep calls may be nested. -/
def callDepth : Nat := 900

/-- The value of an expression in a scope. -/
def evaluateIn (scope : Scope) (expression : Expression) : Evaluation Hint :=
  evaluate (callNested callDepth) scope expression

/-! ### Texts -/

/-- The value of a text. Blanks in front of it do not count. -/
def evaluateText (scope : Scope) (content : String) : Evaluation Hint :=
  let visible := String.ofList (content.toList.dropWhile fun c => c = ' ' || c = '\t')
  match Reader.read visible with
  | .ok expression => evaluateIn scope expression
  | .error problem => throw (.malformed problem)

end StateContainer.Hint
