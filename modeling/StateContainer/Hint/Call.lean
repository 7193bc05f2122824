/-
This file calls functions, methods, classes and generic types.

A function that takes another function, such as the one that sorts, is told how
to call it.
-/

import StateContainer.Hint.Abstract
import StateContainer.Hint.Method

namespace StateContainer.Hint

/-! ### Classes of things -/

/-- Whether something is an instance of a class. -/
def isInstance (hint : Hint) (id : ClassId) : Bool :=
  belongsTo (classIdOf hint) id

/-- Whether something is of one of the classes that an argument names. -/
def isInstanceOf (title : String) (holds : ClassId → Bool) : Hint → Evaluation Bool
  | classRef id =>
    if id = anyClass && title = "isinstance" then
      misused (.other "typing.Any cannot be used with isinstance()")
    else return holds id
  | union _ items => return items.any (isOfMember holds)
  | tuple items => return items.any (isOfMember holds)
  | standIn _ origin _ => return holds origin
  | applied .plain _ _ =>
    misused (.other s!"{title}() argument 2 cannot be a parameterized generic")
  | applied _ _ _ =>
    misused (.other "Subscripted generics cannot be used with class and instance checks")
  | form name => misused (.other s!"typing.{name} cannot be used with {title}()")
  | _ =>
    let kinds := if title = "isinstance" then "a type, a tuple of types, or a union"
      else "a class, a tuple of classes, or a union"
    misused (.other s!"{title}() arg 2 must be {kinds}")
where
  /-- Whether a member of the argument is such a class. -/
  isOfMember (holds : ClassId → Bool) : Hint → Bool
    | classRef id => holds id
    | standIn _ origin _ => holds origin
    | _ => false

/-- Whether something is a class that belongs to one of the classes that an argument names. -/
def isSubclassOf (first second : Hint) : Evaluation Bool :=
  let title := "issubclass"
  match first, second with
  | classRef id, _ => isInstanceOf title (belongsTo id) second
  | standIn _ origin _, standIn _ other _ => return belongsTo origin other
  | _, form _ => isInstanceOf title (fun _ => false) second
  | _, applied _ _ _ => isInstanceOf title (fun _ => false) second
  | _, _ => misused (.other s!"{title}() arg 1 must be a class")

/-! ### Order -/

/-- Inserts an item behind those that are not greater by their keys. -/
def insertSorted (item : Hint × Hint) : List (Hint × Hint) → Evaluation (List (Hint × Hint))
  | [] => return [item]
  | first :: others => do
    if ← compareOrder "<" item.1 first.1 then return item :: first :: others
    else return first :: (← insertSorted item others)

/-- Items sorted by their keys. Equal ones keep their order. -/
def sortItems (items : List (Hint × Hint)) : Evaluation (List (Hint × Hint)) :=
  items.foldlM (fun sorted item => insertSorted item sorted) []

/-- The keys by which items are sorted. -/
def withKeys (apply : Hint → List Hint → Evaluation Hint) (key : Option Hint) (items : List Hint) :
    Evaluation (List (Hint × Hint)) :=
  items.mapM fun item =>
    match key with
    | none => return (item, item)
    | some (value .null) => return (item, item)
    | some f => do return (← apply f [item], item)

/-- The first of the items that are before all others. -/
def extreme (title operator : String) (apply : Hint → List Hint → Evaluation Hint) (given : Given) :
    Evaluation Hint := do
  let items ←
    match given.positional with
    | [] => misused (.other s!"{title} expected at least 1 argument, got 0")
    | [only] => itemsOf .notIterated only
    | several => pure several
  let keyed ← withKeys apply (given.named.lookup "key") items
  match keyed with
  | [] =>
    match given.named.lookup "default" with
    | some usual => return usual
    | none => invalid s!"{title}() arg is an empty sequence"
  | first :: others =>
    let found ← others.foldlM (fun best item => do
      if ← compareOrder operator item.1 best.1 then return item else return best) first
    return found.2

/-! ### Functions -/

/-- How many items something has. -/
def lengthOf (hint : Hint) : Evaluation Hint :=
  match hint with
  | value (.text content) => return int content.length
  | value (.bytes bytes) => return int bytes.length
  | list items => return int items.length
  | tuple items => return int items.length
  | set _ items => return int items.length
  | dict entries => return int entries.length
  | range start stop step => return int (rangeLength start stop step)
  | other => misused (.other ("object of type '" ++ other.kindName ++ "' has no len()"))

/-- The code of the only character of a text. -/
def codeOf (hint : Hint) : Evaluation Hint :=
  match hint with
  | value (.text content) =>
    match content.toList with
    | [c] => return int (Text.codeOfChar c)
    | chars =>
      let count := chars.length
      misused (.other s!"ord() expected a character, but string of length {count} found")
  | value (.bytes [byte]) => return int byte.toNat
  | other =>
    misused (.other ("ord() expected string of length 1, but " ++ other.kindName ++ " found"))

/-- The character of a code. -/
def charOf (hint : Hint) : Evaluation Hint := do
  let n ← integerGiven hint
  if 0 ≤ n && n < 0x110000 then return text (String.singleton (Text.charOfCode n.toNat))
  else invalid "chr() arg not in range(0x110000)"

/-- A number rounded to an integer, a half to the even neighbour, or to so many digits. -/
def rounded (given : List Hint) : Evaluation Hint :=
  match given with
  | [value (.float x)] =>
    if x.isFinite then
      let nearest : Int := Binary64.roundQuotient x.numerator x.denominator
      return int (if x.isNegative then -nearest else nearest)
    else if x.isNaN then invalid "cannot convert float NaN to integer"
    else throw (.raised "OverflowError" "cannot convert float infinity to integer")
  | [value (.float x), places] => do
    let places ← integerGiven places
    match Number.readBinary64? (fixedPoint places.toNat x) with
    | some nearest => return ofReal nearest
    | none => return ofReal x
  | first :: _ =>
    match index? first with
    | some n => return int n
    | none =>
      misused (.other ("type " ++ first.kindName ++ " doesn't define __round__ method"))
  | [] => misused (.other "round() missing required argument 'number' (pos 1)")

/-- The magnitude of a number. -/
def magnitude (hint : Hint) : Evaluation Hint :=
  match numeric? hint with
  | some (.int n) => return int n.natAbs
  | some (.float x) => return ofReal x.abs
  | some (.complex z) =>
    let square := (z.real.mul z.real).add (z.imaginary.mul z.imaginary)
    return ofReal (square.pow (Binary64.ofRatio false 1 2))
  | none => misused (.other ("bad operand type for abs(): '" ++ hint.kindName ++ "'"))

/-- Whether something can be called. -/
def isCallable : Hint → Bool
  | classRef _ => true
  | function _ _ => true
  | method _ _ => true
  | closure _ _ _ _ => true
  | form _ => true
  | standIn _ _ _ => true
  | newType _ _ _ => true
  | applied _ _ _ => true
  | literal _ => true
  | annotated _ _ => true
  | qualified _ _ => true
  | union bars _ => !bars
  | _ => false

/-- An attribute by its name, or what is given for want of it. -/
def attributeGiven (scope : Scope) (title : String) (given : List Hint) : Evaluation Hint :=
  match given with
  | owner :: value (.text name) :: usual => do
    try attributeOf scope name owner
    catch fault =>
      match usual with
      | found :: _ => if fault.className = "AttributeError" then return found else throw fault
      | [] => throw fault
  | _ :: name :: _ =>
    misused (.other ("attribute name must be string, not '" ++ name.kindName ++ "'"))
  | others =>
    let count := others.length
    misused (.other s!"{title} expected at least 2 arguments, got {count}")

/-- Lists of items side by side. -/
def zipped : Nat → List (List Hint) → List Hint
  | 0, _ => []
  | fuel + 1, rows =>
    if rows.isEmpty || rows.any (·.isEmpty) then []
    else tuple (rows.filterMap (·.head?)) :: zipped fuel (rows.map (·.drop 1))

/-- What a built-in function makes of arguments, if it is known. -/
def callBuiltin? (scope : Scope) (apply : Hint → List Hint → Evaluation Hint) (name : String)
    (given : Given) : Option (Evaluation Hint) :=
  let one (f : Hint → Evaluation Hint) : Option (Evaluation Hint) :=
    some (do f (← single name given))
  let inBase (base : Nat) (mark : String) : Option (Evaluation Hint) :=
    one fun hint => do return text (integerIn base mark (← integerGiven hint))
  match name with
  | "abs" => one magnitude
  | "all" => one fun hint => do return bool ((← itemsOf .notIterated hint).all truth)
  | "any" => one fun hint => do return bool ((← itemsOf .notIterated hint).any truth)
  | "ascii" => one fun hint => do return text (asciiText (← representation hint))
  | "bin" => inBase 2 "0b"
  | "oct" => inBase 8 "0o"
  | "hex" => inBase 16 "0x"
  | "callable" => one fun hint => return bool hint.isCallable
  | "chr" => one charOf
  | "ord" => one codeOf
  | "len" => one lengthOf
  | "repr" => one fun hint => do return text (← representation hint)
  | "iter" =>
    some (
      match given.positional with
      | [only] => do return series (← itemsOf .notIterated only) none
      | [] => misused (.other "iter expected at least 1 argument, got 0")
      | _ => misused (.other "iter(v, w): v must be callable"))
  | "round" => some (rounded given.positional)
  | "min" => some (extreme "min" "<" apply given)
  | "max" => some (extreme "max" ">" apply given)
  | "print" => some (return null)
  | "hash" =>
    one fun hint => do
      checkKey hint
      match index? hint with
      | some n => return int n
      | none => return int 0
  | "divmod" =>
    some (do
      let (first, second) ← pair name given
      if (numeric? first).isNone || (numeric? second).isNone then
        misused (.unsupportedOperands "divmod()" first.kindName second.kindName)
      return tuple [← combine "//" first second, ← combine "%" first second])
  | "pow" =>
    some (
      match given.positional with
      | [first, second] => combine "**" first second
      | [first, second, third] => do combine "%" (← combine "**" first second) third
      | [_] => misused (.other "pow() missing required argument 'exp' (pos 2)")
      | _ => misused (.other "pow() missing required argument 'base' (pos 1)"))
  | "format" =>
    some (
      match given.positional with
      | [only] => do return text (← shownText only)
      | only :: value (.text layout) :: _ => do return text (← laidOut layout only)
      | _ => misused (.other "format() argument 2 must be str, not int"))
  | "getattr" => some (attributeGiven scope "getattr" given.positional)
  | "hasattr" =>
    some (do
      let (owner, name) ← pair name given
      let missing := form "missing"
      return bool (!same missing (← attributeGiven scope "hasattr" [owner, name, missing])))
  | "isinstance" =>
    some (do
      let (first, second) ← pair name given
      return bool (← isInstanceOf name (isInstance first) second))
  | "issubclass" =>
    some (do
      let (first, second) ← pair name given
      return bool (← isSubclassOf first second))
  | "next" =>
    some (
      match given.positional with
      | series (first :: _) _ :: _ => return first
      | [series [] _] => throw (.raised "StopIteration" "")
      | [series [] _, usual] => return usual
      | other :: _ => misused (.other ("'" ++ other.kindName ++ "' object is not an iterator"))
      | [] => misused (.other "next expected at least 1 argument, got 0"))
  | "sorted" =>
    some (
      match given.positional with
      | [only] => do
        let keyed ← withKeys apply (given.named.lookup "key") (← itemsOf .notIterated only)
        let sorted := (← sortItems keyed).map (·.2)
        let isReversed := ((given.named.lookup "reverse").map truth).getD false
        return list (if isReversed then sorted.reverse else sorted)
      | others =>
        let count := others.length
        misused (.other s!"sorted expected 1 argument, got {count}"))
  | "sum" =>
    some (
      match given.positional with
      | first :: others => do
        let start := (others.head?.or (given.named.lookup "start")).getD (int 0)
        match start with
        | value (.text _) =>
          misused (.other "sum() can't sum strings [use ''.join(seq) instead]")
        | value (.bytes _) =>
          misused (.other "sum() can't sum bytes [use b''.join(seq) instead]")
        | other => (← itemsOf .notIterated first).foldlM (combine "+") other
      | [] => misused (.other "sum() takes at least 1 positional argument (0 given)"))
  | _ => none

/-- What a built-in class that goes through items makes of arguments, if it is known. -/
def callSeries? (apply : Hint → List Hint → Evaluation Hint) (name : String) (given : Given) :
    Option (Evaluation Hint) :=
  match name, given.positional with
  | "zip", rows =>
    some (do
      let rows ← rows.mapM (itemsOf .notIterated)
      return series (zipped (rows.headD []).length rows) none)
  | "map", [] => some (misused (.other "map() must have at least two arguments."))
  | "map", [_] => some (misused (.other "map() must have at least two arguments."))
  | "enumerate", [] => some (misused (.other "enumerate() missing required argument 'iterable'"))
  | "map", f :: rows =>
    some (do
      let rows ← rows.mapM (itemsOf .notIterated)
      let items ← (zipped (rows.headD []).length rows).mapM fun row => apply f (arguments row)
      return series items none)
  | "filter", [f, source] =>
    some (do
      let items ← itemsOf .notIterated source
      let kept ← items.filterM fun item =>
        match f with
        | value .null => return truth item
        | _ => do return truth (← apply f [item])
      return series kept none)
  | "enumerate", source :: others =>
    some (do
      let start := ((others.head?.or (given.named.lookup "start")).bind index?).getD 0
      let items ← itemsOf .notIterated source
      return series (items.zipIdx.map fun (item, place) => tuple [int (start + place), item]) none)
  | "reversed", [source] =>
    some (do
      match source with
      | set _ _ => misused (.other ("'" ++ source.kindName ++ "' object is not reversible"))
      | _ => return series (← itemsOf (fun kind => .other s!"'{kind}' object is not reversible") source).reverse none)
  | "reversed", several =>
    let count := several.length
    some (misused (.other s!"reversed expected 1 argument, got {count}"))
  | _, _ => none

/-! ### The typing vocabulary -/

/-- The arguments of a type as they are asked for. -/
def argumentsGiven (hint : Hint) : List Hint :=
  match hint with
  | annotated base remarks => base :: remarks
  | applied _ origin items =>
    if origin = callableClass && !hasWholeParameters items then
      [list items.dropLast, items.getLastD null]
    else items
  | other => (argumentsOf? other).getD []

/-- What a function of the typing vocabulary makes of arguments, if it is known. -/
def callTyping? (name : String) (given : Given) : Option (Evaluation Hint) :=
  match name, given.positional with
  | "get_args", [hint] => some (return tuple (argumentsGiven hint))
  | "get_origin", [hint] =>
    some (
      match hint with
      | annotated _ _ => return classRef annotatedClass
      | union true _ => return classOf hint
      | classRef id =>
        return if id.qualifiedName = "typing.Generic" then hint else null
      | other => return (originOf? other).getD null)
  | "cast", [_, hint] => some (return hint)
  | "assert_type", [hint, _] => some (return hint)
  | "reveal_type", [hint] => some (return hint)
  | "final", [hint] => some (return hint)
  | "no_type_check", [hint] => some (return hint)
  | "is_typeddict", [_] => some (return bool false)
  | _, _ => none

/-! ### Calls -/

/-- What something other than a function without a name makes of arguments. -/
def callKnown (scope : Scope) (moduleName : String) (apply : Hint → List Hint → Evaluation Hint)
    (callee : Hint) (given : Given) : Evaluation Hint :=
  let unknown : Evaluation Hint := misused (.notCallable callee.kindName)
  match callee with
  | function m path =>
    let known :=
      if m = "builtins" then callBuiltin? scope apply path given
      else if m = "typing" then callTyping? path given
      else none
    known.getD unknown
  | method path [receiver] =>
    let name := String.ofList (Text.afterLast '.' path.toList)
    ((callMethod? receiver name given.positional).or
      (callSpecial? receiver name given.positional)).getD unknown
  | method path _ =>
    let name := String.ofList (Text.afterLast '.' path.toList)
    match given.positional with
    | receiver :: others =>
      ((callMethod? receiver name others).or (callSpecial? receiver name others)).getD unknown
    | [] => misused (.other ("unbound method " ++ path ++ "() needs an argument"))
  | classRef id =>
    let asSeries := if id.moduleName = "builtins" then callSeries? apply id.path given else none
    asSeries.getD (construct moduleName id given)
  | standIn name origin _ =>
    if ["List", "Set", "FrozenSet", "Dict", "Tuple", "Type"].contains name then
      let usual := origin.simpleName
      misused (.other s!"Type {name} cannot be instantiated; use {usual}() instead")
    else construct moduleName origin given
  | applied (.typing name) origin _ =>
    if ["List", "Set", "FrozenSet", "Dict", "Tuple", "Type"].contains name then
      let usual := origin.simpleName
      misused (.other s!"Type {name} cannot be instantiated; use {usual}() instead")
    else construct moduleName origin given
  | applied _ origin _ => construct moduleName origin given
  | form name => misused (.notInstantiated (typingName name))
  | union false _ => misused (.notInstantiated "typing.Union")
  | literal _ => misused (.notInstantiated "typing.Literal")
  | qualified name _ => misused (.notInstantiated (typingName name))
  | annotated (classRef id) _ => construct moduleName id given
  | newType _ _ _ => single "_typing._idfunc" given
  | _ => unknown

end StateContainer.Hint
