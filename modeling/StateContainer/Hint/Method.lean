/-
This file calls methods of texts, collections and numbers.

What is not followed is the effect of methods that change a collection: the
collection is a value here, and its changed form is nobody's.
-/

import StateContainer.Hint.Construct
import StateContainer.Text.Case
import StateContainer.Text.Identifier

namespace StateContainer.Hint

/-! ### Texts -/

/-- A text that is an argument. What is none is refused with what it should have been. -/
def textGiven (demand : String) (hint : Hint) : Evaluation String :=
  match hint with
  | value (.text content) => return content
  | other => misused (.other (demand ++ ", not " ++ other.kindName))

/-- Whether a character is one of those that are stripped. -/
def isStripped (marks : Option String) (c : Char) : Bool :=
  match marks with
  | some marks => marks.toList.contains c
  | none => Text.isBlank c

/-- The pieces of a text between occurrences of another one, which is not empty. -/
def splitAll (separator : List Char) : Nat → List Char → List Char → List (List Char)
  | 0, piece, _ => [piece.reverse]
  | _, piece, [] => [piece.reverse]
  | fuel + 1, piece, c :: others =>
    if separator.isPrefixOf (c :: others) then
      piece.reverse :: splitAll separator fuel [] ((c :: others).drop separator.length)
    else splitAll separator fuel (c :: piece) others

/-- The pieces of a text between occurrences of another one, which is not empty. -/
def splitBy (separator content : String) : List String :=
  (splitAll separator.toList (content.length + 1) [] content.toList).map String.ofList

/-- The words of a text. -/
def wordsOf (content : String) : List String :=
  (Text.parted content.toList).map String.ofList

/-- A text with occurrences of a part replaced. -/
def replaceAll (part other content : String) : String :=
  if part.isEmpty then
    other ++ String.join (content.toList.map fun c => String.singleton c ++ other)
  else other.intercalate (splitBy part content)

/-- A text whose first letter is an upper one, and the others are lower ones. -/
def capitalized : List Char → List Char
  | [] => []
  | c :: others => Text.upper [c] ++ Text.lower others

/-- A text in which every word begins with an upper letter. -/
def titled (content : List Char) : List Char :=
  let step (state : Bool × List Char) (c : Char) : Bool × List Char :=
    let (inWord, made) := state
    (Text.isCased c, made ++ (if inWord then Text.lowerChar c else Text.upperChar c))
  (content.foldl step (false, [])).2

/-- Where a part of a text first occurs. -/
def findPart (part : List Char) : Nat → List Char → Option Nat
  | place, [] => if part.isEmpty then some place else none
  | place, c :: others =>
    if part.isPrefixOf (c :: others) then some place else findPart part (place + 1) others

/-- A text between so many characters. -/
def justified (place : Char) (content : String) (given : List Hint) : Evaluation Hint := do
  let width ← integerGiven (given.getD 0 null)
  let fill ← match given[1]? with
    | some (value (.text mark)) => pure (mark.toList.headD ' ')
    | _ => pure ' '
  let layout : Layout := { fill, place := some place, width := width.toNat }
  return text (layout.padded place content)

/-- Whether a text is not empty and all of its characters are of a kind. -/
def isWholly (kind : Char → Bool) (content : String) : Hint :=
  bool (!content.isEmpty && content.toList.all kind)

/-- A method of texts, if it is known. -/
def textMethod? (content : String) (name : String) (given : List Hint) : Option (Evaluation Hint) :=
  let chars := content.toList
  let ofChars (made : List Char) : Option (Evaluation Hint) := some (return text (String.ofList made))
  let stripped (atStart atEnd : Bool) : Option (Evaluation Hint) :=
    some (do
      let marks ← match given with
        | [] => pure none
        | value .null :: _ => pure none
        | first :: _ => some <$> textGiven (name ++ " arg must be None or str") first
      let cut := if atStart then chars.dropWhile (isStripped marks) else chars
      let cut := if atEnd then (cut.reverse.dropWhile (isStripped marks)).reverse else cut
      return text (String.ofList cut))
  let affix (atStart : Bool) : Option (Evaluation Hint) :=
    some (do
      let isAffix (part : String) : Bool :=
        if atStart then part.toList.isPrefixOf chars else part.toList.isSuffixOf chars
      match given with
      | value (.text part) :: _ => return bool (isAffix part)
      | tuple parts :: _ =>
        return bool (parts.any fun part => match part with | value (.text s) => isAffix s | _ => false)
      | first :: _ =>
        misused (.other (name ++ " first arg must be str or a tuple of str, not " ++ first.kindName))
      | [] => misused (.other s!"{name} expected at least 1 argument, got 0"))
  match name with
  | "upper" => ofChars (Text.upper chars)
  | "lower" => ofChars (Text.lower chars)
  | "casefold" => ofChars (Text.lower chars)
  | "capitalize" => ofChars (capitalized chars)
  | "title" => ofChars (titled chars)
  | "swapcase" =>
    ofChars (chars.flatMap fun c => if Text.isUpper c then Text.lowerChar c else Text.upperChar c)
  | "strip" => stripped true true
  | "lstrip" => stripped true false
  | "rstrip" => stripped false true
  | "startswith" => affix true
  | "endswith" => affix false
  | "split" =>
    some (do
      match given with
      | [] => return list ((wordsOf content).map text)
      | value .null :: _ => return list ((wordsOf content).map text)
      | first :: _ =>
        let separator ← textGiven "must be str or None" first
        if separator.isEmpty then invalid "empty separator"
        else return list ((splitBy separator content).map text))
  | "splitlines" => some (return list ((splitBy "\n" content).map text))
  | "join" =>
    some (do
      let items ← match given with
        | [only] => itemsOf (fun _ => .other "can only join an iterable") only
        | others =>
          let count := others.length
          misused (.other s!"str.join() takes exactly one argument ({count} given)")
      let parts ← items.zipIdx.mapM fun (item, place) =>
        match item with
        | value (.text part) => return part
        | other =>
          let kind := other.kindName
          misused (.other s!"sequence item {place}: expected str instance, {kind} found")
      return text (content.intercalate parts))
  | "replace" =>
    some (do
      match given with
      | first :: second :: _ =>
        let part ← textGiven "replace() argument 1 must be str" first
        let other ← textGiven "replace() argument 2 must be str" second
        return text (replaceAll part other content)
      | others =>
        let count := others.length
        misused (.other s!"replace expected at least 2 arguments, got {count}"))
  | "removeprefix" =>
    some (do
      let part ← textGiven "removeprefix() argument must be str" (given.headD null)
      return text (String.ofList (if part.toList.isPrefixOf chars then chars.drop part.length else chars)))
  | "removesuffix" =>
    some (do
      let part ← textGiven "removesuffix() argument must be str" (given.headD null)
      let isEnd := !part.isEmpty && part.toList.isSuffixOf chars
      return text (String.ofList (if isEnd then chars.take (chars.length - part.length) else chars)))
  | "find" =>
    some (do
      let part ← textGiven "must be str" (given.headD null)
      return int (match findPart part.toList 0 chars with | some place => place | none => -1))
  | "index" =>
    some (do
      let part ← textGiven "must be str" (given.headD null)
      match findPart part.toList 0 chars with
      | some place => return int place
      | none => invalid "substring not found")
  | "count" =>
    some (do
      let part ← textGiven "must be str" (given.headD null)
      if part.isEmpty then return int (chars.length + 1 : Nat)
      else return int ((splitBy part content).length - 1 : Nat))
  | "zfill" =>
    some (do
      let width ← integerGiven (given.headD null)
      let layout : Layout := { fill := '0', place := some '=', width := width.toNat }
      return text (layout.padded '=' content))
  | "ljust" => some (justified '<' content given)
  | "rjust" => some (justified '>' content given)
  | "center" => some (justified '^' content given)
  | "encode" => some (return value (.bytes content.toUTF8.toList))
  | "isdigit" => some (return isWholly Char.isDigit content)
  | "isdecimal" => some (return isWholly Char.isDigit content)
  | "isalpha" => some (return isWholly (fun c => Text.isIdentifierStart c && c ≠ '_') content)
  | "isspace" => some (return isWholly Text.isBlank content)
  | "isidentifier" => some (return bool (Text.isIdentifier content))
  | "isascii" => some (return bool (chars.all (·.toNat < 128)))
  | "isupper" =>
    some (return bool (chars.any Text.isUpper && chars.all fun c => !Text.isCased c || Text.isUpper c))
  | "islower" =>
    some (return bool (chars.any (fun c => Text.isCased c && !Text.isUpper c) && !chars.any Text.isUpper))
  | _ => none

/-! ### Collections -/

/-- Where an item is in a sequence. -/
def placeOfItem (title : String) (items : List Hint) (item : Hint) : Evaluation Hint :=
  match items.findIdx? (same item ·) with
  | some place => return int place
  | none => invalid title

/-- A method of lists and tuples, if it is known. -/
def sequenceMethod? (isList : Bool) (items : List Hint) (name : String) (given : List Hint) :
    Option (Evaluation Hint) :=
  let item := given.headD null
  match name with
  | "count" => some (return int (items.countP (same item ·) : Nat))
  | "index" =>
    some (placeOfItem
      (if isList then item.written ++ " is not in list" else "tuple.index(x): x not in tuple") items item)
  | "copy" => if isList then some (return list items) else none
  | "append" => if isList then some (return null) else none
  | "extend" => if isList then some (return null) else none
  | "clear" => if isList then some (return null) else none
  | "reverse" => if isList then some (return null) else none
  | "pop" =>
    if isList then
      some (
        match items.getLast? with
        | some last => return last
        | none => throw (.raised "IndexError" "pop from empty list"))
    else none
  | _ => none

/-- A method of maps, if it is known. -/
def mapMethod? (entries : List (Hint × Hint)) (name : String) (given : List Hint) :
    Option (Evaluation Hint) :=
  let found (key : Hint) : Option Hint := (entries.find? fun (present, _) => same present key).map (·.2)
  match name with
  | "get" => some (return (found (given.headD null)).getD (given.getD 1 null))
  | "keys" => some (return thing ⟨"dict_keys", "dict_keys" ++ writtenGiven [list (entries.map (·.1))], none, none⟩)
  | "values" =>
    some (return thing ⟨"dict_values", "dict_values" ++ writtenGiven [list (entries.map (·.2))], none, none⟩)
  | "items" =>
    let pairs := entries.map fun (key, item) => tuple [key, item]
    some (return thing ⟨"dict_items", "dict_items" ++ writtenGiven [list pairs], none, none⟩)
  | "copy" => some (return dict entries)
  | "clear" => some (return null)
  | "update" => some (return null)
  | "pop" =>
    let key := given.headD null
    some (
      match found key, given[1]? with
      | some item, _ => return item
      | none, some usual => return usual
      | none, none => throw (.unknownKey key.written))
  | _ => none

/-- A method of sets, if it is known. -/
def setMethod? (frozen : Bool) (items : List Hint) (name : String) (given : List Hint) :
    Option (Evaluation Hint) :=
  let combined (operator : String) : Option (Evaluation Hint) :=
    some (do
      let others ← given.mapM (itemsOf .notIterated)
      return setOf frozen
        (others.foldl (fun made other => (combineSets? operator made other).getD made) items))
  match name with
  | "union" => combined "|"
  | "intersection" => combined "&"
  | "difference" => combined "-"
  | "symmetric_difference" => combined "^"
  | "copy" => some (return set frozen items)
  | "issubset" =>
    some (do return bool (compareSets "<=" items (← itemsOf .notIterated (given.headD null))))
  | "issuperset" =>
    some (do return bool (compareSets ">=" items (← itemsOf .notIterated (given.headD null))))
  | "add" => some (return null)
  | "discard" => some (return null)
  | _ => none

/-! ### Numbers -/

/-- A method of numbers, if it is known. -/
def numberMethod? (number : Hint) (name : String) : Option (Evaluation Hint) :=
  match name, numeric? number with
  | "conjugate", some (.int n) => some (return int n)
  | "conjugate", some (.float x) => some (return ofReal x)
  | "conjugate", some (.complex z) => some (return complex z.real z.imaginary.neg)
  | "bit_length", some (.int n) =>
    some (return int (if n = 0 then 0 else (n.natAbs.log2 + 1 : Nat)))
  | "bit_count", some (.int n) =>
    some (return int ((digitsIn 2 n.natAbs).countP (· = '1') : Nat))
  | "is_integer", some (.float x) => some (return bool x.isIntegral)
  | _, _ => none

/-! ### Methods -/

/-- What a method makes of its receiver and of arguments, if it is known. -/
def callMethod? (receiver : Hint) (name : String) (given : List Hint) : Option (Evaluation Hint) :=
  match receiver with
  | value (.text content) => textMethod? content name given
  | list items => sequenceMethod? true items name given
  | tuple items => sequenceMethod? false items name given
  | dict entries => mapMethod? entries name given
  | set frozen items => setMethod? frozen items name given
  | other => numberMethod? other name

/-- What a special method makes of its receiver and of arguments, if it is known. -/
def callSpecial? (receiver : Hint) (name : String) (given : List Hint) : Option (Evaluation Hint) :=
  match name, given with
  | "__repr__", [] => some (do return text (← representation receiver))
  | "__str__", [] => some (do return text (← shownText receiver))
  | "__getitem__", [index] => some (subscripted receiver index)
  | "__class_getitem__", [index] => some (subscripted receiver index)
  | "__contains__", [item] => some (do return bool (← contained item receiver))
  | "__eq__", [other] => some (return bool (same receiver other))
  | "__ne__", [other] => some (return bool (!same receiver other))
  | "__add__", [other] => some (combine "+" receiver other)
  | "__mul__", [other] => some (combine "*" receiver other)
  | "__or__", [other] => some (combine "|" receiver other)
  | _, _ => none

end StateContainer.Hint
