/-
This file makes universally unique identifiers: numbers of 128 bits that are
written as five groups of digits in base sixteen.
-/

import StateContainer.Hint.Numeral

namespace StateContainer.Hint

/-- A text without each occurrence of a part. -/
def without (part : List Char) : Nat → List Char → List Char
  | 0, content => content
  | _, [] => []
  | fuel + 1, c :: rest =>
    if part.isPrefixOf (c :: rest) then without part fuel ((c :: rest).drop part.length)
    else c :: without part fuel rest

/-- The digits of an identifier in base sixteen. -/
def identifierDigits (written : String) : List Char :=
  let content := written.toList
  let plain := without "uuid:".toList content.length (without "urn:".toList content.length content)
  let isBrace (c : Char) : Bool := c = '\x7b' || c = '\x7d'
  let inner := ((plain.dropWhile isBrace).reverse.dropWhile isBrace).reverse
  inner.filter (· ≠ '-')

/-- How the identifier of a number is written. -/
def identifierText (n : Nat) : String :=
  let digits := Text.hexPadded 32 n
  let part (start count : Nat) : String := String.ofList ((digits.drop start).take count)
  "-".intercalate [part 0 8, part 8 4, part 12 4, part 16 4, part 20 12]

/-- The identifier of a number as a value. -/
def ofIdentifier (n : Int) : Evaluation Hint :=
  if n < 0 || twoPower 128 ≤ n then invalid "int is out of range (need a 128-bit value)"
  else
    let shown := identifierText n.toNat
    return value (.wrapped "UUID" ("UUID('" ++ shown ++ "')") (.text shown))

/-- The number of the identifier that is written in base sixteen. -/
def identifierNumber (hint : Hint) : Evaluation Int :=
  match hint with
  | value (.text written) =>
    let digits := String.ofList (identifierDigits written)
    if digits.length ≠ 32 then invalid "badly formed hexadecimal UUID string"
    else integerInBase 16 digits (Text.quoted digits)
  | other => throw (.unknownAttribute ("'" ++ other.kindName ++ "' object") "replace")

/-- The identifier that a text writes. -/
def toIdentifier (hint : Hint) : Evaluation Hint :=
  match hint with
  | value (.wrapped "UUID" shown content) => return value (.wrapped "UUID" shown content)
  | other => do ofIdentifier (← identifierNumber other)

/-- Sixteen bytes that are an argument. -/
def sixteenBytes (title : String) (hint : Hint) : Evaluation (List UInt8) :=
  match hint with
  | value (.bytes bytes) =>
    if bytes.length = 16 then return bytes else invalid (title ++ " is not a 16-char string")
  | other => misused (.other ("object of type '" ++ other.kindName ++ "' has no len()"))

/-- The number that bytes stand for, the first one being the highest. -/
def numberOfBytes (bytes : List UInt8) : Int :=
  Text.ofDigits 256 (bytes.map UInt8.toNat)

/-- Bytes of which the first three groups stand the other way round. -/
def turnedBytes (bytes : List UInt8) : List UInt8 :=
  (bytes.take 4).reverse ++ ((bytes.drop 4).take 2).reverse ++ ((bytes.drop 6).take 2).reverse ++
    bytes.drop 8

/-- How many bits the fields of an identifier have. -/
def fieldWidths : List Nat := [32, 16, 16, 8, 8, 48]

/-- The number that is made of fields. -/
def numberOfFields (hint : Hint) : Evaluation Int := do
  let items ← itemsOf (fun kind => .other s!"object of type '{kind}' has no len()") hint
  if items.length ≠ 6 then invalid "fields is not a 6-tuple"
  else
    (items.zip fieldWidths).zipIdx.foldlM (fun (total : Int) ((item, width), place) => do
      let n ← integerGiven item
      let number := place + 1
      let article := if width = 8 then "an" else "a"
      if n < 0 || twoPower width ≤ n then
        invalid s!"field {number} out of range (need {article} {width}-bit value)"
      else return total * twoPower width + n) 0

/-- The number with the marks of a version of identifiers. -/
def withVersion (number version : Int) : Evaluation Int :=
  if version < 1 || 5 < version then invalid "illegal version number"
  else
    let high := number / twoPower 80 * twoPower 80
    let middle := number % twoPower 76 / twoPower 64 * twoPower 64
    let low := number % twoPower 62
    return high + version * twoPower 76 + middle + twoPower 63 + low

/-- The identifier of a call. -/
def makeIdentifier (given : Given) : Evaluation Hint := do
  let header : Header :=
    { title := "UUID.__init__"
      parameters := { name := "self" } ::
        ["hex", "bytes", "bytes_le", "fields", "int", "version"].map
          ({ name := ·, hasDefault := true }) ++
        [{ name := "is_safe", kind := .name, hasDefault := true }] }
  let bound ← bindGiven header { given with positional := null :: given.positional }
  let part (name : String) : Option Hint := (bound.single.lookup name).filter fun found => !same found null
  let sources := ["hex", "bytes", "bytes_le", "fields", "int"].filterMap fun name =>
    (part name).map fun found => (name, found)
  let number ←
    match sources with
    | [("hex", found)] => identifierNumber found
    | [("bytes", found)] => numberOfBytes <$> sixteenBytes "bytes" found
    | [("bytes_le", found)] => (numberOfBytes ∘ turnedBytes) <$> sixteenBytes "bytes_le" found
    | [("fields", found)] => numberOfFields found
    | [("int", found)] => integerGiven found
    | _ => misused (.other "one of the hex, bytes, bytes_le, fields, or int arguments must be given")
  match part "version" with
  | none => ofIdentifier number
  | some version => do ofIdentifier (← withVersion number (← integerGiven version))

end StateContainer.Hint
