/-
This file reads values that are written as trees. Null, truth values, integers,
texts and lists are written as themselves. For all other values a tree has no
form of its own, and they are written as an object with one entry, whose key
begins with a dollar sign and names the kind: a floating-point number by its
text, a tuple by the list of its items, a dictionary by the list of its pairs,
and bytes by their hexadecimal digits. Any other object is a dictionary with texts
for keys.
-/

import StateContainer.Json.Reader
import StateContainer.Number.Reader
import StateContainer.Value

namespace StateContainer.Value

/-- The bytes that hexadecimal digits stand for, two for each byte; a last single digit is left
out. -/
def bytesOfHex : List Char → List UInt8
  | high :: low :: rest =>
    let digit (c : Char) : Nat := (Json.hexDigit? c).getD 0
    (digit high * 16 + digit low).toUInt8 :: bytesOfHex rest
  | _ => []

mutual

/-- The value that a tree stands for; an object that is no written value stands for a dictionary
with texts for keys. -/
def ofTagged : Json → Value
  | .null => .null
  | .bool b => .bool b
  | .int n => .int n
  | .float x => .float x
  | .text s => .text s
  | .array items => .list (ofTaggedItems items)
  | .object [("$float", .text s)] => .float ((Number.readBinary64? s).getD (.nan false))
  | .object [("$bytes", .text s)] => .bytes (bytesOfHex s.toList)
  | .object [("$tuple", .array items)] => .tuple (ofTaggedItems items)
  | .object [("$dict", .array pairs)] => dictOf (ofTaggedPairs pairs)
  | .object entries => .dict (ofTaggedEntries entries)

/-- The values that several trees stand for. -/
def ofTaggedItems : List Json → List Value
  | [] => []
  | item :: others => ofTagged item :: ofTaggedItems others

/-- The pairs of values that several trees stand for. -/
def ofTaggedPairs : List Json → List (Value × Value)
  | [] => []
  | .array [key, item] :: others => (ofTagged key, ofTagged item) :: ofTaggedPairs others
  | _ :: others => ofTaggedPairs others

/-- The pairs that the entries of an object stand for. -/
def ofTaggedEntries : List (String × Json) → List (Value × Value)
  | [] => []
  | (key, item) :: others => (.text key, ofTagged item) :: ofTaggedEntries others

end

end StateContainer.Value
