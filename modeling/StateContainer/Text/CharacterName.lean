/-
This file finds characters by their names. Case does not matter in a name, and an
ideograph is named by its code point.
-/

import StateContainer.Text.Digit
import StateContainer.Text.NameTable

namespace StateContainer.Text

/-- The code point of a name in a block of names that begins at a code point. -/
def codeInBlock? (name : String) (first : Nat) (lines : List String) : Option Nat :=
  ((String.join lines).splitOn ";").findIdx? (· = name) |>.map (first + ·)

/-- The value of a hexadecimal digit in upper case. -/
def capitalHex? (c : Char) : Option Nat :=
  if c.isDigit then some (c.toNat - '0'.toNat)
  else if 'A' ≤ c && c ≤ 'F' then some (c.toNat - 'A'.toNat + 10)
  else none

/-- The spans of the ideographs that are named by their code points. -/
def ideographSpans : List (Nat × Nat) := [
  (0x3400, 0x4DBF), (0x4E00, 0x9FFF), (0x20000, 0x2A6DF), (0x2A700, 0x2B738), (0x2B740, 0x2B81D),
  (0x2B820, 0x2CEA1), (0x2CEB0, 0x2EBE0), (0x30000, 0x3134A)]

/-- The ideograph of a name. -/
def ideograph? (name : String) : Option Nat :=
  match name.splitOn "CJK UNIFIED IDEOGRAPH-" with
  | ["", digits] => do
    let values ← digits.toList.mapM capitalHex?
    let code := ofDigits 16 values
    if (values.length = 4 || values.length = 5) && values.head? ≠ some 0 &&
        ideographSpans.any fun (first, last) => first ≤ code && code ≤ last then some code
    else none
  | _ => none

/-- The character of a name. -/
def namedChar? (name : String) : Option Char :=
  let capitals := name.toUpper
  if capitals = "" then none
  else
    let found :=
      (nameBlocks.findSome? fun (first, lines) => codeInBlock? capitals first lines).or <|
        (furtherNames.lookup capitals).or (ideograph? capitals)
    found.map Char.ofNat

end StateContainer.Text
