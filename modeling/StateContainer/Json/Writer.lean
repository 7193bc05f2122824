/-
This file writes trees as text.

A text is written with ASCII characters alone. The quote, the backslash and the
five controls that have a short escape are escaped; every other character
outside of the printable ones of ASCII is written by the four hexadecimal digits
of its code, or of the two units of its code beyond the first plane.

The compact form has a space behind every comma and colon. The indented form has
a line for each item, and two spaces for each level.
-/

import StateContainer.Json
import StateContainer.Number.Reader
import StateContainer.Text.Encoding

namespace StateContainer.Json

/-! ### Texts -/

/-- The escape of one unit of sixteen bits. -/
def unitEscape (unit : Nat) : List Char :=
  '\\' :: 'u' :: Text.hexPadded 4 unit

/-- The escape of a character by its units: one in the first plane, and otherwise two. -/
def codeEscape (code : Nat) : List Char :=
  if code < 0x10000 then unitEscape code
  else
    unitEscape (0xD800 + (code - 0x10000) / 0x400) ++ unitEscape (0xDC00 + (code - 0x10000) % 0x400)

/-- The controls with a short escape, and the letter of each. -/
def shortEscapes : List (Char × Char) := [
  ('"', '"'), ('\\', '\\'), ('\n', 'n'), ('\r', 'r'), ('\t', 't'), ('\x08', 'b'), ('\x0c', 'f')]

/-- One character inside a written text. -/
def writeChar (c : Char) : List Char :=
  match shortEscapes.lookup c with
  | some letter => ['\\', letter]
  | none =>
    if 32 ≤ c.toNat && c.toNat < 127 then [c]
    else codeEscape (Text.codeOfChar c)

/-- A text between quotes. -/
def writeText (text : String) : List Char :=
  '"' :: text.toList.flatMap writeChar ++ ['"']

/-! ### Numbers -/

/-- An integer in decimal notation. -/
def writeInt : Int → List Char
  | .ofNat n => Text.decimal n
  | .negSucc n => '-' :: Text.decimal (n + 1)

/-- A tree without parts; nothing is written for one that has parts. -/
def writeLeaf : Json → List Char
  | null => "null".toList
  | bool true => "true".toList
  | bool false => "false".toList
  | int n => writeInt n
  | float x => (x.text numberSpelling).toList
  | text s => writeText s
  | array _ => []
  | object _ => []

/-! ### The compact form -/

mutual

/-- The characters of a tree in the compact form. -/
def writeChars : Json → List Char
  | array items => '[' :: writeItems items ++ [']']
  | object entries => '\x7b' :: writeEntries entries ++ ['\x7d']
  | leaf => writeLeaf leaf

/-- The items of an array. -/
def writeItems : List Json → List Char
  | [] => []
  | [last] => writeChars last
  | item :: next :: others => writeChars item ++ ',' :: ' ' :: writeItems (next :: others)

/-- The entries of an object. -/
def writeEntries : List (String × Json) → List Char
  | [] => []
  | [(key, value)] => writeText key ++ ':' :: ' ' :: writeChars value
  | (key, value) :: next :: others =>
    writeText key ++ ':' :: ' ' :: writeChars value ++ ',' :: ' ' :: writeEntries (next :: others)

end

/-- The text of a tree in the compact form. -/
def write (tree : Json) : String :=
  String.ofList (writeChars tree)

/-! ### The indented form -/

/-- A new line at a level. -/
def newLine (level : Nat) : List Char :=
  '\n' :: List.replicate (2 * level) ' '

mutual

/-- The characters of a tree in the indented form, at a level. -/
def indentChars (level : Nat) : Json → List Char
  | array (first :: others) =>
    '[' :: newLine (level + 1) ++ indentItems (level + 1) (first :: others) ++ newLine level ++ [']']
  | object (first :: others) =>
    '\x7b' :: newLine (level + 1) ++ indentEntries (level + 1) (first :: others) ++
      newLine level ++ ['\x7d']
  | array [] => ['[', ']']
  | object [] => ['\x7b', '\x7d']
  | leaf => writeLeaf leaf

/-- The items of an array, a line for each. -/
def indentItems (level : Nat) : List Json → List Char
  | [] => []
  | [last] => indentChars level last
  | item :: next :: others =>
    indentChars level item ++ ',' :: newLine level ++ indentItems level (next :: others)

/-- The entries of an object, a line for each. -/
def indentEntries (level : Nat) : List (String × Json) → List Char
  | [] => []
  | [(key, value)] => writeText key ++ ':' :: ' ' :: indentChars level value
  | (key, value) :: next :: others =>
    writeText key ++ ':' :: ' ' :: indentChars level value ++
      ',' :: newLine level ++ indentEntries level (next :: others)

end

/-- The text of a tree in the indented form. -/
def writeIndented (tree : Json) : String :=
  String.ofList (indentChars 0 tree)

/-! ### What can be written -/

mutual

/-- Whether every integer in a tree has few enough digits to be written. -/
def isWritable : Json → Bool
  | int n => Number.isWritable n
  | array items => allWritable items
  | object entries => allEntriesWritable entries
  | _ => true

/-- Whether all items can be written. -/
def allWritable : List Json → Bool
  | [] => true
  | item :: others => isWritable item && allWritable others

/-- Whether the values of all entries can be written. -/
def allEntriesWritable : List (String × Json) → Bool
  | [] => true
  | (_, value) :: others => isWritable value && allEntriesWritable others

end

end StateContainer.Json
