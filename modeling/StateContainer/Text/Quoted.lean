/-
This file writes a text as a quoted literal, the form in which messages show
texts.

The quote is a single one, unless the text holds a single quote and no double
one. The quote and the backslash are escaped, as are line feed, carriage return
and tab; every other character without a glyph of its own is written by its code
point, with two, four or eight hexadecimal digits.
-/

import StateContainer.Text.Digit
import StateContainer.Text.Encoding
import StateContainer.Text.PrintableTable
import StateContainer.Text.Span

namespace StateContainer.Text

/-- Whether a character is shown as it is. -/
def isPrintable (c : Char) : Bool :=
  if c.toNat < 128 then 32 ≤ c.toNat && c.toNat < 127 else !inSpans unprintableSpans c.toNat

/-- The escape of a code point by its hexadecimal digits. -/
def codeEscape (code : Nat) : List Char :=
  if code < 0x100 then '\\' :: 'x' :: hexPadded 2 code
  else if code < 0x10000 then '\\' :: 'u' :: hexPadded 4 code
  else '\\' :: 'U' :: hexPadded 8 code

/-- One character inside a literal with the given quote. -/
def quotedChar (quote c : Char) : List Char :=
  if c = quote || c = '\\' then ['\\', c]
  else if c = '\n' then ['\\', 'n']
  else if c = '\r' then ['\\', 'r']
  else if c = '\t' then ['\\', 't']
  else if isPrintable c then [c]
  else codeEscape (codeOfChar c)

/-- The quote of a literal for a text. -/
def quoteFor (text : List Char) : Char :=
  if text.contains '\'' && !text.contains '"' then '"' else '\''

/-- The literal of a text. -/
def quotedChars (text : List Char) : List Char :=
  let quote := quoteFor text
  quote :: text.flatMap (quotedChar quote) ++ [quote]

/-- The literal of a string. -/
def quoted (text : String) : String :=
  String.ofList (quotedChars text.toList)

/-- The beginning of a text that takes so many bytes. Where the last character does not fit, a
mark stands for it. -/
def beginning (limit : Nat) : List Char → List Char
  | [] => []
  | c :: others =>
    if c.utf8Size ≤ limit then c :: beginning (limit - c.utf8Size) others
    else if limit = 0 then []
    else ['\uFFFD']

/-- A name as messages show it, which leave out the end of a long one. -/
def shortName (limit : Nat) (name : String) : String :=
  String.ofList (beginning limit name.toList)

/-- The literal of a sequence of bytes: like that of a text, with a `b` in front and every
byte beyond printable ASCII written by its number. -/
def quotedBytes (bytes : List UInt8) : String :=
  let text := bytes.map fun byte => Char.ofNat byte.toNat
  let quote := quoteFor text
  let escaped := text.flatMap fun c =>
    if c.toNat < 127 then quotedChar quote c else codeEscape c.toNat
  String.ofList ('b' :: quote :: escaped ++ [quote])

end StateContainer.Text
