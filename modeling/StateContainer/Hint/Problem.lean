/-
This file says what can be wrong with the text of an expression, and how that is
worded.
-/

import StateContainer.Text.Quoted

namespace StateContainer.Hint

/-- What is wrong with the text of an expression. -/
inductive ProblemCause where
  /-- A token stands where none of its kind may stand. -/
  | misplaced
  /-- Two operands stand side by side between brackets. -/
  | commaMissing
  /-- A condition has no alternative. -/
  | alternativeMissing
  /-- A literal is not closed on its line. -/
  | openLiteral (line : Nat)
  /-- A literal of several lines is not closed. -/
  | openBlock (line : Nat)
  /-- A number goes on with characters that do not belong to it. -/
  | malformedNumber (kind : String)
  /-- A digit is too great for the base of its number. -/
  | foreignDigit (digit : Char) (kind : String)
  /-- A decimal number begins with a zero. -/
  | leadingZero
  /-- A decimal number has more digits than are read. -/
  | tooManyDigits (count : Nat)
  /-- A bracket is not closed. -/
  | unclosed (bracket : Char)
  /-- A bracket closes nothing. -/
  | unopened (bracket : Char)
  /-- A bracket closes one of another kind, which was opened on the given line, if on another. -/
  | mismatched (closing opening : Char) (line : Option Nat)
  /-- Brackets are nested too deeply. -/
  | tooDeep
  /-- A character belongs to no token. -/
  | foreignCharacter (c : Char)
  /-- Something follows the backslash that continues a line. -/
  | afterBackslash
  /-- The text ends where a line is continued. -/
  | unexpectedEnd
  /-- The expression does not begin at the start of its line. -/
  | indented
  /-- A literal of bytes holds a character beyond ASCII. -/
  | byteCharacter
  /-- An escape in a literal is malformed. -/
  | escape (text : String)
  /-- An argument of a call is named twice. -/
  | repeatedArgument (name : String)
  /-- Two parameters have one name. -/
  | repeatedParameter (name : String)
  /-- A word stands outside of a function. -/
  | outsideFunction (word : String)
  /-- Literals of texts and of bytes stand side by side. -/
  | mixedLiterals
  /-- Arguments or parameters stand in an order that is not allowed, or what stands for one of
  them cannot. -/
  | misordered (text : String)
  /-- A literal that shows values is malformed. -/
  | malformedFormat
  /-- The text holds a null byte. -/
  | nullByte
deriving DecidableEq, Repr

/-- What is wrong with the text of an expression, and on which line. -/
structure Problem where
  cause : ProblemCause
  line : Nat := 1
deriving DecidableEq, Repr

/-- The number of a character as messages show it. -/
def codeText (c : Char) : String :=
  String.ofList ('U' :: '+' :: (Text.hexPadded 4 c.toNat).map Char.toUpper)

/-- The wording of a cause. -/
def ProblemCause.message : ProblemCause → String
  | misplaced => "invalid syntax"
  | commaMissing => "invalid syntax. Perhaps you forgot a comma?"
  | alternativeMissing => "expected 'else' after 'if' expression"
  | openLiteral line => s!"unterminated string literal (detected at line {line})"
  | openBlock line => s!"unterminated triple-quoted string literal (detected at line {line})"
  | malformedNumber kind => s!"invalid {kind} literal"
  | foreignDigit digit kind => s!"invalid digit '{digit}' in {kind} literal"
  | leadingZero =>
    "leading zeros in decimal integer literals are not permitted; " ++
      "use an 0o prefix for octal integers"
  | tooManyDigits count =>
    s!"Exceeds the limit (4300 digits) for integer string conversion: value has {count} digits; " ++
      "use sys.set_int_max_str_digits() to increase the limit - " ++
      "Consider hexadecimal for huge integer literals to avoid decimal conversion limits."
  | unclosed bracket => s!"'{bracket}' was never closed"
  | unopened bracket => s!"unmatched '{bracket}'"
  | mismatched closing opening line =>
    let place := match line with | some n => s!" on line {n}" | none => ""
    s!"closing parenthesis '{closing}' does not match opening parenthesis '{opening}'" ++ place
  | tooDeep => "too many nested parentheses"
  | foreignCharacter c =>
    if Text.isPrintable c then s!"invalid character '{c}' (" ++ codeText c ++ ")"
    else "invalid non-printable character " ++ codeText c
  | afterBackslash => "unexpected character after line continuation character"
  | unexpectedEnd => "unexpected EOF while parsing"
  | indented => "unexpected indent"
  | byteCharacter => "bytes can only contain ASCII literal characters"
  | escape text => text
  | repeatedArgument name => s!"keyword argument repeated: {name}"
  | repeatedParameter name => s!"duplicate argument '{name}' in function definition"
  | outsideFunction word => s!"'{word}' outside function"
  | mixedLiterals => "cannot mix bytes and nonbytes literals"
  | misordered text => text
  | malformedFormat => "f-string: invalid syntax"
  | nullByte => "source code string cannot contain null bytes"

/-- The name of the class of an error. -/
def Problem.className (p : Problem) : String :=
  match p.cause with
  | .nullByte => "ValueError"
  | .indented => "IndentationError"
  | _ => "SyntaxError"

/-- The wording of an error in a text of the given name. -/
def Problem.messageIn (source : String) (p : Problem) : String :=
  match p.cause with
  | .nullByte => p.cause.message
  | cause => cause.message ++ s!" ({source}, line {p.line})"

/-- The wording of an error in a text without a name. -/
def Problem.message (p : Problem) : String :=
  p.messageIn "<string>"

end StateContainer.Hint
