/-
This file cuts the text of an expression into tokens: names, keywords, numbers,
literals of texts and bytes, and symbols.

Blanks separate tokens. A line may end inside brackets, or behind a backslash;
anywhere else the end of the line ends the expression, and nothing but blank
lines and remarks may follow. The expression has to begin at the start of its
line. Names are brought into their normal form, so that a letter counts as the
plain one, however it is shaped.
-/

import StateContainer.Hint.Literal
import StateContainer.Text.Identifier
import StateContainer.Text.Normal

namespace StateContainer.Hint

/-- A token of an expression. -/
inductive Token where
  | name (text : String)
  | keyword (text : String)
  | number (value : Value)
  | imaginary (x : Binary64)
  | literal (value : Value)
  /-- A literal with values in it: its characters, and whether backslashes stand for themselves. -/
  | format (text : List Char) (raw : Bool)
  | symbol (text : String)
deriving Inhabited, Repr

namespace Token

/-! ### Lines -/

/-- The text with a line feed at the end of every line. -/
def withLineFeeds : List Char → List Char
  | '\r' :: '\n' :: rest => '\n' :: withLineFeeds rest
  | '\r' :: rest => '\n' :: withLineFeeds rest
  | c :: rest => c :: withLineFeeds rest
  | [] => []

/-- Whether a character is a blank inside a line. -/
def isBlankInLine (c : Char) : Bool :=
  c == ' ' || c == '\t' || c == '\x0c'

/-- The text behind a remark that may stand in front. -/
def dropRemark : List Char → List Char
  | '#' :: rest => rest.dropWhile (· ≠ '\n')
  | text => text

/-- Whether only blank lines and remarks are left behind the end of a line. A last line of
blanks has to be ended itself. -/
def isFinished : Nat → List Char → Bool
  | 0, text => text.isEmpty
  | lines + 1, text =>
    match text.dropWhile isBlankInLine with
    | [] => text.isEmpty
    | visible =>
      match dropRemark visible with
      | [] => true
      | c :: rest => c == '\n' && isFinished lines rest

/-- The number of the first line that is not blank and the text from it on. The line may not be
indented. Where nothing but blank lines is left, the last line that there is counts. -/
def firstLine (line : Nat) : Nat → List Char → Except Problem (Nat × List Char)
  | 0, _ => .error ⟨.misplaced, line⟩
  | lines + 1, text =>
    match dropRemark (text.dropWhile isBlankInLine) with
    | [] => .error ⟨.misplaced, if text.isEmpty then line - 1 else line⟩
    | c :: rest =>
      if c = '\n' then firstLine (line + 1) lines rest
      else if (text.head?.map isBlankInLine).getD false then .error ⟨.indented, line⟩
      else .ok (line, text)

/-! ### Words -/

/-- The words that are no names. -/
def keywords : List String := [
  "False", "None", "True", "and", "as", "assert", "async", "await", "break", "class", "continue",
  "def", "del", "elif", "else", "except", "finally", "for", "from", "global", "if", "import", "in",
  "is", "lambda", "nonlocal", "not", "or", "pass", "raise", "return", "try", "while", "with",
  "yield"]

/-- The token of a word. -/
def ofWord (word : String) : Token :=
  if keywords.contains word then .keyword word else .name (Text.normalName word)

/-- Whether a character goes on a word, be it one of identifiers or not. -/
def continuesWord (c : Char) : Bool :=
  c.isAlphanum || c == '_' || 128 ≤ c.toNat

/-- The first character of a word that does not belong to an identifier. -/
def foreign? : List Char → Option Char
  | [] => none
  | first :: rest =>
    if Text.isIdentifierStart first then rest.find? (!Text.isIdentifierContinue ·) else some first

/-! ### Symbols -/

/-- The symbols, longer ones first. -/
def symbols : List String := [
  "...", "**=", "//=", ">>=", "<<=", "**", "//", "<<", ">>", "<=", ">=", "==", "!=", ":=", "->",
  "+=", "-=", "*=", "/=", "%=", "@=", "&=", "|=", "^=", "(", ")", "[", "]", "\x7b", "\x7d", ",",
  ":", ".", "=", "+", "-", "*", "/", "%", "@", "&", "|", "^", "~", "<", ">", ";", "!", "$", "?",
  "\x60"]

/-- A symbol, and what follows it. -/
def takeSymbol (text : List Char) : Option (String × List Char) :=
  (symbols.find? fun found => found.toList.isPrefixOf text).map fun found =>
    (found, text.drop found.length)

/-- The bracket that closes an opening one. -/
def closing? : Char → Option Char
  | '(' => some ')'
  | '[' => some ']'
  | '\x7b' => some '\x7d'
  | _ => none

/-- The opening brackets, the innermost first, with the line of each. -/
abbrev Brackets := List (Char × Nat)

/-- The number of brackets that may be nested. -/
def bracketLimit : Nat := 200

/-- The open brackets after a character. -/
def bracketsAfter (line : Nat) (opened : Brackets) (c : Char) : Except Problem Brackets :=
  if (closing? c).isSome then
    if bracketLimit ≤ opened.length then .error ⟨.tooDeep, line⟩ else .ok ((c, line) :: opened)
  else if c = ')' || c = ']' || c = '\x7d' then
    match opened with
    | [] => .error ⟨.unopened c, line⟩
    | (opening, from_) :: others =>
      if closing? opening = some c then .ok others
      else .error ⟨.mismatched c opening (if from_ = line then none else some from_), line⟩
  else .ok opened

/-! ### The whole text -/

/-- The number of lines that end between a text and a later part of it. -/
def linesBetween (text rest : List Char) : Nat :=
  ((text.take (text.length - rest.length)).filter (· = '\n')).length

/-- A token with its line and the number of brackets that are open behind it. -/
structure Placed where
  token : Token
  line : Nat
  depth : Nat
deriving Repr, Inhabited

/-- The tokens of a text, and the brackets that are still open at the end. -/
structure Scan where
  tokens : List Placed := []
  opened : Brackets := []
deriving Repr, Inhabited

/-- Puts a token in front of others. -/
def consToken (line : Nat) (opened : Brackets) (token : Token) (others : Except Problem Scan) :
    Except Problem Scan :=
  others.map fun found => { found with tokens := ⟨token, line, opened.length⟩ :: found.tokens }

/-- The token of a literal. -/
def ofLiteral (line : Nat) (form : LiteralForm) (characters : List Char) :
    Except Problem Token :=
  if form.shows then .ok (.format characters form.raw)
  else
    match form.value characters with
    | .ok found => .ok (.literal found)
    | .error cause => .error ⟨cause, line⟩

/-- The tokens of a text that begins with a word, which may be empty, given those of what follows
inside open brackets. -/
def scanWord (scanRest : Brackets → List Char → Except Problem Scan) (line : Nat)
    (opened : Brackets) (word after : List Char) : Except Problem Scan :=
  if word.isEmpty then
    match takeSymbol after, after with
    | some (found, rest), c :: _ =>
      match bracketsAfter line opened c with
      | .error problem => .error problem
      | .ok open_ => consToken line open_ (.symbol found) (scanRest open_ rest)
    | _, c :: _ => .error ⟨.foreignCharacter c, line⟩
    | _, [] => .ok { opened }
  else
    match foreign? word with
    | some c => .error ⟨.foreignCharacter c, line⟩
    | none => consToken line opened (ofWord (String.ofList word)) (scanRest opened after)

/-- The tokens of a text inside open brackets. Every step takes a character at least. -/
def scanFrom : Nat → Nat → Brackets → List Char → Except Problem Scan
  | 0, line, _, _ => .error ⟨.misplaced, line⟩
  | fuel + 1, line, opened, text =>
    match text with
    | [] => .ok { opened }
    | '#' :: rest => scanFrom fuel line opened (rest.dropWhile (· ≠ '\n'))
    | '\\' :: '\n' :: rest =>
      if rest.isEmpty then .error ⟨.unexpectedEnd, line⟩ else scanFrom fuel (line + 1) opened rest
    | '\\' :: _ => .error ⟨.afterBackslash, line⟩
    | c :: rest =>
      if isBlankInLine c then scanFrom fuel line opened rest
      else if c = '\n' then
        if !opened.isEmpty then scanFrom fuel (line + 1) opened rest
        else if isFinished rest.length rest then .ok {}
        else .error ⟨.misplaced, line + 1⟩
      else if c.isDigit || (c = '.' && (rest.head?.map Char.isDigit).getD false) then
        match Literal.takeNumber text with
        | .error cause => .error ⟨cause, line⟩
        | .ok (.real found, after) =>
          consToken line opened (.number found) (scanFrom fuel line opened after)
        | .ok (.imaginary x, after) =>
          consToken line opened (.imaginary x) (scanFrom fuel line opened after)
      else
        let word := text.takeWhile continuesWord
        let after := text.drop word.length
        match after.head?, literalForm? (String.ofList word) with
        | some quote, some opening =>
          if quote = '\'' || quote = '"' then
            match Literal.takeQuoted line after with
            | .error cause => .error ⟨cause, line⟩
            | .ok (characters, behind) =>
              match ofLiteral line opening characters with
              | .error problem => .error problem
              | .ok token =>
                consToken line opened token
                  (scanFrom fuel (line + linesBetween after behind) opened behind)
          else scanWord (scanFrom fuel line) line opened word after
        | _, _ => scanWord (scanFrom fuel line) line opened word after

/-- The tokens of a text. -/
def scan (text : List Char) : Except Problem Scan := do
  if text.contains '\x00' then throw ⟨.nullByte, 1⟩
  let lines := withLineFeeds text
  let (line, first) ← firstLine 1 (lines.length + 1) lines
  scanFrom (first.length + 1) line [] first

end Token

end StateContainer.Hint
