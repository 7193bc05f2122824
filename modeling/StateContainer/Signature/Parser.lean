/-
This file reads a type signature such as `Pair<List<Set<Int>>, Float?>` or
`dict[str, list[int]]` into a description of the type.

The reader goes through the tokens once, from left to right. It keeps the types
of the argument list it is in, latest first, and for every enclosing list the
bracket that opened the inner one together with the types before that bracket,
the latest of which owns the inner list. Two more facts decide what may follow:
whether a type has just been completed, and whether a comma still waits for the
type behind it.

A question mark at the end of a name makes the type nullable, and so does one
that stands alone behind a list of arguments. A question mark that is the whole
name belongs to the name.
-/

import StateContainer.Descriptor
import StateContainer.Signature.Token
import StateContainer.Text.Quoted

namespace StateContainer.Signature

/-! ### Errors -/

/-- What is wrong with a signature at some position. -/
inductive Malformed where
  /-- The signature is blank. -/
  | emptySignature
  /-- A type has no name. -/
  | emptyName
  /-- An opening bracket stands where a type was expected. -/
  | bracketWithoutName (bracket : Bracket)
  /-- A list of arguments belongs to no type. -/
  | argumentsWithoutName
  /-- A list of arguments is closed right after a comma. -/
  | missingBeforeClosing (bracket : Bracket)
  /-- A closing bracket closes nothing. -/
  | unmatchedClosing (bracket : Bracket)
  /-- An opening bracket is never closed. -/
  | unmatchedOpening (bracket : Bracket)
  /-- A list of arguments is closed by the wrong bracket. -/
  | mismatchedClosing (closing opening : Bracket) (openedAt : Nat)
  /-- A list of arguments is empty. -/
  | emptyArguments
  /-- A type has a second list of arguments. -/
  | repeatedArguments
  /-- A comma stands where a type was expected. -/
  | missingBeforeComma
  /-- The signature ends after a comma. -/
  | missingAfterComma
  /-- Two names follow each other without a comma. -/
  | missingComma
  /-- The signature is a list of types. -/
  | severalTypes
deriving DecidableEq, Repr

/-- The wording of an error, without the position. -/
def Malformed.message : Malformed → String
  | emptySignature => "Empty type signature"
  | emptyName => "Empty type name"
  | bracketWithoutName bracket => s!"'{bracket.opening}' without a type name"
  | argumentsWithoutName => "Type arguments without a type name"
  | missingBeforeClosing bracket => s!"Missing type after ',' before '{bracket.closing}'"
  | unmatchedClosing bracket => s!"Unmatched '{bracket.closing}'"
  | unmatchedOpening bracket => s!"Unmatched '{bracket.opening}'"
  | mismatchedClosing closing opening openedAt =>
    s!"'{closing.closing}' does not close '{opening.opening}' opened at {openedAt}"
  | emptyArguments => "Empty type argument list"
  | repeatedArguments => "Type already has type arguments"
  | missingBeforeComma => "Missing type before ','"
  | missingAfterComma => "Missing type after ','"
  | missingComma => "Missing ',' between type names"
  | severalTypes => "Expected a single type"

/-- An error of a signature, with the signature and the position it was found at. -/
structure ParseError where
  cause : Malformed
  position : Nat
  signature : String
deriving DecidableEq, Repr

/-- The wording of an error. -/
def ParseError.message (e : ParseError) : String :=
  s!"{e.cause.message} at position {e.position} in {Text.quoted e.signature}"

/-! ### The state of the reader -/

/-- A type that has been read. -/
structure Item where
  descriptor : Descriptor
  position : Nat
  /-- Whether the type already has its list of arguments. -/
  closed : Bool := false
deriving DecidableEq, Repr

/-- An argument list that has been opened and not closed yet. -/
structure Level where
  bracket : Bracket
  /-- The position of the opening bracket. -/
  position : Nat
  /-- The types before the bracket, latest first; the latest owns the list. -/
  before : List Item
deriving DecidableEq, Repr

/-- What the reader remembers between two tokens. -/
structure State where
  /-- The types of the innermost list, latest first. -/
  items : List Item := []
  /-- The open lists, innermost first. -/
  levels : List Level := []
  /-- Whether a type was completed and no comma has followed yet. -/
  complete : Bool := false
  /-- The position of a comma that still waits for the type behind it. -/
  waiting : Option Nat := none
deriving DecidableEq, Repr

/-- An error at a position, while the signature it belongs to is not attached yet. -/
abbrev Failure := Malformed × Nat

/-! ### Names -/

/-- The name that a run of characters gives, and whether a question mark ended it. -/
def readName (run : List Char) : List Char × Bool :=
  let name := Text.trim run
  if 1 < name.length && name.getLast? = some '?' then (Text.trimEnd name.dropLast, true)
  else (name, false)

/-- The type that a run of characters gives. -/
def itemOfRun (run : List Char) (position : Nat) : Except Failure Item :=
  let (name, nullable) := readName run
  if name.isEmpty then .error (.emptyName, position)
  else .ok { descriptor := ⟨String.ofList name, nullable, []⟩, position }

/-! ### One token -/

/-- Begins a list of arguments. -/
def openList (s : State) (bracket : Bracket) (position : Nat) : Except Failure State :=
  if s.complete then
    .ok { s with
      items := []
      levels := ⟨bracket, position, s.items⟩ :: s.levels
      complete := false }
  else .error (.bracketWithoutName bracket, position)

/-- Ends a list of arguments and hands it to the type that owns it. -/
def closeList (s : State) (bracket : Bracket) (position : Nat) : Except Failure State :=
  if s.waiting.isSome then .error (.missingBeforeClosing bracket, position)
  else
    match s.levels with
    | [] => .error (.unmatchedClosing bracket, position)
    | level :: outer =>
      if level.bracket ≠ bracket then
        .error (.mismatchedClosing bracket level.bracket level.position, position)
      else if s.items.isEmpty then .error (.emptyArguments, level.position)
      else
        match level.before with
        | [] => .error (.argumentsWithoutName, level.position)
        | owner :: before =>
          if owner.closed then .error (.repeatedArguments, level.position)
          else
            let arguments := (s.items.map (·.descriptor)).reverse
            let completed :=
              { owner with descriptor := owner.descriptor.withArguments arguments, closed := true }
            .ok { s with items := completed :: before, levels := outer, complete := true }

/-- Notes a comma. -/
def separate (s : State) (position : Nat) : Except Failure State :=
  if s.complete then .ok { s with complete := false, waiting := some position }
  else .error (.missingBeforeComma, position)

/-- Takes a run of characters as a name, or as the question mark behind a list of arguments.
A blank run says nothing. -/
def takeRun (s : State) (run : List Char) (position : Nat) : Except Failure State :=
  match Text.trim run, s.complete, s.items with
  | ['?'], true, latest :: earlier =>
    .ok { s with items := { latest with descriptor := latest.descriptor.asNullable true } :: earlier }
  | [], _, _ => .ok s
  | _ :: _, true, _ => .error (.missingComma, position)
  | _ :: _, false, _ => do
    let item ← itemOfRun run position
    .ok { s with items := item :: s.items, complete := true, waiting := none }

/-- Takes one token. -/
def step (s : State) (placed : PlacedToken) : Except Failure State :=
  match placed.token with
  | .opening bracket => openList s bracket placed.position
  | .closing bracket => closeList s bracket placed.position
  | .comma => separate s placed.position
  | .run text => takeRun s text placed.position

/-! ### The whole signature -/

/-- The single type that has been read when the tokens end. Of several lists that were not
closed the outermost is reported. -/
def finish (s : State) : Except Failure Descriptor :=
  match s.waiting with
  | some position => .error (.missingAfterComma, position)
  | none =>
    match s.levels.getLast? with
    | some outermost => .error (.unmatchedOpening outermost.bracket, outermost.position)
    | none =>
      match s.items.reverse with
      | [] => .error (.emptySignature, 0)
      | [only] => .ok only.descriptor
      | _ :: second :: _ => .error (.severalTypes, second.position)

/-- Reads the characters of a signature. -/
def parseChars (signature : List Char) : Except Failure Descriptor := do
  let final ← (scan signature).foldlM step {}
  finish final

/-- Reads a signature. -/
def parse (signature : String) : Except ParseError Descriptor :=
  (parseChars signature.toList).mapError fun (cause, position) => ⟨cause, position, signature⟩

end StateContainer.Signature
