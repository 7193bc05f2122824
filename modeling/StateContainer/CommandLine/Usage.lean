/-
This file says how a command line is written: which options a command has, how
they stand among its arguments, and what is wrong with a line that does not fit.

A long option begins with two dashes and may have its value behind an equals
sign. Short options begin with one dash and may be written together; the first
of them that takes a value takes the rest of the argument, or the next argument
if nothing is left. Two dashes alone end the options. A value may look like an
option; a single dash is never one.
-/

import StateContainer.Text.Pieces
import StateContainer.Text.Quoted

namespace StateContainer.CommandLine

/-! ### Options -/

/-- What an option takes. -/
inductive OptionKind where
  /-- Nothing: the option is given or it is not. -/
  | flag
  /-- A text, of which the last one given counts. -/
  | single
  /-- A text at every time that it is given. -/
  | repeated
deriving DecidableEq, Repr, Inhabited

/-- An option of a command. -/
structure OptionForm where
  /-- The name under which the value is kept. -/
  key : String
  long : String
  short : Option Char := none
  kind : OptionKind := .flag
  required : Bool := false
  default : Option String := none
  /-- Whether the help tells the default. -/
  showsDefault : Bool := false
  description : String := ""
deriving DecidableEq, Repr, Inhabited

/-- The long form with its dashes. -/
def OptionForm.longName (option : OptionForm) : String :=
  "--" ++ option.long

/-- The short form of a letter, with its dash. -/
def shortName (letter : Char) : String :=
  String.ofList ['-', letter]

/-! ### Errors -/

/-- What is wrong with a command line. -/
inductive UsageError where
  /-- There are no arguments at all. -/
  | noArguments
  | missingCommand
  | unknownCommand (name : String)
  | unknownOption (name : String)
  | valueMissing (name : String)
  | valueNotTaken (name : String)
  | optionMissing (option : OptionForm)
  | argumentMissing (name : String)
  | argumentsLeft (arguments : List String)
  /-- The text of a flag is no truth value. -/
  | noTruthValue (option : OptionForm) (text : String)
deriving DecidableEq, Repr

/-- Both forms of an option, as they are named in messages. -/
def OptionForm.names (option : OptionForm) : String :=
  match option.short with
  | some letter => "'" ++ option.longName ++ "' / '" ++ shortName letter ++ "'"
  | none => "'" ++ option.longName ++ "'"

/-- The wording of an error. -/
def UsageError.message : UsageError → String
  | noArguments => "No arguments."
  | missingCommand => "Missing command."
  | unknownCommand name => s!"No such command '{name}'."
  | unknownOption name => s!"No such option: {name}"
  | valueMissing name => s!"Option '{name}' requires an argument."
  | valueNotTaken name => s!"Option '{name}' does not take a value."
  | optionMissing option => "Missing option " ++ option.names ++ "."
  | argumentMissing name => s!"Missing argument '{name}'."
  | argumentsLeft arguments =>
    let noun := if arguments.length = 1 then "argument" else "arguments"
    "Got unexpected extra " ++ noun ++ " (" ++ " ".intercalate arguments ++ ")"
  | noTruthValue option text =>
    "Invalid value for " ++ option.names ++ ": " ++ Text.quoted text ++ " is not a valid boolean."

/-! ### What was given -/

/-- What a command line gives to a command. -/
structure Given where
  /-- The keys of the flags. -/
  flags : List String := []
  /-- The texts of the other options by their keys, in order. -/
  texts : List (String × String) := []
  /-- The arguments that belong to no option, in order. -/
  words : List String := []
deriving DecidableEq, Repr, Inhabited

namespace Given

/-- What is given first and what is given then. -/
def append (first second : Given) : Given :=
  { flags := first.flags ++ second.flags
    texts := first.texts ++ second.texts
    words := first.words ++ second.words }

instance : Append Given := ⟨append⟩

/-- The texts of an option. -/
def textsOf (given : Given) (option : OptionForm) : List String :=
  given.texts.filterMap fun entry => if entry.1 = option.key then some entry.2 else none

end Given

/-! ### Reading -/

/-- What one argument is. -/
inductive ArgumentKind where
  | word
  | endOfOptions
  /-- Options that need nothing more. -/
  | complete (given : Given)
  /-- Options of which the last one, written in the given way, takes the next argument. -/
  | unfinished (given : Given) (key name : String)
deriving Repr

/-- What options written together are. -/
def readShort (options : List OptionForm) : List Char → Except UsageError ArgumentKind
  | [] => .ok (.complete {})
  | letter :: rest =>
    match options.find? (·.short = some letter) with
    | none => .error (.unknownOption (shortName letter))
    | some option =>
      match option.kind, rest with
      | .flag, rest => do
        let flag : Given := { flags := [option.key] }
        match ← readShort options rest with
        | .complete given => return .complete (flag ++ given)
        | .unfinished given key name => return .unfinished (flag ++ given) key name
        | other => return other
      | _, [] => .ok (.unfinished {} option.key (shortName letter))
      | _, rest => .ok (.complete { texts := [(option.key, String.ofList rest)] })

/-- What a long option is, given what follows its dashes. -/
def readLong (options : List OptionForm) (written : List Char) : Except UsageError ArgumentKind :=
  let name := String.ofList (written.takeWhile (· ≠ '='))
  let shown := "--" ++ name
  match options.find? (·.long = name), written.dropWhile (· ≠ '=') with
  | none, _ => .error (.unknownOption shown)
  | some option, value =>
    match option.kind, value with
    | .flag, [] => .ok (.complete { flags := [option.key] })
    | .flag, _ => .error (.valueNotTaken shown)
    | _, [] => .ok (.unfinished {} option.key shown)
    | _, _ :: text => .ok (.complete { texts := [(option.key, String.ofList text)] })

/-- What an argument is. -/
def readArgument (options : List OptionForm) (argument : String) :
    Except UsageError ArgumentKind :=
  match argument.toList with
  | ['-', '-'] => .ok .endOfOptions
  | '-' :: '-' :: rest => readLong options rest
  | '-' :: first :: rest => readShort options (first :: rest)
  | _ => .ok .word

/-- Reads arguments. An option that waits for its value, if there is one, takes the first of
them. Where options are not mixed with words, the first word ends the options. -/
def readFrom (options : List OptionForm) (mixed : Bool) :
    (waiting : Option (String × String)) → List String → Except UsageError Given
  | none, [] => .ok {}
  | some (_, name), [] => .error (.valueMissing name)
  | some (key, _), text :: rest => do
    return { texts := [(key, text)] } ++ (← readFrom options mixed none rest)
  | none, argument :: rest => do
    match ← readArgument options argument with
    | .word =>
      if mixed then return { words := [argument] } ++ (← readFrom options mixed none rest)
      else return { words := argument :: rest }
    | .endOfOptions => return { words := rest }
    | .complete given => return given ++ (← readFrom options mixed none rest)
    | .unfinished given key name =>
      return given ++ (← readFrom options mixed (some (key, name)) rest)

/-- Reads the arguments of a command. -/
def readArguments (options : List OptionForm) (mixed : Bool) (arguments : List String) :
    Except UsageError Given :=
  readFrom options mixed none arguments

/-- After the end of the options everything is a word. -/
theorem readArguments_endOfOptions (options : List OptionForm) (mixed : Bool)
    (rest : List String) :
    readArguments options mixed ("--" :: rest) = .ok { words := rest } := by
  have kind : readArgument options "--" = .ok .endOfOptions := rfl
  rw [readArguments, readFrom, kind]
  rfl

end StateContainer.CommandLine
