/-
This file says where the value of an option comes from: the command line, then
an environment variable, and then the default of the option.

The variable of an option is named for the program, the command and the option.
An empty variable counts as none. For an option that may be given several times
the variable holds the texts with white space between them, and for a flag it
holds one of a few words.
-/

import StateContainer.CommandLine.Usage
import StateContainer.Text.Blank
import StateContainer.Text.Case

namespace StateContainer.CommandLine

/-- The texts of the environment variables. -/
abbrev Environment := String → Option String

/-- A name in the spelling of variables: capitals, with underscores for dashes. -/
def variableSpelling (name : String) : String :=
  name.map fun c => if c = '-' then '_' else c.toUpper

/-- The words of a text. -/
def wordsOf (text : String) : List String :=
  let spaced := text.toList.map fun c => if Text.isBlank c then ' ' else c
  ((Text.pieces ' ' spaced).filter (!·.isEmpty)).map String.ofList

/-- The truth value that a word stands for; nothing stands for false. -/
def truthValue? (text : String) : Option Bool :=
  let word := String.ofList (Text.lower (Text.trim text.toList))
  if ["1", "yes", "true", "on", "t", "y"].contains word then some true
  else if ["0", "no", "false", "off", "f", "n", ""].contains word then some false
  else none

/-- What a command finds out about its options. -/
structure Settings where
  given : Given
  environment : Environment
  /-- What the names of the variables begin with. -/
  scope : String

namespace Settings

/-- The name of the variable of an option. -/
def variableOf (settings : Settings) (option : OptionForm) : String :=
  settings.scope ++ "_" ++ variableSpelling option.key

/-- What the environment says about an option. -/
def fromEnvironment? (settings : Settings) (option : OptionForm) : Option String :=
  (settings.environment (settings.variableOf option)).filter (· ≠ "")

/-- Whether a flag is set. -/
def flag (settings : Settings) (option : OptionForm) : Except UsageError Bool :=
  if settings.given.flags.contains option.key then .ok true
  else
    match settings.fromEnvironment? option with
    | none => .ok false
    | some text =>
      match truthValue? text with
      | some value => .ok value
      | none => .error (.noTruthValue option text)

/-- The text of an option. -/
def text (settings : Settings) (option : OptionForm) : Except UsageError String :=
  let given := (settings.given.textsOf option).getLast?
  match (given.or (settings.fromEnvironment? option)).or option.default with
  | some text => .ok text
  | none => .error (.optionMissing option)

/-- The texts of an option that may be given several times; there has to be one. -/
def texts (settings : Settings) (option : OptionForm) : Except UsageError (List String) :=
  let found :=
    match settings.given.textsOf option with
    | [] => ((settings.fromEnvironment? option).map wordsOf).getD []
    | given => given
  if found.isEmpty then .error (.optionMissing option) else .ok found

/-- What the command line says counts, whatever the environment says. -/
theorem text_of_given (settings : Settings) (option : OptionForm) {last : String}
    (given : (settings.given.textsOf option).getLast? = some last) :
    settings.text option = .ok last := by
  simp [text, given]

end Settings

end StateContainer.CommandLine
