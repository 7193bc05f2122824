/-
This file holds the commands: to generate modules, to write the support files, to
describe definitions, and to read a type signature. A command line names one of
them after the options that concern all, and the rest of the line belongs to it.

Asking for help comes before everything else that could be wrong with the
options. A name that is no command is read as options once more, so that help can
be asked for behind two dashes as well.
-/

import StateContainer.CommandLine.Help
import StateContainer.ModuleText

namespace StateContainer.CommandLine

/-- What a command line asks for. -/
inductive Command where
  /-- Generate the modules of the definitions in the given modules. -/
  | generate (modules : List String) (output runtimeImport : String) (flat : Bool)
  /-- Write the files that generated modules need. -/
  | support (output name : String)
  /-- Describe the definitions in the given modules. -/
  | describe (modules : List String) (asJson : Bool)
  /-- Read a type signature. -/
  | readType (signature : String) (asJson : Bool)
deriving DecidableEq, Repr

/-- What is to be done. -/
inductive Request where
  | run (command : Command) (verbose : Bool)
  | help (lines : List String)
deriving DecidableEq, Repr

/-! ### Options -/

def helpOption : OptionForm :=
  { key := "help", long := "help", description := "Show this message and exit." }

def verboseOption : OptionForm :=
  { key := "verbose", long := "verbose", short := some 'v'
    description := "Show debug diagnostics" }

def modulesOption : OptionForm :=
  { key := "modules", long := "module", short := some 'm', kind := .repeated, required := true
    description := "Module with @state classes" }

def outputOption : OptionForm :=
  { key := "output_dir", long := "output", short := some 'o', kind := .single, required := true
    description := "Output directory" }

def runtimeImportOption : OptionForm :=
  { key := "runtime_import", long := "runtime-import", kind := .single
    default := some ArtifactSet.defaultRuntimeImport, showsDefault := true
    description := "Import path of the runtime used by generated code" }

def flatOption : OptionForm :=
  { key := "flat", long := "flat", description := "Do not create package directories" }

def folderOption : OptionForm :=
  { key := "output_path", long := "output", short := some 'o', kind := .single, default := some "."
    description := "Output directory" }

def folderNameOption : OptionForm :=
  { key := "name", long := "name", kind := .single, default := some "stategen_runtime"
    description := "Runtime folder name" }

def jsonOption : OptionForm :=
  { key := "output_json", long := "json", description := "Output as JSON" }

/-! ### Forms of commands -/

/-- How a command is written. -/
structure CommandForm where
  name : String
  summary : String
  options : List OptionForm
  /-- The name of the only word that the command takes, if it takes one. -/
  word : Option String := none
  /-- The command that the options and the word make. -/
  build : Settings → (word : String) → Except UsageError Command

def generateForm : CommandForm where
  name := "gen"
  summary := "Generate state containers for every @state class in the given modules."
  options := [modulesOption, outputOption, runtimeImportOption, flatOption]
  build settings _ := do
    return .generate (← settings.texts modulesOption) (← settings.text outputOption)
      (← settings.text runtimeImportOption) (← settings.flag flatOption)

def supportForm : CommandForm where
  name := "runtime"
  summary := "Generate runtime support code for use without stategen installed."
  options := [folderOption, folderNameOption]
  build settings _ := do
    return .support (← settings.text folderOption) (← settings.text folderNameOption)

def describeForm : CommandForm where
  name := "info"
  summary := "Display the classified properties of state definitions."
  options := [modulesOption, jsonOption]
  build settings _ := do
    return .describe (← settings.texts modulesOption) (← settings.flag jsonOption)

def readTypeForm : CommandForm where
  name := "parse-type"
  summary := "Parse a type signature and show its structure."
  options := [jsonOption]
  word := some "SIGNATURE"
  build settings word := do
    return .readType word (← settings.flag jsonOption)

/-- The forms of all commands, in ascending order of their names. -/
def forms : List CommandForm := [generateForm, describeForm, readTypeForm, supportForm]

/-! ### Help -/

/-- The name of the program. -/
def program : String := "stategen"

/-- What the names of all environment variables begin with. -/
def programScope : String := variableSpelling program

/-- The options that concern all commands. -/
def commonOptions : List OptionForm := [verboseOption, helpOption]

/-- The options of a command. -/
def CommandForm.allOptions (form : CommandForm) : List OptionForm :=
  form.options ++ [helpOption]

/-- What the names of the environment variables of a command begin with. -/
def CommandForm.scope (form : CommandForm) : String :=
  programScope ++ "_" ++ variableSpelling form.name

/-- Options as rows of the help. -/
def optionRows (options : List OptionForm) : List (String × List String) :=
  options.map fun option => (Help.optionNames option, Help.optionWords option)

/-- The help of a command. -/
def CommandForm.help (form : CommandForm) : List String :=
  let words := [program, form.name, "[OPTIONS]"] ++ form.word.toList
  Help.lines (" ".intercalate words) form.summary (optionRows form.allOptions) []

/-- The help of the program. -/
def programHelp : List String :=
  let widest := (forms.map (·.name.length)).foldl max 0
  let rows := forms.map fun form =>
    (form.name, wordsOf (Help.short (Help.width - 6 - widest) form.summary))
  Help.lines (program ++ " [OPTIONS] COMMAND [ARGS]...")
    "stategen reactive state container generator." (optionRows commonOptions) rows

/-! ### Reading -/

/-- The only word of a command that takes one. -/
def CommandForm.wordOf (form : CommandForm) (given : Given) : Except UsageError String :=
  match form.word, given.words with
  | none, _ => .ok ""
  | some _, word :: _ => .ok word
  | some name, [] => .error (.argumentMissing name)

/-- Reads the arguments of a command. -/
def CommandForm.read (form : CommandForm) (environment : Environment) (verbose : Bool)
    (arguments : List String) : Except UsageError Request := do
  let given ← readArguments form.allOptions true arguments
  let settings : Settings := { given, environment, scope := form.scope }
  if ← settings.flag helpOption then
    return .help form.help
  let command ← form.build settings (← form.wordOf given)
  match given.words.drop form.word.toList.length with
  | [] => return .run command verbose
  | left => throw (.argumentsLeft left)

/-- What a name that is no command comes to. -/
def readUnknown (name : String) (arguments : List String) : Except UsageError Request := do
  let given ← readArguments commonOptions false (name :: arguments)
  if given.flags.contains helpOption.key then return .help programHelp
  else throw (.unknownCommand name)

/-- Reads a command line. -/
def readRequest (environment : Environment) (arguments : List String) :
    Except UsageError Request := do
  if arguments.isEmpty then
    throw .noArguments
  let given ← readArguments commonOptions false arguments
  let settings : Settings := { given, environment, scope := programScope }
  if ← settings.flag helpOption then
    return .help programHelp
  let verbose ← settings.flag verboseOption
  match given.words with
  | [] => throw .missingCommand
  | name :: rest =>
    match forms.find? (·.name = name) with
    | some form => form.read environment verbose rest
    | none => readUnknown name rest

/-- The names of all environment variables that a command line depends on. -/
def variableNames : List String :=
  (commonOptions.map fun option => programScope ++ "_" ++ variableSpelling option.key) ++
    forms.flatMap fun form =>
      form.allOptions.map fun option => form.scope ++ "_" ++ variableSpelling option.key

/-- The modules that a command concerns. -/
def Command.modules : Command → List String
  | generate modules .. => modules
  | describe modules _ => modules
  | _ => []

end StateContainer.CommandLine
