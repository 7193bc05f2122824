/-
This file runs commands. A run ends with a report: the lines that it printed, the
files that it wrote, and how it ended.

The definitions of all modules are looked up first, and a module without any is
mentioned. Descriptions are printed as one list of trees or as a table for each
definition; a type is printed as one tree or as a drawing with a summary. Text
that is shown by the console goes through its markup, and what was printed before
markup that cannot be shown stays.
-/

import StateContainer.Batch
import StateContainer.Class.Index
import StateContainer.Class.Metadata
import StateContainer.CommandLine.Command
import StateContainer.Console.Markup
import StateContainer.Console.Table
import StateContainer.Json.Writer
import StateContainer.Schema.Json
import StateContainer.Signature.Printer

namespace StateContainer.CommandLine

/-! ### Reports -/

/-- What breaks a run off. -/
inductive RunError where
  | missing (error : ModuleIndex.Error)
  | provider (fault : Hint.Fault)
  | markup (error : Console.Markup.Error)

/-- The name of the class of an error. -/
def RunError.className : RunError → String
  | missing error => error.className
  | provider fault => fault.className
  | markup error => error.className

/-- The wording of an error. -/
def RunError.message : RunError → String
  | missing error => error.message
  | provider fault => fault.message
  | markup error => error.message

/-- What a file holds. -/
inductive FileContent where
  | text (body : String)
  /-- A support file of a name, as it is. -/
  | support (name : String)
deriving DecidableEq, Repr

/-- What a run leaves behind. -/
structure Report where
  exitCode : Nat := 0
  lines : List String := []
  files : List (Path × FileContent) := []
  /-- What is told about the run besides its output. -/
  diagnostics : List String := []
  failure : Option RunError := none

namespace Report

/-- The report of a run that was broken off. -/
def brokenOff (lines : List String) (error : RunError) : Report :=
  { exitCode := 1, lines, failure := some error }

/-- The text that was printed. -/
def output (report : Report) : String :=
  String.join (report.lines.map (· ++ "\n"))

end Report

/-! ### Definitions -/

/-- The modules that can be loaded. -/
abbrev Library := List ClassModule

/-- A definition and its module. -/
structure Located where
  home : ClassModule
  info : ClassInfo

/-- The metadata of definitions of several modules. -/
def locatedProvider : Provider Located Hint.Fault where
  describe d := ClassModule.definition d.info
  declaredFields d := ClassModule.declaredFields d.info
  parameters d := d.home.parameters d.info
  markers d field := d.home.provider.markers d.info field

/-- The definitions of a module. A module of the vocabulary has none. -/
def Library.definitions (library : Library) (name : String) :
    Except ModuleIndex.Error (List Located) := do
  (ModuleIndex.ofNames (library.map (·.name))).findGiven name
  match library.find? (·.name = name) with
  | some home => return home.definitions.map (Located.mk home)
  | none => return []

/-- The definitions of several modules, and what is printed about those without any. -/
def Library.allDefinitions (library : Library) :
    List String → List String × Except ModuleIndex.Error (List Located)
  | [] => ([], .ok [])
  | name :: others =>
    match library.definitions name with
    | .error error => ([], .error error)
    | .ok found =>
      let note := if found.isEmpty then ["No @state definitions in " ++ name] else []
      let (lines, result) := library.allDefinitions others
      (note ++ lines, result.map (found ++ ·))

/-! ### Generation -/

/-- What is told about a generated module. -/
def generatedText (a : ArtifactSet) : String :=
  let types := ", ".intercalate (a.types.map (·.name))
  s!"{a.name}: {a.schema.properties.length} properties -> {types}"

/-- Generates the modules of definitions in a directory. -/
def generate (library : Library) (modules : List String) (output runtimeImport : String)
    (flat verbose : Bool) : Report :=
  match library.allDefinitions modules with
  | (notes, .error error) => .brokenOff notes (.missing error)
  | (notes, .ok definitions) =>
    let start : Batch DirectorySink := { sink := { root := .ofString output, flat } }
    let (batch, stopped) :=
      start.processAll locatedProvider DirectorySink.destination runtimeImport definitions
    let files := batch.sink.files.entries.map fun (path, body) => (path, FileContent.text body)
    let diagnostics := batch.log ++ if verbose then batch.generated.map generatedText else []
    let failed := batch.failures.keys
    match stopped with
    | some fault => { Report.brokenOff notes (.provider fault) with files, diagnostics }
    | none =>
      let written := batch.sink.written.map fun path => "Generated " ++ path.toString
      let summary :=
        if batch.ok then []
        else [s!"{failed.length} definition(s) failed: " ++ ", ".intercalate failed]
      { exitCode := if batch.ok then 0 else 1
        lines := notes ++ written ++ summary
        files
        diagnostics }

/-! ### Support files -/

/-- The files that generated modules need. -/
def supportFiles : List String :=
  ["__init__.py", "channel.py", "events.py", "factory.py", "markers.py", "snapshot.py"]

/-- Writes the support files into a folder. -/
def writeSupport (output name : String) : Report :=
  let folder := (Path.ofString output).join name
  { lines := ["Generated Python runtime in " ++ folder.toString]
    files := supportFiles.map fun file => (folder.join file, .support file) }

/-! ### Descriptions -/

/-- The lines that are shown of markup. -/
def shownLines (markup : String) : Except Console.Markup.Error (List (List Char)) :=
  return Console.shownLines (← Console.shown markup.toList)

/-- Markup that shows a text. -/
def escaped (text : String) : String :=
  String.ofList (Console.escape text.toList)

/-- What is printed at a time. -/
abbrev Printing := Except Console.Markup.Error (List (List Char))

/-- The lines of several prints, up to the first that fails. -/
def printAll : List Printing → List String × Option Console.Markup.Error
  | [] => ([], none)
  | .error error :: _ => ([], some error)
  | .ok lines :: others =>
    let (rest, stopped) := printAll others
    (lines.map String.ofList ++ rest, stopped)

/-- The report of a run that prints, after some lines. -/
def Report.printing (notes : List String) (prints : List Printing) : Report :=
  match printAll prints with
  | (lines, none) => { lines := notes ++ lines }
  | (lines, some error) => .brokenOff (notes ++ lines) (.markup error)

/-- The columns of the table of a definition. -/
def propertyColumns : List Console.Column := [
  { heading := "Field" }, { heading := "Type" },
  { heading := "Single", alignment := .center }, { heading := "Persist", alignment := .center },
  { heading := "Input", alignment := .center }]

/-- What stands in a table for a marker. -/
def markerText (isSet : Bool) : String :=
  if isSet then "[green]yes[/green]" else ""

/-- The row of a property. -/
def propertyRow (p : Property) : Except Console.Markup.Error (List Console.Cell) :=
  [p.name, escaped (TypeText.write p.type), markerText p.single, markerText p.persisted,
    markerText p.input].mapM shownLines

/-- The table of the properties of a definition. -/
def propertyTable (properties : List Property) : Printing := do
  let rows ← properties.mapM propertyRow
  return Console.Table.lines { columns := propertyColumns, rows }

/-- What is printed about a definition. -/
def descriptionPrints (s : Schema) : List Printing :=
  let definition := s.definition
  let title := s!"[bold cyan]{definition.name}[/bold cyan] [dim]{definition.moduleName}[/dim]"
  let viewModel :=
    match definition.viewModel with
    | some name => [shownLines ("[dim]View model:[/dim] " ++ name)]
    | none => []
  [shownLines title, propertyTable s.properties] ++ viewModel ++ [.ok [[]]]

/-- Describes definitions. -/
def describe (library : Library) (modules : List String) (asJson : Bool) : Report :=
  match library.allDefinitions modules with
  | (notes, .error error) => .brokenOff notes (.missing error)
  | (notes, .ok definitions) =>
    let faulty (message : String) : Report :=
      { exitCode := 1, lines := notes ++ ["Error: " ++ message] }
    match definitions.mapM locatedProvider.schema with
    | .error (.metadata error) => faulty error.message
    | .error (.signature error) => faulty error.message
    | .error (.provider fault) => .brokenOff notes (.provider fault)
    | .ok schemas =>
      if asJson then
        { lines := notes ++ [(Json.array (schemas.map Schema.toJson)).writeIndented] }
      else .printing notes (schemas.flatMap descriptionPrints)

/-! ### Types -/

/-- The label of a type. -/
def typeLabel (name : String) (nullable : Bool) : String :=
  escaped (if nullable then name ++ "?" else name)

mutual

/-- The tree of a type argument. -/
def argumentTree : Descriptor → Except Console.Markup.Error Console.Tree
  | ⟨name, nullable, arguments⟩ => do
    return .node (← shownLines (typeLabel name nullable)) (← argumentTrees arguments)

/-- The trees of several type arguments. -/
def argumentTrees : List Descriptor → Except Console.Markup.Error (List Console.Tree)
  | [] => .ok []
  | first :: others => do return (← argumentTree first) :: (← argumentTrees others)

end

/-- The drawing of a type. -/
def typeDrawing (t : Descriptor) : Printing := do
  let label ← shownLines ("[bold]" ++ typeLabel t.name t.nullable ++ "[/bold]")
  return Console.Tree.lines (.node label (← argumentTrees t.arguments))

/-- The summary of a type: its signature and its annotation. -/
def typeSummary (t : Descriptor) : Printing :=
  let summary := Signature.renderAngled t ++ " -> " ++ TypeText.write t
  shownLines ("[dim]" ++ escaped summary ++ "[/dim]")

/-- Reads a type signature. -/
def readType (signature : String) (asJson : Bool) : Report :=
  match Signature.parse signature with
  | .error error => { exitCode := 1, lines := ["Parse error: " ++ error.message] }
  | .ok t =>
    if asJson then { lines := [t.toJson.writeIndented] }
    else .printing [] [typeDrawing t, typeSummary t]

/-! ### Commands -/

/-- Runs a command. -/
def Command.run (library : Library) (verbose : Bool) : Command → Report
  | generate modules output runtimeImport flat =>
    CommandLine.generate library modules output runtimeImport flat verbose
  | support output name => writeSupport output name
  | describe modules asJson => CommandLine.describe library modules asJson
  | readType signature asJson => CommandLine.readType signature asJson

/-- Runs what a command line asks for. A line that does not fit is reported by its exit code
alone, with nothing printed. -/
def run (library : Library) (environment : Environment) (arguments : List String) : Report :=
  match readRequest environment arguments with
  | .ok (.run command verbose) => command.run library verbose
  | .ok (.help lines) => { lines }
  | .error error => { exitCode := 2, diagnostics := ["Error: " ++ error.message] }

/-- The files of a report below the working directory, in ascending order of their paths. -/
def Report.filesInside (report : Report) : List (String × FileContent) :=
  let found := report.files.filterMap fun (path, content) =>
    if path.isInside then some (path.direct.toString, content) else none
  (OrderedMap.ofList found).entries.mergeSort fun a b => a.1 ≤ b.1

end StateContainer.CommandLine
