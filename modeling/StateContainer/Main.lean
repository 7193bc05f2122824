/-
This file is the program: it reads the arguments, the environment variables and
the descriptions of modules, runs the command, and writes the files and lines of
its report.

A module `app.state` is described in the file `app/state.json` below the working
directory. The support files are copied from the folder `support` beside the
program.
-/

import StateContainer.Class.Description
import StateContainer.CommandLine.Report
import StateContainer.Json.Reader

namespace StateContainer.CommandLine

/-- The file that describes a module. -/
def descriptionFile (name : String) : String :=
  "/".intercalate (Text.dottedParts name) ++ ".json"

/-- Reads the description of a module, if there is one. -/
def readModule (name : String) : IO (Option ClassModule) := do
  let file := descriptionFile name
  try
    let text ← IO.FS.readFile file
    match Json.read? text with
    | none => throw (IO.userError (file ++ ": no description"))
    | some tree =>
      match ClassModule.ofDescription tree with
      | .ok built => return some built
      | .error error => throw (IO.userError (file ++ ": " ++ error.message))
  catch error =>
    match error with
    | .noFileOrDirectory .. => return none
    | other => throw other

/-- The environment variables that a command line depends on. -/
def readEnvironment : IO Environment := do
  let found ← variableNames.filterMapM fun name => do
    return (← IO.getEnv name).map fun text => (name, text)
  return fun name => found.lookup name

/-- The modules that a request concerns. -/
def readLibrary (environment : Environment) (arguments : List String) : IO Library :=
  match readRequest environment arguments with
  | .ok (.run command _) => command.modules.eraseDups.filterMapM readModule
  | _ => return []

/-- Writes a file of a report, with the folders that it lies in. -/
def writeContent (path : Path) (content : FileContent) : IO Unit := do
  IO.FS.createDirAll { path with parts := path.parts.dropLast }.toString
  match content with
  | .text body => IO.FS.writeFile path.toString body
  | .support name =>
    let body ← IO.FS.readFile ((← IO.appDir) / "support" / name)
    IO.FS.writeFile path.toString body

end StateContainer.CommandLine

open StateContainer.CommandLine in
/-- Runs a command line; the exit code is that of its report. -/
def main (arguments : List String) : IO UInt32 := do
  let environment ← readEnvironment
  let report := run (← readLibrary environment arguments) environment arguments
  for (path, content) in report.files do
    writeContent path content
  IO.print report.output
  let errors ← IO.getStderr
  for line in report.diagnostics do
    errors.putStrLn line
  match report.failure with
  | some error => errors.putStrLn (error.className ++ ": " ++ error.message)
  | none => pure ()
  return report.exitCode.toUInt32
