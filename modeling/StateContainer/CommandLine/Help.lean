/-
This file writes the help of a command: how it is called, what it does, its
options, and the commands inside it.

Names stand in a column of their own, and descriptions to the right of it are
broken into lines between words. The summary of a command inside another one is
cut to a single line: after its first sentence, or where the line is full.
-/

import StateContainer.CommandLine.Settings
import StateContainer.Console.Cell

namespace StateContainer.CommandLine.Help

/-- The width of the help. -/
def width : Nat := 78

/-- Puts words on lines of a width. The line that is being filled comes first. A word may begin
with a space, which is dropped at the beginning of a line. -/
def fill (width : Nat) (line : String) : List String → List String
  | [] => if line = "" then [] else [line]
  | word :: words =>
    if line = "" then fill width (Text.trimmed word) words
    else if line.length + 1 + word.length ≤ width then fill width (line ++ " " ++ word) words
    else line :: fill width (Text.trimmed word) words

/-- Words put on lines of a width. -/
def wrap (width : Nat) (words : List String) : List String :=
  fill width "" words

/-- The words of a summary that fit on a line, and whether the end of a sentence or of the
summary was reached, given the length of what stands before them. -/
def fitting (limit length : Nat) : List String → List String × Bool
  | [] => ([], true)
  | word :: words =>
    let next := length + word.length + (if length = 0 then 0 else 1)
    if limit < next then ([], false)
    else if word.toList.getLast? = some '.' then ([word], true)
    else if next = limit && !words.isEmpty then ([], false)
    else
      let (others, isWhole) := fitting limit next words
      (word :: others, isWhole)

/-- A summary on a single line. Where it is cut, three dots follow. -/
def short (limit : Nat) (summary : String) : String :=
  let words := wordsOf summary
  match fitting limit 0 words with
  | (kept, true) => " ".intercalate kept
  | (_, false) =>
    let room := limit - 3
    let heads := (List.range words.length).map fun count => " ".intercalate (words.take count)
    ((heads.filter (·.length ≤ room)).getLast?.getD "") ++ "..."

/-- The names of an option and what it takes. -/
def optionNames (option : OptionForm) : String :=
  let short :=
    match option.short with
    | some letter => shortName letter ++ ", "
    | none => ""
  let taken := if option.kind = .flag then "" else " TEXT"
  short ++ option.longName ++ taken

/-- The words of the description of an option, and of what else there is to know about it. -/
def optionWords (option : OptionForm) : List String :=
  let remark :=
    match option.required, option.default with
    | true, _ => [" [required]"]
    | false, some text => if option.showsDefault then [" [default:", text ++ "]"] else []
    | false, none => []
  wordsOf option.description ++ remark

/-- A list of names with their descriptions. -/
def columns (rows : List (String × List String)) : List String :=
  let first := (rows.map (·.1.length)).foldl max 0 + 2
  rows.flatMap fun (name, words) =>
    let indented (left line : String) : String :=
      "  " ++ left ++ "".pushn ' ' (first - left.length) ++ line
    match wrap (width - first - 2) words with
    | [] => [indented name ""]
    | line :: lines => indented name line :: lines.map (indented "")

/-- A heading and a list below it, unless the list is empty. -/
def part (heading : String) (rows : List (String × List String)) : List String :=
  if rows.isEmpty then [] else "" :: heading :: columns rows

/-- The lines of the help of a command. -/
def lines (call summary : String) (options commands : List (String × List String)) :
    List String :=
  ["Usage: " ++ call, ""] ++ (wrap (width - 2) (wordsOf summary)).map ("  " ++ ·) ++
    part "Options:" options ++ part "Commands:" commands

end StateContainer.CommandLine.Help
