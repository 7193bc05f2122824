/-
This file holds the places that generated modules go to: a store in memory,
keyed by the qualified name of the module, and a directory tree.

In a directory a module lies in the folders of its package, or, where a flat
layout is asked for, directly in the root. A path has a root, which may be
missing, and the parts between the slashes. Empty parts and parts that are a
single dot are dropped when a path is read. Two slashes in front are a root of
their own; one slash or more than two are the common root. Joining a path that
has a root replaces what it is joined to.
-/

import StateContainer.OrderedMap
import StateContainer.Text.Pieces

namespace StateContainer

/-! ### Paths -/

/-- A file path. -/
structure Path where
  root : String := ""
  parts : List String := []
deriving DecidableEq, Repr, Inhabited

namespace Path

/-- Reads a path. -/
def ofString (text : String) : Path :=
  let slashes := (text.toList.takeWhile (· = '/')).length
  let parts := (Text.pieces '/' text.toList).map String.ofList
  { root := if slashes = 0 then "" else if slashes = 2 then "//" else "/"
    parts := parts.filter fun part => part ≠ "" && part ≠ "." }

/-- The path of a text relative to another path. -/
def join (base : Path) (text : String) : Path :=
  let other := ofString text
  if other.root = "" then { base with parts := base.parts ++ other.parts } else other

/-- The parts of a path without detours: a part of two dots takes away the part before it, unless
there is none that it could take away. The parts before are given last one first. -/
def directParts (before : List String) : List String → List String
  | [] => before.reverse
  | ".." :: rest =>
    match before with
    | [] => directParts [".."] rest
    | ".." :: _ => directParts (".." :: before) rest
    | _ :: before => directParts before rest
  | part :: rest => directParts (part :: before) rest

/-- The same place without detours. Above a root there is nothing. -/
def direct (p : Path) : Path :=
  let parts := directParts [] p.parts
  { p with parts := if p.root = "" then parts else parts.filter (· ≠ "..") }

/-- Whether a path leads to a place below the directory in which a path without a root begins. -/
def isInside (p : Path) : Bool :=
  p.root = "" && p.direct.parts.head? != some ".."

/-- The text of a path; the empty path is a dot. -/
def toString (p : Path) : String :=
  if p.root = "" && p.parts.isEmpty then "."
  else p.root ++ "/".intercalate p.parts

instance : ToString Path := ⟨Path.toString⟩

end Path

/-! ### Sinks -/

/-- A way to put one module after the other into a store of some kind. -/
structure Sink (σ : Type) where
  emit : σ → (package moduleName body : String) → σ

/-! ### Memory -/

/-- Generated modules by their qualified names. -/
abbrev MemorySink := OrderedMap String String

namespace MemorySink

/-- The qualified name of a module in a package. -/
def key (package moduleName : String) : String :=
  if package = "" then moduleName else package ++ "." ++ moduleName

/-- Keeps a module. -/
def emit (sink : MemorySink) (package moduleName body : String) : MemorySink :=
  sink.insert (key package moduleName) body

/-- Memory as a destination. -/
def destination : Sink MemorySink := ⟨emit⟩

end MemorySink

/-! ### Directories -/

/-- Generated modules in a directory tree. -/
structure DirectorySink where
  root : Path
  flat : Bool := false
  /-- The path of every module in the order of writing. -/
  written : List Path := []
  /-- What the files hold, by the places they are at. -/
  files : OrderedMap Path String := {}

namespace DirectorySink

/-- The path of a module. -/
def pathFor (sink : DirectorySink) (package moduleName : String) : Path :=
  let folder :=
    if package ≠ "" && !sink.flat then (Text.dottedParts package).foldl Path.join sink.root
    else sink.root
  folder.join (moduleName ++ ".py")

/-- Writes a module. -/
def emit (sink : DirectorySink) (package moduleName body : String) : DirectorySink :=
  let path := sink.pathFor package moduleName
  { sink with written := sink.written ++ [path], files := sink.files.insert path.direct body }

/-- A directory as a destination. -/
def destination : Sink DirectorySink := ⟨emit⟩

end DirectorySink

end StateContainer
