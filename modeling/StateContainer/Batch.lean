/-
This file runs the generator over a batch of definitions.

A definition whose metadata or signatures are faulty is logged, reported and
skipped, and the others are still processed. Any other error of the provider
ends the run; what was generated before stays.
-/

import StateContainer.Extraction
import StateContainer.ModuleText
import StateContainer.Sink

namespace StateContainer

/-- Where a run of the generator has got to. -/
structure Batch (σ : Type) where
  /-- What was generated, in order. -/
  generated : List ArtifactSet := []
  /-- The qualified names of the faulty definitions, with the last reason of each. -/
  failures : OrderedMap String String := {}
  /-- The errors that were logged, in order. -/
  log : List String := []
  /-- Where the modules went. -/
  sink : σ

namespace Batch

variable {σ δ ε : Type}

/-- Whether no definition was faulty. -/
def ok (batch : Batch σ) : Bool :=
  batch.failures.entries.isEmpty

/-- Reports a faulty definition. -/
def fail (batch : Batch σ) (definition : Definition) (reason : String) : Batch σ :=
  { batch with
    failures := batch.failures.insert definition.qualifiedName reason
    log := batch.log ++ [definition.qualifiedName ++ ": " ++ reason] }

/-- Generates the module of a schema. -/
def generate (batch : Batch σ) (destination : Sink σ) (runtimeImport : String)
    (definition : Definition) (schema : Schema) : Batch σ :=
  let artifacts := schema.synthesize
  { batch with
    generated := batch.generated ++ [artifacts]
    sink := destination.emit batch.sink definition.package artifacts.moduleName
      (artifacts.render runtimeImport) }

/-- Processes one definition. -/
def process (batch : Batch σ) (provider : Provider δ ε) (destination : Sink σ)
    (runtimeImport : String) (definition : δ) : Except ε (Batch σ) :=
  let description := provider.describe definition
  match provider.schema definition with
  | .ok schema => .ok (batch.generate destination runtimeImport description schema)
  | .error (.metadata error) => .ok (batch.fail description error.message)
  | .error (.signature error) => .ok (batch.fail description error.message)
  | .error (.provider error) => .error error

/-- Processes definitions one after the other, up to the first error that ends the run. -/
def processAll (batch : Batch σ) (provider : Provider δ ε) (destination : Sink σ)
    (runtimeImport : String) : List δ → Batch σ × Option ε
  | [] => (batch, none)
  | definition :: others =>
    match batch.process provider destination runtimeImport definition with
    | .ok next => next.processAll provider destination runtimeImport others
    | .error error => (batch, some error)

end Batch

end StateContainer
