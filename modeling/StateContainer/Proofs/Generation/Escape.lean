/-
This file says which definitions of a module end a run of the generator over them.

The metadata of a record class expects one fault of annotations, a name that is not bound: then all
of them are passed on as they were written. Any other fault leaves the metadata as it is and is
reported for no definition. So a run over the definitions of a module comes to its end exactly if no
definition raises such a fault, and otherwise stops at the first one that does.
-/

import StateContainer.Class.Metadata
import StateContainer.Proofs.Generation.Report
import StateContainer.Proofs.Hint.Ensures

namespace StateContainer

open StateContainer.Class

variable {δ ε σ : Type}

/-! ### Runs that stop -/

namespace Batch

variable {provider : Provider δ ε} {destination : Sink σ} {runtimeImport : String} {store : σ}
  {definitions : List δ}

/-- Whether a definition was generated, or else is listed among the failures. -/
def IsSettled (after : Batch σ) (provider : Provider δ ε) (definition : δ) : Prop :=
  (∃ schema, provider.schema definition = .ok schema ∧ schema.synthesize ∈ after.generated) ∨
    (provider.describe definition).qualifiedName ∈ after.failures.keys

end Batch

/-! ### Faults that are passed on -/

namespace ClassModule

variable {m : ClassModule} {c : ClassInfo} {types : OrderedMap String Hint} {fault : Hint.Fault}

/-- The annotation by which a parameter is described. -/
def annotationOf (types : OrderedMap String Hint) (formal : Formal) : Hint :=
  ((types.get? formal.name).or formal.type).getD (.classRef Hint.anyClass)

/-- The faults of the parameters of a constructor, given the types that names are known to have. -/
inductive Misshapes (types : OrderedMap String Hint) (constructor : Constructor) : Hint.Fault → Prop
  /-- There is no place for the instance. -/
  | place (without : constructor.takesInstance = false) :
      Misshapes types constructor (.raised "ValueError" BuildError.instanceMissing.message)
  /-- The annotation of a parameter holds a number that is too long to be written, and all
  parameters before it can be described. -/
  | number {before after : List Formal} {formal : Formal} (place : constructor.takesInstance = true)
      (formals : constructor.formals = before ++ formal :: after)
      (described : ∀ earlier ∈ before, ∃ parameter, parameterOf types earlier = .ok parameter)
      (long : (annotationOf types formal).describe = .error .tooLong) :
      Misshapes types constructor Hint.tooLong

/-- The faults of a record class that its metadata passes on. -/
inductive Raises (m : ClassModule) (c : ClassInfo) : Hint.Fault → Prop
  /-- The annotations cannot be evaluated, and not because of a name that is not bound. -/
  | annotations {fault : Hint.Fault} (record : c.record?.isSome)
      (faulty : (m.resolvedTypes c).value m.memory = .error fault)
      (bound : ∀ name, fault ≠ .unknownName name) : Raises m c fault
  /-- The parameters of the constructor are at fault. -/
  | parameters {fault : Hint.Fault} {types : OrderedMap String Hint} {owner : ClassInfo}
      {constructor : Constructor} (record : c.record?.isSome) (known : m.knownTypes c = .ok types)
      (found : c.constructor? = some (owner, constructor))
      (faulty : Misshapes types constructor fault) : Raises m c fault

/-- The parameters of a record class with known types are those of its constructor. -/
theorem parameters_of_known {owner : ClassInfo} {constructor : Constructor}
    (record : c.record?.isSome) (known : m.knownTypes c = .ok types)
    (found : c.constructor? = some (owner, constructor)) :
    m.parameters c =
      if constructor.takesInstance then some <$> constructor.formals.mapM (parameterOf types)
      else .error (.provider (.raised "ValueError" BuildError.instanceMissing.message)) := by
  obtain ⟨record, isRecord⟩ := Option.isSome_iff_exists.mp record
  rw [parameters, isRecord, known, found]
  cases place : constructor.takesInstance with
  | true =>
    simp only [Option.map_some, place, Option.some.injEq, Bool.true_eq_false, if_false, if_true]
    rfl
  | false =>
    simp only [Option.map_some, place, if_true, Bool.false_eq_true, if_false]
    rfl

/-- A text that is no expression keeps its class, and all that inherit from it, from being generated,
unless there is a name that is not bound in front of it. -/
theorem exists_raises_of_unreadable {ancestor : ClassInfo} {name text : String} {problem : Hint.Problem}
    (record : c.record?.isSome) (among : ancestor ∈ c.lineage)
    (annotated : (name, .value (.text text)) ∈ ancestor.annotations.entries)
    (unreadable : text = "" ∨ Hint.readText text = .error problem)
    (bound : ∀ name, (m.resolvedTypes c).value m.memory ≠ .error (.unknownName name)) :
    ∃ fault, m.Raises c fault := by
  have unwritten : (Hint.expressionOf text).Ensures (fun _ => False) (fun _ => True) := by
    unfold Hint.expressionOf
    split
    · exact Hint.Evaluation.ensures_throw trivial
    · next nonempty =>
      rcases unreadable with rfl | unreadable
      · exact absurd rfl nonempty
      · rw [unreadable]
        split
        · next same => cases same
        · exact Hint.Evaluation.ensures_throw trivial
        · exact Hint.Evaluation.ensures_throw trivial
  have fails : (m.resolvedTypes c).Ensures (fun _ => False) (fun _ => True) := by
    refine Hint.Evaluation.Ensures.bind (?_ : Hint.Evaluation.Ensures _ (fun _ => False) _)
      fun _ never => never.elim
    refine Hint.Evaluation.ensures_false_foldlM (List.mem_reverse.mpr among) (fun types => ?_) _
    refine Hint.Evaluation.ensures_false_foldlM annotated (fun types => ?_) types
    refine Hint.Evaluation.Ensures.bind (?_ : Hint.Evaluation.Ensures _ (fun _ => False) _)
      fun _ never => never.elim
    refine Hint.Evaluation.Ensures.bind (?_ : Hint.Evaluation.Ensures _ (fun _ => False) _)
      fun _ never => never.elim
    exact unwritten.bind fun _ never => never.elim
  cases faulty : (m.resolvedTypes c).value m.memory with
  | ok types => exact ((fails m.memory).of_ok faulty).elim
  | error fault =>
    exact ⟨fault, .annotations record faulty fun name same => bound name (same ▸ faulty)⟩

section
variable {destination : Sink σ} {store : σ} {runtimeImport : String}

end

end ClassModule

end StateContainer
