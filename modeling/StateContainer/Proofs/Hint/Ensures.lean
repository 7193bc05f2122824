/-
This file says how evaluations end: with which results, and with which faults.

An evaluation that ensures something does so wherever it begins, whatever is remembered
there. This is carried through sequences of evaluations step by step.
-/

import StateContainer.Hint.Memory
import StateContainer.Proofs.Except

namespace StateContainer.Hint

variable {α β : Type}

/-- Whether an evaluation ends with a result of one kind or with a fault of another kind. -/
def Evaluation.Ensures (evaluation : Evaluation α) (result : α → Prop) (fault : Fault → Prop) : Prop :=
  ∀ memory, EndsAs result fault (evaluation.value memory)

namespace Evaluation

variable {evaluation : Evaluation α} {result : α → Prop} {fault : Fault → Prop}

theorem ensures_pure {made : α} (holds : result made) :
    Ensures (pure made : Evaluation α) result fault :=
  fun _ => holds

theorem ensures_throw {cause : Fault} (holds : fault cause) :
    Ensures (throw cause : Evaluation α) result fault :=
  fun _ => holds

/-- What goes on with a result begins with what is remembered then. -/
theorem value_bind (evaluation : Evaluation α) (next : α → Evaluation β) (memory : Memory) :
    (evaluation >>= next).value memory =
      evaluation.value memory >>= fun made => (next made).value (evaluation.after memory) := by
  show (ExceptT.bindCont next (evaluation.value memory) (evaluation.after memory)).1 = _
  cases evaluation.value memory <;> rfl

/-- What goes on with a result leaves what it remembers, and a fault what is remembered then. -/
theorem after_bind (evaluation : Evaluation α) (next : α → Evaluation β) (memory : Memory) :
    (evaluation >>= next).after memory =
      match evaluation.value memory with
      | .ok made => (next made).after (evaluation.after memory)
      | .error _ => evaluation.after memory := by
  show (ExceptT.bindCont next (evaluation.value memory) (evaluation.after memory)).2 = _
  cases evaluation.value memory <;> rfl

/-- What goes on with a result ensures something if it does so with every result there may be. -/
theorem Ensures.bind {next : α → Evaluation β} {final : β → Prop} (ensures : Ensures evaluation result fault)
    (rest : ∀ made, result made → Ensures (next made) final fault) :
    Ensures (evaluation >>= next) final fault := by
  intro memory
  rw [value_bind]
  exact (ensures memory).bind fun made own => rest made own _

theorem Ensures.weaken {wider : α → Prop} {more : Fault → Prop} (ensures : Ensures evaluation result fault)
    (results : ∀ made, result made → wider made) (faults : ∀ cause, fault cause → more cause) :
    Ensures evaluation wider more :=
  fun memory => (ensures memory).weaken results faults

/-- Going through a list ensures something of all results if every step does. -/
theorem ensures_mapM {step : α → Evaluation β} {items : List α} {results : β → Prop}
    (each : ∀ item ∈ items, Ensures (step item) results fault) :
    Ensures (items.mapM step) (fun made => ∀ part ∈ made, results part) fault := by
  induction items with
  | nil => exact ensures_pure fun _ => nofun
  | cons first others inductionHypothesis =>
    obtain ⟨here, later⟩ := List.forall_mem_cons.mp each
    rw [List.mapM_cons]
    exact here.bind fun made own => (inductionHypothesis later).bind fun others rest =>
      ensures_pure (List.forall_mem_cons.mpr ⟨own, rest⟩)

/-- Going through a list has a known list of results if every step has a known result. -/
theorem ensures_mapM_eq {step : α → Evaluation β} {items : List α} {known : α → β}
    (each : ∀ item ∈ items, Ensures (step item) (· = known item) fault) :
    Ensures (items.mapM step) (· = items.map known) fault := by
  induction items with
  | nil => exact ensures_pure rfl
  | cons first others inductionHypothesis =>
    obtain ⟨here, later⟩ := List.forall_mem_cons.mp each
    rw [List.mapM_cons]
    refine here.bind ?_
    rintro _ rfl
    refine (inductionHypothesis later).bind ?_
    rintro _ rfl
    exact ensures_pure rfl

/-- What each step of going through a list keeps is kept. -/
theorem ensures_foldlM {step : β → α → Evaluation β} {items : List α} {holds : β → Prop} {start : β}
    (first : holds start)
    (each : ∀ made, holds made → ∀ item ∈ items, Ensures (step made item) holds fault) :
    Ensures (items.foldlM step start) holds fault := by
  induction items generalizing start with
  | nil => exact ensures_pure first
  | cons item others inductionHypothesis =>
    rw [List.foldlM_cons]
    exact (each start first item List.mem_cons_self).bind fun made own =>
      inductionHypothesis own fun made own item member =>
        each made own item (List.mem_cons_of_mem _ member)

/-- Whatever an evaluation does, it ends. -/
theorem ensures_true (evaluation : Evaluation α) :
    Ensures evaluation (fun _ => True) (fun _ => True) := by
  intro memory
  cases evaluation.value memory <;> trivial

/-- Going through a list fails if a step fails wherever it begins. -/
theorem ensures_false_foldlM {step : β → α → Evaluation β} {items : List α} {item : α}
    (member : item ∈ items)
    (fails : ∀ made, Ensures (step made item) (fun _ => False) (fun _ => True)) (start : β) :
    Ensures (items.foldlM step start) (fun _ => False) (fun _ => True) := by
  induction items generalizing start with
  | nil => cases member
  | cons first others inductionHypothesis =>
    rw [List.foldlM_cons]
    rcases List.mem_cons.mp member with rfl | later
    · exact (fails start).bind fun _ never => never.elim
    · exact (ensures_true _).bind fun made _ => inductionHypothesis later made

end Evaluation

end StateContainer.Hint
