/-
This file evaluates the annotations of a class each for itself.

The types of the annotated names are asked for all at once: one fault, and none of them is known.
Here a fault is kept with its own name, and the annotations behind it are evaluated all the same. If
there is no fault, both ways give the same types. And the type of a name is always what the
annotation that counts for it evaluates to, which is the last one of that name: those of ancestors
come first.
-/

import StateContainer.Class.Module
import StateContainer.Proofs.Hint.Ensures
import StateContainer.Proofs.OrderedMap

namespace StateContainer

open StateContainer.Class

/-! ### Evaluations one after the other -/

namespace Hint.Evaluation

variable {α β κ : Type}

/-- An evaluation whose result is kept with the key of an item. -/
def keyed (key : α → κ) (step : α → Evaluation β) (item : α) : Evaluation (κ × β) := do
  return (key item, ← step item)

/-- The results of evaluations one after the other, with the keys of their items. Each begins with
what is remembered then, whether or not there were faults before. -/
def each (key : α → κ) (step : α → Evaluation β) (memory : Memory) : List α → List (κ × Except Fault β)
  | [] => []
  | first :: others =>
    (key first, (step first).value memory) :: each key step ((step first).after memory) others

/-- What is remembered after evaluations one after the other, faults or not. -/
def afterEach (step : α → Evaluation β) (memory : Memory) (items : List α) : Memory :=
  items.foldl (fun memory item => (step item).after memory) memory

variable {key : α → κ} {step : α → Evaluation β} {memory : Memory} {items : List α}

theorem value_keyed (key : α → κ) (step : α → Evaluation β) (item : α) (memory : Memory) :
    (keyed key step item).value memory =
      (step item).value memory >>= fun result => .ok (key item, result) := by
  rw [keyed, value_bind]
  rfl

theorem after_keyed (key : α → κ) (step : α → Evaluation β) (item : α) (memory : Memory) :
    (keyed key step item).after memory = (step item).after memory := by
  rw [keyed, after_bind]
  split <;> rfl

theorem keys_each (key : α → κ) (step : α → Evaluation β) (memory : Memory) (items : List α) :
    (each key step memory items).map (·.1) = items.map key := by
  induction items generalizing memory with
  | nil => rfl
  | cons first others inductionHypothesis =>
    rw [each, List.map_cons, List.map_cons, inductionHypothesis]

/-- If all evaluations have results, they have the same results each for itself. -/
theorem each_of_mapM {pairs : List (κ × β)}
    (succeeds : (items.mapM (keyed key step)).value memory = .ok pairs) :
    each key step memory items = pairs.map (fun pair => (pair.1, .ok pair.2)) ∧
      (items.mapM (keyed key step)).after memory = afterEach step memory items := by
  induction items generalizing memory pairs with
  | nil =>
    cases succeeds
    exact ⟨rfl, rfl⟩
  | cons first others inductionHypothesis =>
    rw [List.mapM_cons] at succeeds ⊢
    rw [value_bind, value_keyed] at succeeds
    obtain ⟨pair, own, succeeds⟩ := exists_of_bind_eq_ok succeeds
    obtain ⟨result, found, own⟩ := exists_of_bind_eq_ok own
    cases own
    rw [after_keyed, value_bind] at succeeds
    obtain ⟨later, behind, succeeds⟩ := exists_of_bind_eq_ok succeeds
    cases succeeds
    obtain ⟨same, remembered⟩ := inductionHypothesis behind
    constructor
    · rw [each, found, same]
      rfl
    · rw [after_bind, value_keyed, found, after_keyed]
      show Evaluation.after (_ >>= fun made => pure _) _ = _
      rw [after_bind, behind]
      exact remembered

theorem each_map {γ : Type} (change : γ → α) (items : List γ) :
    each key step memory (items.map change) =
      each (fun item => key (change item)) (fun item => step (change item)) memory items := by
  induction items generalizing memory with
  | nil => rfl
  | cons first others inductionHypothesis => rw [List.map_cons, each, each, inductionHypothesis]

/-- Each result with a key is that of an item, and the keys behind it are those of the items
behind. -/
theorem exists_of_each_eq_append {before after : List (κ × Except Fault β)} {pair : κ × Except Fault β}
    (split : each key step memory items = before ++ pair :: after) :
    ∃ earlier item later, items = earlier ++ item :: later ∧ key item = pair.1 ∧
      (∃ memory, (step item).value memory = pair.2) ∧ after.map (·.1) = later.map key := by
  induction items generalizing memory before with
  | nil => exact absurd split (by simp [each])
  | cons first others inductionHypothesis =>
    rw [each] at split
    cases before with
    | nil =>
      obtain ⟨rfl, rfl⟩ := List.cons.inj split
      exact ⟨[], first, others, rfl, rfl, ⟨memory, rfl⟩, keys_each ..⟩
    | cons head before =>
      obtain ⟨-, split⟩ := List.cons.inj split
      obtain ⟨earlier, item, later, rfl, found⟩ := inductionHypothesis split
      exact ⟨first :: earlier, item, later, rfl, found⟩

end Hint.Evaluation

/-! ### Annotated names -/

/-- A name that is annotated in a class. -/
structure Class.AnnotatedName where
  owner : ClassInfo
  name : String
  /-- The annotation, which is a text if it was written as one. -/
  given : Hint

/-- The names that are annotated in a class and its ancestors, in the order in which their annotations
are evaluated. -/
def ClassInfo.annotated (c : ClassInfo) : List AnnotatedName :=
  c.lineage.reverse.flatMap fun owner =>
    owner.annotations.entries.map fun entry => ⟨owner, entry.1, entry.2⟩

/-- The annotation that counts for a name: the last one. -/
def ClassInfo.ownAnnotation? (c : ClassInfo) (name : String) : Option AnnotatedName :=
  c.annotated.reverse.find? (·.name = name)

namespace ClassModule

/-- What an annotation is resolved to, remarks included. -/
def resolve (m : ClassModule) (a : AnnotatedName) : Hint.Evaluation Hint :=
  Hint.resolveField (m.textScope a.owner) a.given

/-- The type without remarks, if there is one. -/
def plainOf : Except Hint.Fault Hint → Hint.Evaluation Hint
  | .ok type => type.plain
  | .error fault => throw fault

/-- What the annotations of a class and its ancestors are resolved to each for itself, by name. -/
def resolvedApart (m : ClassModule) (c : ClassInfo) : OrderedMap String (Except Hint.Fault Hint) :=
  .ofList (Hint.Evaluation.each (·.name) m.resolve m.memory c.annotated)

/-- The types of the annotated names of a class and its ancestors, or why there are none, each for
itself. -/
def typesApart (m : ClassModule) (c : ClassInfo) : OrderedMap String (Except Hint.Fault Hint) :=
  ⟨Hint.Evaluation.each (·.1) (plainOf ·.2) (Hint.Evaluation.afterEach m.resolve m.memory c.annotated)
    (m.resolvedApart c).entries⟩

variable {m : ClassModule} {c : ClassInfo} {name : String}

/-! ### All at once -/

/-- Resolving annotations into a map is resolving them first. -/
theorem foldlM_insert {α : Type} (key : α → String) (step : α → Hint.Evaluation Hint)
    (items : List α) (types : OrderedMap String Hint) :
    items.foldlM (fun types item => do return types.insert (key item) (← step item)) types = (do
      let pairs ← items.mapM (Hint.Evaluation.keyed key step)
      return pairs.foldl (fun types pair => types.insert pair.1 pair.2) types) := by
  induction items generalizing types with
  | nil => rfl
  | cons first others inductionHypothesis =>
    simp only [List.foldlM_cons, List.mapM_cons, Hint.Evaluation.keyed, bind_assoc, pure_bind,
      inductionHypothesis, List.foldl_cons]

/-- The annotations of all ancestors are resolved one after the other. -/
theorem foldlM_addTypes (m : ClassModule) (ancestors : List ClassInfo) (types : OrderedMap String Hint) :
    ancestors.foldlM m.addTypes types =
      (ancestors.flatMap fun owner =>
        owner.annotations.entries.map fun entry => (⟨owner, entry.1, entry.2⟩ : AnnotatedName)).foldlM
        (fun types a => do return types.insert a.name (← m.resolve a)) types := by
  induction ancestors generalizing types with
  | nil => rfl
  | cons first others inductionHypothesis =>
    rw [List.foldlM_cons, List.flatMap_cons, List.foldlM_append, addTypes, List.foldlM_map]
    exact congrArg _ (funext inductionHypothesis)

theorem resolvedTypes_eq (m : ClassModule) (c : ClassInfo) :
    m.resolvedTypes c = (do
      let pairs ← c.annotated.mapM (Hint.Evaluation.keyed (·.name) m.resolve)
      let types ← (OrderedMap.ofList pairs).entries.mapM
        (Hint.Evaluation.keyed (·.1) fun entry => entry.2.plain)
      return ⟨types⟩) := by
  rw [resolvedTypes, foldlM_addTypes, foldlM_insert, bind_assoc]
  simp only [pure_bind]
  rfl

/-- If all types are known, they are the same each for itself. -/
theorem entries_typesApart {types : OrderedMap String Hint}
    (known : (m.resolvedTypes c).value m.memory = .ok types) :
    (m.typesApart c).entries = types.entries.map fun entry => (entry.1, .ok entry.2) := by
  rw [resolvedTypes_eq, Hint.Evaluation.value_bind] at known
  obtain ⟨pairs, resolved, known⟩ := exists_of_bind_eq_ok known
  rw [Hint.Evaluation.value_bind] at known
  obtain ⟨entries, bare, known⟩ := exists_of_bind_eq_ok known
  cases known
  obtain ⟨same, remembered⟩ := Hint.Evaluation.each_of_mapM resolved
  rw [remembered] at bare
  rw [typesApart, resolvedApart, same, OrderedMap.entries_ofList_map, Hint.Evaluation.each_map]
  exact (Hint.Evaluation.each_of_mapM bare).1

/-- If all types are known, a name has the same type by itself. -/
theorem get?_typesApart {types : OrderedMap String Hint}
    (known : (m.resolvedTypes c).value m.memory = .ok types) (name : String) :
    (m.typesApart c).get? name = (types.get? name).map .ok := by
  rw [OrderedMap.get?, entries_typesApart known, OrderedMap.lookup_map]
  rfl

/-! ### Each for itself -/

/-- The type of a name by itself is what its own annotation evaluates to. -/
theorem exists_of_get?_typesApart {type : Hint} (found : (m.typesApart c).get? name = some (.ok type)) :
    ∃ a resolved, c.ownAnnotation? name = some a ∧
      (∃ memory, (m.resolve a).value memory = .ok resolved) ∧
      ∃ memory, resolved.plain.value memory = .ok type := by
  obtain ⟨before, after, split⟩ := List.append_of_mem (OrderedMap.mem_of_get?_eq_some found)
  obtain ⟨earlier, ⟨key, result⟩, later, entries, rfl, ⟨memory, bare⟩, -⟩ :=
    Hint.Evaluation.exists_of_each_eq_append split
  have bound : (m.resolvedApart c).get? key = some result :=
    OrderedMap.get?_eq_some_of_mem (OrderedMap.nodup_keys_ofList _) (entries ▸ by simp)
  obtain ⟨before, after, split, last⟩ := OrderedMap.get?_ofList_eq_some_iff.mp bound
  obtain ⟨earlier, a, later, annotated, rfl, ⟨start, resolved⟩, behind⟩ :=
    Hint.Evaluation.exists_of_each_eq_append split
  cases result with
  | error fault => cases bare
  | ok made =>
    refine ⟨a, made, ?_, ⟨start, resolved⟩, memory, bare⟩
    have none : later.reverse.find? (fun other => other.name = a.name) = none := by
      rw [List.find?_eq_none]
      intro other member same
      refine last ?_
      rw [behind, ← of_decide_eq_true same]
      exact List.mem_map_of_mem (List.mem_reverse.mp member)
    rw [ClassInfo.ownAnnotation?, annotated, List.reverse_append, List.reverse_cons, List.find?_append,
      List.find?_append, none]
    simp

end ClassModule

end StateContainer
