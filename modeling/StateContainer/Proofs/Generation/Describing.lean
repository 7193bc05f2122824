/-
This file says by which types the parameters of a record class are described.

An annotation that evaluates gives the type of its parameter, whatever the other annotations of the
class are, as long as all names in them are bound. If one is not, a parameter is described by its
annotation as it was written: that is the same for a type without texts, but a text is passed on as a
signature even if it evaluates.
-/

import StateContainer.Proofs.Class.Annotating
import StateContainer.Proofs.Generation.Escape
import StateContainer.Proofs.Hint.Standing

namespace StateContainer

open StateContainer.Class

/-! ### What parameters say -/

namespace Class.Formal

/-- What is told about a parameter that is described by a type. -/
def described (formal : Formal) (type : Descriptor) : Parameter where
  name := formal.name
  type := some type
  nullable := type.nullable
  hasDefault := formal.hasDefault

/-- What is told about a parameter whose annotation is passed on as a signature. -/
def passedOn (formal : Formal) (text : String) : Parameter where
  name := formal.name
  signature := some (Signature.splitOptional text).1
  nullable := (Signature.splitOptional text).2
  hasDefault := formal.hasDefault

end Class.Formal

namespace ClassModule

variable {m : ClassModule} {c : ClassInfo} {types : OrderedMap String Hint} {formal : Formal}
  {p : Parameter} {type : Hint}

/-- The type of a name by itself. -/
def HasType (m : ClassModule) (c : ClassInfo) (name : String) (type : Hint) : Prop :=
  (m.typesApart c).get? name = some (.ok type) ∧ ∀ text, type ≠ .value (.text text)

/-- Whether no annotation of a class or an ancestor is at fault because of a name that is not bound. -/
def IsBound (m : ClassModule) (c : ClassInfo) : Prop :=
  ∀ name, (m.resolvedTypes c).value m.memory ≠ .error (.unknownName name)

theorem parameterOf_of_type (annotated : annotationOf types formal = type)
    (known : ∀ text, type ≠ .value (.text text)) (told : parameterOf types formal = .ok p) :
    ∃ d, type.describe = .ok d ∧ p = formal.described d := by
  unfold annotationOf at annotated
  unfold parameterOf at told
  rw [annotated] at told
  split at told
  · next text => exact absurd rfl (known text)
  · cases found : type.describe with
    | ok d =>
      rw [found] at told
      cases told
      exact ⟨d, rfl, rfl⟩
    | error cause => rw [found] at told; cases cause <;> cases told

theorem parameterOf_of_text {text : String} (annotated : annotationOf types formal = .value (.text text))
    (told : parameterOf types formal = .ok p) : p = formal.passedOn text := by
  unfold annotationOf at annotated
  unfold parameterOf at told
  rw [annotated] at told
  cases told
  rfl

/-! ### All parameters -/

/-- The parameters that are told are those of the constructor, described with the types that are
known. -/
theorem exists_knownTypes_of_parameters {owner : ClassInfo} {constructor : Constructor}
    {all : List Parameter} (told : m.provider.parameters c = .ok (some all))
    (found : c.constructor? = some (owner, constructor)) :
    ∃ types, m.knownTypes c = .ok types ∧
      ∀ formal p, (formal, p) ∈ constructor.formals.zip all → parameterOf types formal = .ok p := by
  change m.parameters c = _ at told
  cases isRecord : c.record? with
  | none =>
    rw [parameters, isRecord] at told
    cases told
  | some record =>
    have record : c.record?.isSome := by rw [isRecord]; rfl
    cases known : m.knownTypes c with
    | error cause =>
      rw [parameters, isRecord, known] at told
      cases told
    | ok types =>
      rw [parameters_of_known record known found] at told
      split at told
      · cases described : constructor.formals.mapM (parameterOf types) with
        | error cause => rw [described] at told; cases told
        | ok made =>
          rw [described] at told
          cases told
          exact ⟨types, rfl, fun formal p pair => eq_ok_of_mem_zip described pair⟩
      · cases told

/-- The types that are known are those of the annotations, or there are none. -/
theorem knownTypes_eq_ok_iff : m.knownTypes c = .ok types ↔
    (m.resolvedTypes c).value m.memory = .ok types ∨ ¬ m.IsBound c ∧ types = {} := by
  unfold knownTypes IsBound
  cases resolved : (m.resolvedTypes c).value m.memory with
  | ok found => simp
  | error fault =>
    cases fault with
    | unknownName name => simp [eq_comm]
    | _ => simp

/-- What a parameter is described by. If all names in annotations are bound, this is the type of its
own annotation. If not, it is the annotation as it was written, so that the type is the same if that
stands for itself, and is not told if it is a text. -/
theorem describes_own_type {owner : ClassInfo} {constructor : Constructor} {all : List Parameter}
    (told : m.provider.parameters c = .ok (some all))
    (found : c.constructor? = some (owner, constructor))
    (pair : (formal, p) ∈ constructor.formals.zip all) (own : m.HasType c formal.name type) :
    (m.IsBound c → ∃ d, type.describe = .ok d ∧ p = formal.described d) ∧
      (¬ m.IsBound c → ∀ a, c.ownAnnotation? formal.name = some a → formal.type = some a.given →
        (a.given.standsForItself = true → ∃ d, type.describe = .ok d ∧ p = formal.described d) ∧
        ∀ text, a.given = .value (.text text) → p = formal.passedOn text) := by
  obtain ⟨types, known, described⟩ := exists_knownTypes_of_parameters told found
  have described := described formal p pair
  constructor
  · intro bound
    rcases knownTypes_eq_ok_iff.mp known with resolved | ⟨unbound, -⟩
    · refine parameterOf_of_type ?_ own.2 described
      have same := own.1
      rw [get?_typesApart resolved] at same
      obtain ⟨known, entry, same⟩ := Option.map_eq_some_iff.mp same
      cases same
      rw [annotationOf, entry]
      rfl
    · exact absurd bound unbound
  · intro unbound a counts written
    rcases knownTypes_eq_ok_iff.mp known with resolved | ⟨-, rfl⟩
    · exact absurd (fun name same => by rw [resolved] at same; cases same) unbound
    · have annotated : annotationOf {} formal = a.given := by
        rw [annotationOf, written]
        rfl
      refine ⟨fun stands => ?_, fun text same => parameterOf_of_text (annotated.trans same) described⟩
      have itself : type = a.given := by
        obtain ⟨other, resolved, same, ⟨start, evaluated⟩, ⟨memory, bare⟩⟩ :=
          exists_of_get?_typesApart own.1
        rw [counts] at same
        cases same
        have unchanged : resolved = a.given :=
          (Hint.ensures_resolveField stands start).of_ok evaluated
        subst unchanged
        exact (Hint.ensures_plain stands memory).of_ok bare
      exact parameterOf_of_type (annotated.trans itself.symm) own.2 described

/-! ### Neighbours -/

/-- A definition with a field that is annotated by a text, behind another one that is. -/
def neighbours (text : String) : Declaration where
  name := "S"
  fields := [
    { name := "x", type := text, quoted := true, carried := .value .null },
    { name := "y", type := "int", quoted := true, carried := .value (.int 0) }]
  state := some .none

/-- Its module. -/
def moduleOfNeighbours (text : String) : ClassModule :=
  (build "app.state" [neighbours text] []).toOption.getD default

/-- The definition as a class of its module. -/
def classOfNeighbours (text : String) : ClassInfo :=
  (moduleOfNeighbours text).definitions.headD default

/-- Whether a type is known, and is a class of some name. -/
def isClassNamed (name : String) : Option (Except Hint.Fault Hint) → Bool
  | some (.ok (.classRef id)) => id ≠ Hint.nullClass && id.qualifiedName = name
  | _ => false

theorem exists_hasType_of_isClassNamed {name qualifiedName : String}
    (found : isClassNamed qualifiedName ((m.typesApart c).get? name) = true) :
    ∃ type, m.HasType c name type ∧ type.describe = .ok ⟨qualifiedName, false, []⟩ := by
  unfold isClassNamed at found
  split at found
  · next id entry =>
    rw [Bool.and_eq_true, decide_eq_true_eq, decide_eq_true_eq] at found
    obtain ⟨other, rfl⟩ := found
    refine ⟨.classRef id, ⟨entry, by rintro text ⟨⟩⟩, ?_⟩
    rw [Hint.describe, if_neg other]
  · cases found

/-- If both names are bound, the second field is described by its own type. -/
theorem describes_neighbours : ∃ (type : Hint) (p : Parameter),
    (moduleOfNeighbours "bool").HasType (classOfNeighbours "bool") "y" type ∧
    (∃ first, (moduleOfNeighbours "bool").provider.parameters (classOfNeighbours "bool") =
      .ok (some [first, p])) ∧
    p.name = "y" ∧ ∃ d, type.describe = .ok d ∧ p.type = some d := by
  have told : (moduleOfNeighbours "bool").provider.parameters (classOfNeighbours "bool") =
      .ok (some [
        { name := "x", type := some ⟨"builtins.bool", false, []⟩ },
        { name := "y", type := some ⟨"builtins.int", false, []⟩ }]) := by
    decide +kernel
  have names : ((classOfNeighbours "bool").constructor?.map fun pair => pair.2.formals.map (·.name)) =
      some ["x", "y"] := by
    decide +kernel
  obtain ⟨⟨owner, constructor⟩, found, names⟩ := Option.map_eq_some_iff.mp names
  obtain ⟨first, others, formals, -, names⟩ := List.map_eq_cons_iff.mp names
  obtain ⟨second, others, rfl, named, -⟩ := List.map_eq_cons_iff.mp names
  have typed : isClassNamed "builtins.int"
      (((moduleOfNeighbours "bool").typesApart (classOfNeighbours "bool")).get? "y") = true := by
    decide +kernel
  obtain ⟨type, own, -⟩ := exists_hasType_of_isClassNamed typed
  have bound : (moduleOfNeighbours "bool").IsBound (classOfNeighbours "bool") := by
    have known : (((moduleOfNeighbours "bool").resolvedTypes (classOfNeighbours "bool")).value
        (moduleOfNeighbours "bool").memory).isOk = true := by
      decide +kernel
    intro name same
    rw [same] at known
    cases known
  have pair : (second, ({ name := "y", type := some ⟨"builtins.int", false, []⟩ } : Parameter)) ∈
      constructor.formals.zip [{ name := "x", type := some ⟨"builtins.bool", false, []⟩ },
        { name := "y", type := some ⟨"builtins.int", false, []⟩ }] := by
    rw [formals]
    exact List.mem_cons_of_mem _ List.mem_cons_self
  obtain ⟨d, described, same⟩ := (describes_own_type told found pair (named ▸ own)).1 bound
  exact ⟨type, _, own, ⟨_, told⟩, rfl, d, described, congrArg Parameter.type same⟩

/-- If the name of the first one is not bound, the type of the second one is not told, although it
is known. -/
theorem exists_hasType_untold : ∃ type,
    (moduleOfNeighbours "Missing").HasType (classOfNeighbours "Missing") "y" type ∧
    type.describe = .ok ⟨"builtins.int", false, []⟩ ∧
    (moduleOfNeighbours "Missing").provider.parameters (classOfNeighbours "Missing") = .ok (some [
      { name := "x", signature := some "Missing" }, { name := "y", signature := some "int" }]) := by
  have typed : isClassNamed "builtins.int"
      (((moduleOfNeighbours "Missing").typesApart (classOfNeighbours "Missing")).get? "y") = true := by
    decide +kernel
  obtain ⟨type, known, described⟩ := exists_hasType_of_isClassNamed typed
  exact ⟨type, known, described, by decide +kernel⟩

end ClassModule

end StateContainer
