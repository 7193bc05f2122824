/-
This file shows what classes applied to types, and unions of types, evaluate to: types that mean the
class with those arguments, and the union.

What was made of equal arguments before is taken again, in the spelling and the order of then. That
is harmless as long as everything that is remembered means what it was made for: equal arguments mean
the same, so that what is found means what would have been made. This is what an evaluation keeps.
-/

import StateContainer.Hint.Evaluate
import StateContainer.Proofs.Hint.Ensures
import StateContainer.Proofs.Hint.Meaning
import StateContainer.Proofs.Hint.Standing

namespace StateContainer.Hint

/-! ### What is remembered -/

/-- Whether something was made as a type: it is one, but not null, and means the wanted one. -/
structure MadeFor (wanted made : Hint) : Prop where
  isType : IsType made
  notNull : made ≠ value .null
  means : MeansAs made wanted

theorem MadeFor.of_means {wanted other made : Hint} (own : MadeFor wanted made)
    (means : MeansAs wanted other) : MadeFor other made :=
  ⟨own.isType, own.notNull, own.means.trans means⟩

/-- What a class applied to types and a union of types are remembered as. -/
inductive Recorded : Application → Hint → Prop
  | applied {id : ClassId} {index made : Hint} (types : ∀ item ∈ arguments index, IsType item)
      (own : MadeFor (applied .plain id (arguments index)) made) :
      Recorded { base := classRef id, arguments := [index] } made
  | union {items : List Hint} {made : Hint} (types : ∀ item ∈ items, IsType item)
      (own : MadeFor (union false items) made) :
      Recorded { base := form "Union", arguments := [tuple items] } made

/-- Whether no name has been given, and everything that is remembered was made as a type. -/
structure Memory.IsSound (memory : Memory) : Prop where
  unnamed : memory.bindings = {}
  recorded : ∀ entry ∈ memory.results, Recorded entry.1 entry.2

theorem Memory.isSound_empty : Memory.IsSound {} := ⟨rfl, List.forall_mem_nil _⟩

section
variable {α β : Type}

/-- Whether an evaluation has a result of a kind, and leaves what is remembered sound. -/
def Evaluation.Yields (evaluation : Evaluation α) (result : α → Prop) : Prop :=
  ∀ memory : Memory, memory.IsSound →
    ∃ made, evaluation.value memory = .ok made ∧ result made ∧ (evaluation.after memory).IsSound

namespace Evaluation

variable {evaluation : Evaluation α} {result : α → Prop}

theorem yields_pure {made : α} (own : result made) : Yields (pure made) result :=
  fun _ sound => ⟨made, rfl, own, sound⟩

theorem Yields.bind {next : α → Evaluation β} {final : β → Prop} (first : Yields evaluation result)
    (rest : ∀ made, result made → Yields (next made) final) : Yields (evaluation >>= next) final := by
  intro memory sound
  obtain ⟨made, value, own, sound⟩ := first memory sound
  obtain ⟨last, value', own', sound'⟩ := rest made own _ sound
  refine ⟨last, ?_, own', ?_⟩
  · rw [value_bind, value]
    exact value'
  · rw [after_bind, value]
    exact sound'

theorem Yields.weaken {wider : α → Prop} (yields : Yields evaluation result)
    (results : ∀ made, result made → wider made) : Yields evaluation wider := by
  intro memory sound
  obtain ⟨made, value, own, sound⟩ := yields memory sound
  exact ⟨made, value, results made own, sound⟩

/-- What goes on with what is remembered finds it sound. -/
theorem yields_get_bind {next : Memory → Evaluation α}
    (each : ∀ memory : Memory, memory.IsSound → Yields (next memory) result) :
    Yields (get >>= next) result :=
  fun memory sound => each memory sound memory sound

theorem yields_modify {change : Memory → Memory}
    (keeps : ∀ memory : Memory, memory.IsSound → (change memory).IsSound) :
    Yields (modify change) fun _ => True :=
  fun memory sound => ⟨(), rfl, trivial, keeps memory sound⟩

end Evaluation

/-- A sound memory stays sound with one more result that was made as a type. -/
theorem Memory.IsSound.append {memory : Memory} (sound : memory.IsSound) {application : Application}
    {made : Hint} (recorded : Recorded application made) :
    Memory.IsSound { memory with results := memory.results ++ [(application, made)] } := by
  refine ⟨sound.unnamed, fun entry member => ?_⟩
  rcases List.mem_append.mp member with earlier | last
  · exact sound.recorded entry earlier
  · rw [List.mem_singleton.mp last]
    exact recorded

/-- What is remembered may be taken, and what is made may be remembered. -/
theorem yields_remembering {application : Application} {make : Evaluation Hint} {result : Hint → Prop}
    (found : ∀ earlier made, application.matches earlier = true → Recorded earlier made → result made)
    (makes : make.Yields result) (kept : ∀ made, result made → Recorded application made) :
    (remembering application make).Yields result := by
  unfold remembering
  split
  · exact makes
  · refine Evaluation.yields_get_bind fun memory sound => ?_
    split
    · next earlier made known =>
      have isMatch : application.matches earlier = true := by simpa using List.find?_some known
      exact Evaluation.yields_pure
        (found earlier made isMatch (sound.recorded _ (List.mem_of_find?_eq_some known)))
    · refine makes.bind fun made own => ?_
      exact (Evaluation.yields_modify fun _ sound => sound.append (kept made own)).bind fun _ _ =>
        Evaluation.yields_pure own

end

/-! ### Equal arguments -/

theorem arguments_of_isType {hint : Hint} (isType : IsType hint) : arguments hint = [hint] := by
  cases isType <;> rfl

/-- A type is never equal to a tuple. -/
theorem same_tuple_of_isType {hint : Hint} {items : List Hint} (isType : IsType hint) :
    same hint (tuple items) = false := by
  cases isType <;> simp [same]

/-- What equal indices stand for means the same. -/
theorem means_of_same_index {index other : Hint} (types : ∀ item ∈ arguments index, IsType item)
    (equal : same index other = true) :
    List.Forall₂ MeansAs (arguments index) (arguments other) := by
  by_cases several : ∃ items, index = tuple items
  · obtain ⟨items, rfl⟩ := several
    cases other with
    | tuple others =>
      rw [same, sameAll_iff] at equal
      exact forall₂_imp_of_mem (fun x member {_} own => meansAs_of_same (types x member) own) equal
    | _ => simp [same] at equal
  · have single : arguments index = [index] := by
      unfold arguments
      split
      · exact absurd ⟨_, rfl⟩ several
      · rfl
    rw [single, List.forall_mem_singleton] at types
    have single' : arguments other = [other] := by
      unfold arguments
      split
      · rw [same_tuple_of_isType types] at equal
        cases equal
      · rfl
    rw [single, single']
    exact .cons (meansAs_of_same types equal) .nil

/-- A class applied to types that was remembered for equal arguments means what is wanted. -/
theorem madeFor_applied_of_matches {id : ClassId} {index made : Hint} {earlier : Application}
    (types : ∀ item ∈ arguments index, IsType item)
    (found : Application.matches { base := classRef id, arguments := [index] } earlier = true)
    (recorded : Recorded earlier made) : MadeFor (applied .plain id (arguments index)) made := by
  rw [Application.matches, Bool.and_eq_true, Bool.and_eq_true] at found
  obtain ⟨⟨base, argument⟩, -⟩ := found
  cases recorded with
  | @applied id' index' _ _ own =>
    obtain rfl := Hint.classRef.inj (eq_classRef_of_same base)
    simp only [sameAll, Bool.and_true] at argument
    exact own.of_means (MeansAs.applied (means_of_same_index types argument) _ _ _).symm
  | union _ _ => simp [same] at base

theorem madeFor_union_of_matches {items : List Hint} {made : Hint} {earlier : Application}
    (types : ∀ item ∈ items, IsType item)
    (found : Application.matches { base := form "Union", arguments := [tuple items] } earlier = true)
    (recorded : Recorded earlier made) : MadeFor (union false items) made := by
  rw [Application.matches, Bool.and_eq_true, Bool.and_eq_true] at found
  obtain ⟨⟨base, argument⟩, -⟩ := found
  cases recorded with
  | applied _ _ => simp [same] at base
  | @union items' _ _ own =>
    simp only [sameAll, Bool.and_true] at argument
    have means : List.Forall₂ MeansAs (arguments (tuple items)) (arguments (tuple items')) :=
      means_of_same_index types argument
    exact own.of_means (MeansAs.union means false false).symm

/-! ### Checks -/

section
variable {hint : Hint}

theorem isType_fieldType (isType : IsType hint) : IsType hint.fieldType := by
  cases isType with
  | null => exact .classRef (by decide)
  | classRef own => exact .classRef own
  | applied each => exact .applied each
  | union each single apart => exact .union each single apart

theorem meansAs_fieldType (isType : IsType hint) : MeansAs hint.fieldType hint := by
  cases isType with
  | null => exact MeansAs.null_nullType.symm
  | _ => exact .refl _

theorem convert_of_isType (isType : IsType hint) : convert hint = pure hint.fieldType := by
  cases isType <;> rfl

/-- A type passes the check for the arguments of generic types. -/
theorem checkArgument_of_isType (isType : IsType hint) (message : String) :
    checkArgument message hint = pure hint.fieldType := by
  rw [checkArgument, checkType, convert_of_isType isType, pure_bind]
  cases isType with
  | classRef own =>
    show (if _ then _ else _) = _
    rw [own.2]
    rfl
  | _ => rfl

end

theorem forall₂_fieldType {items : List Hint} (types : ∀ item ∈ items, IsType item) :
    List.Forall₂ MeansAs (items.map fieldType) items := by
  rw [List.forall₂_map_left_iff, List.forall₂_same]
  exact fun item member => meansAs_fieldType (types item member)

theorem forall_isType_fieldType {items : List Hint} (types : ∀ item ∈ items, IsType item) :
    ∀ item ∈ items.map fieldType, IsType item :=
  List.forall_mem_map.mpr fun item member => isType_fieldType (types item member)

/-! ### Classes -/

/-- Whether a class can be applied to so many types. -/
structure ClassId.Takes (id : ClassId) (count : Nat) : Prop where
  isType : id.IsType
  /-- Forms that have rules of their own, and classes of named values, are left out. -/
  ordinary : id ≠ annotatedClass ∧ id ≠ callableClass ∧ id.metaName ≠ "EnumType"
  arity : id.arity = .free ∨ (id.arity = .checked count ∧ count ≠ 0)

theorem subscripted_classRef {id : ClassId} (notNamed : id.metaName ≠ "EnumType") (index : Hint) :
    subscripted (classRef id) index = applyClass id index := by
  cases index <;> exact if_neg notNamed

/-- A class applied to types evaluates to a type that means it. -/
theorem yields_subscripted {id : ClassId} {index : Hint}
    (types : ∀ item ∈ arguments index, IsType item)
    (takes : id.Takes (arguments index).length) :
    (subscripted (classRef id) index).Yields (MadeFor (applied .plain id (arguments index))) := by
  obtain ⟨isType, ⟨notAnnotated, notCallable, notNamed⟩, arity⟩ := takes
  have plain : MadeFor (applied .plain id (arguments index)) (applied .plain id (arguments index)) :=
    ⟨.applied types, nofun, .refl _⟩
  rw [subscripted_classRef notNamed, applyClass, if_neg notAnnotated,
    if_neg (Bool.not_eq_true _ ▸ isType.2), if_neg notCallable]
  rcases arity with free | ⟨checked, positive⟩
  · rw [free]
    exact Evaluation.yields_pure plain
  · rw [checked]
    refine yields_remembering (fun _ _ => madeFor_applied_of_matches types) ?_ fun _ => .applied types
    rw [mapM_eq_pure_of_forall fun item member => convert_of_isType (types item member), pure_bind]
    simp only [checkCount, List.length_map, if_neg positive, if_true, pure_bind]
    refine Evaluation.yields_pure ⟨.applied (forall_isType_fieldType types), nofun, ?_⟩
    exact MeansAs.applied (forall₂_fieldType types) _ _ _

/-! ### Unions -/

/-- What is made as the union of types means their union. -/
theorem madeFor_unite {items : List Hint} (types : ∀ item ∈ items, IsType item) (bars bars' : Bool) :
    MadeFor (union bars items) (unite bars' items) := by
  obtain ⟨isType, notNull⟩ := isType_unite types bars'
  refine ⟨isType, notNull, fun V I => ?_⟩
  rw [meaning_unite I types, Interpretation.meaning]

theorem unhashableIn?_of_isType {items : List Hint} (types : ∀ item ∈ items, IsType item) :
    unhashableIn? items = none := by
  induction items with
  | nil => rfl
  | cons first others inductionHypothesis =>
    obtain ⟨own, later⟩ := List.forall_mem_cons.mp types
    rw [unhashableIn?, unhashable?_of_isType own, inductionHypothesis later]
    rfl

/-- The union by its name evaluates to a type that means it. -/
theorem yields_applyUnion {items : List Hint} (types : ∀ item ∈ items, IsType item)
    (some : items ≠ []) : (applyUnion items).Yields (MadeFor (union false items)) := by
  refine yields_remembering (fun _ _ => madeFor_union_of_matches types) ?_ fun _ => .union types
  have given := forall_isType_fieldType types
  have flat : ∀ m ∈ (items.map fieldType).flatMap members, IsType m := by
    intro m member
    obtain ⟨item, inside, member⟩ := List.mem_flatMap.mp member
    exact (isType_of_mem_members (given item inside) member).1
  rw [if_neg (by rwa [List.isEmpty_iff]),
    mapM_eq_pure_of_forall fun item member => checkArgument_of_isType (types item member) _]
  simp only [pure_bind, unhashableIn?_of_isType flat]
  refine Evaluation.yields_pure ((madeFor_unite flat false false).of_means fun V I => ?_)
  rw [Interpretation.meaning, I.meaningOfAny_flatMap_members]
  exact MeansAs.union (forall₂_fieldType types) false false V I

/-- The bar takes types, and no other operator of two operands does. -/
theorem combine_of_isType {left right : Hint} (own : IsType left) (notNull : left ≠ value .null) :
    combine "|" left right = unionOf left right := by
  cases own with
  | null => exact absurd rfl notNull
  | _ => rfl

theorem kindName_of_isType {hint : Hint} (own : IsType hint) (notNull : hint ≠ value .null) :
    hint.kindName ≠ "NoneType" := by
  cases own with
  | null => exact absurd rfl notNull
  | classRef isType => exact isType.1
  | @applied spelling origin =>
    cases spelling <;> simp only [kindName] <;> split <;> decide
  | @union bars => cases bars <;> simp [kindName]

theorem isTypingMember_of_isType {hint : Hint} (own : IsType hint)
    (other : hint.isPlainMember = false) :
    hint.isTypingMember = true := by
  cases own with
  | null => cases other
  | classRef _ => cases other
  | @applied spelling => cases spelling <;> first | rfl | cases other
  | @union bars => cases bars <;> first | rfl | cases other

/-- Two types with a bar between them evaluate to a type that means their union. -/
theorem yields_combine {left right : Hint} (own : IsType left) (notNull : left ≠ value .null)
    (own' : IsType right) : (combine "|" left right).Yields (MadeFor (union true [left, right])) := by
  have types : ∀ item ∈ [left, right], IsType item := by
    rw [List.forall_mem_cons, List.forall_mem_singleton]
    exact ⟨own, own'⟩
  rw [combine_of_isType own notNull, unionOf, unionOf?]
  by_cases bothPlain : left.isPlainMember = true ∧ right.isPlainMember = true
  · rw [if_pos]
    · exact Evaluation.yields_pure (madeFor_unite types true true)
    · simp [bothPlain, kindName_of_isType own notNull]
  · have isTyping : (left.isTypingMember || right.isTypingMember) = true := by
      rw [not_and_or, Bool.not_eq_true, Bool.not_eq_true] at bothPlain
      rcases bothPlain with other | other
      · rw [isTypingMember_of_isType own other, Bool.true_or]
      · rw [isTypingMember_of_isType own' other, Bool.or_true]
    rw [if_neg (by simp only [Bool.and_eq_true, not_and_of_not_left, bothPlain, not_false_eq_true]),
      if_pos isTyping]
    exact (yields_applyUnion types nofun).weaken fun _ own => own.of_means (MeansAs.union
      (List.forall₂_same.mpr fun item _ => .refl item) false true)

end StateContainer.Hint
