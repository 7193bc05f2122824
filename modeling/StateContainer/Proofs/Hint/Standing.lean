/-
This file is about types that stand for themselves: those that hold no texts and no remarks.

Resolving such a type gives the very type back, whatever the names in its surroundings are bound to
and whatever is remembered. So does taking off its remarks. The same is true if null or the
parameters of a function are among the arguments of a type; null alone is an annotation for its own
class.
-/

import StateContainer.Hint.Resolve
import StateContainer.Hint.Written
import StateContainer.Proofs.Hint.Ensures

namespace StateContainer.Hint

/-! ### Types without texts and remarks -/

/-- Whether this is a value that is equal to itself, as all but the undefined number are. -/
def isConstant : Hint → Bool
  | value v => v.same v
  | _ => false

mutual

/-- Whether a type holds no texts and no remarks. -/
def standsForItself : Hint → Bool
  | ellipsis => true
  | classRef _ => true
  | thing _ => true
  | form _ => true
  | standIn _ _ _ => true
  | typeVariable _ => true
  | newType _ _ _ => true
  | applied _ _ items => allStandForThemselves items
  | union _ items => allStandForThemselves items
  | literal items => items.all isConstant
  | qualified name items =>
    !(name = "Required" || name = "NotRequired") && allStandForThemselves items
  | _ => false

/-- The same for several types. -/
def allStandForThemselves : List Hint → Bool
  | [] => true
  | first :: others => standsForItself first && allStandForThemselves others

end

/-- Whether this is null. -/
def isNull : Hint → Bool
  | value .null => true
  | _ => false

mutual

/-- Whether a type stays as it is when it is resolved and its remarks are taken off. Null and the
parameters of a function do so as arguments of a type, the latter unless they cannot be written. -/
def staysAsItIs : Hint → Bool
  | value v => isNull (value v)
  | ellipsis => true
  | list items => !anyTooLong items && allStayAsTheyAre items
  | tuple items => !anyTooLong items && allStayAsTheyAre items
  | classRef _ => true
  | thing _ => true
  | form _ => true
  | standIn _ _ _ => true
  | typeVariable _ => true
  | newType _ _ _ => true
  | applied _ _ items => allStayAsTheyAre items
  | union _ items => allStayAsTheyAre items
  | literal items => allAreLiterals items
  | qualified name items =>
    !(name = "Required" || name = "NotRequired") && allStayAsTheyAre items
  | _ => false

/-- The same for several types. -/
def allStayAsTheyAre : List Hint → Bool
  | [] => true
  | first :: others => staysAsItIs first && allStayAsTheyAre others

/-- Whether several things can be the values of a literal type. -/
def allAreLiterals : List Hint → Bool
  | [] => true
  | first :: others => (isConstant first || staysAsItIs first) && allAreLiterals others

end

theorem allAreLiterals_of_all {items : List Hint} (constant : items.all isConstant = true) :
    allAreLiterals items = true := by
  induction items with
  | nil => rw [allAreLiterals]
  | cons first others inductionHypothesis =>
    rw [List.all_cons, Bool.and_eq_true] at constant
    rw [allAreLiterals, constant.1, inductionHypothesis constant.2]
    rfl

mutual

/-- A type that stands for itself stays as it is. -/
theorem staysAsItIs_of_stands : ∀ {hint : Hint}, hint.standsForItself = true →
    hint.staysAsItIs = true
  | ellipsis, _ => by rw [staysAsItIs]
  | classRef _, _ => by rw [staysAsItIs]
  | thing _, _ => by rw [staysAsItIs]
  | form _, _ => by rw [staysAsItIs]
  | standIn _ _ _, _ => by rw [staysAsItIs]
  | typeVariable _, _ => by rw [staysAsItIs]
  | newType _ _ _, _ => by rw [staysAsItIs]
  | applied _ _ _, stands => by rw [staysAsItIs]; exact allStayAsTheyAre_of_stand stands
  | union _ _, stands => by rw [staysAsItIs]; exact allStayAsTheyAre_of_stand stands
  | literal _, stands => by rw [staysAsItIs]; exact allAreLiterals_of_all stands
  | qualified _ _, stands => by
    rw [standsForItself, Bool.and_eq_true] at stands
    rw [staysAsItIs, stands.1, allStayAsTheyAre_of_stand stands.2]
    rfl

theorem allStayAsTheyAre_of_stand : ∀ {items : List Hint}, allStandForThemselves items = true →
    allStayAsTheyAre items = true
  | [], _ => by rw [allStayAsTheyAre]
  | _ :: _, stand => by
    rw [allStandForThemselves, Bool.and_eq_true] at stand
    rw [allStayAsTheyAre, staysAsItIs_of_stands stand.1, allStayAsTheyAre_of_stand stand.2]
    rfl

end

theorem forall_staysAsItIs {items : List Hint} (stay : allStayAsTheyAre items = true) :
    ∀ item ∈ items, item.staysAsItIs = true := by
  induction items with
  | nil => exact List.forall_mem_nil _
  | cons first others inductionHypothesis =>
    rw [allStayAsTheyAre, Bool.and_eq_true] at stay
    exact List.forall_mem_cons.mpr ⟨stay.1, inductionHypothesis stay.2⟩

theorem eq_null_of_stays {v : Value} (stays : (value v).staysAsItIs = true) : v = .null := by
  rw [staysAsItIs] at stays
  cases v with
  | null => rfl
  | _ => cases stays

/-! ### Equality -/

theorem allIn_of_subset {items given : List Hint} (itself : ∀ item ∈ items, same item item = true)
    (within : items ⊆ given) : allIn items given = true := by
  induction items with
  | nil => rw [allIn]
  | cons first others inductionHypothesis =>
    obtain ⟨own, later⟩ := List.forall_mem_cons.mp itself
    obtain ⟨here, rest⟩ := List.cons_subset.mp within
    rw [allIn, inductionHypothesis later rest, List.any_eq_true.mpr ⟨first, here, own⟩]
    rfl

theorem sameAll_of_forall {items : List Hint} (itself : ∀ item ∈ items, same item item = true) :
    sameAll items items = true := by
  induction items with
  | nil => rw [sameAll]
  | cons first others inductionHypothesis =>
    obtain ⟨own, later⟩ := List.forall_mem_cons.mp itself
    rw [sameAll, own, inductionHypothesis later]
    rfl

theorem allLiteralsIn_of_subset {items given : List Hint}
    (itself : ∀ item ∈ items, same item item = true) (within : items ⊆ given) :
    allLiteralsIn items given = true := by
  induction items with
  | nil => rw [allLiteralsIn]
  | cons first others inductionHypothesis =>
    obtain ⟨own, later⟩ := List.forall_mem_cons.mp itself
    obtain ⟨here, rest⟩ := List.cons_subset.mp within
    have found : (first.isOfClass first && same first first) = true := by
      rw [own, isOfClass, beq_self_eq_true]
      rfl
    rw [allLiteralsIn, inductionHypothesis later rest, List.any_eq_true.mpr ⟨first, here, found⟩]
    rfl

theorem same_of_isConstant {hint : Hint} (constant : hint.isConstant = true) :
    same hint hint = true := by
  cases hint with
  | value v => rw [same]; exact constant
  | _ => cases constant

mutual

/-- A type that stays as it is is equal to itself. -/
theorem same_of_stays : ∀ {hint : Hint}, hint.staysAsItIs = true → same hint hint = true
  | value _, stays => by rw [eq_null_of_stays stays, same, Value.same]
  | ellipsis, _ => by rw [same]
  | list items, stays => by
    rw [staysAsItIs, Bool.and_eq_true] at stays
    rw [same, sameAll_of_forall (forall_same_of_stay stays.2)]
  | tuple items, stays => by
    rw [staysAsItIs, Bool.and_eq_true] at stays
    rw [same, sameAll_of_forall (forall_same_of_stay stays.2)]
  | classRef _, _ => by rw [same, beq_self_eq_true]
  | thing _, _ => by rw [same, beq_self_eq_true]
  | form _, _ => by rw [same, beq_self_eq_true]
  | standIn _ _ _, _ => by rw [same, beq_self_eq_true]
  | typeVariable _, _ => by rw [same, beq_self_eq_true]
  | newType _ _ _, _ => by rw [same, beq_self_eq_true, beq_self_eq_true]; rfl
  | applied _ _ items, stays => by
    rw [staysAsItIs] at stays
    rw [same, beq_self_eq_true, beq_self_eq_true, sameAll_of_forall (forall_same_of_stay stays)]
    rfl
  | union _ items, stays => by
    rw [staysAsItIs] at stays
    rw [same, beq_self_eq_true, allIn_of_subset (forall_same_of_stay stays) (List.Subset.refl _)]
    rfl
  | literal items, stays => by
    rw [staysAsItIs] at stays
    rw [same, beq_self_eq_true,
      allLiteralsIn_of_subset (forall_same_of_literals stays) (List.Subset.refl _)]
    rfl
  | qualified _ items, stays => by
    rw [staysAsItIs, Bool.and_eq_true] at stays
    rw [same, beq_self_eq_true, sameAll_of_forall (forall_same_of_stay stays.2)]
    rfl

theorem forall_same_of_stay : ∀ {items : List Hint}, allStayAsTheyAre items = true →
    ∀ item ∈ items, same item item = true
  | [], _ => List.forall_mem_nil _
  | first :: others, stay => by
    rw [allStayAsTheyAre, Bool.and_eq_true] at stay
    exact List.forall_mem_cons.mpr ⟨same_of_stays stay.1, forall_same_of_stay stay.2⟩

theorem forall_same_of_literals : ∀ {items : List Hint}, allAreLiterals items = true →
    ∀ item ∈ items, same item item = true
  | [], _ => List.forall_mem_nil _
  | first :: others, literals => by
    rw [allAreLiterals, Bool.and_eq_true, Bool.or_eq_true] at literals
    refine List.forall_mem_cons.mpr ⟨?_, forall_same_of_literals literals.2⟩
    rcases literals.1 with constant | stays
    · exact same_of_isConstant constant
    · exact same_of_stays stays

end

/-! ### Resolving -/

/-- There are no texts to convert. -/
theorem convertTexts_of_stay {items : List Hint} (stay : allStayAsTheyAre items = true) :
    convertTexts items = pure items := by
  refine mapM_eq_pure_of_fixed fun item member => ?_
  have stays := forall_staysAsItIs stay item member
  split
  · cases eq_null_of_stays stays
  · rfl

/-- A generic type with the arguments that it has is the very type. -/
theorem withOthers_of_same {generic : Hint} {items : List Hint} (same : sameAll items items = true) :
    withOthers generic items items = pure generic := by
  rw [withOthers, if_pos same]

/-- If its arguments stay as they are, so does a generic type. -/
theorem ensures_withOthers {generic : Hint} {items : List Hint} {others : Evaluation (List Hint)}
    {fault : Fault → Prop} (unchanged : others.Ensures (· = items) fault)
    (itself : ∀ item ∈ items, same item item = true) :
    (others >>= withOthers generic items).Ensures (· = generic) fault := by
  refine unchanged.bind ?_
  rintro _ rfl
  rw [withOthers_of_same (sameAll_of_forall itself)]
  exact Evaluation.ensures_pure rfl

/-- Going through items that all stay as they are leaves the list as it is. -/
theorem ensures_mapM_of_fixed {step : Hint → Evaluation Hint} {items : List Hint}
    {fault : Fault → Prop} (each : ∀ item ∈ items, (step item).Ensures (· = item) fault) :
    (items.mapM step).Ensures (· = items) fault := by
  have all := @Evaluation.ensures_mapM_eq _ _ fault step items id each
  rwa [List.map_id] at all

theorem depth_pos (hint : Hint) : 0 < hint.depth := by
  unfold depth
  split <;> omega

theorem depth_le_of_mem {items : List Hint} {item : Hint} (member : item ∈ items) :
    item.depth ≤ depthOfAll items := by
  induction items with
  | nil => cases member
  | cons first others inductionHypothesis =>
    rw [depthOfAll]
    rcases List.mem_cons.mp member with rfl | later
    · exact Nat.le_max_left _ _
    · exact Nat.le_trans (inductionHypothesis later) (Nat.le_max_right _ _)

section
variable {scope : Scope} {open_ : List String}

/-- What has no arguments and is no text stays as it is. -/
theorem resolve_of_none {hint : Hint} (single : argumentsOf? hint = none)
    (known : ∀ text, hint ≠ forward text) (fuel : Nat) :
    resolve scope (fuel + 1) open_ hint = pure hint := by
  unfold resolve
  split
  · next text => exact absurd rfl (known text)
  · cases single
  · cases single
  · split
    · rfl
    · next same => rw [single] at same; cases same
    · rfl

/-- The arguments of a type are resolved, unless it takes the texts among them as they are. -/
theorem resolve_of_some {hint : Hint} {items : List Hint} (generic : argumentsOf? hint = some items)
    (converted : ∀ origin items, hint ≠ applied .plain origin items)
    (whole : ∀ generic, hint ≠ unpacked generic) (fuel : Nat) :
    resolve scope (fuel + 1) open_ hint =
      items.mapM (resolve scope fuel open_) >>= withOthers hint items := by
  unfold resolve
  split
  · cases generic
  · next origin items => exact absurd rfl (converted origin items)
  · next origin items => exact absurd rfl (whole _)
  · split
    · exact absurd rfl (whole _)
    · next same => rw [generic] at same; cases same; rfl
    · next none => rw [generic] at none; cases none

/-- Whether something is resolved to itself if there is enough fuel for its depth. -/
def ResolvesToItself (scope : Scope) (open_ : List String) (hint : Hint) : Prop :=
  ∀ fuel, (resolve scope fuel open_ hint).Ensures (· = hint) fun _ => fuel < hint.depth

theorem resolvesToItself_of_leaf {hint : Hint} (single : argumentsOf? hint = none)
    (known : ∀ text, hint ≠ forward text) : ResolvesToItself scope open_ hint := by
  intro fuel
  cases fuel with
  | zero => rw [resolve]; exact Evaluation.ensures_throw hint.depth_pos
  | succ fuel => rw [resolve_of_none single known]; exact Evaluation.ensures_pure rfl

theorem resolvesToItself_of_isConstant {hint : Hint} (constant : hint.isConstant = true) :
    ResolvesToItself scope open_ hint := by
  cases hint with
  | value v => exact resolvesToItself_of_leaf rfl (by rintro _ ⟨⟩)
  | _ => cases constant

/-- A type whose arguments resolve to themselves does so, too. -/
theorem resolvesToItself_of_items {hint : Hint} {items : List Hint}
    (generic : argumentsOf? hint = some items) (deeper : hint.depth = depthOfAll items + 1)
    (whole : ∀ generic, hint ≠ unpacked generic)
    (converts : ∀ origin items, hint = applied .plain origin items → convertTexts items = pure items)
    (each : ∀ item ∈ items, ResolvesToItself scope open_ item)
    (itself : ∀ item ∈ items, same item item = true) : ResolvesToItself scope open_ hint := by
  intro fuel
  cases fuel with
  | zero => rw [resolve]; exact Evaluation.ensures_throw hint.depth_pos
  | succ fuel =>
    have unchanged : (items.mapM (resolve scope fuel open_) >>= withOthers hint items).Ensures
        (· = hint) fun _ => fuel + 1 < hint.depth := by
      refine ensures_withOthers (ensures_mapM_of_fixed fun item member => ?_) itself
      refine (each item member fuel).weaken (fun _ same => same) fun _ less => ?_
      have bound := depth_le_of_mem member
      omega
    by_cases plain : ∃ origin items, hint = applied .plain origin items
    · obtain ⟨origin, others, rfl⟩ := plain
      obtain rfl := Option.some.inj generic
      rw [resolve, converts _ _ rfl]
      exact unchanged
    · rw [resolve_of_some generic (fun origin items same => plain ⟨origin, items, same⟩) whole]
      exact unchanged

mutual

/-- A type that stays as it is is resolved to itself. -/
theorem resolvesToItself : ∀ {hint : Hint}, hint.staysAsItIs = true →
    ResolvesToItself scope open_ hint
  | value _, _ => resolvesToItself_of_leaf rfl (by rintro _ ⟨⟩)
  | ellipsis, _ => resolvesToItself_of_leaf rfl (by rintro _ ⟨⟩)
  | list _, _ => resolvesToItself_of_leaf rfl (by rintro _ ⟨⟩)
  | tuple _, _ => resolvesToItself_of_leaf rfl (by rintro _ ⟨⟩)
  | classRef _, _ => resolvesToItself_of_leaf rfl (by rintro _ ⟨⟩)
  | thing _, _ => resolvesToItself_of_leaf rfl (by rintro _ ⟨⟩)
  | form _, _ => resolvesToItself_of_leaf rfl (by rintro _ ⟨⟩)
  | standIn _ _ _, _ => resolvesToItself_of_leaf rfl (by rintro _ ⟨⟩)
  | typeVariable _, _ => resolvesToItself_of_leaf rfl (by rintro _ ⟨⟩)
  | newType _ _ _, _ => resolvesToItself_of_leaf rfl (by rintro _ ⟨⟩)
  | applied spelling origin items, stays => by
    rw [staysAsItIs] at stays
    refine resolvesToItself_of_items rfl (by rw [depth]) (by rintro _ ⟨⟩) ?_
      (all_resolveToThemselves stays) (forall_same_of_stay stays)
    rintro _ _ ⟨⟩
    exact convertTexts_of_stay stays
  | union _ items, stays => by
    rw [staysAsItIs] at stays
    exact resolvesToItself_of_items rfl (by rw [depth]) (by rintro _ ⟨⟩) (by rintro _ _ ⟨⟩)
      (all_resolveToThemselves stays) (forall_same_of_stay stays)
  | literal items, stays => by
    rw [staysAsItIs] at stays
    exact resolvesToItself_of_items rfl (by rw [depth]) (by rintro _ ⟨⟩) (by rintro _ _ ⟨⟩)
      (literals_resolveToThemselves stays) (forall_same_of_literals stays)
  | qualified _ items, stays => by
    rw [staysAsItIs, Bool.and_eq_true] at stays
    exact resolvesToItself_of_items rfl (by rw [depth]) (by rintro _ ⟨⟩) (by rintro _ _ ⟨⟩)
      (all_resolveToThemselves stays.2) (forall_same_of_stay stays.2)

theorem all_resolveToThemselves : ∀ {items : List Hint}, allStayAsTheyAre items = true →
    ∀ item ∈ items, ResolvesToItself scope open_ item
  | [], _ => List.forall_mem_nil _
  | first :: others, stay => by
    rw [allStayAsTheyAre, Bool.and_eq_true] at stay
    exact List.forall_mem_cons.mpr ⟨resolvesToItself stay.1, all_resolveToThemselves stay.2⟩

theorem literals_resolveToThemselves : ∀ {items : List Hint}, allAreLiterals items = true →
    ∀ item ∈ items, ResolvesToItself scope open_ item
  | [], _ => List.forall_mem_nil _
  | first :: others, literals => by
    rw [allAreLiterals, Bool.and_eq_true, Bool.or_eq_true] at literals
    refine List.forall_mem_cons.mpr ⟨?_, literals_resolveToThemselves literals.2⟩
    rcases literals.1 with constant | stays
    · exact resolvesToItself_of_isConstant constant
    · exact resolvesToItself stays

end

end

/-! ### Taking off remarks -/

/-- Whether there is nothing to take off. -/
def IsPlain (hint : Hint) : Prop :=
  (plain hint).Ensures (· = hint) fun _ => False

theorem ensures_plainAll {items : List Hint} (each : ∀ item ∈ items, IsPlain item) :
    (plainAll items).Ensures (· = items) fun _ => False := by
  induction items with
  | nil => rw [plainAll]; exact Evaluation.ensures_pure rfl
  | cons first others inductionHypothesis =>
    obtain ⟨own, later⟩ := List.forall_mem_cons.mp each
    rw [plainAll]
    refine Evaluation.Ensures.bind own ?_
    rintro _ rfl
    refine (inductionHypothesis later).bind ?_
    rintro _ rfl
    exact Evaluation.ensures_pure rfl

theorem isPlain_of_isConstant {hint : Hint} (constant : hint.isConstant = true) : IsPlain hint := by
  cases hint with
  | value v => exact Evaluation.ensures_pure rfl
  | _ => cases constant

mutual

/-- A type that stays as it is has no remarks to take off. -/
theorem isPlain_of_stays : ∀ {hint : Hint}, hint.staysAsItIs = true → IsPlain hint
  | value _, _ => Evaluation.ensures_pure rfl
  | ellipsis, _ => Evaluation.ensures_pure rfl
  | list _, _ => Evaluation.ensures_pure rfl
  | tuple _, _ => Evaluation.ensures_pure rfl
  | classRef _, _ => Evaluation.ensures_pure rfl
  | thing _, _ => Evaluation.ensures_pure rfl
  | form _, _ => Evaluation.ensures_pure rfl
  | standIn _ _ _, _ => Evaluation.ensures_pure rfl
  | typeVariable _, _ => Evaluation.ensures_pure rfl
  | newType _ _ _, _ => Evaluation.ensures_pure rfl
  | applied _ _ items, stays => by
    rw [staysAsItIs] at stays
    rw [IsPlain, plain]
    exact ensures_withOthers (ensures_plainAll (all_arePlain stays)) (forall_same_of_stay stays)
  | union _ items, stays => by
    rw [staysAsItIs] at stays
    rw [IsPlain, plain]
    exact ensures_withOthers (ensures_plainAll (all_arePlain stays)) (forall_same_of_stay stays)
  | literal items, stays => by
    rw [staysAsItIs] at stays
    rw [IsPlain, plain]
    exact ensures_withOthers (ensures_plainAll (literals_arePlain stays))
      (forall_same_of_literals stays)
  | qualified name items, stays => by
    rw [staysAsItIs, Bool.and_eq_true, Bool.not_eq_true'] at stays
    obtain ⟨kept, stay⟩ := stays
    rw [IsPlain, plain]
    refine (ensures_plainAll (all_arePlain stay)).bind ?_
    rintro _ rfl
    rw [kept]
    show (withOthers _ _ _).Ensures _ _
    rw [withOthers_of_same (sameAll_of_forall (forall_same_of_stay stay))]
    exact Evaluation.ensures_pure rfl

theorem all_arePlain : ∀ {items : List Hint}, allStayAsTheyAre items = true →
    ∀ item ∈ items, IsPlain item
  | [], _ => List.forall_mem_nil _
  | first :: others, stay => by
    rw [allStayAsTheyAre, Bool.and_eq_true] at stay
    exact List.forall_mem_cons.mpr ⟨isPlain_of_stays stay.1, all_arePlain stay.2⟩

theorem literals_arePlain : ∀ {items : List Hint}, allAreLiterals items = true →
    ∀ item ∈ items, IsPlain item
  | [], _ => List.forall_mem_nil _
  | first :: others, literals => by
    rw [allAreLiterals, Bool.and_eq_true, Bool.or_eq_true] at literals
    refine List.forall_mem_cons.mpr ⟨?_, literals_arePlain literals.2⟩
    rcases literals.1 with constant | stays
    · exact isPlain_of_isConstant constant
    · exact isPlain_of_stays stays

end

theorem ensures_plain {hint : Hint} (stands : hint.standsForItself = true) :
    (plain hint).Ensures (· = hint) fun _ => False :=
  isPlain_of_stays (staysAsItIs_of_stands stands)

/-! ### Fields -/

/-- The type that a field is annotated with; null stands for its class. -/
def fieldType (given : Hint) : Hint :=
  if given.isNull then nullType else given

/-- The type of a field that is annotated with a type that stays as it is is that type. -/
theorem ensures_resolveField_of_stays {scope : Scope} {given : Hint}
    (stays : given.staysAsItIs = true) :
    (resolveField scope given).Ensures (· = given.fieldType) fun _ => False := by
  unfold resolveField
  split
  · exact Evaluation.ensures_pure rfl
  · cases eq_null_of_stays stays
  · next notNull _ =>
    have itself : given.fieldType = given := by
      rw [fieldType, if_neg]
      intro null
      cases given with
      | value v =>
        obtain rfl := eq_null_of_stays stays
        exact notNull rfl
      | _ => cases null
    rw [itself]
    refine (resolvesToItself stays _).weaken (fun _ same => same) fun _ less => ?_
    rw [resolutionDepth] at less
    omega

theorem ensures_resolveField {scope : Scope} {given : Hint} (stands : given.standsForItself = true) :
    (resolveField scope given).Ensures (· = given) fun _ => False := by
  have itself : given.fieldType = given := by
    rw [fieldType, if_neg]
    intro null
    cases given with
    | value v => cases stands
    | _ => cases null
  have ensures : (resolveField scope given).Ensures (· = given.fieldType) fun _ => False :=
    ensures_resolveField_of_stays (staysAsItIs_of_stands stands)
  rwa [itself] at ensures

end StateContainer.Hint
