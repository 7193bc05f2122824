/-
This file says which rules the annotations of plain types have, and how making a rule fails.

The rule of a plain type follows its shape: a rule for each part, and those of the members of
a union. Making one fails at most in ways that count as faults of the stored text, as where a
list is declared without its items.

The annotations of declared types are checked by the rules that the types have. The rule of a
collection is made of that of its parts. Where these are declared with null, it is a union with
one member that admits null. A set has no rule for its items.
-/

import StateContainer.Proofs.Snapshot.Check
import StateContainer.Proofs.Snapshot.Types

namespace StateContainer.Snapshot

open Hint (Fault)

/-! ### Rules of plain types -/

/-- Whether a rule is one that the values of a plain type are checked by. Null may be admitted
anywhere. -/
inductive Rule.Checks (united : Prop) : Rule → Hint → Prop where
  | text : Checks united .text (.classRef StoredType.textClass)
  | integer : Checks united .integer (.classRef StoredType.integerClass)
  | number : Checks united .number (.classRef numberClass)
  | truth : Checks united .truth (.classRef StoredType.truthClass)
  | list (spelling : Hint.Spelling) {rule : Rule} {item : Hint} (part : Checks united rule item) :
      Checks united (.list rule) (.applied spelling StoredType.listClass [item])
  | series (spelling : Hint.Spelling) {rule : Rule} {item : Hint} (part : Checks united rule item) :
      Checks united (.list rule) (.applied spelling tupleClass [item, .ellipsis])
  | bareTuple : Checks united (.tuple []) (.classRef tupleClass)
  | tuple (spelling : Hint.Spelling) {rules : List Rule} {items : List Hint}
      (length : rules.length = items.length)
      (parts : ∀ pair ∈ items.zip rules, Checks united pair.2 pair.1) :
      Checks united (.tuple rules) (.applied spelling tupleClass items)
  | bareMap : Checks united (.map none none) (.classRef StoredType.mapClass)
  | map (spelling : Hint.Spelling) {keyRule itemRule : Rule} {key item : Hint}
      (keys : Checks united keyRule key) (items : Checks united itemRule item) :
      Checks united (.map (some keyRule) (some itemRule))
        (.applied spelling StoredType.mapClass [key, item])
  | union (bars : Bool) {members : List (Hint × Rule)} {types : List Hint}
      (plain : united ∧ IsPlain united (.union bars types))
      (parts : ∀ member ∈ members, Checks united member.2 member.1) :
      Checks united (.union members) (.union bars types)
  | orNull {rule : Rule} {type : Hint} (part : Checks united rule type) :
      Checks united (.orNull rule) type

/-- What is said of the first of each pair is said of all items that are paired. -/
theorem forall_of_forall_zip {α β : Type} {holds : α → Prop} {items : List α} {others : List β}
    (length : others.length = items.length) (each : ∀ pair ∈ items.zip others, holds pair.1) :
    ∀ item ∈ items, holds item := by
  intro item member
  obtain ⟨place, bound, rfl⟩ := List.getElem_of_mem member
  have other : place < others.length := length ▸ bound
  have inside : (items[place], others[place]) ∈ items.zip others :=
    List.mem_iff_getElem.mpr ⟨place, by rw [List.length_zip]; omega, List.getElem_zip⟩
  exact each _ inside

/-- Only plain types have such a rule. -/
theorem Rule.Checks.isPlain {united : Prop} {rule : Rule} {type : Hint}
    (checks : rule.Checks united type) : IsPlain united type := by
  induction checks with
  | text => exact .scalar (mem_scalarClasses.mpr (Or.inl rfl))
  | integer => exact .scalar (mem_scalarClasses.mpr (Or.inr (Or.inl rfl)))
  | number => exact .scalar (mem_scalarClasses.mpr (Or.inr (Or.inr (Or.inl rfl))))
  | truth => exact .scalar (mem_scalarClasses.mpr (Or.inr (Or.inr (Or.inr rfl))))
  | list spelling _ inductionHypothesis => exact .list spelling inductionHypothesis
  | series spelling _ inductionHypothesis => exact .series spelling inductionHypothesis
  | bareTuple => exact .bare (mem_collectionClasses.mpr (Or.inr (Or.inr rfl)))
  | bareMap => exact .bare (mem_collectionClasses.mpr (Or.inr (Or.inl rfl)))
  | tuple spelling length _ inductionHypothesis =>
    exact .tuple spelling (forall_of_forall_zip length inductionHypothesis)
  | map spelling _ _ keyHypothesis itemHypothesis => exact .map spelling keyHypothesis itemHypothesis
  | union bars plain _ _ => exact plain.2
  | orNull _ inductionHypothesis => exact inductionHypothesis

/-! ### Types without null -/

variable {united : Prop} {type item : Hint}

theorem isNullType_iff {type : Hint} : type.isNullType = true ↔ type = Hint.nullType := by
  cases type with
  | classRef id => rw [Hint.isNullType, beq_iff_eq, Hint.nullType, Hint.classRef.injEq]
  | _ => exact iff_of_false Bool.false_ne_true nofun

theorem ne_nullType (other : type.isNullType = false) : type ≠ Hint.nullType :=
  fun null => Bool.false_ne_true (other.symm.trans (isNullType_iff.mpr null))

/-- The null type is not plain itself. -/
theorem isNullType_eq_false (plain : IsPlain united type) : type.isNullType = false := by
  have known {id : Hint.ClassId} (known : id ∈ scalarClasses ++ collectionClasses) :
      (Hint.classRef id).isNullType = false := by
    revert id
    decide
  cases plain with
  | scalar member => exact known (List.mem_append_left _ member)
  | bare member => exact known (List.mem_append_right _ member)
  | _ => rfl

/-- Only unions have null among their members. -/
theorem admitsNull_eq_false (plain : IsPlain united type)
    (single : ∀ bars members, type ≠ .union bars members) :
    admitsNull type = false := by
  have known {id : Hint.ClassId} (known : id ∈ scalarClasses ++ collectionClasses) :
      admitsNull (.classRef id) = false := by
    revert id
    decide
  cases plain with
  | scalar member => exact known (List.mem_append_left _ member)
  | bare member => exact known (List.mem_append_right _ member)
  | list spelling part =>
    simp [admitsNull, argumentsOf, Hint.argumentsOf?, isNullType_eq_false part]
  | map spelling keys items =>
    simp [admitsNull, argumentsOf, Hint.argumentsOf?, isNullType_eq_false keys,
      isNullType_eq_false items]
  | series spelling part =>
    have last : Hint.ellipsis.isNullType = false := rfl
    simp [admitsNull, argumentsOf, Hint.argumentsOf?, isNullType_eq_false part, last]
  | tuple spelling parts =>
    rw [admitsNull, argumentsOf, Hint.argumentsOf?, Option.getD_some, List.any_eq_false]
    · exact fun item member => Bool.eq_false_iff.mp (isNullType_eq_false (parts item member))
    · simp
  | union bars => exact absurd rfl (single _ _)

/-! ### Faults -/

theorem endsAs_checkParts (header : Hint.Header) (options : List String)
    (parts : List (Option Rule)) :
    EndsAs (fun _ => True) Fault.IsTaken (checkParts header options parts) := by
  rw [checkParts]
  split
  · trivial
  · exact Fault.isTaken_misuse _

/-- A rule that is made for a type checks its values if the class of the type makes such a rule. -/
theorem endsAs_ruleOrNull {rule : Rule → Prop} {parts : List (Option Rule)}
    (wrapped : ∀ made, rule made → rule (.orNull made))
    (made : ∀ options, EndsAs rule Fault.IsTaken (ruleWith type options parts))
    (options : List String) :
    EndsAs (fun rule? => ∃ own, rule? = some own ∧ rule own) Fault.IsTaken
      (ruleOrNull type options parts) := by
  rw [ruleOrNull]
  refine (made _).bind fun own checks => ?_
  have either (null : Bool) : rule (if null then .orNull own else own) := by
    cases null with
    | false => exact checks
    | true => exact wrapped own checks
  exact ⟨_, rfl, either _⟩

theorem endsAs_ruleWith_of_origin {id : Hint.ClassId} (origin : originOf type = .classRef id)
    {rule : Rule → Prop} {options : List String} {parts : List (Option Rule)}
    (made : EndsAs rule Fault.IsTaken (classRule id options parts)) :
    EndsAs rule Fault.IsTaken (ruleWith type options parts) := by
  rw [ruleWith, origin]
  exact made

/-- How making the rule of a type has to end. -/
def MakesRule (united : Prop) (type : Hint) (made : Except Fault (Option Rule)) : Prop :=
  EndsAs (fun rule? => ∃ rule, rule? = some rule ∧ rule.Checks united type) Fault.IsTaken made

/-- The rule of an annotation that a class stands for is made by the class. -/
theorem makesRule_of_origin {id : Hint.ClassId} (origin : originOf type = .classRef id)
    {parts : List (Option Rule)}
    (made : ∀ options, EndsAs (·.Checks united type) Fault.IsTaken (classRule id options parts))
    (options : List String) : MakesRule united type (ruleOrNull type options parts) :=
  endsAs_ruleOrNull (fun _ => .orNull) (fun options => endsAs_ruleWith_of_origin origin (made options))
    options

/-- The rules of types are made in order, apart from those of null. -/
theorem endsAs_rulesOf {types : List Hint}
    (each : ∀ type ∈ types, type.isNullType = false → MakesRule united type (ruleOf [] type)) :
    EndsAs (fun parts => ∃ rules : List Rule, parts = rules.map some ∧
        rules.length = (types.filter (!·.isNullType)).length ∧
        ∀ pair ∈ (types.filter (!·.isNullType)).zip rules, pair.2.Checks united pair.1)
      Fault.IsTaken (rulesOf types) := by
  induction types with
  | nil => exact ⟨[], rfl, rfl, List.forall_mem_nil _⟩
  | cons type others inductionHypothesis =>
    obtain ⟨here, later⟩ := List.forall_mem_cons.mp each
    rw [rulesOf]
    cases null : type.isNullType with
    | true =>
      -- Null has a rule, which is left out.
      obtain rfl := isNullType_iff.mp null
      have own : ruleOf [] Hint.nullType = .ok (some .anything) := by
        rw [Hint.nullType, ruleOf]
        · rfl
        all_goals simp
      rw [own]
      refine (inductionHypothesis later).bind fun parts made => ?_
      rw [List.filter_cons, null]
      exact made
    | false =>
      refine (here null).bind fun rule? own => ?_
      obtain ⟨rule, rfl, checks⟩ := own
      refine (inductionHypothesis later).bind fun parts made => ?_
      obtain ⟨rules, rfl, length, parts⟩ := made
      refine ⟨rule :: rules, rfl, ?_, ?_⟩
      · rw [List.filter_cons, null, Bool.not_false, if_pos rfl, List.length_cons, List.length_cons,
          length]
      · rw [List.filter_cons, null, Bool.not_false, if_pos rfl, List.zip_cons_cons]
        exact List.forall_mem_cons.mpr ⟨checks, parts⟩

theorem filter_isNullType {types : List Hint} (plain : ∀ type ∈ types, IsPlain united type) :
    types.filter (!·.isNullType) = types :=
  List.filter_eq_self.mpr fun type member => by
    rw [isNullType_eq_false (plain type member), Bool.not_false]

/-! ### Rules of collections -/

theorem endsAs_listRule (rule : Rule) (options : List String) :
    EndsAs (· = .list rule) Fault.IsTaken (listRule options [some rule]) := by
  rw [listRule]
  exact (endsAs_checkParts _ _ _).bind fun _ _ => rfl

theorem endsAs_mapRule (key item : Rule) (options : List String) :
    EndsAs (· = .map (some key) (some item)) Fault.IsTaken
      (mapRule options [some key, some item]) := by
  rw [mapRule]
  exact (endsAs_checkParts _ _ _).bind fun _ _ => rfl

theorem tupleRule_map_some (rules : List Rule) : tupleRule (rules.map some) = .ok (.tuple rules) := by
  have parts : (rules.map some).mapM
      (requirePart "Elements of \"tuple_fields\" must be subclasses or instances") =
      pure ((rules.map some).map fun rule? => rule?.getD .anything) :=
    mapM_eq_pure_of_forall fun rule? member => by
      obtain ⟨rule, -, rfl⟩ := List.mem_map.mp member
      rfl
  rw [tupleRule, parts, List.map_map]
  show Except.ok (Rule.tuple (rules.map _)) = _
  exact congrArg (Except.ok ∘ Rule.tuple) (List.map_id _)

/-- A tuple of types has a rule for each of them. -/
theorem classRule_tupleClass (options : List String) (rules : List Rule) :
    classRule tupleClass options (rules.map some) = .ok (.tuple rules) := by
  rw [← tupleRule_map_some]
  match rules with
  | [] => rfl
  | [first] => rfl
  | [first, second] => rfl
  | first :: second :: third :: others => rfl

/-! ### Rules of types -/

/-- A class by itself has a rule without parts. -/
theorem ruleOf_classRef (options : List String) (id : Hint.ClassId) :
    ruleOf options (.classRef id) = ruleOrNull (.classRef id) options [] := by
  rw [ruleOf]
  all_goals simp

/-- Making the rule of a plain type gives one that checks its values, or fails for the stored text. -/
theorem makesRule_ruleOf (plain : IsPlain united type) (options : List String) :
    MakesRule united type (ruleOf options type) := by
  induction plain generalizing options with
  | @scalar id known =>
    rw [ruleOf_classRef]
    refine makesRule_of_origin rfl (fun options => ?_) options
    rcases mem_scalarClasses.mp known with rfl | rfl | rfl | rfl
    · exact (endsAs_checkParts plainHeader options []).bind fun _ _ => Rule.Checks.text
    · exact (endsAs_checkParts (partsHeader "Integer.__init__" []) options []).bind fun _ _ =>
        Rule.Checks.integer
    · exact (endsAs_checkParts (partsHeader "Float.__init__" []) options []).bind fun _ _ =>
        Rule.Checks.number
    · exact (endsAs_checkParts (partsHeader "Boolean.__init__" []) options []).bind fun _ _ =>
        Rule.Checks.truth
  | @bare id known =>
    rw [ruleOf_classRef]
    refine makesRule_of_origin rfl (fun options => ?_) options
    rcases mem_collectionClasses.mp known with rfl | rfl | rfl
    · -- A list has to have items of some type.
      refine (endsAs_checkParts _ options []).bind fun _ _ => ?_
      exact Fault.isTaken_invalid _
    · exact (endsAs_checkParts _ options []).bind fun _ _ => Rule.Checks.bareMap
    · exact Rule.Checks.bareTuple
  | list spelling plain inductionHypothesis =>
    rw [ruleOf]
    refine (endsAs_rulesOf fun type member _ =>
      List.mem_singleton.mp member ▸ inductionHypothesis []).bind fun parts made => ?_
    rw [List.filter_cons, isNullType_eq_false plain] at made
    obtain ⟨rules, rfl, length, checks⟩ := made
    obtain ⟨rule, rfl⟩ := List.length_eq_one_iff.mp length
    refine makesRule_of_origin rfl (fun options => ?_) options
    refine (endsAs_listRule rule options).weaken (fun made own => ?_) fun _ => id
    subst own
    exact .list spelling (checks (_, rule) List.mem_cons_self)
  | @map spelling key item plainKey plainItem keyHypothesis itemHypothesis =>
    have each : ∀ type ∈ [key, item], IsPlain united type :=
      List.forall_mem_cons.mpr ⟨plainKey, List.forall_mem_singleton.mpr plainItem⟩
    have rules : ∀ type ∈ [key, item], type.isNullType = false →
        MakesRule united type (ruleOf [] type) :=
      List.forall_mem_cons.mpr ⟨fun _ => keyHypothesis [],
        List.forall_mem_singleton.mpr fun _ => itemHypothesis []⟩
    rw [ruleOf]
    refine (endsAs_rulesOf rules).bind fun parts made => ?_
    rw [filter_isNullType each] at made
    obtain ⟨rules, rfl, length, checks⟩ := made
    obtain ⟨key, item, rfl⟩ := List.length_eq_two.mp length
    refine makesRule_of_origin rfl (fun options => ?_) options
    refine (endsAs_mapRule key item options).weaken (fun made own => ?_) fun _ => id
    subst own
    exact .map spelling (checks (_, key) List.mem_cons_self)
      (checks (_, item) (List.mem_cons_of_mem _ List.mem_cons_self))
  | series spelling plain inductionHypothesis =>
    rw [ruleOf, rulesOf, bind_assoc]
    refine (inductionHypothesis []).bind fun rule? made => ?_
    obtain ⟨rule, rfl, checks⟩ := made
    have parts : (rulesOf [.ellipsis] : Except Fault _) = .ok [none] := rfl
    rw [parts, isNullType_eq_false plain]
    refine makesRule_of_origin rfl (fun options => ?_) options
    refine (endsAs_listRule rule options).weaken (fun made own => ?_) fun _ => id
    subst own
    exact .series spelling checks
  | tuple spelling plain inductionHypothesis =>
    rw [ruleOf]
    refine (endsAs_rulesOf fun type member _ => inductionHypothesis type member []).bind
      fun parts made => ?_
    rw [filter_isNullType plain] at made
    obtain ⟨rules, rfl, length, checks⟩ := made
    refine makesRule_of_origin rfl (fun options => ?_) options
    rw [classRule_tupleClass]
    exact .tuple spelling length checks
  | @union bars members may present plain inductionHypothesis =>
    rw [ruleOf]
    refine (endsAs_rulesOf fun type member other =>
      inductionHypothesis type member (ne_nullType other) []).bind fun parts made => ?_
    obtain ⟨rules, rfl, length, checks⟩ := made
    refine endsAs_ruleOrNull (fun _ => .orNull) (fun options => ?_) options
    have parts : (rules.map some).map (·.getD .anything) = rules := by
      rw [List.map_map]
      exact List.map_id rules
    have made : EndsAs (· = .union ((members.filter (!·.isNullType)).zip rules)) Fault.IsTaken
        (ruleWith (.union bars members) options (rules.map some)) := by
      rw [ruleWith]
      split
      · exact Fault.isTaken_misuse _
      · rw [parts]
        cases bars <;> rfl
    refine made.weaken (fun rule own => ?_) fun _ => id
    subst own
    exact .union bars ⟨may, .union bars may present plain⟩ checks

end StateContainer.Snapshot

namespace StateContainer

open Snapshot

namespace DeclaredType

open StoredType (AreUsual withOptions fieldOptions)

theorem isNullType_hint (type : DeclaredType) : type.hint.isNullType = false := by
  cases type with
  | scalar kind => cases kind <;> decide
  | _ => rfl

theorem isNullType_withNull (nullable : Bool) (type : DeclaredType) :
    (withNull nullable type.hint).isNullType = false := by
  cases nullable with
  | false => exact type.isNullType_hint
  | true => rfl

theorem admitsNull_hint (type : DeclaredType) : admitsNull type.hint = false := by
  cases type with
  | scalar kind => cases kind <;> decide
  | list item nullable =>
    simp [hint, admitsNull, argumentsOf, Hint.argumentsOf?, isNullType_withNull]
  | set item nullable =>
    simp [hint, admitsNull, argumentsOf, Hint.argumentsOf?, isNullType_withNull]
  | map item nullable =>
    have key : (Hint.classRef StoredType.textClass).isNullType = false := by decide
    simp [hint, admitsNull, argumentsOf, Hint.argumentsOf?, isNullType_withNull, key]

theorem unhashable?_withNull (nullable : Bool) {type : Hint} (own : Hint.unhashable? type = none) :
    Hint.unhashable? (withNull nullable type) = none := by
  cases nullable with
  | false => exact own
  | true =>
    have null : Hint.unhashable? Hint.nullType = none := rfl
    simp [withNull, Hint.unhashable?, Hint.unhashableIn?, own, null]

/-- The annotation of a type can be a member of a union. -/
theorem unhashable?_hint (type : DeclaredType) : Hint.unhashable? type.hint = none := by
  induction type with
  | scalar kind => rfl
  | list item nullable inductionHypothesis =>
    simp [hint, Hint.unhashable?, Hint.unhashableIn?, unhashable?_withNull nullable inductionHypothesis]
  | set item nullable inductionHypothesis =>
    simp [hint, Hint.unhashable?, Hint.unhashableIn?, unhashable?_withNull nullable inductionHypothesis]
  | map item nullable inductionHypothesis =>
    simp [hint, Hint.unhashable?, Hint.unhashableIn?, unhashable?_withNull nullable inductionHypothesis]

theorem ruleOf_scalar (kind : ScalarType) {options : List String} (usual : AreUsual options) :
    ruleOf options (.classRef kind.classId) = .ok (some (withOptions options kind.rule)) := by
  have notNull := admitsNull_hint (scalar kind)
  cases kind with
  | text =>
    exact StoredType.ruleOrNull_of_origin rfl notNull
      (StoredType.classRule_scalar plainHeader rfl (StoredType.checkParts_plain usual))
  | integer =>
    exact StoredType.ruleOrNull_of_origin rfl notNull
      (StoredType.classRule_scalar (partsHeader "Integer.__init__" []) rfl
        (StoredType.checkParts_scalar usual _))
  | number =>
    exact StoredType.ruleOrNull_of_origin rfl notNull
      (StoredType.classRule_scalar (partsHeader "Float.__init__" []) rfl
        (StoredType.checkParts_scalar usual _))
  | truth =>
    exact StoredType.ruleOrNull_of_origin rfl notNull
      (StoredType.classRule_scalar (partsHeader "Boolean.__init__" []) rfl
        (StoredType.checkParts_scalar usual _))

/-- With null, the rule of a part is a union that admits it. -/
theorem ruleOf_withNull (nullable : Bool) {type : DeclaredType}
    (own : ruleOf [] type.hint = .ok (some type.rule)) :
    ruleOf [] (withNull nullable type.hint) = .ok (some (partRule nullable type.hint type.rule)) := by
  cases nullable with
  | false => exact own
  | true =>
    have null : ruleOf [] Hint.nullType = .ok (some .anything) := by
      rw [Hint.nullType, ruleOf]
      · rfl
      all_goals simp
    have last : Hint.nullType.isNullType = true := by decide
    have rules : rulesOf [type.hint, Hint.nullType] = .ok [some type.rule] := by
      rw [rulesOf, own, rulesOf, null, type.isNullType_hint, last]
      rfl
    have members : argumentsOf (.union true [type.hint, Hint.nullType]) =
        [type.hint, Hint.nullType] := rfl
    have made : ruleWith (.union true [type.hint, Hint.nullType]) ["allow_none"] [some type.rule] =
        .ok (.union [(type.hint, type.rule)]) := by
      have hashable : Hint.unhashable? (originOf (.union true [type.hint, Hint.nullType])) = none :=
        unhashable?_withNull true type.unhashable?_hint
      have others : [type.hint, Hint.nullType].filter (!·.isNullType) = [type.hint] := by
        rw [List.filter_cons, type.isNullType_hint, List.filter_cons, last]
        rfl
      rw [ruleWith]
      dsimp only
      rw [hashable]
      show Except.ok (Rule.union
        (([type.hint, Hint.nullType].filter (!·.isNullType)).zip [type.rule])) = _
      rw [others]
      rfl
    show ruleOf [] (.union true [type.hint, Hint.nullType]) = _
    rw [ruleOf, rules]
    show ruleOrNull _ [] [some type.rule] = _
    have admits := admitsNull_orNull true type.admitsNull_hint
    change admitsNull (.union true [type.hint, Hint.nullType]) = true at admits
    unfold ruleOrNull
    rw [admits]
    show (do
      let rule ← ruleWith (.union true [type.hint, Hint.nullType]) ["allow_none"] [some type.rule]
      return some (Rule.orNull rule)) = _
    rw [made]
    rfl

/-- The rule of the annotation of a type. -/
theorem ruleOf_hint (type : DeclaredType) {options : List String} (usual : AreUsual options) :
    ruleOf options type.hint = .ok (some (withOptions options type.rule)) := by
  induction type generalizing options with
  | scalar kind => exact ruleOf_scalar kind usual
  | list item nullable inductionHypothesis =>
    have part := ruleOf_withNull nullable (inductionHypothesis (Or.inl rfl : AreUsual []))
    have parts : rulesOf [withNull nullable item.hint] =
        .ok [some (partRule nullable item.hint item.rule)] := by
      rw [rulesOf, part, rulesOf, isNullType_withNull]
      rfl
    have made : classRule StoredType.listClass options
        [some (partRule nullable item.hint item.rule)] = .ok (list item nullable).rule := by
      show listRule options [some (partRule nullable item.hint item.rule)] = _
      rw [listRule, StoredType.checkParts_list usual]
      rfl
    rw [hint, ruleOf, parts]
    exact StoredType.ruleOrNull_of_origin rfl (admitsNull_hint (list item nullable)) made
  | set item nullable inductionHypothesis =>
    have part := ruleOf_withNull nullable (inductionHypothesis (Or.inl rfl : AreUsual []))
    have parts : rulesOf [withNull nullable item.hint] =
        .ok [some (partRule nullable item.hint item.rule)] := by
      rw [rulesOf, part, rulesOf, isNullType_withNull]
      rfl
    have made : classRule setClass options [some (partRule nullable item.hint item.rule)] =
        .ok (set item nullable).rule := rfl
    rw [hint, ruleOf, parts]
    exact StoredType.ruleOrNull_of_origin rfl (admitsNull_hint (set item nullable)) made
  | map item nullable inductionHypothesis =>
    have part := ruleOf_withNull nullable (inductionHypothesis (Or.inl rfl : AreUsual []))
    have key : ruleOf [] (.classRef StoredType.textClass) = .ok (some .text) :=
      ruleOf_scalar .text (Or.inl rfl)
    have notNull : (Hint.classRef StoredType.textClass).isNullType = false := by decide
    have parts : rulesOf [.classRef StoredType.textClass, withNull nullable item.hint] =
        .ok [some .text, some (partRule nullable item.hint item.rule)] := by
      rw [rulesOf, key, rulesOf, part, rulesOf, isNullType_withNull, notNull]
      rfl
    have made : classRule StoredType.mapClass options
        [some .text, some (partRule nullable item.hint item.rule)] =
          .ok (map item nullable).rule := by
      show mapRule options [some .text, some (partRule nullable item.hint item.rule)] = _
      rw [mapRule, StoredType.checkParts_map usual]
      rfl
    rw [hint, ruleOf, parts]
    exact StoredType.ruleOrNull_of_origin rfl (admitsNull_hint (map item nullable)) made

end DeclaredType

/-- The rule of a field without a default. -/
theorem FieldDeclaration.fieldRule?_hint (field : FieldDeclaration) {declared : Class.Field}
    (plain : declared.default = none) (noFactory : declared.factory = none) :
    fieldRule? declared field.hint = .ok (some { rule := field.rule, required := true }) :=
  fieldRule?_orNull field.nullable field.type.isNullType_hint field.type.admitsNull_hint
    field.type.ruleOf_hint plain noFactory

end StateContainer
