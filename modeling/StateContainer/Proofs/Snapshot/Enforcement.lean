/-
This file proves that a check and a conversion together hold stored values to the types that are
declared for them.

What is declared with null inside of a collection may pass unchecked. A conversion makes a scalar
of it anyway, and a list out of the texts that it goes through then; of a set and of a map only if
it is told so by the type. All of this goes by the shape of the type.
-/

import StateContainer.Proofs.Snapshot.Fit
import StateContainer.Proofs.Snapshot.Yield

namespace StateContainer

open Snapshot
open Hint.Evaluation

namespace DeclaredType

/-- Whether a part of a collection that is declared with null or without is made one of its type. -/
def YieldsPart (nullable : Bool) (item : DeclaredType) (given : Hint) : Prop :=
  Yields (withNull nullable item.hint) (OrNull nullable item.Admits) given

variable {item : DeclaredType} {nullable : Bool} {given made : Value}

/-! ### Conversions of what is gone through -/

/-- What passes for the parts of a stored value: texts, unless it is a list. -/
theorem ensures_itemsOf {holds : Hint → Prop} (stored : given.IsStored)
    (texts : ∀ s, holds (.value (.text s)))
    (own : ∀ items, given = .list items → ∀ part ∈ items, holds (Hint.ofValue part)) :
    (Hint.itemsOf .notIterated (Hint.ofValue given)).Ensures (fun items => ∀ part ∈ items, holds part)
      fun _ => True := by
  obtain ⟨tree, rfl⟩ := stored
  cases tree with
  | text s =>
    refine ensures_pure fun part member => ?_
    obtain ⟨c, -, rfl⟩ := List.mem_map.mp member
    exact texts _
  | array trees =>
    refine ensures_pure fun part member => ?_
    obtain ⟨item, inside, rfl⟩ := mem_ofValues.mp member
    exact own _ rfl item inside
  | object trees =>
    refine ensures_pure fun part member => ?_
    obtain ⟨entry, inside, rfl⟩ := List.mem_map.mp member
    obtain ⟨own, among, rfl⟩ := exists_of_mem_ofEntries inside
    obtain ⟨⟨s, text⟩, -⟩ := Value.isStored_of_mem_ofEntries among
    rw [text]
    exact texts s
  | _ => exact ensures_throw trivial

/-- A part that need not be null is made one of its type if it is where it is not null. -/
theorem yieldsPart_of_present {given : Hint} (present : given ≠ .value .null)
    (yields : Yields item.hint item.Admits given) : YieldsPart nullable item given :=
  yields_withNull nullable (fun _ null => absurd null present) fun _ => yields

/-- Every type makes values of texts, or refuses them: a list and a set go through the characters. -/
theorem yields_text (type : DeclaredType) (s : String) :
    Yields type.hint type.Admits (.value (.text s)) := by
  have stored := Value.isStored_text s
  induction type generalizing s with
  | scalar kind => exact kind.yields stored
  | list item nullable inductionHypothesis =>
    refine yields_list (itemsConversionsOf_withNull nullable item []) nofun ?_
    exact ensures_itemsOf stored (fun s => yieldsPart_of_present nofun
      (inductionHypothesis s (Value.isStored_text s))) fun _ => nofun
  | set item nullable inductionHypothesis =>
    refine yields_set (itemsConversionsOf_withNull nullable item []) nofun ?_
    exact ensures_itemsOf stored (fun s => yieldsPart_of_present nofun
      (inductionHypothesis s (Value.isStored_text s))) fun _ => nofun
  | map item nullable _ =>
    exact yields_map (itemsConversionsOf_withNull nullable item []) nofun (ensures_throw trivial)

theorem yieldsPart_text (item : DeclaredType) (nullable : Bool) (s : String) :
    YieldsPart nullable item (.value (.text s)) :=
  yieldsPart_of_present nofun (yields_text item s)

theorem ofValue_ne_null (present : given ≠ .null) : Hint.ofValue given ≠ .value .null := by
  intro null
  have same := congrArg Hint.toValue null
  rw [Hint.toValue_ofValue] at same
  exact present same

/-- What any stored value is made by a type is made of null as well, if the type takes it. -/
theorem yieldsPart_of_takesNull (takes : item.TakesNull nullable) (stored : given.IsStored)
    (yields : given ≠ .null → Yields item.hint item.Admits (Hint.ofValue given)) :
    YieldsPart nullable item (Hint.ofValue given) := by
  by_cases present : given = .null
  · subst present
    refine yields_withNull nullable (fun required _ => ?_) fun present => absurd rfl present
    cases item with
    | scalar kind => exact kind.yields stored
    | _ => exact absurd (required.symm.trans takes) Bool.false_ne_true
  · exact yieldsPart_of_present (ofValue_ne_null present) (yields present)

/-- If a conversion alone is enough for a type, it makes one of its values of any value but null. -/
theorem yields_of_isConverted {type : DeclaredType} (converted : type.IsConverted)
    (stored : given.IsStored) (present : given ≠ .null) :
    Yields type.hint type.Admits (Hint.ofValue given) := by
  have different := ofValue_ne_null present
  induction type generalizing given with
  | scalar kind => exact kind.yields stored
  | list item nullable inductionHypothesis =>
    obtain ⟨takes, converted⟩ := converted
    refine yields_list (itemsConversionsOf_withNull nullable item []) different ?_
    refine ensures_itemsOf stored (yieldsPart_text item nullable) ?_
    rintro items rfl part member
    have inside := stored.of_mem_list part member
    exact yieldsPart_of_takesNull takes inside fun present =>
      inductionHypothesis converted inside present (ofValue_ne_null present)
  | set item nullable inductionHypothesis =>
    obtain ⟨takes, converted⟩ := converted
    refine yields_set (itemsConversionsOf_withNull nullable item []) different ?_
    refine ensures_itemsOf stored (yieldsPart_text item nullable) ?_
    rintro items rfl part member
    have inside := stored.of_mem_list part member
    exact yieldsPart_of_takesNull takes inside fun present =>
      inductionHypothesis converted inside present (ofValue_ne_null present)
  | map item nullable inductionHypothesis =>
    obtain ⟨takes, converted⟩ := converted
    refine yields_map (itemsConversionsOf_withNull nullable item []) different ?_
    obtain ⟨tree, rfl⟩ := stored
    cases tree with
    | object trees =>
      refine ensures_pure fun entry member => ?_
      obtain ⟨own, inside, rfl⟩ := exists_of_mem_ofEntries member
      obtain ⟨⟨s, text⟩, stored⟩ := Value.isStored_of_mem_ofEntries inside
      refine ⟨⟨s, congrArg Hint.ofValue text⟩, ?_⟩
      exact yieldsPart_of_takesNull takes stored fun present =>
        inductionHypothesis converted stored present (ofValue_ne_null present)
    | _ => exact ensures_throw trivial

/-! ### Checks -/

theorem exists_of_checkNumber (checked : checkNumber given = .ok made) : ∃ x, made = .float x := by
  have finite (x : Binary64)
      (passed : (if x.isFinite then .ok (.float x) else refuse Complaint.notFinite) = .ok made) :
      ∃ x, made = .float x := by
    split at passed
    · cases passed
      exact ⟨x, rfl⟩
    · cases passed
  cases given with
  | int n =>
    rw [checkNumber] at checked
    cases found : Binary64.ofInt? n with
    | some x => exact finite x (by rw [found] at checked; exact checked)
    | none => rw [found] at checked; cases checked
  | float x => exact finite x checked
  | text s =>
    rw [checkNumber] at checked
    cases found : Number.readBinary64? s with
    | some x => exact finite x (by rw [found] at checked; exact checked)
    | none => rw [found] at checked; cases checked
  | _ => cases checked

theorem checkNumber_of_checkValue (checked : checkValue .number given = .ok made) :
    checkNumber given = .ok made := by
  by_cases null : given = .null
  · subst null
    cases checked
  · rw [checkValue] at checked
    · exact checked
    · exact null

/-- What passes the check of a scalar is one. -/
theorem isStored_of_checkValue {kind : ScalarType} (checked : checkValue kind.rule given = .ok made) :
    made.IsStored := by
  cases kind with
  | text =>
    obtain ⟨s, rfl⟩ : StoredType.text.Admits made := StoredType.admits_of_checkValue checked
    exact ⟨.text s, rfl⟩
  | integer =>
    obtain ⟨n, rfl⟩ : StoredType.integer.Admits made := StoredType.admits_of_checkValue checked
    exact ⟨.int n, rfl⟩
  | number =>
    obtain ⟨x, rfl⟩ := exists_of_checkNumber (checkNumber_of_checkValue checked)
    exact ⟨.float x, rfl⟩
  | truth =>
    obtain ⟨b, rfl⟩ : StoredType.truth.Admits made := StoredType.admits_of_checkValue checked
    exact ⟨.bool b, rfl⟩

/-- What passes unchecked in place of a part that is declared with null is made one of its type. No
list passes so where a list is declared. -/
theorem yields_of_unchecked (enforced : item.IsEnforced) (passes : item.PassesUnchecked true)
    (stored : given.IsStored) (present : given ≠ .null)
    (apart : ∀ inner nullable items, item = list inner nullable → given ≠ .list items) :
    Yields item.hint item.Admits (Hint.ofValue given) := by
  cases item with
  | scalar kind => exact kind.yields stored
  | list inner nullable =>
    refine yields_list (itemsConversionsOf_withNull nullable inner []) (ofValue_ne_null present) ?_
    exact ensures_itemsOf stored (yieldsPart_text inner nullable) fun items list =>
      absurd list (apart inner nullable items rfl)
  | set inner nullable => exact yields_of_isConverted enforced stored present
  | map inner nullable => exact yields_of_isConverted (passes rfl) stored present

/-- A union that is declared with null, and with one other member, checks the values of its class, and
leaves anything else but a map as it is. -/
theorem checkValue_union_single {type : Hint} {rule : Rule} (present : given ≠ .null)
    (apart : ∀ entries, given ≠ .dict entries)
    (checked : checkValue (.union [(type, rule)]) given = .ok made) :
    checkValue rule given = .ok made ∨ made = given ∧ isInstance given type = .ok false := by
  rw [checkValue, checkMember] at checked
  · obtain ⟨holds, told, checked⟩ := exists_of_bind_eq_ok checked
    cases holds with
    | true => exact Or.inl checked
    | false =>
      cases checked
      exact Or.inr ⟨rfl, told⟩
  · exact present
  · exact apart

theorem isInstance_list (inner : DeclaredType) (nullable : Bool) (items : List Value) :
    isInstance (.list items) (list inner nullable).hint = .ok true := by
  have own : Hint.isInstance (Hint.ofValue (.list items)) StoredType.listClass = true :=
    ScalarType.stored_in_table.2.1
  have told : Hint.isInstanceOf "isinstance" (Hint.isInstance (Hint.ofValue (.list items)))
      (originOf (list inner nullable).hint) = pure true := congrArg pure own
  unfold isInstance
  dsimp only
  rw [told]
  rfl

/-- A part passes the check as null, as what its type makes a value of, or because the check of its type
does not apply. -/
theorem yieldsPart_of_checkValue (enforced : item.IsEnforced) (passes : item.PassesUnchecked nullable)
    (stored : given.IsStored)
    (yields : checkValue item.rule given = .ok made → Yields item.hint item.Admits (Hint.ofValue made))
    (checked : checkValue (partRule nullable item.hint item.rule) given = .ok made) :
    YieldsPart nullable item (Hint.ofValue made) := by
  cases nullable with
  | false => exact yields_withNull false (fun _ _ => yields checked) fun _ => yields checked
  | true =>
    refine yields_withNull true (by rintro ⟨⟩) fun different => ?_
    obtain ⟨-, rfl⟩ | ⟨null, checked⟩ :=
      checkValue_orNull_cases (.union [(item.hint, item.rule)]) checked
    · exact absurd rfl different
    · by_cases map : ∃ entries, given = .dict entries
      · obtain ⟨entries, rfl⟩ := map
        rw [checkValue, unionMap] at checked
        split at checked
        · cases checked
          exact absurd rfl different
        · cases checked
          refine yields_of_unchecked enforced passes stored null ?_
          rintro _ _ _ _ ⟨⟩
      · have apart : ∀ entries, given ≠ .dict entries := fun entries same => map ⟨entries, same⟩
        obtain checked | ⟨rfl, strange⟩ := checkValue_union_single null apart checked
        · exact yields checked
        · refine yields_of_unchecked enforced passes stored null ?_
          rintro inner nullable items rfl rfl
          rw [isInstance_list] at strange
          cases strange

/-- What passes the check of a type is converted to a value of the type, or the conversion fails. -/
theorem yields_of_checkValue {type : DeclaredType} (enforced : type.IsEnforced)
    (stored : given.IsStored) (checked : checkValue type.rule given = .ok made) :
    Yields type.hint type.Admits (Hint.ofValue made) := by
  induction type generalizing given made with
  | scalar kind => exact kind.yields (isStored_of_checkValue checked)
  | list item nullable inductionHypothesis =>
    obtain ⟨passes, enforced⟩ := enforced
    cases given with
    | list items =>
      rw [rule, checkValue] at checked
      obtain ⟨⟨values, complaints⟩, found, checked⟩ := exists_of_bind_eq_ok checked
      cases complaints with
      | cons first others => cases checked
      | nil =>
        cases checked
        refine yields_list (itemsConversionsOf_withNull nullable item []) (by rintro ⟨⟩) ?_
        refine ensures_pure fun part member => ?_
        obtain ⟨own, inside, rfl⟩ := mem_ofValues.mp member
        obtain ⟨before, among, passed⟩ := exists_of_checkItems found own inside
        have within := stored.of_mem_list before among
        exact yieldsPart_of_checkValue enforced passes within (inductionHypothesis enforced within) passed
    | _ => simp [rule, checkValue, refuse] at checked
  | set item nullable _ =>
    rw [rule] at checked
    by_cases null : given = .null
    · subst null
      cases checked
    · rw [checkValue] at checked
      · cases checked
        exact yields_of_isConverted enforced stored null
      · exact null
  | map item nullable inductionHypothesis =>
    obtain ⟨passes, enforced⟩ := enforced
    cases given with
    | dict entries =>
      rw [rule, checkValue] at checked
      obtain ⟨pairs, rfl, -, passed⟩ := exists_of_checkEntries checked
      refine yields_map (itemsConversionsOf_withNull nullable item []) (by rintro ⟨⟩) ?_
      rw [Hint.ofValue, StoredType.ofEntries_textEntries]
      refine ensures_pure fun entry member => ?_
      obtain ⟨pair, inside, rfl⟩ := List.mem_map.mp member
      obtain ⟨before, among, passed⟩ := passed pair inside
      rw [checkPart_some] at passed
      have within := (stored.of_mem_dict before among).2
      exact ⟨⟨pair.1, rfl⟩,
        yieldsPart_of_checkValue enforced passes within (inductionHypothesis enforced within) passed⟩
    | _ => simp [rule, checkValue, refuse] at checked

/-- No type has a value that is null, so that none passes its check. -/
theorem ne_null_of_checkValue {type : DeclaredType} (checked : checkValue type.rule given = .ok made) :
    made ≠ .null := by
  rintro rfl
  cases type with
  | scalar kind =>
    cases kind with
    | text => exact (StoredType.admits_of_checkValue checked : StoredType.text.Admits _).ne_null rfl
    | integer => exact (StoredType.admits_of_checkValue checked : StoredType.integer.Admits _).ne_null rfl
    | number =>
      obtain ⟨x, same⟩ := exists_of_checkNumber (checkNumber_of_checkValue checked)
      cases same
    | truth => exact (StoredType.admits_of_checkValue checked : StoredType.truth.Admits _).ne_null rfl
  | list item nullable =>
    cases given with
    | list items =>
      rw [rule, checkValue] at checked
      obtain ⟨_, -, checked⟩ := exists_of_bind_eq_ok checked
      obtain ⟨_, -, checked⟩ := exists_of_bind_eq_ok checked
      cases checked
    | _ => simp [rule, checkValue, refuse] at checked
  | set item nullable =>
    by_cases null : given = .null
    · subst null
      cases checked
    · rw [rule, checkValue] at checked
      · cases checked
        exact null rfl
      · exact null
  | map item nullable =>
    cases given with
    | dict entries =>
      rw [rule, checkValue] at checked
      obtain ⟨pairs, same, -⟩ := exists_of_checkEntries checked
      cases same
    | _ => simp [rule, checkValue, refuse] at checked

end DeclaredType

/-- What passes the check of a field is converted to a value that conforms to its declaration, or the
conversion fails. -/
theorem FieldDeclaration.ensures_convertField (field : FieldDeclaration) {given made : Value}
    (stored : given.IsStored) (checked : checkValue field.rule given = .ok made) :
    (SnapshotClass.convertField field.hint made).Ensures field.Admits fun _ => True := by
  obtain ⟨type, nullable, enforced⟩ := field
  have converts (present : made ≠ .null) (yields : Yields type.hint type.Admits (Hint.ofValue made)) :
      (SnapshotClass.convertField (DeclaredType.withNull nullable type.hint) made).Ensures
        (OrNull nullable type.Admits) fun _ => True := by
    have part : DeclaredType.YieldsPart nullable type (Hint.ofValue made) :=
      DeclaredType.yieldsPart_of_present (DeclaredType.ofValue_ne_null present) yields
    unfold SnapshotClass.convertField
    split
    · exact absurd rfl present
    · refine part.bind fun result own => ?_
      obtain ⟨v, rfl, admitted⟩ := own
      rw [Hint.toValue_ofValue]
      exact ensures_pure admitted
  cases nullable with
  | false =>
    exact converts (DeclaredType.ne_null_of_checkValue checked)
      (DeclaredType.yields_of_checkValue enforced stored checked)
  | true =>
    obtain ⟨-, rfl⟩ | ⟨-, checked⟩ := checkValue_orNull_cases type.rule checked
    · exact ensures_pure (Or.inl ⟨rfl, rfl⟩)
    · exact converts (DeclaredType.ne_null_of_checkValue checked)
        (DeclaredType.yields_of_checkValue enforced stored checked)

end StateContainer
