/-
This file proves that a conversion leaves the values of the types of persisted fields as they
are: scalars are instances of their classes already, and lists and maps are made anew from
their items.
-/

import StateContainer.Snapshot.Convert
import StateContainer.Snapshot.Decode
import StateContainer.Proofs.Except
import StateContainer.Proofs.Snapshot.StoredType

namespace StateContainer

open Snapshot

/-! ### Values as parts of annotations -/

namespace Hint

mutual

/-- A value is the value that it stands for. -/
theorem toValue_ofValue (given : Value) : toValue (ofValue given) = given := by
  cases given with
  | list items => exact congrArg Value.list (toValues_ofValues items)
  | tuple items => exact congrArg Value.tuple (toValues_ofValues items)
  | set items => exact congrArg Value.set (toValues_ofValues items)
  | dict entries => exact congrArg Value.dict (toEntries_ofEntries entries)
  | _ => rfl

theorem toValues_ofValues (items : List Value) : toValues (ofValues items) = items := by
  cases items with
  | nil => rfl
  | cons first others =>
    rw [ofValues, toValues, toValue_ofValue first, toValues_ofValues others]

theorem toEntries_ofEntries (entries : List (Value × Value)) :
    toEntries (ofEntries entries) = entries := by
  cases entries with
  | nil => rfl
  | cons first others =>
    rw [ofEntries, toEntries, toValue_ofValue first.1, toValue_ofValue first.2,
      toEntries_ofEntries others]

end

theorem ofValues_eq_map (items : List Value) : ofValues items = items.map ofValue := by
  induction items with
  | nil => rfl
  | cons first others inductionHypothesis =>
    rw [ofValues, inductionHypothesis, List.map_cons]

end Hint

/-! ### Conversions -/

namespace StoredType

/-- What conversions ask of the classes of scalars and of maps: none of the scalars is a
collection, and each has its own values. This is read off the table of classes all at once. -/
theorem classes_in_table :
    (isCollection textClass = false ∧ isCollection integerClass = false ∧
      isCollection truthClass = false) ∧
    (Hint.belongsTo listClass Hint.mappingClass = false ∧
      Hint.belongsTo mapClass Hint.mappingClass = true) ∧
    Hint.isInstance (.value (.text "")) textClass = true ∧
    Hint.isInstance (.value (.int 0)) integerClass = true ∧
    Hint.isInstance (.value (.bool true)) truthClass = true := by
  decide +kernel

theorem isCollection_textClass : isCollection textClass = false := classes_in_table.1.1
theorem isCollection_integerClass : isCollection integerClass = false := classes_in_table.1.2.1
theorem isCollection_truthClass : isCollection truthClass = false := classes_in_table.1.2.2
theorem isCollection_listClass : isCollection listClass = true := by decide
theorem isCollection_mapClass : isCollection mapClass = true := by decide
theorem belongsTo_listClass : Hint.belongsTo listClass Hint.mappingClass = false :=
  classes_in_table.2.1.1
theorem belongsTo_mapClass : Hint.belongsTo mapClass Hint.mappingClass = true :=
  classes_in_table.2.1.2
theorem listClass_ne_counter : listClass.qualifiedName ≠ "collections.Counter" := by decide
theorem listClass_ne_tuple : listClass.qualifiedName ≠ "builtins.tuple" := by decide
theorem mapClass_ne_counter : mapClass.qualifiedName ≠ "collections.Counter" := by decide

-- Which value of its class it is makes no difference to an instance.
theorem isInstance_text (s : String) : Hint.isInstance (.value (.text s)) textClass = true :=
  classes_in_table.2.2.1
theorem isInstance_int (n : Int) : Hint.isInstance (.value (.int n)) integerClass = true :=
  classes_in_table.2.2.2.1
theorem isInstance_bool (b : Bool) : Hint.isInstance (.value (.bool b)) truthClass = true :=
  classes_in_table.2.2.2.2

theorem collect_listClass (items : List Hint) : collect listClass items = pure (.list items) := by
  rfl

theorem callKeyType_text (s : String) :
    callKeyType (.classRef textClass) (.value (.text s)) = pure (.value (.text s)) := by
  rfl

/-- The entries of a map from texts as parts of an annotation. -/
def hintEntries (pairs : List (String × Value)) : List (Hint × Hint) :=
  pairs.map fun pair => (.value (.text pair.1), Hint.ofValue pair.2)

theorem ofEntries_textEntries (pairs : List (String × Value)) :
    Hint.ofEntries (Value.textEntries pairs) = hintEntries pairs := by
  induction pairs with
  | nil => rfl
  | cons pair others inductionHypothesis => exact congrArg _ inductionHypothesis

theorem any_hintEntries {made : List (String × Value)} {name : String}
    (new : name ∉ made.map (·.1)) :
    ((hintEntries made).any fun (present, _) => Hint.same present (.value (.text name))) = false := by
  rw [List.any_eq_false]
  intro entry member
  obtain ⟨pair, inside, rfl⟩ := List.mem_map.mp member
  have other : pair.1 ≠ name := by
    rintro rfl
    exact new (List.mem_map_of_mem inside)
  simpa [Hint.same, Value.same] using other

theorem insertEntry_hintEntries {made : List (String × Value)} {name : String}
    (new : name ∉ made.map (·.1)) (item : Hint) :
    Hint.insertEntry (hintEntries made) (.value (.text name)) item =
      hintEntries made ++ [(.value (.text name), item)] := by
  rw [Hint.insertEntry, any_hintEntries new]
  rfl

/-- Entries whose keys are texts that differ are made behind others as they are. -/
theorem foldlM_hintEntries (made : List (String × Value)) {pairs : List (String × Value)}
    (distinct : ((made ++ pairs).map (·.1)).Nodup) :
    (hintEntries pairs).foldlM (fun made (key, item) => do
        let key ← callKeyType (.classRef textClass) key
        Hint.checkKey key
        return Hint.insertEntry made key item) (hintEntries made) =
      (pure (hintEntries (made ++ pairs)) : Hint.Evaluation _) := by
  induction pairs generalizing made with
  | nil =>
    rw [List.append_nil]
    rfl
  | cons pair others inductionHypothesis =>
    have new : pair.1 ∉ made.map (·.1) := by
      rw [List.map_append, List.map_cons] at distinct
      exact fun member => (List.disjoint_of_nodup_append distinct) member List.mem_cons_self
    have placed : hintEntries made ++ [(.value (.text pair.1), Hint.ofValue pair.2)] =
        hintEntries (made ++ [pair]) := by
      rw [hintEntries, hintEntries, List.map_append]
      rfl
    have moved : made ++ pair :: others = made ++ [pair] ++ others := by simp
    have first : hintEntries (pair :: others) =
        (.value (.text pair.1), Hint.ofValue pair.2) :: hintEntries others := rfl
    have checked : Hint.checkKey (.value (.text pair.1)) = pure () := rfl
    rw [first, List.foldlM_cons]
    simp only [callKeyType_text, checked, pure_bind, insertEntry_hintEntries new, placed]
    rw [moved]
    exact inductionHypothesis _ (moved ▸ distinct)

theorem makeEntries_hintEntries {pairs : List (String × Value)}
    (distinct : (pairs.map (·.1)).Nodup) :
    makeEntries (.classRef textClass) (hintEntries pairs) = pure (hintEntries pairs) :=
  foldlM_hintEntries [] distinct

/-- Several types convert items one by one. -/
theorem itemsConversionsOf_hint (type : StoredType) (others : List Hint) :
    itemsConversionsOf (type.hint :: others) =
      (fun items => items.mapM (convert type.hint)) :: itemsConversionsOf others := by
  cases type <;> rfl

theorem toScalar_textClass (given : Hint) : toScalar textClass given = makeInstance textClass given :=
  rfl
theorem toScalar_integerClass (given : Hint) :
    toScalar integerClass given = makeInstance integerClass given := rfl
theorem toScalar_truthClass (given : Hint) :
    toScalar truthClass given = makeInstance truthClass given := rfl

/-- A class of no collections converts as a scalar. -/
theorem convert_classRef {id : Hint.ClassId} {given : Hint} (single : isCollection id = false) :
    convert (.classRef id) given = toScalar id given := by
  have unfolded : convert (.classRef id) given = convertWith (.classRef id) none [] [] given := by
    rw [convert]
    all_goals exact nofun
  rw [unfolded]
  unfold convertWith
  rw [show originOf (.classRef id) = .classRef id from rfl]
  split
  · next same =>
    cases same
    rw [single, Option.isSome_none, Bool.or_self, if_neg Bool.false_ne_true]
  · next same _ =>
    cases same
    rw [single, if_neg Bool.false_ne_true, Option.isNone_none, if_pos rfl]
  · next other _ => exact absurd rfl (other id)

theorem convert_text (s : String) :
    convert (.classRef textClass) (.value (.text s)) = pure (.value (.text s)) := by
  rw [convert_classRef isCollection_textClass, toScalar_textClass, makeInstance,
    if_pos (isInstance_text s)]

/-- A collection is converted by its class. -/
theorem convertWith_of_isCollection {type : Hint} {id : Hint.ClassId}
    (origin : originOf type = .classRef id) (collection : isCollection id = true)
    {arguments : Option (List Hint)} {single : List (Hint → Hint.Evaluation Hint)}
    {conversions : List ItemsConversion} {given : Hint} (present : given ≠ .value .null) :
    convertWith type arguments single conversions given =
      convertCollection id arguments single conversions given := by
  unfold convertWith
  rw [origin]
  split
  · exact absurd rfl present
  · next equal _ =>
    cases equal
    exact if_pos collection
  · next _ differs _ => exact absurd rfl (differs id)

/-- A value of a type is converted to itself. -/
theorem convert_of_admits {type : StoredType} {given : Value} (admitted : type.Admits given) :
    convert type.hint (Hint.ofValue given) = pure (Hint.ofValue given) := by
  induction type generalizing given with
  | text =>
    obtain ⟨s, rfl⟩ := admitted
    exact convert_text s
  | integer =>
    obtain ⟨n, rfl⟩ := admitted
    show convert (.classRef integerClass) (.value (.int n)) = _
    rw [convert_classRef isCollection_integerClass, toScalar_integerClass, makeInstance,
      if_pos (isInstance_int n)]
    rfl
  | truth =>
    obtain ⟨b, rfl⟩ := admitted
    show convert (.classRef truthClass) (.value (.bool b)) = _
    rw [convert_classRef isCollection_truthClass, toScalar_truthClass, makeInstance,
      if_pos (isInstance_bool b)]
    rfl
  | list item inductionHypothesis =>
    obtain ⟨items, rfl, admitted⟩ := admitted
    have parts : (Hint.ofValues items).mapM (convert item.hint) = pure (Hint.ofValues items) := by
      rw [Hint.ofValues_eq_map]
      refine mapM_eq_pure_of_fixed fun part member => ?_
      obtain ⟨given, inside, rfl⟩ := List.mem_map.mp member
      exact inductionHypothesis (admitted given inside)
    show convert (.applied .plain listClass [item.hint]) (.list (Hint.ofValues items)) = _
    rw [convert, itemsConversionsOf_hint, convertWith_of_isCollection rfl isCollection_listClass,
      convertCollection, if_neg listClass_ne_counter, belongsTo_listClass]
    · rw [if_neg Bool.false_ne_true, if_neg listClass_ne_tuple]
      show (Hint.ofValues items).mapM (convert item.hint) >>= collect listClass = _
      rw [parts, pure_bind, collect_listClass]
      rfl
    · exact nofun
  | map item inductionHypothesis =>
    obtain ⟨pairs, rfl, distinct, admitted⟩ := admitted
    have keys : ((hintEntries pairs).map (·.1)).mapM (convert (hint text)) =
        pure ((hintEntries pairs).map (·.1)) := by
      refine mapM_eq_pure_of_fixed fun key member => ?_
      obtain ⟨entry, inside, rfl⟩ := List.mem_map.mp member
      obtain ⟨pair, _, rfl⟩ := List.mem_map.mp inside
      exact convert_text pair.1
    have parts : ((hintEntries pairs).map (·.2)).mapM (convert item.hint) =
        pure ((hintEntries pairs).map (·.2)) := by
      refine mapM_eq_pure_of_fixed fun part member => ?_
      obtain ⟨entry, inside, rfl⟩ := List.mem_map.mp member
      obtain ⟨pair, stored, rfl⟩ := List.mem_map.mp inside
      exact inductionHypothesis (admitted pair stored)
    have entries : ((hintEntries pairs).map (·.1)).zip ((hintEntries pairs).map (·.2)) =
        hintEntries pairs := by
      rw [List.zip_map']
      exact List.map_id _
    show convert (.applied .plain mapClass [hint text, item.hint])
      (.dict (Hint.ofEntries (Value.textEntries pairs))) = _
    rw [convert, itemsConversionsOf_hint, itemsConversionsOf_hint,
      convertWith_of_isCollection rfl isCollection_mapClass, convertCollection,
      if_neg mapClass_ne_counter, belongsTo_mapClass, if_pos rfl, ofEntries_textEntries]
    · show (do
        let keys ← ((hintEntries pairs).map Prod.fst).mapM (convert (hint text))
        let items ← ((hintEntries pairs).map Prod.snd).mapM (convert item.hint)
        collectEntries mapClass (hint text) (keys.zip items)) = _
      rw [keys, pure_bind, parts, pure_bind, entries]
      show (do return Hint.dict (← makeEntries (.classRef textClass) (hintEntries pairs))) = _
      rw [makeEntries_hintEntries distinct, pure_bind, Hint.ofValue, ofEntries_textEntries]
    · exact nofun

end StoredType

/-- An annotation with null and one other argument converts what is not null by that argument. -/
theorem Snapshot.convert_orNull (bars : Bool) {type given : Hint} (present : given ≠ .value .null) :
    convert (.union bars [type, Hint.nullType]) given = convert type given := by
  have null : admitsNull (Hint.union bars [type, Hint.nullType]) = true := by
    have last : Hint.nullType.isNullType = true := by decide +kernel
    simp [admitsNull, argumentsOf, Hint.argumentsOf?, last]
  have unfolded : convert (.union bars [type, Hint.nullType]) given =
      convertOptional (.union bars [type, Hint.nullType])
        (conversionsOf [type, Hint.nullType]) given := by
    rw [convert]
    cases bars <;> rfl
  rw [unfolded, conversionsOf, conversionsOf, conversionsOf, convertOptional]
  · exact present
  · exact null

/-- A value of the type of a field is converted to itself. -/
theorem FieldType.convertField_of_admits {field : FieldType} {given : Value}
    (admitted : field.Admits given) :
    SnapshotClass.convertField field.hint given = pure given := by
  obtain ⟨type, nullable⟩ := field
  rcases admitted with ⟨_, rfl⟩ | admitted
  · rfl
  · have converted := StoredType.convert_of_admits admitted
    have present : Hint.ofValue given ≠ .value .null := by
      intro null
      have same := congrArg Hint.toValue null
      rw [Hint.toValue_ofValue] at same
      exact admitted.ne_null same
    have field : convert (FieldType.mk type nullable).hint (Hint.ofValue given) =
        pure (Hint.ofValue given) := by
      cases nullable with
      | false => exact converted
      | true => exact (convert_orNull true present).trans converted
    unfold SnapshotClass.convertField
    split
    · exact absurd rfl admitted.ne_null
    · rw [field, pure_bind, Hint.toValue_ofValue]

end StateContainer
