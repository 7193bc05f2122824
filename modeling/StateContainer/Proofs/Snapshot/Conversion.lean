/-
This file says how the conversion of data by a plain type can fail.

Whatever the data is, a conversion ends with data or with a fault, and the fault is one that
counts as a fault of the stored text, or that a number is too large for the class that it has
to be of. How collections are converted is said for any kind of faults, given how their parts
are.
-/

import StateContainer.Proofs.Snapshot.Convert
import StateContainer.Proofs.Snapshot.Types

namespace StateContainer

open Hint (Evaluation Fault IsData)
open Hint.Evaluation

/-- Whether a fault counts as one of the stored text, or is an overflow. -/
def Hint.Fault.IsUsual (fault : Fault) : Prop :=
  fault.IsTaken ∨ fault.IsOverflow

namespace Hint

/-! ### Scalars -/

theorem ensures_integerOfText (text literal : String) {result : Int → Prop} (any : ∀ n, result n) :
    (integerOfText text literal).Ensures result Fault.IsTaken := by
  rw [integerOfText]
  split
  · exact ensures_pure (any _)
  · exact ensures_throw (Fault.isTaken_invalid _)
  · exact ensures_throw (Fault.isTaken_invalid _)

/-- Making an integer fails for the stored text, or since the number is infinite. -/
theorem ensures_toInteger (given : Hint) :
    (toInteger given).Ensures (fun _ => True) Fault.IsUsual := by
  unfold toInteger
  split
  · exact (ensures_integerOfText _ _ fun _ => trivial).weaken (fun _ => id) fun _ => Or.inl
  · exact ensures_throw (Or.inl (Fault.isTaken_invalid _))
  · split
    · exact ensures_pure trivial
    · split
      · exact ensures_throw (Or.inl (Fault.isTaken_invalid _))
      · exact ensures_throw (Or.inr ⟨_, rfl⟩)
  · split
    · exact ensures_pure trivial
    · exact ensures_throw (Or.inl (Fault.isTaken_misuse _))

theorem ensures_realOf (n : Int) : (realOf n).Ensures (fun _ => True) Fault.IsUsual := by
  rw [realOf]
  split
  · exact ensures_pure trivial
  · exact ensures_throw (Or.inr ⟨_, rfl⟩)

/-- Making a floating-point number fails for the stored text, or since an integer is too large. -/
theorem ensures_makeReal (given : Hint) :
    (makeReal { positional := [given] }).Ensures IsData Fault.IsUsual := by
  have only : atMostOne "float" { positional := [given] } = pure (some given) := rfl
  rw [makeReal, only, pure_bind]
  dsimp only
  split
  · split
    · exact ensures_pure (.value _)
    · exact ensures_throw (Or.inl (Fault.isTaken_invalid _))
  · exact ensures_pure (.value _)
  · exact (ensures_realOf _).bind fun _ _ => ensures_pure (.value _)
  · exact ensures_throw (Or.inl (Fault.isTaken_misuse _))

theorem ensures_shownText (given : Hint) :
    (shownText given).Ensures (fun _ => True) Fault.IsTaken := by
  unfold shownText
  split
  · exact ensures_pure trivial
  · rw [representation]
    split
    · exact ensures_throw (Fault.isTaken_invalid _)
    · exact ensures_pure trivial

end Hint

namespace Snapshot

open Hint (construct)

/-- Making a scalar gives data. -/
theorem ensures_construct_scalar {id : Hint.ClassId} (known : id ∈ scalarClasses) (given : Hint) :
    (construct "builtins" id { positional := [given] }).Ensures IsData Fault.IsUsual := by
  rcases mem_scalarClasses.mp known with rfl | rfl | rfl | rfl
  · show (do return Hint.text (← Hint.shownText given)).Ensures _ _
    exact ((Hint.ensures_shownText given).bind fun _ _ => ensures_pure (.value _)).weaken
      (fun _ => id) fun _ => Or.inl
  · show (do return Hint.int (← Hint.toInteger given)).Ensures _ _
    exact (Hint.ensures_toInteger given).bind fun _ _ => ensures_pure (.value _)
  · exact Hint.ensures_makeReal given
  · exact ensures_pure (.value _)

theorem ensures_checkKey (key : Hint) : (Hint.checkKey key).Ensures (fun _ => True) Fault.IsTaken := by
  rw [Hint.checkKey]
  split
  · exact ensures_throw (Fault.isTaken_misuse _)
  · exact ensures_pure trivial

/-- An entry of a map from a pair of data is data, or there is no such pair. -/
theorem ensures_entryOf {place : Nat} {given : Hint} (data : IsData given) :
    (Hint.entryOf place given).Ensures (fun entry => IsData entry.1 ∧ IsData entry.2)
      Fault.IsTaken := by
  unfold Hint.entryOf
  refine (Hint.ensures_itemsOf data).bind fun items each => ?_
  split
  · next key item =>
    obtain ⟨own, bound⟩ := List.forall_mem_cons.mp each
    exact (ensures_checkKey key).bind fun _ _ =>
      ensures_pure ⟨own, bound item List.mem_cons_self⟩
  · exact ensures_throw (Fault.isTaken_invalid _)

/-- Entries that are data make a map that is. -/
theorem isData_dict_of_entries {entries : List (Hint × Hint)}
    (each : ∀ entry ∈ entries, IsData entry.1 ∧ IsData entry.2) :
    IsData (.dict ((entries ++ []).foldl (fun made (key, item) => Hint.insertEntry made key item) [])) := by
  rw [List.append_nil]
  exact Hint.isData_foldl_insertEntry each (.dict (List.forall_mem_nil _) (List.forall_mem_nil _))

/-- Making a map of data gives data, or it is refused. -/
theorem ensures_makeMap {given : Hint} (data : IsData given) :
    (Hint.makeMap { positional := [given] }).Ensures IsData Fault.IsTaken := by
  unfold Hint.makeMap
  split
  · next none => cases none
  · next entries only =>
    cases only
    cases data with
    | dict keys items =>
      exact ensures_pure (isData_dict_of_entries fun entry member => ⟨keys entry member, items entry member⟩)
  · next item _ only =>
    cases only
    refine (Hint.ensures_itemsOf data).bind fun items each => ?_
    refine Ensures.bind (ensures_mapM fun item member => ?_) fun entries each =>
      ensures_pure (isData_dict_of_entries each)
    exact ensures_entryOf (each _ (List.fst_mem_of_mem_zipIdx member))
  · next several => exact absurd rfl (several _)

/-- Making a list or a map of data gives data, or it is refused. -/
theorem ensures_construct_collection {id : Hint.ClassId}
    (known : id = StoredType.listClass ∨ id = StoredType.mapClass) {given : Hint}
    (data : IsData given) :
    (construct "builtins" id { positional := [given] }).Ensures IsData Fault.IsTaken := by
  rcases known with rfl | rfl
  · show (do return Hint.list (← Hint.itemsOf .notIterated given)).Ensures _ _
    exact (Hint.ensures_itemsOf data).bind fun _ each => ensures_pure (.list each)
  · exact ensures_makeMap data

/-! ### Keys of maps -/

/-- What the type of keys makes of a key is data. It fails as the class does that the type stands
for, which matters for scalars only. -/
theorem ensures_callKeyType {united : Prop} {type key : Hint} {fault : Fault → Prop}
    (taken : ∀ cause : Fault, cause.IsTaken → fault cause) (plain : IsPlain united type)
    (data : IsData key)
    (scalar : ∀ id ∈ scalarClasses, type = .classRef id →
      (construct "builtins" id { positional := [key] }).Ensures IsData fault) :
    (callKeyType type key).Ensures IsData fault := by
  have collection {id : Hint.ClassId} (known : id = StoredType.listClass ∨ id = StoredType.mapClass) :
      (construct "builtins" id { positional := [key] }).Ensures IsData fault :=
    (ensures_construct_collection known data).weaken (fun _ made => made) taken
  have tuple : (do return Hint.tuple (← Hint.itemsOf .notIterated key)).Ensures IsData fault :=
    ((Hint.ensures_itemsOf data).bind fun _ each => ensures_pure (.tuple each)).weaken
      (fun _ => id) taken
  have refused (cause : Hint.Misuse) : (Hint.misused cause : Evaluation Hint).Ensures IsData fault :=
    ensures_throw (taken _ (Fault.isTaken_misuse cause))
  -- A name of the typing vocabulary is not called.
  have named {id : Hint.ClassId} (known : id = StoredType.listClass ∨ id = StoredType.mapClass)
      (name : String) (items : List Hint) :
      (Hint.callKnown Hint.commonScope "builtins" (fun _ _ => return .null)
        (.applied (.typing name) id items) { positional := [key] }).Ensures IsData fault := by
    unfold Hint.callKnown
    dsimp only
    split
    · exact refused _
    · exact collection known
  cases plain with
  | @scalar id known =>
    have calls : callKeyType (.classRef id) key = construct "builtins" id { positional := [key] } := by
      rcases mem_scalarClasses.mp known with rfl | rfl | rfl | rfl <;> rfl
    rw [calls]
    exact scalar id known rfl
  | bare known =>
    rcases mem_collectionClasses.mp known with rfl | rfl | rfl
    · exact collection (Or.inl rfl)
    · exact collection (Or.inr rfl)
    · exact tuple
  | @list spelling item =>
    cases spelling with
    | plain => exact collection (Or.inl rfl)
    | typing name => exact named (Or.inl rfl) name [item]
    | declared => exact collection (Or.inl rfl)
  | @map spelling keys items =>
    cases spelling with
    | plain => exact collection (Or.inr rfl)
    | typing name => exact named (Or.inr rfl) name [keys, items]
    | declared => exact collection (Or.inr rfl)
  | series spelling => exact tuple
  | tuple spelling => exact tuple
  | union bars =>
    cases bars with
    | false => exact refused _
    | true => exact refused _

/-! ### Collections -/

section
variable {united : Prop} {fault : Fault → Prop} {type item given : Hint}

/-- A plain type converts several items one by one. -/
theorem itemsConversionsOf_cons (plain : IsPlain united type) (others : List Hint) :
    itemsConversionsOf (type :: others) =
      (fun items => items.mapM (convert type)) :: itemsConversionsOf others := by
  cases plain <;> rfl

theorem conversionsOf_eq_map (types : List Hint) : conversionsOf types = types.map convert := by
  induction types with
  | nil => rfl
  | cons first others inductionHypothesis =>
    rw [conversionsOf, inductionHypothesis, List.map_cons]

/-- Null is left alone by a collection. -/
theorem ensures_convertWith {id : Hint.ClassId} (origin : originOf type = .classRef id)
    (collection : isCollection id = true) {arguments : Option (List Hint)}
    {single : List (Hint → Evaluation Hint)} {conversions : List ItemsConversion}
    (present : given ≠ .value .null →
      (convertCollection id arguments single conversions given).Ensures IsData fault) :
    (convertWith type arguments single conversions given).Ensures IsData fault := by
  by_cases null : given = .value .null
  · subst null
    unfold convertWith
    rw [origin]
    dsimp only
    rw [collection, Bool.true_or, if_pos rfl]
    exact ensures_pure (.value _)
  · rw [StoredType.convertWith_of_isCollection origin collection null]
    exact present null

/-- What conversions ask of the class of tuples, and of those of numbers and of null. This is
read off the table of classes all at once. -/
theorem others_in_table :
    Hint.belongsTo tupleClass Hint.mappingClass = false ∧ isCollection numberClass = false ∧
      isCollection Hint.nullClass = false ∧
      Hint.isInstance (.value (.float ⟨0⟩)) numberClass = true := by
  decide +kernel

theorem isCollection_tupleClass : isCollection tupleClass = true := by decide
theorem belongsTo_tupleClass : Hint.belongsTo tupleClass Hint.mappingClass = false :=
  others_in_table.1
theorem tupleClass_ne_counter : tupleClass.qualifiedName ≠ "collections.Counter" := by decide
theorem qualifiedName_tupleClass : tupleClass.qualifiedName = "builtins.tuple" := by decide

/-- A tuple is converted by the types of its items. -/
theorem convertCollection_tupleClass (arguments : Option (List Hint))
    (single : List (Hint → Evaluation Hint)) (conversions : List ItemsConversion) :
    convertCollection tupleClass arguments single conversions given =
      convertTuple arguments single (conversionAt conversions 0) given := by
  rw [convertCollection, if_neg tupleClass_ne_counter, belongsTo_tupleClass,
    if_neg Bool.false_ne_true, if_pos qualifiedName_tupleClass]

/-- A list is made of the converted items of what is gone through. -/
theorem ensures_convert_list (spelling : Hint.Spelling) (plain : IsPlain united item)
    (parts : given ≠ .value .null → (Hint.itemsOf .notIterated given).Ensures
      (fun items => ∀ part ∈ items, (convert item part).Ensures IsData fault) fault) :
    (convert (.applied spelling StoredType.listClass [item]) given).Ensures IsData fault := by
  rw [convert, itemsConversionsOf_cons plain]
  refine ensures_convertWith rfl StoredType.isCollection_listClass fun present => ?_
  rw [convertCollection, if_neg StoredType.listClass_ne_counter, StoredType.belongsTo_listClass,
    if_neg Bool.false_ne_true, if_neg StoredType.listClass_ne_tuple]
  exact (parts present).bind fun _ each =>
    (ensures_mapM each).bind fun _ made => ensures_pure (.list made)

/-- A tuple of any length is made likewise. -/
theorem ensures_convert_series (spelling : Hint.Spelling) (plain : IsPlain united item)
    (parts : given ≠ .value .null → (Hint.itemsOf .notIterated given).Ensures
      (fun items => ∀ part ∈ items, (convert item part).Ensures IsData fault) fault) :
    (convert (.applied spelling tupleClass [item, .ellipsis]) given).Ensures IsData fault := by
  rw [convert, itemsConversionsOf_cons plain]
  refine ensures_convertWith rfl isCollection_tupleClass fun present => ?_
  rw [convertCollection_tupleClass, convertTuple]
  have open' : List.any [item, .ellipsis] Hint.isEllipsis = true := by
    simp [Hint.isEllipsis]
  rw [open', if_pos rfl]
  exact (parts present).bind fun _ each =>
    (ensures_mapM each).bind fun _ made => ensures_pure (.tuple made)

theorem isEllipsis_eq_false (plain : IsPlain united type) : type.isEllipsis = false := by
  cases plain <;> rfl

/-- Items are converted by a type each, of which there have to be as many. -/
theorem ensures_convertEach (taken : ∀ cause : Fault, cause.IsTaken → fault cause)
    {types items : List Hint}
    (each : ∀ pair ∈ types.zip items, (convert pair.1 pair.2).Ensures IsData fault) :
    (convertEach types (conversionsOf types) items).Ensures (fun made => ∀ part ∈ made, IsData part)
      fault := by
  rw [convertEach, conversionsOf_eq_map]
  split
  · refine ensures_mapM fun pair member => ?_
    rw [List.zip_map_left] at member
    obtain ⟨own, inside, rfl⟩ := List.mem_map.mp member
    exact each own inside
  · rw [Hint.representation]
    split
    · exact ensures_throw (taken _ (Fault.isTaken_invalid _))
    · exact ensures_throw (taken _ (Fault.isTaken_misuse _))

/-- A tuple is made of the converted items of what is gone through and has a length. -/
theorem ensures_convert_tuple (taken : ∀ cause : Fault, cause.IsTaken → fault cause)
    (spelling : Hint.Spelling) {types : List Hint} (plain : ∀ type ∈ types, IsPlain united type)
    (parts : given ≠ .value .null → (Hint.itemsOf .notIterated given).Ensures
      (fun items => ∀ pair ∈ types.zip items, (convert pair.1 pair.2).Ensures IsData fault) fault) :
    (convert (.applied spelling tupleClass types) given).Ensures IsData fault := by
  rw [convert]
  refine ensures_convertWith rfl isCollection_tupleClass fun present => ?_
  rw [convertCollection_tupleClass, convertTuple]
  have closed : types.any Hint.isEllipsis = false := by
    rw [List.any_eq_false]
    intro type member
    rw [isEllipsis_eq_false (plain type member)]
    exact Bool.false_ne_true
  rw [closed, if_neg Bool.false_ne_true]
  have length : (Hint.lengthOf given).Ensures (fun _ => True) fault := by
    unfold Hint.lengthOf
    split
    all_goals first
      | exact ensures_pure trivial
      | exact ensures_throw (taken _ (Fault.isTaken_misuse _))
  exact length.bind fun _ _ => (parts present).bind fun _ each =>
    (ensures_convertEach taken each).bind fun _ made => ensures_pure (.tuple made)

/-- Entries are made of keys that the type of keys is called with. -/
theorem ensures_makeEntries (taken : ∀ cause : Fault, cause.IsTaken → fault cause) {keyType : Hint}
    {pairs : List (Hint × Hint)}
    (each : ∀ pair ∈ pairs, (callKeyType keyType pair.1).Ensures IsData fault ∧ IsData pair.2) :
    (makeEntries keyType pairs).Ensures (fun made => IsData (.dict made)) fault := by
  refine ensures_foldlM (.dict (List.forall_mem_nil _) (List.forall_mem_nil _))
    fun made data pair member => ?_
  obtain ⟨calls, bound⟩ := each pair member
  refine calls.bind fun key own => ?_
  exact ((ensures_checkKey key).weaken (fun _ => id) taken).bind fun _ _ =>
    ensures_pure (Hint.isData_insertEntry data own bound)

/-- A map is made of converted keys, which the type of keys is called with, and converted items. -/
theorem ensures_convert_map (taken : ∀ cause : Fault, cause.IsTaken → fault cause)
    (spelling : Hint.Spelling) {key : Hint} (plainKey : IsPlain united key)
    (plainItem : IsPlain united item)
    (parts : given ≠ .value .null → (entriesOf given).Ensures (fun entries => ∀ entry ∈ entries,
      (convert key entry.1).Ensures (fun made => (callKeyType key made).Ensures IsData fault) fault ∧
      (convert item entry.2).Ensures IsData fault) fault) :
    (convert (.applied spelling StoredType.mapClass [key, item]) given).Ensures IsData fault := by
  rw [convert, itemsConversionsOf_cons plainKey, itemsConversionsOf_cons plainItem]
  refine ensures_convertWith rfl StoredType.isCollection_mapClass fun present => ?_
  rw [convertCollection, if_neg StoredType.mapClass_ne_counter, StoredType.belongsTo_mapClass,
    if_pos rfl]
  refine (parts present).bind fun entries each => ?_
  have keys : ((entries.map (·.1)).mapM (convert key)).Ensures
      (fun made => ∀ part ∈ made, (callKeyType key part).Ensures IsData fault) fault := by
    refine ensures_mapM fun part member => ?_
    obtain ⟨entry, inside, rfl⟩ := List.mem_map.mp member
    exact (each entry inside).1
  have items : ((entries.map (·.2)).mapM (convert item)).Ensures
      (fun made => ∀ part ∈ made, IsData part) fault := by
    refine ensures_mapM fun part member => ?_
    obtain ⟨entry, inside, rfl⟩ := List.mem_map.mp member
    exact (each entry inside).2
  refine keys.bind fun keys own => items.bind fun items bound => ?_
  have made : (makeEntries key (keys.zip items)).Ensures (fun made => IsData (.dict made)) fault :=
    ensures_makeEntries taken fun pair member =>
      ⟨own _ (List.of_mem_zip member).1, bound _ (List.of_mem_zip member).2⟩
  exact made.bind fun _ data => ensures_pure data

end

/-! ### Conversions of data -/

section
variable {fault : Fault → Prop} {given : Hint}

theorem isCollection_numberClass : isCollection numberClass = false := others_in_table.2.1

/-- A scalar is left alone if it is one already. -/
theorem ensures_convert_scalar {id : Hint.ClassId} (known : id ∈ scalarClasses) (data : IsData given)
    (makes : Hint.isInstance given id = false →
      (construct "builtins" id { positional := [given] }).Ensures IsData fault) :
    (convert (.classRef id) given).Ensures IsData fault := by
  have scalar : isCollection id = false ∧ toScalar id given = makeInstance id given := by
    rcases mem_scalarClasses.mp known with rfl | rfl | rfl | rfl
    · exact ⟨StoredType.isCollection_textClass, rfl⟩
    · exact ⟨StoredType.isCollection_integerClass, rfl⟩
    · exact ⟨isCollection_numberClass, rfl⟩
    · exact ⟨StoredType.isCollection_truthClass, rfl⟩
  rw [StoredType.convert_classRef scalar.1, scalar.2, makeInstance]
  split
  · exact ensures_pure data
  · next strange => exact makes (Bool.eq_false_iff.mpr strange)

/-- The keys and the items of a map are data. -/
theorem ensures_entriesOf (data : IsData given) :
    (entriesOf given).Ensures (fun entries => ∀ entry ∈ entries, IsData entry.1 ∧ IsData entry.2)
      Fault.IsTaken := by
  cases data with
  | dict keys items => exact ensures_pure fun entry member => ⟨keys entry member, items entry member⟩
  | _ => exact ensures_throw (Fault.isTaken_unknownAttribute _ _)

/-- A collection of whatever there is takes any data, or refuses it. -/
theorem ensures_convert_bare {id : Hint.ClassId} (known : id ∈ collectionClasses)
    (data : IsData given) : (convert (.classRef id) given).Ensures IsData Fault.IsTaken := by
  have unfolded : convert (.classRef id) given = convertWith (.classRef id) none [] [] given := by
    rw [convert]
    all_goals simp
  rw [unfolded]
  rcases mem_collectionClasses.mp known with rfl | rfl | rfl
  · refine ensures_convertWith rfl StoredType.isCollection_listClass fun _ => ?_
    rw [convertCollection, if_neg StoredType.listClass_ne_counter, StoredType.belongsTo_listClass,
      if_neg Bool.false_ne_true, if_neg StoredType.listClass_ne_tuple]
    exact (Hint.ensures_itemsOf data).bind fun _ each => ensures_pure (.list each)
  · refine ensures_convertWith rfl StoredType.isCollection_mapClass fun _ => ?_
    rw [convertCollection, if_neg StoredType.mapClass_ne_counter, StoredType.belongsTo_mapClass,
      if_pos rfl]
    refine (ensures_entriesOf data).bind fun entries each => ?_
    have made : (makeEntries (.classRef Hint.anyClass)
        ((entries.map (·.1)).zip (entries.map (·.2)))).Ensures (fun made => IsData (.dict made))
        Fault.IsTaken :=
      ensures_makeEntries (fun _ => id) fun pair member => by
        obtain ⟨key, bound⟩ := List.of_mem_zip member
        obtain ⟨entry, inside, own⟩ := List.mem_map.mp key
        obtain ⟨other, inside', same⟩ := List.mem_map.mp bound
        exact ⟨ensures_pure (own ▸ (each entry inside).1), same ▸ (each other inside').2⟩
    exact made.bind fun _ data => ensures_pure data
  · refine ensures_convertWith rfl isCollection_tupleClass fun _ => ?_
    rw [convertCollection_tupleClass]
    exact (Hint.ensures_itemsOf data).bind fun _ each => ensures_pure (.tuple each)

/-- The null type leaves everything alone. -/
theorem convert_nullType : convert Hint.nullType given = pure given :=
  StoredType.convert_classRef others_in_table.2.2.1

/-- A union of null and another type leaves null alone, and converts anything else by its first
member. Any other union leaves everything alone. -/
theorem ensures_convert_union (bars : Bool) {members : List Hint} (data : IsData given)
    (first : admitsNull (.union bars members) = true → ∀ member other, members = [member, other] →
      (convert member given).Ensures IsData fault) :
    (convert (.union bars members) given).Ensures IsData fault := by
  have unfolded : convert (.union bars members) given =
      convertOptional (.union bars members) (conversionsOf members) given := by
    rw [convert]
    cases bars <;> rfl
  rw [unfolded, conversionsOf_eq_map]
  unfold convertOptional
  split
  · exact ensures_pure data
  · next null pair =>
    obtain ⟨member, others, rfl, rfl, single⟩ := List.map_eq_cons_iff.mp pair
    obtain ⟨last, none, rfl, rfl, nothing⟩ := List.map_eq_cons_iff.mp single
    cases List.map_eq_nil_iff.mp nothing
    exact first null member last rfl
  · exact ensures_pure data

end

/-- Whatever the data is, converting it by a plain type gives data, or fails for the stored text or
with an overflow. -/
theorem ensures_convert {type given : Hint} (plain : IsPlain True type) (data : IsData given) :
    (convert type given).Ensures IsData Fault.IsUsual := by
  have taken : ∀ cause : Fault, cause.IsTaken → cause.IsUsual := fun _ => Or.inl
  induction plain generalizing given with
  | scalar known =>
    exact ensures_convert_scalar known data fun _ => ensures_construct_scalar known given
  | bare known => exact (ensures_convert_bare known data).weaken (fun _ => id) taken
  | list spelling plain inductionHypothesis =>
    refine ensures_convert_list spelling plain fun _ => ?_
    exact (Hint.ensures_itemsOf data).weaken
      (fun _ each part member => inductionHypothesis (each part member)) taken
  | map spelling plainKey plainItem keyHypothesis itemHypothesis =>
    refine ensures_convert_map taken spelling plainKey plainItem fun _ => ?_
    refine (ensures_entriesOf data).weaken (fun _ each entry member => ⟨?_, ?_⟩) taken
    · exact (keyHypothesis (each entry member).1).weaken
        (fun key own => ensures_callKeyType taken plainKey own fun id known _ =>
          ensures_construct_scalar known key) fun _ => id
    · exact itemHypothesis (each entry member).2
  | series spelling plain inductionHypothesis =>
    refine ensures_convert_series spelling plain fun _ => ?_
    exact (Hint.ensures_itemsOf data).weaken
      (fun _ each part member => inductionHypothesis (each part member)) taken
  | tuple spelling plain inductionHypothesis =>
    refine ensures_convert_tuple taken spelling plain fun _ => ?_
    refine (Hint.ensures_itemsOf data).weaken (fun _ each pair member => ?_) taken
    obtain ⟨type, part⟩ := List.of_mem_zip member
    exact inductionHypothesis _ type (each _ part)
  | union bars may some plain inductionHypothesis =>
    refine ensures_convert_union bars data fun _ member other same => ?_
    subst same
    by_cases null : member = Hint.nullType
    · rw [null, convert_nullType]
      exact ensures_pure data
    · exact inductionHypothesis member List.mem_cons_self null data

end Snapshot

end StateContainer
