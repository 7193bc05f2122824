/-
This file says which values the conversion by an annotation makes.

A conversion by a class of scalars makes a value of the class, whatever it is given. A list and a
set are made of the converted items of what is gone through, and a map of converted texts and
converted values. Nothing is said about how a conversion fails.
-/

import StateContainer.Proofs.Snapshot.Check
import StateContainer.Proofs.Snapshot.Conversion
import StateContainer.Proofs.Snapshot.Types
import StateContainer.Value.SetOrder

namespace StateContainer

open Snapshot
open Hint (Evaluation construct)
open Hint.Evaluation

/-! ### Stored values -/

namespace Value

/-- Whether a value was read from a stored text. -/
def IsStored (given : Value) : Prop :=
  ∃ tree, given = ofJson tree

theorem isStored_text (s : String) : IsStored (text s) := ⟨.text s, rfl⟩

theorem isStored_of_mem_ofItems {trees : List Json} {item : Value} (member : item ∈ ofItems trees) :
    IsStored item := by
  induction trees with
  | nil => cases member
  | cons first others inductionHypothesis =>
    rcases List.mem_cons.mp member with rfl | later
    · exact ⟨first, rfl⟩
    · exact inductionHypothesis later

theorem isStored_of_mem_ofEntries {trees : List (String × Json)} {entry : Value × Value}
    (member : entry ∈ ofEntries trees) : (∃ s, entry.1 = text s) ∧ IsStored entry.2 := by
  induction trees with
  | nil => cases member
  | cons first others inductionHypothesis =>
    rcases List.mem_cons.mp member with rfl | later
    · exact ⟨⟨first.1, rfl⟩, first.2, rfl⟩
    · exact inductionHypothesis later

theorem IsStored.of_mem_list {items : List Value} (stored : IsStored (list items)) :
    ∀ item ∈ items, IsStored item := by
  obtain ⟨tree, same⟩ := stored
  cases tree with
  | array trees =>
    cases same
    exact fun _ => isStored_of_mem_ofItems
  | _ => cases same

theorem IsStored.of_mem_dict {entries : List (Value × Value)} (stored : IsStored (dict entries)) :
    ∀ entry ∈ entries, (∃ s, entry.1 = text s) ∧ IsStored entry.2 := by
  obtain ⟨tree, same⟩ := stored
  cases tree with
  | object trees =>
    cases same
    exact fun _ => isStored_of_mem_ofEntries
  | _ => cases same

end Value

/-! ### Classes of stored values -/

namespace ScalarType

/-- The types that what a tree stands for is an instance of. -/
def typesOf : Json → List ScalarType
  | .bool _ => [integer, truth]
  | .int _ => [integer]
  | .float _ => [number]
  | .text _ => [text]
  | _ => []

/-- A tree of each class. -/
def samples : List Json :=
  [.null, .bool true, .int 0, .float ⟨0⟩, .text "", .array [], .object []]

/-- What conversions and checks ask of the classes of values, and of that of sets. This is read off
the table of classes all at once. -/
theorem stored_in_table :
    (∀ tree ∈ samples, ∀ kind ∈ [text, integer, number, truth],
      Hint.isInstance (Hint.ofValue (Value.ofJson tree)) kind.classId =
        (typesOf tree).contains kind) ∧
    Hint.isInstance (.list []) StoredType.listClass = true ∧
    Hint.belongsTo DeclaredType.setClass Hint.mappingClass = false := by
  decide +kernel

theorem isInstance_ofJson (kind : ScalarType) (tree : Json) :
    Hint.isInstance (Hint.ofValue (Value.ofJson tree)) kind.classId = (typesOf tree).contains kind := by
  -- Which value of its class a tree stands for makes no difference to an instance.
  have sampled : ∃ sample ∈ samples, typesOf tree = typesOf sample ∧
      Hint.isInstance (Hint.ofValue (Value.ofJson tree)) kind.classId =
        Hint.isInstance (Hint.ofValue (Value.ofJson sample)) kind.classId := by
    cases tree with
    | null => exact ⟨.null, by simp [samples], rfl, rfl⟩
    | bool b => exact ⟨.bool true, by simp [samples], rfl, rfl⟩
    | int n => exact ⟨.int 0, by simp [samples], rfl, rfl⟩
    | float x => exact ⟨.float ⟨0⟩, by simp [samples], rfl, rfl⟩
    | text s => exact ⟨.text "", by simp [samples], rfl, rfl⟩
    | array items => exact ⟨.array [], by simp [samples], rfl, rfl⟩
    | object entries => exact ⟨.object [], by simp [samples], rfl, rfl⟩
  have known : kind ∈ [text, integer, number, truth] := by cases kind <;> decide
  obtain ⟨sample, among, types, instances⟩ := sampled
  rw [instances, types, stored_in_table.1 sample among kind known]

/-- A stored value that is an instance of a class of scalars is one of the type. -/
theorem admits_of_isInstance {kind : ScalarType} {given : Value} (stored : given.IsStored)
    (own : Hint.isInstance (Hint.ofValue given) kind.classId = true) : kind.Admits given := by
  obtain ⟨tree, rfl⟩ := stored
  rw [isInstance_ofJson] at own
  cases tree with
  | null => cases own
  | array items => cases own
  | object entries => cases own
  | bool b =>
    rcases List.mem_pair.mp (List.contains_iff_mem.mp own) with rfl | rfl
    · exact Or.inr ⟨b, rfl⟩
    · exact ⟨b, rfl⟩
  | int n =>
    obtain rfl := List.mem_singleton.mp (List.contains_iff_mem.mp own)
    exact Or.inl ⟨n, rfl⟩
  | float x =>
    obtain rfl := List.mem_singleton.mp (List.contains_iff_mem.mp own)
    exact ⟨x, rfl⟩
  | text s =>
    obtain rfl := List.mem_singleton.mp (List.contains_iff_mem.mp own)
    exact ⟨s, rfl⟩

end ScalarType

/-! ### What conversions make -/

/-- Whether something is a value of some kind. -/
def Hint.IsOf (kind : Value → Prop) (made : Hint) : Prop :=
  ∃ v, made = ofValue v ∧ kind v

theorem Hint.IsOf.weaken {kind wider : Value → Prop} {made : Hint} (known : made.IsOf kind)
    (within : ∀ v, kind v → wider v) : made.IsOf wider := by
  obtain ⟨v, same, own⟩ := known
  exact ⟨v, same, within v own⟩

/-- Whether a conversion makes a value of some kind, or fails. -/
def Yields (type : Hint) (kind : Value → Prop) (given : Hint) : Prop :=
  (convert type given).Ensures (Hint.IsOf kind) fun _ => True

namespace ScalarType

theorem isCollection_classId (kind : ScalarType) : isCollection kind.classId = false := by
  cases kind with
  | text => exact StoredType.isCollection_textClass
  | integer => exact StoredType.isCollection_integerClass
  | number => exact isCollection_numberClass
  | truth => exact StoredType.isCollection_truthClass

theorem toScalar_classId (kind : ScalarType) (given : Hint) :
    toScalar kind.classId given = makeInstance kind.classId given := by
  cases kind <;> rfl

theorem ensures_makeReal (given : Hint) :
    (Hint.makeReal { positional := [given] }).Ensures (Hint.IsOf number.Admits) fun _ => True := by
  have only : Hint.atMostOne "float" { positional := [given] } = pure (some given) := rfl
  rw [Hint.makeReal, only, pure_bind]
  dsimp only
  split
  · split
    · exact ensures_pure ⟨.float _, rfl, _, rfl⟩
    · exact ensures_throw trivial
  · exact ensures_pure ⟨.float _, rfl, _, rfl⟩
  · exact (ensures_true _).bind fun _ _ => ensures_pure ⟨.float _, rfl, _, rfl⟩
  · exact ensures_throw trivial

/-- What a class of scalars makes of something is a value of the class. -/
theorem ensures_construct (kind : ScalarType) (given : Hint) :
    (construct "builtins" kind.classId { positional := [given] }).Ensures (Hint.IsOf kind.Admits)
      fun _ => True := by
  cases kind with
  | text =>
    show (do return Hint.text (← Hint.shownText given)).Ensures _ _
    exact (ensures_true _).bind fun _ _ => ensures_pure ⟨.text _, rfl, _, rfl⟩
  | integer =>
    show (do return Hint.int (← Hint.toInteger given)).Ensures _ _
    exact (ensures_true _).bind fun _ _ => ensures_pure ⟨.int _, rfl, Or.inl ⟨_, rfl⟩⟩
  | number => exact ensures_makeReal given
  | truth => exact ensures_pure ⟨.bool _, rfl, _, rfl⟩

/-- Any stored value is made a scalar, or it is refused. -/
theorem yields (kind : ScalarType) {given : Value} (stored : given.IsStored) :
    Yields (.classRef kind.classId) kind.Admits (Hint.ofValue given) := by
  rw [Yields, StoredType.convert_classRef kind.isCollection_classId, toScalar_classId, makeInstance]
  split
  · next own => exact ensures_pure ⟨given, rfl, admits_of_isInstance stored own⟩
  · exact ensures_construct kind _

end ScalarType

/-! ### Parts of collections -/

section
variable {type item given : Hint} {kind : Value → Prop}

theorem exists_ofValues {made : List Hint} (each : ∀ part ∈ made, Hint.IsOf kind part) :
    ∃ items, made = Hint.ofValues items ∧ ∀ part ∈ items, kind part := by
  induction made with
  | nil => exact ⟨[], rfl, List.forall_mem_nil _⟩
  | cons first others inductionHypothesis =>
    obtain ⟨⟨v, rfl, own⟩, later⟩ := List.forall_mem_cons.mp each
    obtain ⟨items, rfl, rest⟩ := inductionHypothesis later
    exact ⟨v :: items, rfl, List.forall_mem_cons.mpr ⟨own, rest⟩⟩

/-- A part that may be null is converted to null, or by its type. -/
theorem yields_withNull (nullable : Bool) (null : nullable = false → given = .value .null →
      Yields type kind given) (present : given ≠ .value .null → Yields type kind given) :
    Yields (DeclaredType.withNull nullable type) (OrNull nullable kind) given := by
  cases nullable with
  | false =>
    have made : Yields type kind given := by
      by_cases absent : given = .value .null
      · exact null rfl absent
      · exact present absent
    exact made.weaken (fun _ own => own.weaken fun _ => Or.inr) fun _ => id
  | true =>
    by_cases absent : given = .value .null
    · subst absent
      have left : convert (.union true [type, Hint.nullType]) (.value .null) = pure (.value .null) := by
        rw [convert]
        rfl
      show Yields (.union true [type, Hint.nullType]) _ _
      rw [Yields, left]
      exact ensures_pure ⟨.null, rfl, Or.inl ⟨rfl, rfl⟩⟩
    · show Yields (.union true [type, Hint.nullType]) _ _
      rw [Yields, convert_orNull true absent]
      exact (present absent).weaken (fun _ own => own.weaken fun _ => Or.inr) fun _ => id

theorem itemsConversionsOf_withNull (nullable : Bool) (type : DeclaredType) (others : List Hint) :
    itemsConversionsOf (DeclaredType.withNull nullable type.hint :: others) =
      (fun items => items.mapM (convert (DeclaredType.withNull nullable type.hint))) ::
        itemsConversionsOf others := by
  cases nullable with
  | true => rfl
  | false => cases type <;> rfl

/-! ### Collections -/

/-- A list is made of the converted items of what is gone through. -/
theorem yields_list (single : itemsConversionsOf [item] = [fun items => items.mapM (convert item)])
    (present : given ≠ .value .null)
    (parts : (Hint.itemsOf .notIterated given).Ensures (fun items => ∀ part ∈ items, Yields item kind part)
      fun _ => True) :
    Yields (.applied .plain StoredType.listClass [item])
      (fun made => ∃ items, made = .list items ∧ ∀ part ∈ items, kind part) given := by
  rw [Yields, convert, single,
    StoredType.convertWith_of_isCollection rfl StoredType.isCollection_listClass present,
    convertCollection, if_neg StoredType.listClass_ne_counter, StoredType.belongsTo_listClass,
    if_neg Bool.false_ne_true, if_neg StoredType.listClass_ne_tuple]
  refine parts.bind fun _ each => (ensures_mapM each).bind fun made own => ?_
  obtain ⟨items, rfl, admitted⟩ := exists_ofValues own
  exact ensures_pure ⟨.list items, rfl, items, rfl, admitted⟩

theorem Hint.distinct_subset (items : List Hint) : Hint.distinct items ⊆ items := by
  have kept (given : List Hint) : ∀ made : List Hint,
      given.foldl (fun kept item => if kept.any (Hint.same item ·) then kept else kept ++ [item]) made ⊆
        made ++ given := by
    induction given with
    | nil => exact fun made => (List.append_nil made).symm ▸ List.Subset.refl made
    | cons first others inductionHypothesis =>
      intro made part member
      have later := inductionHypothesis _ member
      dsimp only at later
      split at later
      · rcases List.mem_append.mp later with before | behind
        · exact List.mem_append_left _ before
        · exact List.mem_append_right _ (List.mem_cons_of_mem _ behind)
      · rw [List.append_assoc] at later
        exact later
  exact kept items []

/-- A set is made likewise. Which of its items are equal, and in which order it goes through them,
does not matter. -/
theorem yields_set (single : itemsConversionsOf [item] = [fun items => items.mapM (convert item)])
    (present : given ≠ .value .null)
    (parts : (Hint.itemsOf .notIterated given).Ensures (fun items => ∀ part ∈ items, Yields item kind part)
      fun _ => True) :
    Yields (.applied .plain DeclaredType.setClass [item])
      (fun made => ∃ items, made = .set items ∧ ∀ part ∈ items, kind part) given := by
  have collection : isCollection DeclaredType.setClass = true := by decide
  have noCounter : DeclaredType.setClass.qualifiedName ≠ "collections.Counter" := by decide
  have noTuple : DeclaredType.setClass.qualifiedName ≠ "builtins.tuple" := by decide
  have collects (items : List Hint) :
      collect DeclaredType.setClass items = Hint.makeSet false items := rfl
  rw [Yields, convert, single, StoredType.convertWith_of_isCollection rfl collection present,
    convertCollection, if_neg noCounter, ScalarType.stored_in_table.2.2,
    if_neg Bool.false_ne_true, if_neg noTuple]
  refine parts.bind fun _ each => (ensures_mapM each).bind fun made own => ?_
  rw [collects, Hint.makeSet]
  refine (ensures_true _).bind fun _ _ => ensures_pure ?_
  have kept : ∀ part ∈ SetOrder.ofAdded Hint.hash? (Hint.distinct made), Hint.IsOf kind part :=
    fun part member => own part (Hint.distinct_subset made (SetOrder.ofAdded_subset _ _ member))
  obtain ⟨items, same, admitted⟩ := exists_ofValues kept
  exact ⟨.set items, congrArg (Hint.set false) same, items, rfl, admitted⟩

theorem Hint.same_text (first second : String) :
    Hint.same (.value (.text first)) (.value (.text second)) = (first == second) := by
  rw [Hint.same, Value.same_text]

/-- Binding a text in a map from texts keeps the keys apart. -/
theorem exists_insertEntry {pairs : List (String × Value)} (distinct : (pairs.map (·.1)).Nodup)
    (each : ∀ pair ∈ pairs, kind pair.2) (name : String) {bound : Value} (own : kind bound) :
    ∃ pairs', Hint.insertEntry (StoredType.hintEntries pairs) (.value (.text name))
        (Hint.ofValue bound) = StoredType.hintEntries pairs' ∧
      (pairs'.map (·.1)).Nodup ∧ ∀ pair ∈ pairs', kind pair.2 := by
  by_cases new : name ∈ pairs.map (·.1)
  · -- The value that was there is replaced.
    have replaced : Hint.insertEntry (StoredType.hintEntries pairs) (.value (.text name))
        (Hint.ofValue bound) = StoredType.hintEntries
          (pairs.map fun pair => (pair.1, if pair.1 = name then bound else pair.2)) := by
      obtain ⟨old, inside, rfl⟩ := List.mem_map.mp new
      have present : ((StoredType.hintEntries pairs).any fun entry =>
          Hint.same entry.1 (.value (.text old.1))) = true :=
        List.any_eq_true.mpr ⟨_, List.mem_map_of_mem inside, by rw [Hint.same_text, beq_self_eq_true]⟩
      rw [Hint.insertEntry, if_pos present, StoredType.hintEntries, StoredType.hintEntries,
        List.map_map, List.map_map]
      refine List.map_congr_left fun pair _ => Prod.ext rfl ?_
      simp only [Function.comp_apply, Hint.same_text, beq_iff_eq, apply_ite Hint.ofValue]
    refine ⟨_, replaced, ?_, ?_⟩
    · rw [List.map_map]
      exact distinct
    · intro pair member
      obtain ⟨old, inside, rfl⟩ := List.mem_map.mp member
      dsimp only
      split
      · exact own
      · exact each old inside
  · refine ⟨pairs ++ [(name, bound)], ?_, ?_, ?_⟩
    · rw [StoredType.insertEntry_hintEntries new, StoredType.hintEntries, StoredType.hintEntries,
        List.map_append]
      rfl
    · rw [List.map_append]
      exact List.nodup_append.mpr ⟨distinct, List.nodup_singleton _, by
        intro first inside second last
        rintro rfl
        obtain rfl := List.mem_singleton.mp last
        exact new inside⟩
    · exact List.forall_mem_append.mpr ⟨each, List.forall_mem_singleton.mpr own⟩

/-- Entries of texts and values make a map from texts. -/
theorem ensures_makeEntries_text {pairs : List (Hint × Hint)}
    (keys : ∀ pair ∈ pairs, ∃ s, pair.1 = .value (.text s))
    (items : ∀ pair ∈ pairs, Hint.IsOf kind pair.2) :
    (makeEntries (.classRef StoredType.textClass) pairs).Ensures
      (fun made => ∃ named, made = StoredType.hintEntries named ∧ (named.map (·.1)).Nodup ∧
        ∀ pair ∈ named, kind pair.2) fun _ => True := by
  have start : ∃ named, ([] : List (Hint × Hint)) = StoredType.hintEntries named ∧
      (named.map (·.1)).Nodup ∧ ∀ pair ∈ named, kind pair.2 :=
    ⟨[], rfl, List.nodup_nil, List.forall_mem_nil _⟩
  refine ensures_foldlM start fun made begun pair member => ?_
  obtain ⟨named, rfl, distinct, each⟩ := begun
  obtain ⟨key, item⟩ := pair
  obtain ⟨s, rfl⟩ := keys _ member
  obtain ⟨v, rfl, own⟩ := items _ member
  obtain ⟨more, inserted, apart, kept⟩ := exists_insertEntry distinct each s own
  dsimp only
  rw [StoredType.callKeyType_text, pure_bind, inserted]
  exact (ensures_true _).bind fun _ _ => ensures_pure ⟨more, rfl, apart, kept⟩

/-- A map is made of texts and of converted values. -/
theorem yields_map (single : itemsConversionsOf [item] = [fun items => items.mapM (convert item)])
    (present : given ≠ .value .null)
    (parts : (entriesOf given).Ensures (fun entries => ∀ entry ∈ entries,
      (∃ s, entry.1 = .value (.text s)) ∧ Yields item kind entry.2) fun _ => True) :
    Yields (.applied .plain StoredType.mapClass [.classRef StoredType.textClass, item])
      (fun made => ∃ pairs, made = .dict (Value.textEntries pairs) ∧ (pairs.map (·.1)).Nodup ∧
        ∀ pair ∈ pairs, kind pair.2) given := by
  have conversions : itemsConversionsOf [.classRef StoredType.textClass, item] =
      [fun keys => keys.mapM (convert (.classRef StoredType.textClass)),
        fun items => items.mapM (convert item)] := by
    rw [← single]
    rfl
  rw [Yields, convert, conversions,
    StoredType.convertWith_of_isCollection rfl StoredType.isCollection_mapClass present,
    convertCollection, if_neg StoredType.mapClass_ne_counter, StoredType.belongsTo_mapClass,
    if_pos rfl]
  refine parts.bind fun entries each => ?_
  have keys : (entries.map (·.1)).mapM (convert (.classRef StoredType.textClass)) =
      pure (entries.map (·.1)) := by
    refine mapM_eq_pure_of_fixed fun key member => ?_
    obtain ⟨entry, inside, rfl⟩ := List.mem_map.mp member
    obtain ⟨s, text⟩ := (each entry inside).1
    rw [text, StoredType.convert_text]
  have items : ((entries.map (·.2)).mapM (convert item)).Ensures
      (fun made => ∀ part ∈ made, Hint.IsOf kind part) fun _ => True := by
    refine ensures_mapM fun part member => ?_
    obtain ⟨entry, inside, rfl⟩ := List.mem_map.mp member
    exact (each entry inside).2
  show Evaluation.Ensures (do
    let keys ← (entries.map (·.1)).mapM (convert (.classRef StoredType.textClass))
    let items ← (entries.map (·.2)).mapM (convert item)
    return Hint.dict (← makeEntries (.classRef StoredType.textClass) (keys.zip items))) _ _
  rw [keys, pure_bind]
  refine items.bind fun made own => ?_
  have pairs := @ensures_makeEntries_text kind ((entries.map (·.1)).zip made)
    (fun pair member => by
      obtain ⟨entry, inside, same⟩ := List.mem_map.mp (List.of_mem_zip member).1
      rw [← same]
      exact (each entry inside).1)
    fun pair member => own _ (List.of_mem_zip member).2
  refine pairs.bind fun made whole => ?_
  obtain ⟨named, rfl, distinct, admitted⟩ := whole
  refine ensures_pure ⟨.dict (Value.textEntries named), ?_, named, rfl, distinct, admitted⟩
  rw [Hint.ofValue, StoredType.ofEntries_textEntries]

end

end StateContainer
