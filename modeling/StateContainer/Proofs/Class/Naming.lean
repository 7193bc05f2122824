/-
This file says which names the fields of a generated class have.

They are the names that the members of the generated type are given, each where it stands first;
a member whose annotation makes it an attribute of the class is left out. This is so if no ancestor
is a record class. A generated class has no methods of its own: the methods that write its instances
are those of its ancestors.
-/

import StateContainer.Proofs.Class.Declaring
import StateContainer.Proofs.Class.Remaking

namespace StateContainer

/-! ### Keys that are bound again -/

/-- Binding pairs one after the other adds keys in the order in which they come first. -/
theorem OrderedMap.keys_foldl_sublist {κ ν α : Type} [DecidableEq κ] (pairs : List α) (key : α → κ)
    (value : α → ν) (m : OrderedMap κ ν) :
    (pairs.foldl (fun m a => m.insert (key a) (value a)) m).keys.Sublist
      (m.keys ++ pairs.map key) := by
  induction pairs generalizing m with
  | nil => exact (List.append_nil _).symm ▸ List.Sublist.refl _
  | cons first others inductionHypothesis =>
    refine (inductionHypothesis (m.insert (key first) (value first))).trans ?_
    rw [List.map_cons, ← List.singleton_append, ← List.append_assoc]
    refine List.Sublist.append_right ?_ _
    rw [keys, insert]
    by_cases present : key first ∈ m.entries.map (·.1)
    · rw [keys_bind_of_mem _ present]
      exact List.sublist_append_left _ _
    · rw [bind_of_not_mem _ present, List.map_append]
      exact List.Sublist.refl _

namespace Class

/-! ### Ancestors -/

/-- Nothing but what stands in one of the lists is among the merged ancestors. -/
theorem mem_of_mergeAncestors {fuel : Nat} {lists : List (List ClassInfo)} {merged : List ClassInfo}
    (merges : mergeAncestors fuel lists = some merged) {c : ClassInfo} (member : c ∈ merged) :
    ∃ list ∈ lists, c ∈ list := by
  induction fuel generalizing lists merged with
  | zero =>
    rw [mergeAncestors] at merges
    split at merges
    · cases merges
      cases member
    · cases merges
  | succ fuel inductionHypothesis =>
    rw [mergeAncestors] at merges
    split at merges
    · cases merges
      cases member
    · split at merges
      · cases merges
      · next next chosen =>
        obtain ⟨rest, remaining, rfl⟩ := Option.map_eq_some_iff.mp merges
        rcases List.mem_cons.mp member with rfl | later
        · obtain ⟨list, inside, head⟩ := List.mem_filterMap.mp (List.mem_of_find?_eq_some chosen)
          exact ⟨list, inside, List.mem_of_mem_head? head⟩
        · obtain ⟨_, inside, there⟩ := inductionHypothesis remaining later
          obtain ⟨list, own, rfl⟩ := List.mem_map.mp inside
          refine ⟨list, own, ?_⟩
          split at there
          · exact List.mem_of_mem_drop there
          · exact there

/-- The ancestors of a class with a single base are this base and its ancestors. -/
theorem gives_ancestorsOf (base : ClassInfo) :
    Gives (ancestorsOf [base]) fun ancestors => ∀ ancestor ∈ ancestors, ancestor ∈ base.lineage := by
  rw [ancestorsOf]
  split
  · exact gives_throw _
  · next merges =>
    split
    · exact gives_throw _
    · refine gives_pure fun ancestor member => ?_
      obtain ⟨list, inside, there⟩ := mem_of_mergeAncestors merges member
      rw [List.map_singleton, List.singleton_append] at inside
      rcases List.mem_pair.mp inside with rfl | rfl
      · exact there
      · rw [List.mem_singleton.mp there]
        exact List.mem_cons_self
  · exact gives_throw _

/-! ### Record classes -/

section
variable {surroundings : Surroundings} {options : RecordOptions} {c : ClassInfo}

theorem gives_name_fieldOf {byName : Bool} (name : String) (type : Hint) :
    Gives (fieldOf surroundings byName c name type) (·.name = name) := by
  unfold fieldOf
  dsimp only
  refine gives_bind fun ofClass => ?_
  split
  · exact gives_if_throw fun _ => gives_if_throw fun _ => gives_pure rfl
  · split
    · exact gives_throw_bind _
    · exact gives_pure rfl

/-- Whether a class has no method itself. -/
def HasNoMethod (c : ClassInfo) : Prop :=
  ∀ entry ∈ c.attributes.entries, ∀ path ofClass, entry.2 ≠ .method path ofClass

/-- Whether a class is another one without methods as far as records are made of it. -/
structure IsSettled (c made : ClassInfo) : Prop where
  hasNoMethod : HasNoMethod made
  ancestors : made.ancestors = c.ancestors
  constructor : made.ownConstructor = c.ownConstructor
  written : made.constructorIsWritten = c.constructorIsWritten

/-- Settling the attributes of fields makes no methods. -/
theorem gives_settle_of_hasNoMethod (without : HasNoMethod c) (own : List Field) :
    Gives (own.foldlM settleAttribute c) (IsSettled c) := by
  refine gives_foldlM ⟨without, rfl, rfl, rfl⟩ fun made settled field _ => ?_
  unfold settleAttribute
  split
  · refine gives_pure { settled with hasNoMethod := fun entry member => ?_ }
    rcases OrderedMap.mem_entries_insert member with before | rfl
    · exact settled.hasNoMethod entry before
    · exact fun _ _ => nofun
  · split
    · exact gives_pure { settled with
        hasNoMethod := fun entry member => settled.hasNoMethod entry (List.mem_of_mem_filter member) }
    · exact gives_throw _
  · exact gives_pure settled

theorem map_name_eq {entries : List (String × Hint)} {own : List Field}
    (named : List.Forall₂ (fun entry field => field.name = entry.1) entries own) :
    own.map (·.name) = entries.map (·.1) := by
  induction named with
  | nil => rfl
  | cons same _ inductionHypothesis => rw [List.map_cons, List.map_cons, same, inductionHypothesis]

/-- A field with a name of its own is found by it. -/
theorem find?_name_eq {fields : List Field} (distinct : (fields.map (·.name)).Nodup) {field : Field}
    (member : field ∈ fields) : fields.find? (·.name = field.name) = some field := by
  cases found : fields.find? (·.name = field.name) with
  | none => exact absurd (decide_eq_true rfl) (List.find?_eq_none.mp found field member)
  | some other =>
    have same := of_decide_eq_true (List.find?_eq_some_iff_append.mp found).1
    rw [List.inj_on_of_nodup_map distinct (List.mem_of_find?_eq_some found) member same]

/-- What a class is that was made a record class with annotated names: it is made from its fields, and
it has no methods of its own. -/
structure IsRecordOf (c : ClassInfo) (names : List String) : Prop where
  record : ∃ record, c.ownRecord = some record ∧ c.MadeFromFields record ∧
    ((∀ ancestor ∈ c.ancestors, ancestor.record? = none) →
      (record.fields.map (·.name)).Sublist names)
  hasNoMethod : HasNoMethod c

theorem IsSettled.isRecordOf {made : ClassInfo} {own : List Field} (settled : IsSettled c made)
    (bare : c.ownConstructor = none) (unwritten : c.constructorIsWritten = false)
    (distinct : (own.map (·.name)).Nodup) :
    IsRecordOf (asRecord {} own made) (own.map (·.name)) := by
  have constructor : (asRecord {} own made).ownConstructor =
      some (constructorOf made (recordOf {} own made).fields) := by
    rw [ownConstructor_asRecord, if_pos rfl, settled.constructor, bare, Option.none_or]
  refine ⟨⟨recordOf {} own made, ownRecord_asRecord own, ⟨⟨_, made, ?_, ?_, ownRecord_asRecord own⟩, ?_⟩,
    fun plain => ?_⟩, settled.hasNoMethod⟩
  · rw [ClassInfo.constructor?, ClassInfo.lineage, List.findSome?_cons, constructor]
    rfl
  · exact (constructorIsWritten_asRecord own).trans (settled.written.trans unwritten)
  · exact ((areNamed_inheritedFields _).foldl own).nodup_fields
  · rw [RecordInfo.fields, @values_recordOf made _ _ plain distinct]
    exact List.filter_sublist.map _

/-- Whatever stands under the names in the ancestors, a class with annotations and nothing else
becomes a record class. -/
theorem gives_makeRecord_of_bare (bare : c.ownConstructor = none)
    (unwritten : c.constructorIsWritten = false) (without : HasNoMethod c)
    (distinct : c.annotations.keys.Nodup) :
    Gives (makeRecord surroundings {} c) fun made =>
      IsRecordOf made c.annotations.keys ∧ made.ancestors = c.ancestors := by
  refine (gives_makeRecord (fun entry _ => gives_name_fieldOf entry.1 entry.2)
    fun own _ => gives_settle_of_hasNoMethod without own).weaken fun made given => ?_
  obtain ⟨own, settled, named, isSettled, rfl⟩ := given
  have names : own.map (·.name) = c.annotations.keys := map_name_eq named
  exact ⟨names ▸ isSettled.isRecordOf bare unwritten (names ▸ distinct), isSettled.ancestors⟩

end

/-! ### Generated classes -/

/-- What a generated class with a single base is, and the names of its fields. -/
structure IsGeneratedFrom (c base : ClassInfo) (names : List String) : Prop extends
    IsRecordOf c names where
  ancestors : ∀ ancestor ∈ c.ancestors, ancestor ∈ base.lineage

end Class

open StateContainer.Class

section
variable {m : ClassModule} {name : String} {fields : List DeclaredField} {base : ClassInfo}

theorem gives_declareClass_of_texts
    (texts : ∀ field ∈ fields, field.quoted = true ∧ field.carried = .none) :
    Gives (m.declareClass "" { name, fields, record := some {}, outside := [base] }) fun made =>
      made.1 = m.keep made.2 ∧ IsGeneratedFrom made.2 base (fields.map (·.name)) := by
  rw [ClassModule.declareClass]
  dsimp only
  refine (gives_declareFields texts _).bind fun withFields same => ?_
  subst same
  dsimp only
  refine gives_bind_of_eq rfl (gives_bind_of_eq rfl (gives_bind fun _ => ?_))
  refine (gives_ancestorsOf base).bind fun ancestors within => gives_bind fun _ => ?_
  refine gives_bind_of_eq (ClassModule.declareNested.eq_1 ..) ?_
  dsimp only [List.foldl_nil]
  refine Gives.bind (?_ : Gives _ fun made : ClassInfo =>
    IsGeneratedFrom made base (fields.map (·.name))) fun made known => gives_pure ⟨rfl, known⟩
  rw [ClassModule.finishClass]
  dsimp only
  rw [bind_pure]
  have nothing : ({} : OrderedMap String Hint).keys.Nodup := List.nodup_nil
  refine (gives_makeRecord_of_bare rfl rfl (fun entry member => absurd member List.not_mem_nil)
    (OrderedMap.nodup_keys_foldl _ _ _ nothing)).weaken fun made known => ?_
  obtain ⟨⟨⟨record, own, fromFields, sublist⟩, without⟩, same⟩ := known
  exact ⟨⟨⟨record, own, fromFields, fun plain =>
    (sublist plain).trans (OrderedMap.keys_foldl_sublist _ _ _ {})⟩, without⟩, same ▸ within⟩

/-- The class of a generated type is generated from its single base, and its fields have the names that
the type gives to them. -/
theorem Container.exists_isGeneratedFrom {standIns : OrderedMap String ClassInfo}
    {generated : ClassModule} {type : GeneratedType} {snapshot : Option ClassInfo}
    (declares : declareFields standIns [base] m (some type) = .ok (generated, snapshot)) :
    ∃ c, snapshot = some c ∧ IsGeneratedFrom c base (type.annotations.map (·.1)) := by
  have texts : ∀ field ∈ (fieldsDeclaration type [base]).fields,
      field.quoted = true ∧ field.carried = .none := by
    intro field member
    obtain ⟨f, -, rfl⟩ := List.mem_map.mp member
    exact ⟨rfl, rfl⟩
  have gives := @gives_declare_of_declareClass m (fieldsDeclaration type [base])
    (IsGeneratedFrom · base ((fieldsDeclaration type [base]).fields.map (·.name)))
    (gives_declareClass_of_texts texts)
  have names : (fieldsDeclaration type [base]).fields.map (·.name) = type.annotations.map (·.1) := by
    rw [fieldsDeclaration, GeneratedType.annotations, List.map_map, List.map_map]
    rfl
  rw [names] at gives
  rw [declareFields] at declares
  dsimp only at declares
  -- Whatever stands for the decorator, the class is declared then.
  split at declares
  · obtain ⟨_, -, declares⟩ := exists_of_bind_eq_ok declares
    exact exists_of_run gives declares
  · exact exists_of_run gives declares

end

end StateContainer
