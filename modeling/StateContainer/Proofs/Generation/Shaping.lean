/-
This file says how the types agree with each other that are generated for a list of properties.

The members of a delegate are of several kinds, and the first character of a name tells the kind of its
member, whatever the properties are called. Names of different kinds thus differ, and names of one kind
differ as the names of their properties do. All that has to do with snapshots is there if some property
is persisted, and all that has to do with inputs if some property is supplied.
-/

import StateContainer.Artifact
import Mathlib.Data.List.Forall2
import Mathlib.Data.List.Nodup

namespace StateContainer

/-! ### Kinds by name -/

/-- The kind of the member of a delegate that has some name. -/
def MemberKind.ofName? (name : String) : Option MemberKind :=
  match name.toList.head? with
  | some '_' => some .channel
  | some 'g' => some .initialState
  | some 'o' => some .accessor
  | some 'p' => some .mutator
  | some 'c' => some .currentState
  | some 's' => some .saveSnapshot
  | _ => none

theorem MemberKind.ofName?_append {name : String} (opens : name.toList ≠ []) (rest : String) :
    ofName? (name ++ rest) = ofName? name := by
  unfold ofName?
  rw [String.toList_append, List.head?_append_of_ne_nil _ opens]

section
variable {s : Schema}

theorem Schema.mem_saveMembers {member : Member} :
    member ∈ s.saveMembers ↔ s.hasPersisted = true ∧ member = saveSnapshotMember := by
  unfold saveMembers
  split
  · next persisted => rw [List.mem_singleton, and_iff_right persisted]
  · next unpersisted => exact iff_of_false List.not_mem_nil fun both => unpersisted both.1

/-- The members of a delegate, one kind after the other. -/
theorem Schema.mem_delegate {member : Member} : member ∈ s.delegate.members ↔
    (∃ p ∈ s.properties, p.channel = member) ∨ member = initialStateMember s.name ∨
    (∃ p ∈ s.properties, p.accessor = member) ∨ (∃ p ∈ s.properties, p.mutator = member) ∨
    member = currentStateMember s.name ∨ member ∈ s.saveMembers := by
  simp only [delegate, List.mem_append, List.mem_map, List.mem_singleton, or_assoc]

/-- The name of a member of a delegate tells its kind. -/
theorem Schema.ofName?_of_mem {member : Member} (inside : member ∈ s.delegate.members) :
    MemberKind.ofName? member.name = some member.kind := by
  rcases mem_delegate.mp inside with ⟨p, -, rfl⟩ | rfl | ⟨p, -, rfl⟩ | ⟨p, -, rfl⟩ | rfl | saves
  · show MemberKind.ofName? ("_" ++ p.name ++ "_channel") = some .channel
    rw [String.append_assoc, MemberKind.ofName?_append (by decide)]
    decide
  · show MemberKind.ofName? "get_initial_state" = some .initialState
    decide
  · show MemberKind.ofName? ("observe_" ++ p.name) = some .accessor
    rw [MemberKind.ofName?_append (by decide)]
    decide
  · show MemberKind.ofName? ("push_" ++ p.name) = some .mutator
    rw [MemberKind.ofName?_append (by decide)]
    decide
  · show MemberKind.ofName? "current_state" = some .currentState
    decide
  · obtain ⟨-, rfl⟩ := mem_saveMembers.mp saves
    decide

end

/-! ### Members of one kind -/

/-- The members that a delegate has of some kind. -/
def Schema.delegateMembers (s : Schema) : MemberKind → List Member
  | .channel => s.properties.map (·.channel)
  | .accessor => s.properties.map (·.accessor)
  | .mutator => s.properties.map (·.mutator)
  | .initialState => [initialStateMember s.name]
  | .currentState => [currentStateMember s.name]
  | .saveSnapshot => s.saveMembers
  | .field | .create => []

theorem Schema.ofKind_delegate (s : Schema) (kind : MemberKind) :
    s.delegate.ofKind kind = s.delegateMembers kind := by
  unfold GeneratedType.ofKind delegate delegateMembers saveMembers
  cases kind <;>
    simp [List.filter_map, Function.comp_def, Property.channel, Property.accessor, Property.mutator,
      initialStateMember, currentStateMember, saveSnapshotMember]

/-- Members differ in name if those of one kind do and if the names tell the kinds. -/
theorem nodup_names_of_kinds {members : List Member}
    (told : ∀ member ∈ members, MemberKind.ofName? member.name = some member.kind)
    (each : ∀ kind, ((members.filter (·.kind = kind)).map (·.name)).Nodup) :
    (members.map (·.name)).Nodup := by
  induction members with
  | nil => exact List.nodup_nil
  | cons first others inductionHypothesis =>
    obtain ⟨here, later⟩ := List.forall_mem_cons.mp told
    rw [List.map_cons, List.nodup_cons]
    constructor
    · intro again
      obtain ⟨other, inside, same⟩ := List.mem_map.mp again
      have sameKind : other.kind = first.kind :=
        Option.some.inj ((later other inside).symm.trans (same ▸ here))
      have alone := each first.kind
      rw [List.filter_cons, if_pos (decide_eq_true rfl), List.map_cons, List.nodup_cons] at alone
      exact alone.1 (List.mem_map.mpr
        ⟨other, List.mem_filter.mpr ⟨inside, decide_eq_true sameKind⟩, same⟩)
    · refine inductionHypothesis later fun kind => ?_
      exact (((List.sublist_cons_self first others).filter _).map _).nodup (each kind)

theorem nodup_names_of_properties {properties : List Property} {member : Property → Member}
    (distinct : (properties.map (·.name)).Nodup)
    (told : ∀ p q : Property, (member p).name = (member q).name → p.name = q.name) :
    ((properties.map member).map (·.name)).Nodup := by
  rw [List.map_map]
  exact List.pairwise_map.mpr ((List.pairwise_map.mp distinct).imp fun differ same => differ (told _ _ same))

/-- If the properties differ in name, so do the members of the delegate. -/
theorem Schema.nodup_memberNames {s : Schema} (distinct : (s.properties.map (·.name)).Nodup) :
    s.delegate.memberNames.Nodup := by
  refine nodup_names_of_kinds (fun member inside => ofName?_of_mem inside) fun kind => ?_
  change ((s.delegate.ofKind kind).map (·.name)).Nodup
  rw [ofKind_delegate]
  cases kind with
  | channel =>
    refine nodup_names_of_properties distinct fun p q same => ?_
    exact (String.append_right_inj _).mp ((String.append_left_inj _).mp same)
  | accessor => exact nodup_names_of_properties distinct fun p q => (String.append_right_inj _).mp
  | mutator => exact nodup_names_of_properties distinct fun p q => (String.append_right_inj _).mp
  | initialState => exact List.nodup_singleton _
  | currentState => exact List.nodup_singleton _
  | saveSnapshot =>
    change (s.saveMembers.map (·.name)).Nodup
    unfold saveMembers
    split
    · exact List.nodup_singleton _
    · exact List.nodup_nil
  | field => exact List.nodup_nil
  | create => exact List.nodup_nil

/-! ### What is there -/

section
variable {s : Schema}

theorem Schema.hasPersisted_iff : s.hasPersisted = true ↔ ∃ p ∈ s.properties, p.persisted = true :=
  List.any_eq_true

theorem Schema.hasInput_iff : s.hasInput = true ↔ ∃ p ∈ s.properties, p.input = true :=
  List.any_eq_true

theorem Schema.interface_subset : s.interface.members ⊆ s.delegate.members := by
  intro member inside
  rcases List.mem_append.mp inside with accessor | saves
  · exact mem_delegate.mpr (Or.inr (Or.inr (Or.inl (List.mem_map.mp accessor))))
  · exact mem_delegate.mpr (Or.inr (Or.inr (Or.inr (Or.inr (Or.inr saves)))))

/-- Only the method that saves a snapshot has its name. -/
theorem Schema.name_eq_iff_of_mem {member : Member} (inside : member ∈ s.delegate.members) :
    member.name = "save_snapshot" ↔ member.kind = .saveSnapshot := by
  have told := ofName?_of_mem inside
  constructor
  · intro named
    rw [named] at told
    exact Option.some.inj (told.symm.trans (by decide))
  · intro kind
    have own : member ∈ s.delegate.ofKind .saveSnapshot :=
      List.mem_filter.mpr ⟨inside, decide_eq_true kind⟩
    rw [ofKind_delegate] at own
    obtain ⟨-, rfl⟩ := mem_saveMembers.mp own
    rfl

/-- A type that has the saving method if there is one, and else members of a delegate only, has a method
of that name if something is persisted. -/
theorem Schema.save_mem_names_iff {members : List Member} (within : members ⊆ s.delegate.members)
    (saves : s.saveMembers ⊆ members) :
    "save_snapshot" ∈ members.map (·.name) ↔ s.hasPersisted = true := by
  constructor
  · intro named
    obtain ⟨member, inside, same⟩ := List.mem_map.mp named
    have own : member ∈ s.delegate.ofKind .saveSnapshot :=
      List.mem_filter.mpr ⟨within inside, decide_eq_true ((name_eq_iff_of_mem (within inside)).mp same)⟩
    rw [ofKind_delegate] at own
    exact (mem_saveMembers.mp own).1
  · intro persisted
    exact List.mem_map.mpr ⟨saveSnapshotMember, saves (mem_saveMembers.mpr ⟨persisted, rfl⟩), rfl⟩

/-- The parameters of the initial state are those for the snapshot and for the input, if there are
such. -/
theorem Schema.mem_parameters_iff {name : String} : name ∈ s.plan.parameters ↔
    s.hasPersisted = true ∧ name = snapshotSourceName ∨ s.hasInput = true ∧ name = stateInputName := by
  unfold plan
  cases s.hasPersisted <;> cases s.hasInput <;> simp

theorem Schema.source_mem_parameters_iff :
    snapshotSourceName ∈ s.plan.parameters ↔ s.hasPersisted = true := by
  have differ : snapshotSourceName ≠ stateInputName := by decide
  rw [mem_parameters_iff, and_iff_left rfl, or_iff_left fun supplied => differ supplied.2]

theorem Schema.input_mem_parameters_iff : stateInputName ∈ s.plan.parameters ↔ s.hasInput = true := by
  have differ : stateInputName ≠ snapshotSourceName := by decide
  rw [mem_parameters_iff, and_iff_left rfl, or_iff_right fun persisted => differ persisted.2]

end

/-! ### All types together -/

/-- A type of fields has the names of its properties. -/
theorem memberNames_of_fields {present : Bool} {name : String} {kind : ArtifactKind}
    {properties : List Property} : ∀ t ∈ (if present = true then
      some (GeneratedType.mk name kind (properties.map (·.field))) else none),
    t.memberNames = properties.map (·.name) := by
  intro t made
  obtain ⟨-, same⟩ := Option.ite_none_right_eq_some.mp made
  cases same
  exact List.map_map

/-- Whether a member is for a property, with an annotation, and with events that are read once if the
property is. -/
structure Member.IsFor (member : Member) (p : Property) (written : String) : Prop where
  property : member.property = some p.name
  typeText : member.typeText = written
  single : member.eventKind = some .single ↔ p.single = true
  multi : member.eventKind = some .multi ↔ p.single = false

theorem Member.isFor {member : Member} {p : Property} {written : String}
    (property : member.property = some p.name) (typeText : member.typeText = written)
    (events : member.eventKind = some p.eventKind) : member.IsFor p written := by
  refine ⟨property, typeText, ?_, ?_⟩ <;> rw [events] <;> unfold Property.eventKind <;>
    cases p.single <;> decide

/-- Whether the types that are generated for properties agree with each other. -/
structure ArtifactSet.Agrees (a : ArtifactSet) (properties : List Property) : Prop where
  distinct : a.delegate.memberNames.Nodup
  includes : a.interface.members ⊆ a.delegate.members
  channels : List.Forall₂
    (fun p member => member.IsFor p ("StateChannel[Event[" ++ TypeText.write p.type ++ "]]"))
    properties (a.delegate.ofKind .channel)
  accessors : List.Forall₂
    (fun p member => member.IsFor p ("Observable[Event[" ++ TypeText.write p.type ++ "]]"))
    properties (a.delegate.ofKind .accessor)
  mutators : List.Forall₂ (fun p member => member.IsFor p (TypeText.write p.type))
    properties (a.delegate.ofKind .mutator)
  /-- The members of a snapshot are the fields that are restored, which are the persisted ones. -/
  restored : a.plan.restoredFields = (properties.filter (·.persisted)).map (·.name)
  snapshotNames : ∀ t ∈ a.snapshot, t.memberNames = a.plan.restoredFields
  /-- The members of an input are the fields that are taken from it, which are the supplied ones. -/
  supplied : a.plan.inputFields = (properties.filter (·.input)).map (·.name)
  inputNames : ∀ t ∈ a.input, t.memberNames = a.plan.inputFields
  snapshotType : a.snapshot.isSome = true ↔ ∃ p ∈ properties, p.persisted = true
  snapshotKey : a.snapshotKey.isSome = true ↔ ∃ p ∈ properties, p.persisted = true
  saving : ∀ member ∈ a.delegate.members,
    (member.name = "save_snapshot" ↔ member.kind = .saveSnapshot)
  interfaceSaves : "save_snapshot" ∈ a.interface.memberNames ↔ ∃ p ∈ properties, p.persisted = true
  delegateSaves : "save_snapshot" ∈ a.delegate.memberNames ↔ ∃ p ∈ properties, p.persisted = true
  source : "snapshot_source" ∈ a.plan.parameters ↔ ∃ p ∈ properties, p.persisted = true
  inputType : a.input.isSome = true ↔ ∃ p ∈ properties, p.input = true
  input : "state_input" ∈ a.plan.parameters ↔ ∃ p ∈ properties, p.input = true

/-- Each property has one member of a kind, in order, if the members of that kind are made of the
properties. -/
theorem Schema.forall₂_ofKind (s : Schema) {kind : MemberKind} {member : Property → Member}
    (written : Property → String) (own : s.delegateMembers kind = s.properties.map member)
    (each : ∀ p, (member p).IsFor p (written p)) :
    List.Forall₂ (fun p member => member.IsFor p (written p)) s.properties
      (s.delegate.ofKind kind) := by
  rw [ofKind_delegate, own, List.forall₂_map_right_iff]
  exact List.forall₂_same.mpr fun p _ => each p

/-- The types that are generated for properties of different names agree with each other. -/
theorem Schema.agrees_synthesize {properties : List Property} (definition : Definition)
    (distinct : (properties.map (·.name)).Nodup) :
    (classify properties definition).synthesize.Agrees properties where
  distinct := nodup_memberNames distinct
  includes := interface_subset
  channels := forall₂_ofKind (classify properties definition)
    (fun p => "StateChannel[Event[" ++ TypeText.write p.type ++ "]]") rfl fun _ => Member.isFor rfl rfl rfl
  accessors := forall₂_ofKind (classify properties definition)
    (fun p => "Observable[Event[" ++ TypeText.write p.type ++ "]]") rfl fun _ => Member.isFor rfl rfl rfl
  mutators := forall₂_ofKind (classify properties definition)
    (fun p => TypeText.write p.type) rfl fun _ => Member.isFor rfl rfl rfl
  restored := rfl
  snapshotNames := memberNames_of_fields
  supplied := rfl
  inputNames := memberNames_of_fields
  snapshotType := Option.isSome_ite.trans hasPersisted_iff
  snapshotKey := Option.isSome_ite.trans hasPersisted_iff
  saving := fun _ => name_eq_iff_of_mem
  interfaceSaves := (save_mem_names_iff interface_subset (List.subset_append_right _ _)).trans
    hasPersisted_iff
  delegateSaves := (save_mem_names_iff (List.Subset.refl _) (List.subset_append_right _ _)).trans
    hasPersisted_iff
  source := source_mem_parameters_iff.trans hasPersisted_iff
  inputType := Option.isSome_ite.trans hasInput_iff
  input := input_mem_parameters_iff.trans hasInput_iff

/-- A persisted property, and a supplied one that is read once. -/
def cityAndToast : List Property :=
  [{ name := "city", type := ⟨"builtins.str", false, []⟩, persisted := true },
    { name := "toast", type := ⟨"builtins.int", true, []⟩, single := true, input := true }]

theorem Schema.agrees_synthesize_cityAndToast : (cityAndToast.map (·.name)).Nodup ∧
    (classify cityAndToast ⟨"MainState", "app.state", none⟩).synthesize.Agrees cityAndToast :=
  ⟨by decide, agrees_synthesize _ (by decide)⟩

end StateContainer
