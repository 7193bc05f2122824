/-
This file says that the classes of a module are told apart.

A class that is declared gets an identity that no class of the module has: its edition is the
number of the classes that were declared at its path before. So the classes that are there
already are still found by their identities, and the new one is found by its own, whatever is
declared later. The classes that are declared one after the other at the top of a module are
all different.
-/

import StateContainer.Class.Module
import StateContainer.Proofs.Class.Building

namespace StateContainer

/-! ### Keys that stay -/

/-- No key is taken away, and none changes its place. -/
theorem OrderedMap.keys_sublist_insert {κ ν : Type} [DecidableEq κ] (m : OrderedMap κ ν) (key : κ)
    (value : ν) : m.keys.Sublist (m.insert key value).keys := by
  rw [keys, keys, insert]
  by_cases present : key ∈ m.entries.map (·.1)
  · rw [keys_bind_of_mem value present]
  · rw [bind_of_not_mem value present, List.map_append]
    exact List.sublist_append_left _ _

namespace Class

/-! ### Record classes -/

variable {surroundings : Surroundings} {options : RecordOptions} {c : ClassInfo} {id : Hint.ClassId}

/-- Whether a class has some identity. -/
def HasId (id : Hint.ClassId) (c : ClassInfo) : Prop :=
  c.id = id

theorem HasId.gives_settle (is : HasId id c) (own : List Field) :
    Gives (own.foldlM settleAttribute c) (HasId id) := by
  refine gives_foldlM is fun made is field _ => ?_
  unfold settleAttribute
  split
  · exact gives_pure is
  · split
    · exact gives_pure is
    · exact gives_throw _
  · exact gives_pure is

theorem HasId.asRecord (is : HasId id c) (own : List Field) : HasId id (asRecord options own c) := by
  unfold Class.asRecord
  dsimp only
  split <;> exact is

theorem HasId.gives_makeRecord (is : HasId id c) :
    Gives (makeRecord surroundings options c) (HasId id) := by
  refine (Class.gives_makeRecord (fun _ _ => gives_any _) fun own _ => is.gives_settle own).weaken ?_
  rintro _ ⟨own, bare, -, is, rfl⟩
  exact is.asRecord own

theorem HasId.gives_markState (is : HasId id c) (viewModel : ViewModel) :
    Gives (markState surroundings viewModel c) (HasId id) := by
  rw [markState]
  split
  · rw [pure_bind]
    exact gives_pure is
  · exact is.gives_makeRecord.bind fun made is => gives_pure is

theorem HasId.addNested (is : HasId id c) (inner : List ClassInfo) :
    HasId id (inner.foldl (fun (c : ClassInfo) nested =>
      { c with attributes := c.attributes.insert nested.name (.nested nested.id) }) c) := by
  induction inner generalizing c with
  | nil => exact is
  | cons first others inductionHypothesis => exact inductionHypothesis is

end Class

open StateContainer.Class

namespace ClassModule

variable {m next last : ClassModule} {c : ClassInfo} {id : Hint.ClassId}

/-! ### Classes on the way to a module -/

theorem gives_hasId_declareField {field : DeclaredField} (is : HasId id c) :
    Gives (m.declareField c field) (HasId id) :=
  gives_bind fun _ => gives_bind fun _ => gives_pure is

theorem gives_hasId_declareConstructor {declaration : Declaration} (is : HasId id c) :
    Gives (m.declareConstructor c declaration) (HasId id) := by
  rw [declareConstructor]
  split
  · exact gives_pure is
  · split
    · exact gives_pure is
    · split
      · exact gives_throw _
      · exact gives_bind fun formals => gives_pure is

theorem gives_hasId_markIfState {declaration : Declaration} {made : ClassInfo} (is : HasId id made) :
    Gives (match declaration.state with
      | some viewModel => do
        markState ⟨m.namesOf? c.id.moduleName⟩ (← m.declaredViewModel viewModel) made
      | none => return made) (HasId id) := by
  split
  · exact gives_bind fun viewModel => is.gives_markState viewModel
  · exact gives_pure is

theorem gives_hasId_finishClass {declaration : Declaration} (is : HasId id c) :
    Gives (m.finishClass declaration c) (HasId id) := by
  rw [finishClass]
  dsimp only
  split
  · exact is.gives_makeRecord.bind fun made is => gives_hasId_markIfState is
  · rw [pure_bind]
    exact gives_hasId_markIfState is

/-! ### Identities in use -/

/-- Whether the classes of a module are found by their identities, and have editions below the one
that is next at their paths. -/
structure IsNumbered (m : ClassModule) : Prop where
  keyed : ∀ {id c}, m.classOf? id = some c → c.id = id
  below : ∀ id ∈ m.classes.keys, id.edition < (m.nextId id.moduleName id.path).edition

/-- Whether a module has come out of another one by adding classes: those that were there are found
as before. -/
structure Grows (m next : ClassModule) : Prop where
  name : next.name = m.name
  keys : m.classes.keys.Sublist next.classes.keys
  same : ∀ id ∈ m.classes.keys, next.classOf? id = m.classOf? id
  numbered : next.IsNumbered

/-- Whether a module has come out of another one by declaring a class, among others. -/
structure Adds (m next : ClassModule) (c : ClassInfo) : Prop extends Grows m next where
  names : next.names = m.names
  fresh : c.id ∉ m.classes.keys
  found : next.classOf? c.id = some c

theorem IsNumbered.grows (numbered : m.IsNumbered) : m.Grows m :=
  ⟨rfl, .refl _, fun _ _ => rfl, numbered⟩

theorem Grows.trans (first : m.Grows next) (second : next.Grows last) : m.Grows last where
  name := second.name.trans first.name
  keys := first.keys.trans second.keys
  same id member := (second.same id (first.keys.subset member)).trans (first.same id member)
  numbered := second.numbered

/-- The binding of names has nothing to do with the classes. -/
theorem Grows.bind (grows : m.Grows next) (names : OrderedMap String Hint) :
    m.Grows { next with names } :=
  ⟨grows.name, grows.keys, grows.same, ⟨grows.numbered.keyed, grows.numbered.below⟩⟩

theorem IsNumbered.start (name : String) : IsNumbered { name } :=
  ⟨nofun, fun _ => nofun⟩

/-- The identity that is next at a path is in use nowhere, whatever the class of the class. -/
theorem IsNumbered.nextId_fresh (numbered : m.IsNumbered) (moduleName path metaName : String) :
    { m.nextId moduleName path with metaName } ∉ m.classes.keys :=
  fun member => Nat.lt_irrefl _ (numbered.below _ member)

theorem mem_keys_of_classOf? (found : m.classOf? id = some c) : id ∈ m.classes.keys := by
  by_contra absent
  exact nomatch (OrderedMap.get?_eq_none_iff.mpr absent).symm.trans found

/-- The more identities there are, the more editions there are at a path. -/
theorem edition_nextId_le (keys : m.classes.keys.Sublist next.classes.keys) (moduleName path : String) :
    (m.nextId moduleName path).edition ≤ (next.nextId moduleName path).edition :=
  (keys.filter _).length_le

/-- A new identity is one edition more at its path. -/
theorem edition_nextId_lt (keys : m.classes.keys.Sublist next.classes.keys)
    (fresh : id ∉ m.classes.keys) (here : id ∈ next.classes.keys) :
    (m.nextId id.moduleName id.path).edition < (next.nextId id.moduleName id.path).edition := by
  have sublist := keys.filter fun other : Hint.ClassId =>
    other.moduleName = id.moduleName && other.path = id.path
  refine Nat.lt_of_le_of_ne sublist.length_le fun same => fresh ?_
  have among : id ∈ next.classes.keys.filter fun other : Hint.ClassId =>
      other.moduleName = id.moduleName && other.path = id.path :=
    List.mem_filter.mpr ⟨here, by simp⟩
  rw [← sublist.eq_of_length same] at among
  exact List.mem_of_mem_filter among

/-- A class with an identity that was next when the classes inside of it had not been declared is
kept apart from those that were there by then. -/
theorem Grows.adds_keep (numbered : m.IsNumbered) (grows : m.Grows next) (names : next.names = m.names)
    {moduleName path metaName : String}
    (is : HasId { m.nextId moduleName path with metaName } c) : m.Adds (next.keep c) c := by
  have fresh : c.id ∉ m.classes.keys := is ▸ numbered.nextId_fresh moduleName path metaName
  have keys : m.classes.keys.Sublist (next.keep c).classes.keys :=
    grows.keys.trans (OrderedMap.keys_sublist_insert _ _ _)
  have here : c.id ∈ (next.keep c).classes.keys := OrderedMap.mem_keys_insert.mpr (Or.inr rfl)
  have found : (next.keep c).classOf? c.id = some c := OrderedMap.get?_insert_self _ _ _
  have others {id : Hint.ClassId} (differ : id ≠ c.id) : (next.keep c).classOf? id = next.classOf? id :=
    OrderedMap.get?_insert_of_ne _ _ differ
  refine ⟨⟨grows.name, keys, fun id member => ?_, ?_, fun id member => ?_⟩, names, fresh, found⟩
  · have differ : id ≠ c.id := fun same => fresh (same ▸ member)
    rw [others differ, grows.same id member]
  · intro id kept is
    by_cases same : id = c.id
    · rw [same] at is ⊢
      cases found.symm.trans is
      rfl
    · rw [others same] at is
      exact grows.numbered.keyed is
  · rcases OrderedMap.mem_keys_insert.mp member with before | rfl
    · exact Nat.lt_of_lt_of_le (grows.numbered.below id before)
        (edition_nextId_le (OrderedMap.keys_sublist_insert _ _ _) _ _)
    · -- Whatever was declared inside, the new identity counts beside those that were there at first.
      have edition : c.id.edition = (m.nextId c.id.moduleName c.id.path).edition := by
        rw [show c.id = _ from is]
        rfl
      rw [edition]
      exact edition_nextId_lt keys fresh here

/-! ### Declaring -/

theorem gives_adds_of_nested {outer name : String} {moduleName : Option String}
    {bases : List String} {fields : List DeclaredField} {constructor : Option String} {isModel : Bool}
    {nested : List Declaration} {record : Option RecordOptions} {state : Option DeclaredViewModel}
    {outside : List ClassInfo} (numbered : m.IsNumbered)
    (inside : Gives (m.declareNested (name ++ ".") nested) fun made =>
      m.Grows made.1 ∧ made.1.names = m.names) :
    Gives (m.declareClass outer
      ⟨name, moduleName, bases, fields, constructor, isModel, nested, record, state, outside⟩)
      fun made => m.Adds made.1 made.2 := by
  rw [declareClass]
  dsimp only
  have start : HasId (m.nextId (moduleName.getD m.name) (outer ++ name))
      { id := m.nextId (moduleName.getD m.name) (outer ++ name) } := rfl
  refine (gives_foldlM start fun _ is _ _ => gives_hasId_declareField is).bind fun withFields is => ?_
  refine (gives_hasId_declareConstructor is).bind fun own is => ?_
  refine gives_bind fun bases => gives_bind fun _ => gives_bind fun ancestors => gives_bind fun _ => ?_
  refine inside.bind fun made kept => ?_
  obtain ⟨next, inner⟩ := made
  obtain ⟨grows, names⟩ := kept
  have withMeta : HasId { m.nextId (moduleName.getD m.name) (outer ++ name) with
      metaName := metaNameOf bases }
      { own with id := { own.id with metaName := metaNameOf bases }, ancestors } := by
    rw [HasId] at is ⊢
    rw [is]
  exact (gives_hasId_finishClass (withMeta.addNested inner)).bind fun finished is =>
    gives_pure (grows.adds_keep numbered names is)

mutual

/-- A class that is declared comes to those of a module, with an identity of its own. -/
theorem gives_adds {m : ClassModule} (numbered : m.IsNumbered) (outer : String) :
    (declaration : Declaration) →
      Gives (m.declareClass outer declaration) fun made => m.Adds made.1 made.2
  | ⟨name, _, _, _, _, _, nested, _, _, _⟩ =>
    gives_adds_of_nested numbered (gives_grows numbered (name ++ ".") nested)

theorem gives_grows {m : ClassModule} (numbered : m.IsNumbered) (outer : String) :
    (declarations : List Declaration) →
      Gives (m.declareNested outer declarations) fun made =>
        m.Grows made.1 ∧ made.1.names = m.names
  | [] => by
    rw [declareNested]
    exact gives_pure ⟨numbered.grows, rfl⟩
  | first :: others => by
    rw [declareNested]
    exact (gives_adds numbered outer first).bind fun made adds =>
      (gives_grows adds.numbered outer others).bind fun last kept =>
        gives_pure ⟨adds.toGrows.trans kept.1, kept.2.trans adds.names⟩

end

end ClassModule

end StateContainer
