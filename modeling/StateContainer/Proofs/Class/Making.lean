/-
This file says that a record is what it was made of.

A class that was made a record class has a constructor with a parameter for each of its
fields. If a call with arguments by name gives an instance, each argument was bound once, to
the parameter of its name, and the field of this name was set to it and not set again.
-/

import StateContainer.Class.Declare
import StateContainer.Class.Instance
import StateContainer.Proofs.Except
import StateContainer.Proofs.OrderedMap

namespace StateContainer

open StateContainer.Class

/-! ### Binding arguments by name -/

namespace Hint

variable {α : Type} {h : Header} {given : List String} {bound after : Bound α}

/-- An argument by name is bound to a parameter that nothing is bound to yet, unless there is a
parameter for further arguments. -/
theorem Header.bindName_eq_ok {argument : String × α} (closed : h.hasKind .names = false)
    (binds : h.bindName given bound argument = .ok after) :
    h.parameters.any (·.takesName argument.1) = true ∧
      argument.1 ∉ bound.single.map (·.1) ∧
      after = { bound with single := bound.single ++ [argument] } := by
  obtain ⟨name, item⟩ := argument
  rw [bindName] at binds
  split at binds
  · next taken =>
    split at binds
    · cases binds
    · next unbound =>
      cases binds
      refine ⟨taken, fun member => unbound ?_, rfl⟩
      obtain ⟨entry, inside, same⟩ := List.mem_map.mp member
      exact List.any_eq_true.mpr ⟨entry, inside, decide_eq_true same⟩
  · rw [closed, if_neg Bool.false_ne_true] at binds
    split at binds <;> cases binds

theorem Header.foldlM_bindName_eq_ok {named : List (String × α)} (closed : h.hasKind .names = false)
    (binds : named.foldlM (h.bindName given) bound = .ok after)
    (distinct : (bound.single.map (·.1)).Nodup) :
    after.single = bound.single ++ named ∧ (after.single.map (·.1)).Nodup ∧
      ∀ argument ∈ named, h.parameters.any (·.takesName argument.1) = true := by
  induction named generalizing bound with
  | nil =>
    cases binds
    exact ⟨(List.append_nil _).symm, distinct, fun _ => nofun⟩
  | cons argument others inductionHypothesis =>
    rw [List.foldlM_cons] at binds
    obtain ⟨middle, first, binds⟩ := exists_of_bind_eq_ok binds
    obtain ⟨takes, fresh, rfl⟩ := bindName_eq_ok closed first
    have stillDistinct : ((bound.single ++ [argument]).map (·.1)).Nodup := by
      rw [List.map_append, List.map_singleton]
      exact List.nodup_append.mpr ⟨distinct, List.nodup_singleton _, fun _ member _ single same =>
        fresh (List.mem_singleton.mp single ▸ same ▸ member)⟩
    obtain ⟨added, distinct, taken⟩ := inductionHypothesis binds stillDistinct
    refine ⟨?_, distinct, List.forall_mem_cons.mpr ⟨takes, taken⟩⟩
    rw [added, List.append_assoc, List.singleton_append]

theorem unbound_eq_nil_iff {parameters : List Parameter} : unbound parameters bound = [] ↔
    ∀ parameter ∈ parameters, parameter.hasDefault = false →
      parameter.name ∈ bound.single.map (·.1) := by
  have found (name : String) : bound.single.any (·.1 = name) = true ↔
      name ∈ bound.single.map (·.1) := by
    rw [List.any_eq_true, List.mem_map]
    exact exists_congr fun entry => and_congr_right fun _ => decide_eq_true_iff
  rw [unbound, List.map_eq_nil_iff, List.filter_eq_nil_iff]
  refine forall₂_congr fun parameter _ => ?_
  rw [← found, Bool.and_eq_true, not_and, Bool.not_eq_true', Bool.not_eq_true', Bool.not_eq_false]

/-- Binding the arguments of a call adds those by name to those by position, and then no parameter
lacks an argument. -/
theorem Header.bind_eq_ok {arguments : List α} {named : List (String × α)} {bound : Bound α}
    (closed : h.hasKind .names = false) (binds : h.bind arguments named = .ok bound)
    (distinct : (((h.positional.map (·.name)).zip arguments).map (·.1)).Nodup) :
    bound.single = (h.positional.map (·.name)).zip arguments ++ named ∧
      (bound.single.map (·.1)).Nodup ∧
      (∀ argument ∈ named, h.parameters.any (·.takesName argument.1) = true) ∧
      unbound h.positional bound = [] ∧ unbound h.named bound = [] := by
  rw [bind] at binds
  obtain ⟨middle, folding, binds⟩ := exists_of_bind_eq_ok binds
  -- The checks that follow leave what was bound.
  have same : middle = bound ∧ unbound h.positional middle = [] ∧ unbound h.named middle = [] := by
    dsimp only at binds
    split at binds
    · obtain ⟨_, failed, -⟩ := exists_of_bind_eq_ok binds
      cases failed
    · split at binds
      · next positional =>
        split at binds
        · next byName =>
          cases binds
          exact ⟨rfl, positional, byName⟩
        · cases binds
      · obtain ⟨_, failed, -⟩ := exists_of_bind_eq_ok binds
        cases failed
  obtain ⟨rfl, positional, byName⟩ := same
  obtain ⟨single, distinct, takes⟩ := foldlM_bindName_eq_ok closed folding distinct
  exact ⟨single, distinct, takes, positional, byName⟩

end Hint

/-! ### Constructors of records -/

/-- The parameters are those of the fields of the constructor. -/
theorem mem_formalsOf {fields : List Field} {formal : Formal} : formal ∈ formalsOf fields ↔
    ∃ field ∈ fields, field.inConstructor = true ∧
      formal = formalOf (if field.byName then .name else .either) field := by
  rw [formalsOf]
  constructor
  · intro member
    rcases List.mem_append.mp member with member | member
    · obtain ⟨field, inside, rfl⟩ := List.mem_map.mp member
      obtain ⟨inside, either⟩ := List.mem_filter.mp inside
      obtain ⟨inside, taken⟩ := List.mem_filter.mp inside
      rw [Bool.not_eq_true'] at either
      exact ⟨field, inside, taken, by rw [either]; rfl⟩
    · obtain ⟨field, inside, rfl⟩ := List.mem_map.mp member
      obtain ⟨inside, byName⟩ := List.mem_filter.mp inside
      obtain ⟨inside, taken⟩ := List.mem_filter.mp inside
      exact ⟨field, inside, taken, by rw [byName]; rfl⟩
  · rintro ⟨field, inside, taken, rfl⟩
    have given := List.mem_filter.mpr ⟨inside, taken⟩
    cases kind : field.byName with
    | false =>
      have either : (!field.byName) = true := by rw [kind]; rfl
      exact List.mem_append_left _ (List.mem_map_of_mem (List.mem_filter.mpr ⟨given, either⟩))
    | true =>
      exact List.mem_append_right _ (List.mem_map_of_mem (List.mem_filter.mpr ⟨given, kind⟩))

/-- The name of the parameter that takes the instance. -/
def receiverName (fields : List Field) : String :=
  if fields.any (·.name = "self") then "__dataclass_self__" else "self"

section
variable {c : ClassInfo} {fields : List Field}

/-- The parameter for the instance, and those of fields. -/
theorem parameters_constructorOf : (constructorOf c fields).header.parameters =
    { name := receiverName fields } :: (formalsOf fields).map Formal.parameter := rfl

/-- The constructor that is made from fields has no parameters but those of fields that it takes,
and the one for the instance. -/
theorem exists_field_of_takesName {name : String}
    (takes : (constructorOf c fields).header.parameters.any (·.takesName name) = true) :
    receiverName fields = name ∨ ∃ field ∈ fields, field.name = name ∧ field.inConstructor = true := by
  obtain ⟨parameter, member, takes⟩ := List.any_eq_true.mp takes
  have named : parameter.name = name := by
    rw [Hint.Parameter.takesName, Bool.and_eq_true, decide_eq_true_eq] at takes
    exact takes.1
  rw [parameters_constructorOf] at member
  rcases List.mem_cons.mp member with rfl | inside
  · exact Or.inl named
  · obtain ⟨formal, there, rfl⟩ := List.mem_map.mp inside
    obtain ⟨field, own, taken, rfl⟩ := mem_formalsOf.mp there
    exact Or.inr ⟨field, own, named, taken⟩

theorem takesName_of_mem {field : Field} (member : field ∈ fields) (taken : field.inConstructor = true) :
    (constructorOf c fields).header.parameters.any (·.takesName field.name) = true := by
  rw [parameters_constructorOf]
  refine List.any_eq_true.mpr ⟨_, List.mem_cons_of_mem _ (List.mem_map_of_mem
    (mem_formalsOf.mpr ⟨field, member, taken, rfl⟩)), ?_⟩
  cases kind : field.byName <;> simp [Hint.Parameter.takesName, Formal.parameter, formalOf]

/-- No parameter takes further arguments by name. -/
theorem hasKind_names_constructorOf : (constructorOf c fields).header.hasKind .names = false := by
  rw [Hint.Header.hasKind, List.any_eq_false, parameters_constructorOf]
  intro parameter member
  rcases List.mem_cons.mp member with rfl | inside
  · exact Bool.false_ne_true
  · obtain ⟨formal, there, rfl⟩ := List.mem_map.mp inside
    obtain ⟨field, -, -, rfl⟩ := mem_formalsOf.mp there
    cases kind : field.byName <;> simp [Formal.parameter, formalOf]

/-- The parameter for the instance is the first by position. -/
theorem positional_constructorOf (c : ClassInfo) (fields : List Field) : ∃ others,
    (constructorOf c fields).header.positional = { name := receiverName fields } :: others ∧
      ∀ field ∈ fields, field.inConstructor = true → field.byName = false →
        (formalOf .either field).parameter ∈ others := by
  refine ⟨_, rfl, fun field member taken either => List.mem_filter.mpr ⟨?_, rfl⟩⟩
  exact List.mem_map_of_mem (mem_formalsOf.mpr ⟨field, member, taken, by rw [either]; rfl⟩)

theorem mem_named_constructorOf {field : Field} (member : field ∈ fields)
    (taken : field.inConstructor = true) (byName : field.byName = true) :
    (formalOf .name field).parameter ∈ (constructorOf c fields).header.named := by
  refine List.mem_filter.mpr ⟨?_, rfl⟩
  rw [parameters_constructorOf]
  exact List.mem_cons_of_mem _ (List.mem_map_of_mem
    (mem_formalsOf.mpr ⟨field, member, taken, by rw [byName]; rfl⟩))

/-- If a call with arguments by name binds them, nothing else is bound, each is the argument of a
field, and no field without a default lacks one. -/
theorem bind_constructorOf_eq_ok {α : Type} {named bound : List (String × α)}
    (binds : (constructorOf c fields).bind [] named = .ok bound) :
    bound = named ∧ (named.map (·.1)).Nodup ∧
      (∀ argument ∈ named, ∃ field ∈ fields, field.name = argument.1 ∧ field.inConstructor = true) ∧
      ∀ field ∈ fields, field.inConstructor = true → field.hasDefault = false →
        field.name = receiverName fields ∨ field.name ∈ named.map (·.1) := by
  rw [Constructor.bind] at binds
  obtain ⟨all, binds, answered⟩ := exists_of_bind_eq_ok binds
  obtain ⟨others, positional, either⟩ := positional_constructorOf c fields
  have first : (((constructorOf c fields).header.positional.map (·.name)).zip
      [(none : Option α)]) = [(receiverName fields, none)] := by
    rw [positional, List.map_cons, List.zip_cons_cons, List.zip_nil_right]
  obtain ⟨single, distinct, takes, bound', byName⟩ := Hint.Header.bind_eq_ok
    hasKind_names_constructorOf binds (by
      rw [List.map_nil, first]
      exact List.nodup_singleton _)
  rw [List.map_nil, first, List.singleton_append] at single
  have names : all.single.map (·.1) = receiverName fields :: named.map (·.1) := by
    rw [single, List.map_cons, List.map_map]
    rfl
  rw [names] at distinct
  obtain ⟨apart, distinct⟩ := List.nodup_cons.mp distinct
  cases answered
  refine ⟨?_, distinct, fun argument member => ?_, fun field member taken lacks => ?_⟩
  · rw [single, List.filterMap_cons, List.filterMap_map]
    exact List.filterMap_some
  · refine (exists_field_of_takesName (takes _ (List.mem_map_of_mem member))).resolve_left ?_
    exact fun same => apart (same ▸ List.mem_map_of_mem member)
  · rw [← List.mem_cons, ← names]
    cases kind : field.byName with
    | false =>
      exact Hint.unbound_eq_nil_iff.mp bound' _
        (positional ▸ List.mem_cons_of_mem _ (either field member taken kind)) lacks
    | true =>
      exact Hint.unbound_eq_nil_iff.mp byName _ (mem_named_constructorOf member taken kind) lacks

end

/-! ### Setting fields -/

namespace Instance

variable {i after : Instance} {name : String} {value : Value} {frozen : Bool}

theorem set_eq_ok (sets : i.set name value = .ok after) :
    after = { i with values := i.values.insert name value } := by
  rw [set] at sets
  split at sets
  · cases sets
  · split at sets
    · cases sets
      rfl
    · split at sets
      · cases sets
        rfl
      · cases sets
      · cases sets

/-- Whatever the class is, a field that is started has its value, and nothing else changes. -/
theorem start_eq_ok (starts : i.start frozen name value = .ok after) :
    after = { i with values := i.values.insert name value } := by
  rw [start] at starts
  split at starts
  · cases starts
    rfl
  · exact set_eq_ok starts

/-- Going through fields gives each of them its first value, if it has one. -/
theorem foldlM_start_eq_ok {fields : List Field} {first : Field → Option Value}
    (starts : fields.foldlM (fun i field =>
      match first field with
      | some value => i.start frozen field.name value
      | none => .ok i) i = .ok after)
    (distinct : (fields.map (·.name)).Nodup) :
    after.ofClass = i.ofClass ∧
      (∀ name ∉ fields.map (·.name), after.values.get? name = i.values.get? name) ∧
      ∀ field ∈ fields, after.values.get? field.name =
        (first field).or (i.values.get? field.name) := by
  induction fields generalizing i with
  | nil =>
    cases starts
    exact ⟨rfl, fun _ _ => rfl, fun _ => nofun⟩
  | cons field others inductionHypothesis =>
    rw [List.map_cons] at distinct
    obtain ⟨fresh, distinct⟩ := List.nodup_cons.mp distinct
    rw [List.foldlM_cons] at starts
    obtain ⟨middle, own, starts⟩ := exists_of_bind_eq_ok starts
    obtain ⟨ofClass, unchanged, each⟩ := inductionHypothesis starts distinct
    have step : middle.ofClass = i.ofClass ∧
        (∀ name ≠ field.name, middle.values.get? name = i.values.get? name) ∧
        middle.values.get? field.name = (first field).or (i.values.get? field.name) := by
      cases given : first field with
      | none =>
        rw [given] at own
        cases own
        exact ⟨rfl, fun _ _ => rfl, rfl⟩
      | some value =>
        rw [given] at own
        obtain rfl := start_eq_ok own
        exact ⟨rfl, fun name => OrderedMap.get?_insert_of_ne _ value,
          OrderedMap.get?_insert_self _ _ _⟩
    obtain ⟨same, elsewhere, here⟩ := step
    refine ⟨ofClass.trans same, fun name absent => ?_, List.forall_mem_cons.mpr ⟨?_, fun other member => ?_⟩⟩
    · rw [List.map_cons, List.mem_cons, not_or] at absent
      rw [unchanged name absent.2, elsewhere name absent.1]
    · rw [unchanged _ fresh, here]
    · have differs : other.name ≠ field.name :=
        fun same => fresh (same ▸ List.mem_map_of_mem member)
      rw [each other member, elsewhere _ differs]

end Instance

/-! ### Instances -/

/-- Whether the instances of a class are made from its fields: the constructor is the one that was
made for the record class, and no two fields have the same name. -/
structure ClassInfo.MadeFromFields (c : ClassInfo) (record : RecordInfo) : Prop where
  constructor : ∃ owner named, c.constructor? = some (owner, constructorOf named record.fields) ∧
    owner.constructorIsWritten = false ∧ owner.ownRecord = some record
  distinct : (record.fields.map (·.name)).Nodup

/-- What is paired with a name is found under it if it is the only one. -/
theorem lookup_eq_some_of_mem {α : Type} {pairs : List (String × α)} {name : String} {value : α}
    (distinct : (pairs.map (·.1)).Nodup) (member : (name, value) ∈ pairs) :
    pairs.lookup name = some value := by
  induction pairs with
  | nil => cases member
  | cons pair others inductionHypothesis =>
    obtain ⟨apart, distinct⟩ := List.nodup_cons.mp distinct
    rcases List.mem_cons.mp member with rfl | later
    · exact List.lookup_cons_self
    · have differ : (name == pair.1) = false := by
        rw [beq_eq_false_iff_ne]
        rintro rfl
        exact apart (List.mem_map.mpr ⟨_, later, rfl⟩)
      rw [List.lookup_cons, differ]
      exact inductionHypothesis distinct later

/-- An instance has the values that it was made of. -/
theorem ClassInfo.MadeFromFields.get_of_make {c : ClassInfo} {record : RecordInfo}
    (fromFields : c.MadeFromFields record) {named : List (String × Value)} {made : Instance}
    (makes : Instance.make c [] named = .ok made) {name : String} {value : Value}
    (given : (name, value) ∈ named) : made.get name = .ok value := by
  obtain ⟨owner, kind, constructor, unwritten, ownRecord⟩ := fromFields.constructor
  rw [Instance.make, constructor] at makes
  obtain ⟨bound, binds, sets⟩ := exists_of_bind_eq_ok makes
  obtain ⟨rfl, distinct, known, -⟩ := bind_constructorOf_eq_ok (mapError_eq_ok_iff.mp binds)
  rw [unwritten, if_neg Bool.false_ne_true, ownRecord] at sets
  obtain ⟨-, -, each⟩ := Instance.foldlM_start_eq_ok sets fromFields.distinct
  obtain ⟨field, member, rfl, taken⟩ := known _ given
  have looked : bound.lookup field.name = some value := lookup_eq_some_of_mem distinct given
  have started : Instance.initialValue? record.slotted bound field = some value := by
    rw [Instance.initialValue?, if_pos taken, looked]
    rfl
  rw [Instance.get, each field member, started]
  rfl

end StateContainer
