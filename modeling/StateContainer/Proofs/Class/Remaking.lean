/-
This file says that a record can be made anew with other values.

If arguments are given by name for exactly the fields of the constructor, they are bound. Whether
a field can be set does not depend on the value, so that an instance is made of them if one
was made at all, and it differs from the earlier one in these fields alone.
-/

import StateContainer.Proofs.Class.Making

namespace StateContainer

open StateContainer.Class

/-! ### Binding arguments by name -/

namespace Hint

variable {α : Type} {h : Header} {given : List String} {bound : Bound α}

/-- Arguments with names of their own that parameters take are bound one after the other. -/
theorem Header.foldlM_bindName_of_fresh {named : List (String × α)}
    (takes : ∀ argument ∈ named, h.parameters.any (·.takesName argument.1) = true)
    (fresh : ((bound.single ++ named).map (·.1)).Nodup) :
    named.foldlM (h.bindName given) bound = .ok { bound with single := bound.single ++ named } := by
  induction named generalizing bound with
  | nil =>
    rw [List.append_nil]
    rfl
  | cons argument others inductionHypothesis =>
    obtain ⟨here, later⟩ := List.forall_mem_cons.mp takes
    have unbound : ¬(bound.single.any (·.1 = argument.1)) = true := by
      intro found
      obtain ⟨entry, member, same⟩ := List.any_eq_true.mp found
      rw [List.map_append, List.nodup_append] at fresh
      exact fresh.2.2 _ (List.mem_map_of_mem member) _ (List.mem_map_of_mem List.mem_cons_self)
        (of_decide_eq_true same)
    have first : h.bindName given bound argument =
        .ok { bound with single := bound.single ++ [argument] } := by
      rw [bindName, if_pos here, if_neg unbound]
    have rest : others.foldlM (h.bindName given) { bound with single := bound.single ++ [argument] } =
        .ok { bound with single := bound.single ++ [argument] ++ others } :=
      inductionHypothesis later (by rwa [List.append_assoc])
    rw [List.foldlM_cons, first]
    exact rest.trans (by rw [List.append_assoc, List.singleton_append])

end Hint

/-! ### Constructors of records -/

section
variable {c : ClassInfo} {fields : List Field} {α : Type} {named : List (String × α)}

/-- Whether no field has the name that the parameter for the instance takes instead of the usual
one. -/
def LeavesReceiver (fields : List Field) : Prop :=
  ∀ field ∈ fields, field.name ≠ "__dataclass_self__"

theorem LeavesReceiver.ne_receiverName (leaves : LeavesReceiver fields) {field : Field}
    (member : field ∈ fields) : field.name ≠ receiverName fields := by
  rw [receiverName]
  split
  · exact leaves field member
  · next strange =>
    exact fun same => strange (List.any_eq_true.mpr ⟨field, member, decide_eq_true same⟩)

/-- What a constructor binds: the instance, and then arguments by name. -/
def boundByName (fields : List Field) (named : List (String × α)) : Hint.Bound (Option α) :=
  { single := (receiverName fields, none) :: named.map fun (name, a) => (name, some a) }

theorem names_boundByName :
    (boundByName fields named).single.map (·.1) = receiverName fields :: named.map (·.1) := by
  rw [boundByName, List.map_cons, List.map_map]
  rfl

/-- The arguments that are bound are those that were given: the instance is none. -/
theorem filterMap_boundByName :
    (boundByName fields named).single.filterMap (fun (name, a) => a.map (name, ·)) = named := by
  rw [boundByName, List.filterMap_cons, List.filterMap_map]
  exact List.filterMap_some

/-- Arguments by name for fields of the constructor are bound, if all that have no default are among
them. -/
theorem bind_constructorOf_of_whole (leaves : LeavesReceiver fields) (distinct : (named.map (·.1)).Nodup)
    (known : ∀ argument ∈ named, ∃ field ∈ fields, field.name = argument.1 ∧ field.inConstructor = true)
    (whole : ∀ field ∈ fields, field.inConstructor = true → field.hasDefault = false →
      field.name ∈ named.map (·.1)) :
    (constructorOf c fields).bind [] named = .ok named := by
  obtain ⟨others, positional, -⟩ := positional_constructorOf c fields
  have apart : receiverName fields ∉ named.map (·.1) := by
    intro member
    obtain ⟨argument, inside, same⟩ := List.mem_map.mp member
    obtain ⟨field, own, named, -⟩ := known argument inside
    exact leaves.ne_receiverName own (named.trans same)
  have takes : ∀ argument ∈ named.map fun (name, a) => (name, some a),
      (constructorOf c fields).header.parameters.any (·.takesName argument.1) = true := by
    intro argument member
    obtain ⟨own, inside, rfl⟩ := List.mem_map.mp member
    obtain ⟨field, there, named, taken⟩ := known own inside
    exact named ▸ takesName_of_mem there taken
  have folded : (named.map fun (name, a) => (name, some a)).foldlM
      ((constructorOf c fields).header.bindName ((named.map fun (name, a) => (name, some a)).map (·.1)))
      { single := [(receiverName fields, none)] } = .ok (boundByName fields named) := by
    refine Hint.Header.foldlM_bindName_of_fresh takes ?_
    show ((boundByName fields named).single.map (·.1)).Nodup
    rw [names_boundByName]
    exact List.nodup_cons.mpr ⟨apart, distinct⟩
  -- No parameter lacks an argument then.
  have nothing {parameters : List Hint.Parameter}
      (own : ∀ parameter ∈ parameters, parameter ∈ (constructorOf c fields).header.parameters) :
      Hint.unbound parameters (boundByName fields named) = [] := by
    refine Hint.unbound_eq_nil_iff.mpr fun parameter member lacks => ?_
    rw [names_boundByName]
    rcases List.mem_cons.mp (parameters_constructorOf ▸ own parameter member) with rfl | inside
    · exact List.mem_cons_self
    · obtain ⟨formal, there, rfl⟩ := List.mem_map.mp inside
      obtain ⟨field, here, taken, rfl⟩ := mem_formalsOf.mp there
      exact List.mem_cons_of_mem _ (whole field here taken lacks)
  have first : ((constructorOf c fields).header.positional.map (·.name)).zip [(none : Option α)] =
      [(receiverName fields, none)] := by
    rw [positional, List.map_cons, List.zip_cons_cons, List.zip_nil_right]
  have rest : [(none : Option α)].drop (constructorOf c fields).header.positional.length = [] := by
    rw [positional, List.length_cons, List.drop_succ_cons, List.drop_nil]
  have few : ¬(constructorOf c fields).header.positional.length < [(none : Option α)].length := by
    rw [positional, List.length_cons, List.length_singleton]
    omega
  have binds : (constructorOf c fields).header.bind [none] (named.map fun (name, a) => (name, some a)) =
      .ok (boundByName fields named) := by
    unfold Hint.Header.bind
    dsimp only
    rw [first, rest, folded, decide_eq_false few, Bool.false_and]
    refine bind_eq_of_eq_ok rfl ?_
    have positional := nothing fun parameter
      (member : parameter ∈ (constructorOf c fields).header.positional) =>
        List.mem_of_mem_filter member
    have byName := nothing fun parameter
      (member : parameter ∈ (constructorOf c fields).header.named) => List.mem_of_mem_filter member
    rw [if_neg Bool.false_ne_true, positional]
    dsimp only
    rw [byName]
    rfl
  rw [Constructor.bind, List.map_nil, binds]
  exact congrArg Except.ok filterMap_boundByName

end

/-! ### Setting fields -/

namespace Instance

variable {i j made : Instance} {name : String} {frozen : Bool}

/-- Whether a field can be set depends on the class alone. -/
theorem exists_set {first second : Value} (same : j.ofClass = i.ofClass)
    (sets : i.set name first = .ok made) : ∃ other, j.set name second = .ok other := by
  have refusal : j.refusal? name = i.refusal? name := by
    rw [refusal?, refusal?, same]
  rw [set] at sets ⊢
  rw [refusal, same]
  cases refused : i.refusal? name with
  | some error =>
    rw [refused] at sets
    cases sets
  | none =>
    rw [refused] at sets
    cases slotted : i.ofClass.isSlotted with
    | false => exact ⟨_, rfl⟩
    | true =>
      rw [slotted] at sets
      cases found : i.ofClass.attribute? name with
      | none =>
        rw [found] at sets
        cases sets
      | some kept =>
        rw [found] at sets
        cases kept with
        | slot => exact ⟨_, rfl⟩
        | _ => cases sets

theorem exists_start {first second : Value} (same : j.ofClass = i.ofClass)
    (starts : i.start frozen name first = .ok made) : ∃ other, j.start frozen name second = .ok other := by
  cases frozen with
  | true => exact ⟨_, rfl⟩
  | false => exact exists_set same starts

/-- Fields that could be set once can be set to any other values. -/
theorem exists_foldlM_start {fields : List Field} {first second : Field → Option Value}
    (given : ∀ field ∈ fields, (second field).isSome = (first field).isSome)
    (same : j.ofClass = i.ofClass)
    (starts : fields.foldlM (fun i field =>
      match first field with
      | some value => i.start frozen field.name value
      | none => .ok i) i = .ok made) :
    ∃ other, fields.foldlM (fun i field =>
      match second field with
      | some value => i.start frozen field.name value
      | none => .ok i) j = .ok other := by
  induction fields generalizing i j with
  | nil => exact ⟨j, rfl⟩
  | cons field others inductionHypothesis =>
    obtain ⟨here, later⟩ := List.forall_mem_cons.mp given
    rw [List.foldlM_cons] at starts
    obtain ⟨middle, own, starts⟩ := exists_of_bind_eq_ok starts
    rw [List.foldlM_cons]
    cases one : first field with
    | none =>
      rw [one] at here own
      cases own
      rw [Option.not_isSome_iff_eq_none.mp (Bool.eq_false_iff.mp here)]
      exact inductionHypothesis later same starts
    | some value =>
      rw [one] at here own
      obtain ⟨value', two⟩ := Option.isSome_iff_exists.mp here
      obtain ⟨next, begun⟩ : ∃ next, j.start frozen field.name value' = .ok next :=
        exists_start same own
      rw [two]
      show ∃ other, (j.start frozen field.name value' >>= _) = _
      rw [begun]
      refine inductionHypothesis later ?_ starts
      rw [start_eq_ok begun, start_eq_ok own]
      exact same

/-- If all fields of instances of a class can be set, an instance is made of any values. -/
theorem exists_ofFields {c : ClassInfo} {record : RecordInfo}
    (sets : ∀ i : Instance, i.ofClass = c → ∀ name value, ∃ j, i.start record.frozen name value = .ok j)
    (bound : List (String × Value)) : ∃ made, ofFields c record bound = .ok made := by
  refine exists_foldlM_eq_ok (·.ofClass = c) (fun i field own => ?_) record.fields rfl
  cases initialValue? record.slotted bound field with
  | none => exact ⟨i, rfl, own⟩
  | some value =>
    obtain ⟨j, started⟩ := sets i own field.name value
    refine ⟨j, started, ?_⟩
    rw [start_eq_ok started]
    exact own

end Instance

/-! ### First values -/

theorem isSome_defaultValue? (field : Field) : field.defaultValue?.isSome = field.hasDefault := by
  rw [Field.defaultValue?, Field.hasDefault]
  cases field.default <;> cases field.factory <;> rfl

theorem isSome_lookup_of_mem {α : Type} {pairs : List (String × α)} {name : String}
    (member : name ∈ pairs.map (·.1)) : (pairs.lookup name).isSome = true := by
  rw [Option.isSome_iff_ne_none, Ne, List.lookup_eq_none_iff]
  intro absent
  obtain ⟨pair, inside, rfl⟩ := List.mem_map.mp member
  exact absurd (absent pair inside) (by simp)

/-- A field of the constructor has a first value if it has an argument or a default. -/
theorem Instance.isSome_initialValue? {field : Field} (taken : field.inConstructor = true)
    (slotted : Bool) {bound : List (String × Value)}
    (given : field.hasDefault = false → field.name ∈ bound.map (·.1)) :
    (initialValue? slotted bound field).isSome = true := by
  rw [initialValue?, if_pos taken, Option.isSome_or, isSome_defaultValue?, Bool.or_eq_true]
  cases default : field.hasDefault with
  | true => exact Or.inr rfl
  | false => exact Or.inl (isSome_lookup_of_mem (given default))

/-! ### Instances -/

namespace ClassInfo.MadeFromFields

variable {c : ClassInfo} {record : RecordInfo} {named : List (String × Value)} {made : Instance}

/-- What making an instance of arguments by name comes to. -/
theorem make_eq (fromFields : c.MadeFromFields record) :
    ∃ named', ∀ named, Instance.make c [] named =
      ((constructorOf named' record.fields).bind [] named).mapError .binding >>=
        Instance.ofFields c record := by
  obtain ⟨owner, kind, constructor, unwritten, ownRecord⟩ := fromFields.constructor
  refine ⟨kind, fun named => ?_⟩
  rw [Instance.make, constructor]
  dsimp only
  rw [unwritten, ownRecord]
  rfl

theorem ofClass_of_make (fromFields : c.MadeFromFields record)
    (makes : Instance.make c [] named = .ok made) : made.ofClass = c := by
  obtain ⟨kind, make⟩ := fromFields.make_eq
  rw [make] at makes
  obtain ⟨bound, -, sets⟩ := exists_of_bind_eq_ok makes
  exact (Instance.foldlM_start_eq_ok sets fromFields.distinct).1

/-- What the fields of an instance have after it has been made. -/
theorem get?_of_make (fromFields : c.MadeFromFields record)
    (makes : Instance.make c [] named = .ok made) :
    (∀ name ∉ record.fields.map (·.name), made.values.get? name = none) ∧
      ∀ field ∈ record.fields,
        made.values.get? field.name = Instance.initialValue? record.slotted named field := by
  obtain ⟨kind, make⟩ := fromFields.make_eq
  rw [make] at makes
  obtain ⟨bound, binds, sets⟩ := exists_of_bind_eq_ok makes
  obtain ⟨rfl, -⟩ := bind_constructorOf_eq_ok (mapError_eq_ok_iff.mp binds)
  obtain ⟨-, elsewhere, each⟩ := Instance.foldlM_start_eq_ok sets fromFields.distinct
  exact ⟨elsewhere, fun field member => (each field member).trans Option.or_none⟩

/-- Where an instance could be made, no field without a default lacked an argument. -/
theorem mem_of_make (fromFields : c.MadeFromFields record) (leaves : LeavesReceiver record.fields)
    (makes : Instance.make c [] named = .ok made) {field : Field} (member : field ∈ record.fields)
    (taken : field.inConstructor = true) (lacks : field.hasDefault = false) :
    field.name ∈ named.map (·.1) := by
  obtain ⟨kind, make⟩ := fromFields.make_eq
  rw [make] at makes
  obtain ⟨bound, binds, -⟩ := exists_of_bind_eq_ok makes
  obtain ⟨-, -, -, whole⟩ := bind_constructorOf_eq_ok (mapError_eq_ok_iff.mp binds)
  exact (whole field member taken lacks).resolve_left (leaves.ne_receiverName member)

/-- The instance has a value for every field of the constructor. -/
theorem exists_get (fromFields : c.MadeFromFields record) (leaves : LeavesReceiver record.fields)
    (makes : Instance.make c [] named = .ok made) {field : Field} (member : field ∈ record.fields)
    (taken : field.inConstructor = true) : ∃ value, made.get field.name = .ok value := by
  obtain ⟨value, first⟩ := Option.isSome_iff_exists.mp
    (Instance.isSome_initialValue? taken record.slotted
      (fromFields.mem_of_make leaves makes member taken))
  refine ⟨value, ?_⟩
  rw [Instance.get, (fromFields.get?_of_make makes).2 field member, first]
  rfl

/-- Where an instance could be made, one can be made of other arguments, if all fields of the
constructor without a default are among them. -/
theorem exists_make (fromFields : c.MadeFromFields record) (leaves : LeavesReceiver record.fields)
    (makes : Instance.make c [] named = .ok made) {again : List (String × Value)}
    (distinct : (again.map (·.1)).Nodup)
    (known : ∀ argument ∈ again, ∃ field ∈ record.fields,
      field.name = argument.1 ∧ field.inConstructor = true)
    (whole : ∀ field ∈ record.fields, field.inConstructor = true → field.hasDefault = false →
      field.name ∈ again.map (·.1)) :
    ∃ remade, Instance.make c [] again = .ok remade := by
  -- A field of the constructor has a first value before and now; any other one has the same one.
  have given : ∀ field ∈ record.fields, (Instance.initialValue? record.slotted again field).isSome =
      (Instance.initialValue? record.slotted named field).isSome := by
    intro field member
    cases taken : field.inConstructor with
    | false =>
      rw [Instance.initialValue?, Instance.initialValue?, taken]
      rfl
    | true =>
      rw [Instance.isSome_initialValue? taken record.slotted (whole field member taken),
        Instance.isSome_initialValue? taken record.slotted
          (fromFields.mem_of_make leaves makes member taken)]
  obtain ⟨kind, make⟩ := fromFields.make_eq
  rw [make] at makes
  obtain ⟨bound, binds, sets⟩ := exists_of_bind_eq_ok makes
  obtain ⟨rfl, -⟩ := bind_constructorOf_eq_ok (mapError_eq_ok_iff.mp binds)
  obtain ⟨remade, setsAgain⟩ := Instance.exists_foldlM_start given rfl sets
  refine ⟨remade, ?_⟩
  rw [make, bind_constructorOf_of_whole leaves distinct known whole]
  exact setsAgain

/-- An instance that is made anew of arguments for all fields of the constructor is as before under
any other name. -/
theorem exists_remade (fromFields : c.MadeFromFields record) (leaves : LeavesReceiver record.fields)
    (makes : Instance.make c [] named = .ok made) {again : List (String × Value)}
    (distinct : (again.map (·.1)).Nodup)
    (known : ∀ argument ∈ again, ∃ field ∈ record.fields,
      field.name = argument.1 ∧ field.inConstructor = true)
    (whole : ∀ field ∈ record.fields, field.inConstructor = true → field.name ∈ again.map (·.1)) :
    ∃ remade, Instance.make c [] again = .ok remade ∧
      ∀ name ∉ again.map (·.1), remade.get name = made.get name := by
  obtain ⟨remade, makesAgain⟩ := fromFields.exists_make leaves makes distinct known
    fun field member taken _ => whole field member taken
  refine ⟨remade, makesAgain, fun name absent => ?_⟩
  obtain ⟨before, eachBefore⟩ := fromFields.get?_of_make makes
  obtain ⟨now, eachNow⟩ := fromFields.get?_of_make makesAgain
  have same : remade.values.get? name = made.values.get? name := by
    by_cases isField : name ∈ record.fields.map (·.name)
    · obtain ⟨field, member, rfl⟩ := List.mem_map.mp isField
      have out : field.inConstructor = false :=
        Bool.eq_false_iff.mpr fun taken => absent (whole field member taken)
      rw [eachNow field member, eachBefore field member, Instance.initialValue?,
        Instance.initialValue?, out]
      rfl
    · rw [now name isField, before name isField]
  rw [Instance.get, Instance.get, same, fromFields.ofClass_of_make makesAgain,
    fromFields.ofClass_of_make makes]

/-- A field that is given no value has its default. -/
theorem get_default_of_make (fromFields : c.MadeFromFields record)
    (leaves : LeavesReceiver record.fields) (makes : Instance.make c [] named = .ok made) {field : Field}
    (member : field ∈ record.fields) (taken : field.inConstructor = true)
    (absent : field.name ∉ named.map (·.1)) :
    ∃ value, field.defaultValue? = some value ∧ made.get field.name = .ok value := by
  obtain ⟨value, first⟩ := Option.isSome_iff_exists.mp
    (Instance.isSome_initialValue? taken record.slotted
      (fromFields.mem_of_make leaves makes member taken))
  have default : Instance.initialValue? record.slotted named field = field.defaultValue? := by
    have none : named.lookup field.name = none := by
      refine List.lookup_eq_none_iff.mpr fun pair inside => ?_
      rw [bne_iff_ne]
      exact fun same => absent (same ▸ List.mem_map_of_mem inside)
    rw [Instance.initialValue?, if_pos taken, none, Option.none_or]
  refine ⟨value, default ▸ first, ?_⟩
  rw [Instance.get, (fromFields.get?_of_make makes).2 field member, first]
  rfl

end ClassInfo.MadeFromFields

end StateContainer
