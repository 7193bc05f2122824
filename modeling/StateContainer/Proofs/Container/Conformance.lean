/-
This file proves that what a generated class of snapshots reads conforms to the declared types of
its fields.

The annotations of such a class are texts, which are resolved before anything is checked. Every
value that ends up in a snapshot has been checked by the rule of its field, and then converted by
the type of the field; the two together hold it to the declaration.
-/

import StateContainer.Proofs.Container.Loading
import StateContainer.Proofs.Snapshot.Rules
import StateContainer.Proofs.Snapshot.Enforcement

namespace StateContainer

open StateContainer.Class Snapshot

namespace SnapshotClass

variable {s : SnapshotClass} {declared : List FieldDeclaration}

/-- What is taken as an error of the text makes no result. -/
theorem ofFault_eq_ok {α : Type} {step : Except Hint.Fault α} {made : α}
    (succeeds : s.ofFault step = .ok made) : step = .ok made := by
  cases step with
  | ok result =>
    cases succeeds
    rfl
  | error fault =>
    rw [ofFault] at succeeds
    split at succeeds <;> cases succeeds

/-! ### Checked values -/

/-- Where the fields are declared by texts and without defaults, their rules are those of their
declarations. -/
theorem exists_of_mem_rules (texts : ∀ field ∈ s.fields, isText field.type = true)
    (resolved : s.resolvedTypes.value s.surroundings.memory = .ok (declared.map (·.hint)))
    (plain : ∀ field ∈ s.fields, field.default = none ∧ field.factory = none)
    {rules : List (String × FieldRule)} (made : s.rules = .ok rules) {rule : String × FieldRule}
    (member : rule ∈ rules) :
    ∃ pair ∈ s.fields.zip declared, rule = (pair.1.name, { rule := pair.2.rule, required := true }) := by
  have checked : s.ofEvaluation s.checkedTypes = .ok (declared.map (·.hint)) := by
    rw [ofEvaluation, checkedTypes_eq_of_texts texts resolved, ofFault]
  rw [SnapshotClass.rules, checked] at made
  obtain ⟨_, -, made⟩ := exists_of_bind_eq_ok made
  obtain ⟨types, same, made⟩ := exists_of_bind_eq_ok made
  cases same
  obtain ⟨_, -, made⟩ := exists_of_bind_eq_ok made
  obtain ⟨_, -, made⟩ := exists_of_bind_eq_ok made
  obtain ⟨named, each, made⟩ := exists_of_bind_eq_ok made
  cases made
  obtain ⟨own, inside, found⟩ := List.mem_filterMap.mp member
  obtain ⟨typed, paired, step⟩ := exists_of_mem_mapM each inside
  rw [List.zip_map_right] at paired
  obtain ⟨pair, among, rfl⟩ := List.mem_map.mp paired
  obtain ⟨noDefault, noFactory⟩ := plain pair.1 (List.of_mem_zip among).1
  obtain ⟨rule?, rules, step⟩ := exists_of_bind_eq_ok step
  dsimp only [Prod.map, id] at rules
  rw [pair.2.fieldRule?_hint noDefault noFactory] at rules
  cases rules
  cases step
  cases found
  exact ⟨pair, among, rfl⟩

/-- Every value that is left after the check of all fields has passed the rule of its field. -/
theorem exists_of_checkFields {entries : List (String × Value)} {rules : List (String × FieldRule)}
    {values : List (String × Value)} {complaints : List (Value × Complaint)}
    (checked : checkFields entries rules = .ok (values, complaints)) {entry : String × Value}
    (member : entry ∈ values) :
    ∃ rule ∈ rules, rule.1 = entry.1 ∧ ∃ given, (entry.1, given) ∈ entries ∧
      checkValue rule.2.rule given = .ok entry.2 := by
  induction rules generalizing values complaints with
  | nil =>
    cases checked
    cases member
  | cons first others inductionHypothesis =>
    have behind {values complaints} (later : checkFields entries others = .ok (values, complaints))
        (member : entry ∈ values) :
        ∃ rule ∈ first :: others, rule.1 = entry.1 ∧ ∃ given, (entry.1, given) ∈ entries ∧
          checkValue rule.2.rule given = .ok entry.2 := by
      obtain ⟨rule, inside, found⟩ := inductionHypothesis later member
      exact ⟨rule, List.mem_cons_of_mem _ inside, found⟩
    rw [checkFields] at checked
    split at checked
    · cases checked
    · obtain ⟨rest, later, checked⟩ := exists_of_bind_eq_ok checked
      cases checked
      exact behind later member
    · exact behind checked member
    · next value passed =>
      obtain ⟨rest, later, checked⟩ := exists_of_bind_eq_ok checked
      cases checked
      rcases List.mem_cons.mp member with rfl | member
      · refine ⟨first, List.mem_cons_self, rfl, ?_⟩
        rw [checkField] at passed
        split at passed
        · split at passed <;> cases passed
        · next given found =>
          refine ⟨given, mem_of_lookup_eq_some found, ?_⟩
          cases checks : checkValue first.2.rule given with
          | error refusal => rw [checks] at passed; cases passed
          | ok made => rw [checks] at passed; cases passed; rfl
      · exact behind later member

/-- Whether a value has passed the rule of a field of some name. -/
def HasPassed (s : SnapshotClass) (declared : List FieldDeclaration) (entry : String × Value) : Prop :=
  ∃ pair ∈ s.fields.zip declared, pair.1.name = entry.1 ∧
    ∃ given : Value, given.IsStored ∧ checkValue pair.2.rule given = .ok entry.2

theorem hasPassed_of_checked (texts : ∀ field ∈ s.fields, isText field.type = true)
    (resolved : s.resolvedTypes.value s.surroundings.memory = .ok (declared.map (·.hint)))
    (plain : ∀ field ∈ s.fields, field.default = none ∧ field.factory = none)
    {entries values : List (String × Value)} (stored : ∀ entry ∈ entries, entry.2.IsStored)
    (checked : s.checked entries = .ok values) : ∀ entry ∈ values, s.HasPassed declared entry := by
  intro entry member
  rw [SnapshotClass.checked] at checked
  obtain ⟨rules, made, checked⟩ := exists_of_bind_eq_ok checked
  obtain ⟨⟨left, complaints⟩, passed, checked⟩ := exists_of_bind_eq_ok checked
  dsimp only at checked
  split at checked
  · cases checked
    obtain ⟨rule, inside, name, given, among, passed⟩ := exists_of_checkFields (ofFault_eq_ok passed) member
    obtain ⟨pair, paired, rfl⟩ := exists_of_mem_rules texts resolved plain made inside
    exact ⟨pair, paired, name, given, stored _ among, passed⟩
  · cases checked

/-! ### Converted values -/

/-- Every field of the constructor is given a value that conforms to its declaration. -/
theorem exists_of_converted (distinct : (s.fields.map (·.name)).Nodup)
    (resolved : s.resolvedTypes.value s.surroundings.memory = .ok (declared.map (·.hint)))
    (plain : ∀ field ∈ s.fields, field.default = none ∧ field.factory = none)
    {values given : List (String × Value)} (passed : ∀ entry ∈ values, s.HasPassed declared entry)
    (converts : s.converted values = .ok given) :
    ∀ pair ∈ s.fields.zip declared, pair.1.inConstructor = true →
      ∃ v, (pair.1.name, v) ∈ given ∧ pair.2.Admits v := by
  intro pair member taken
  have length : s.fields.length ≤ declared.length := by
    rw [← length_eq_of_resolved resolved, List.length_map]
  have types : s.ofEvaluation s.resolvedTypes = .ok (declared.map (·.hint)) := by
    rw [ofEvaluation, resolved, ofFault]
  rw [converted, types] at converts
  have inside : (pair.1, pair.2.hint) ∈
      (s.fields.zip (declared.map (·.hint))).filter (·.1.inConstructor) := by
    rw [List.mem_filter, List.zip_map_right]
    exact ⟨List.mem_map_of_mem member, taken⟩
  obtain ⟨entry, among, step⟩ := exists_mem_of_mapM converts inside
  obtain ⟨noDefault, noFactory⟩ := plain pair.1 (List.of_mem_zip member).1
  have required : pair.1.defaultValue? = none := by
    rw [Field.defaultValue?, noDefault, noFactory]
    rfl
  dsimp only at step
  rw [required, Option.or_none] at step
  split at step
  · next value found =>
    -- The value under the name of the field has passed the rule of this very field.
    obtain ⟨other, paired, same, read, stored, checked⟩ := passed _ (mem_of_lookup_eq_some found)
    obtain rfl := eq_of_mem_zip_of_name_eq length distinct paired member same
    obtain ⟨made, converted, step⟩ := exists_of_bind_eq_ok step
    cases step
    exact ⟨made, among, ((other.2.ensures_convertField stored checked) _).of_ok (ofFault_eq_ok converted)⟩
  · cases step

/-! ### Snapshots -/

variable {annotations : List (String × Hint)}

/-- Whatever text a generated class of snapshots reads, every field of the snapshot has a value that
conforms to the declared type of the field. -/
theorem admits_of_decode (known : s.info.IsSnapshotOf annotations)
    (distinct : (annotations.map (·.1)).Nodup)
    (texts : ∀ entry ∈ annotations, isText entry.2 = true)
    (resolved : s.resolvedTypes.value s.surroundings.memory = .ok (declared.map (·.hint)))
    (length : declared.length = annotations.length) (making : s.hidesMaking = false) {blob : Blob}
    {decoded : Decoded} (decodes : s.decode blob = .ok decoded) :
    ∃ snapshot, decoded = .snapshot snapshot ∧ ∀ pair ∈ annotations.zip declared,
      ∃ v, snapshot.get pair.1.1 = .ok v ∧ pair.2.Admits v := by
  obtain ⟨record, fromFields, -, -, annotated⟩ := Container.exists_record_of_isSnapshotOf known
    distinct resolved ((List.length_map _).trans length)
  have quoted : ∀ field ∈ s.fields, isText field.type = true := by
    intro field member
    obtain ⟨entry, inside, _, rfl⟩ := annotated.exists_of_mem member
    exact texts entry inside
  have plain : ∀ field ∈ s.fields, field.default = none ∧ field.factory = none := by
    intro field member
    obtain ⟨_, -, _, rfl⟩ := annotated.exists_of_mem member
    exact ⟨rfl, rfl⟩
  have names : (s.fields.map (·.name)).Nodup := by
    rw [annotated.map_name]
    exact distinct
  rw [decode, making] at decodes
  obtain ⟨_, -, decodes⟩ := exists_of_bind_eq_ok decodes
  split at decodes
  · cases decodes
  · next entries _ =>
    obtain ⟨values, checked, decodes⟩ := exists_of_bind_eq_ok decodes
    have stored : ∀ entry ∈ entries.map fun entry => (entry.1, Value.ofJson entry.2),
        entry.2.IsStored := by
      intro entry member
      obtain ⟨own, -, rfl⟩ := List.mem_map.mp member
      exact ⟨own.2, rfl⟩
    have passed := hasPassed_of_checked quoted resolved plain stored checked
    rw [if_neg Bool.false_ne_true] at decodes
    obtain ⟨given, converts, decodes⟩ := exists_of_bind_eq_ok decodes
    split at decodes
    · next snapshot makes =>
      cases decodes
      refine ⟨snapshot, rfl, fun pair member => ?_⟩
      obtain ⟨ofClass, paired⟩ := annotated.exists_of_mem_zip member
      obtain ⟨v, bound, admitted⟩ := exists_of_converted names resolved plain passed converts _ paired rfl
      exact ⟨v, fromFields.get_of_make makes bound, admitted⟩
    · cases decodes
  · cases decodes

/-- A stored list that fits is read as a list of integers or nulls. -/
theorem admits_of_fitting : ∃ c s snapshot v, Keeper.numbers.load = .ok c ∧
    c.snapshotClass = some s ∧ s.decode (.text Keeper.fitting) = .ok (.snapshot snapshot) ∧
    snapshot.get "x" = .ok v ∧ (DeclaredType.list (.scalar .integer) true).Admits v := by
  obtain ⟨c, s, loaded, known⟩ := Keeper.exists_isOf_numbers
  have reads : (Keeper.numbers.load.toOption.bind fun c => c.snapshotClass.map fun s =>
      (s.decode (.text Keeper.fitting)).toOption.isSome) = some true := by
    decide +kernel
  rw [loaded] at reads
  change c.snapshotClass.map _ = _ at reads
  rw [known.snapshotClass] at reads
  obtain ⟨decoded, decodes⟩ := Option.isSome_iff_exists.mp (Option.some.inj reads)
  have decodes := toOption_eq_some_iff.mp decodes
  obtain ⟨annotations, isSnapshot, names, length, texts⟩ := known.exists_isSnapshotOf
  have single : annotations.map (·.1) = ["x"] := names.trans (by decide +kernel)
  obtain ⟨⟨_, type⟩, others, rfl, rfl, none⟩ := List.map_eq_cons_iff.mp single
  obtain rfl := List.map_eq_nil_iff.mp none
  have resolved : s.resolvedTypes.value s.surroundings.memory =
      .ok ([FieldDeclaration.mk (.list (.scalar .integer) true) false ⟨trivial, trivial⟩].map (·.hint)) :=
    known.resolved
  obtain ⟨snapshot, same, conforms⟩ := admits_of_decode isSnapshot (by rw [single]; decide) texts
    resolved rfl known.making decodes
  obtain ⟨v, found, null | admitted⟩ := conforms _ List.mem_cons_self
  · cases null.1
  · exact ⟨c, s, snapshot, v, loaded, known.snapshotClass, same ▸ decodes, found, admitted⟩

/-! ### A union of two types -/

/-- A definition that keeps an integer or a text. -/
def variants : Keeper := { type := "int | str", default := some (.int 0) }

/-- A stored list in place of an integer or a text. -/
def misfit : String := "\x7b\"x\": [1]\x7d"

/-- The name of the class of what was read for the field. -/
def classOfRead : Except SnapshotError Decoded → Option String
  | .ok (.snapshot snapshot) => (snapshot.get "x").toOption.map Value.className
  | _ => none

theorem exists_of_classOfRead {reading : Except SnapshotError Decoded} {name : String}
    (named : classOfRead reading = some name) :
    ∃ snapshot v, reading = .ok (.snapshot snapshot) ∧ snapshot.get "x" = .ok v ∧ v.className = name := by
  unfold classOfRead at named
  split at named
  · next snapshot =>
    obtain ⟨v, found, named⟩ := Option.map_eq_some_iff.mp named
    exact ⟨snapshot, v, rfl, toOption_eq_some_iff.mp found, named⟩
  · cases named

/-- It is read as it is. -/
theorem exists_decode_of_misfit : ∃ c s snapshot v, variants.load = .ok c ∧
    c.snapshotClass = some s ∧ s.decode (.text misfit) = .ok (.snapshot snapshot) ∧
    snapshot.get "x" = .ok v ∧ ¬ScalarType.integer.Admits v ∧ ¬ScalarType.text.Admits v := by
  have reads : (variants.load.toOption.bind fun c => c.snapshotClass.map fun s =>
      classOfRead (s.decode (.text misfit))) = some (some "list") := by
    decide +kernel
  obtain ⟨c, loaded, reads⟩ := Option.bind_eq_some_iff.mp reads
  obtain ⟨s, snapshotClass, reads⟩ := Option.map_eq_some_iff.mp reads
  obtain ⟨snapshot, v, decodes, found, named⟩ := exists_of_classOfRead reads
  refine ⟨c, s, snapshot, v, toOption_eq_some_iff.mp loaded, snapshotClass, decodes, found, ?_, ?_⟩
  · rintro (⟨_, rfl⟩ | ⟨_, rfl⟩) <;> simp [Value.className] at named
  · rintro ⟨_, rfl⟩
    simp [Value.className] at named

end SnapshotClass

end StateContainer
