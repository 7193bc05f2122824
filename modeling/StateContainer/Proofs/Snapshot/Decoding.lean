/-
This file says how a stored text is read by a class of snapshots whose fields are of plain
types.

Whatever the text is, reading it gives a snapshot with a value for each field, or an error that
counts as one of the text. There is one exception: where a union stands inside of the type of a
field, the conversion of a number that is too large raises an overflow, which no one takes.
-/

import StateContainer.Proofs.Snapshot.Fit

namespace StateContainer

open Snapshot
open Hint (Fault IsData)
open Hint.Evaluation

namespace Snapshot

/-! ### Types of fields -/

/-- Whether the values of a field are of a plain type, or of a union of such types. -/
inductive IsFieldType (united : Prop) : Hint → Prop where
  | single {type : Hint} (plain : IsPlain united type)
      (single : ∀ bars members, type ≠ .union bars members) : IsFieldType united type
  | union (bars : Bool) {members : List Hint} (present : ∃ member ∈ members, member ≠ Hint.nullType)
      (parts : ∀ member ∈ members, member ≠ Hint.nullType → IsPlain united member) :
      IsFieldType united (.union bars members)

variable {united : Prop} {type : Hint}

/-- A union is plain itself where unions may stand inside. -/
theorem IsFieldType.isPlain (known : IsFieldType united type) : IsPlain True type := by
  cases known with
  | single plain _ => exact plain.mono fun _ => trivial
  | union bars present parts =>
    exact .union bars trivial present fun member inside differs =>
      (parts member inside differs).mono fun _ => trivial

/-- Whether a value is converted by a type, apart from faults of one kind. -/
def Converts (fault : Fault → Prop) (type : Hint) (made : Value) : Prop :=
  (SnapshotClass.convertField type made).Ensures (fun _ => True) fault

theorem converts_of_ensures {fault : Fault → Prop} {made : Value}
    (converts : (convert type (Hint.ofValue made)).Ensures IsData fault) :
    Converts fault type made := by
  unfold Converts SnapshotClass.convertField
  split
  · exact ensures_pure trivial
  · exact converts.bind fun _ _ => ensures_pure trivial

/-- Whether a rule lets only such values pass that are converted. -/
def Admits (rule : Rule) (converts : Value → Prop) : Prop :=
  ∀ value, EndsAs converts Refusal.IsTaken (checkValue rule value)

/-- The rule of a field is that of its type, of the other member of a union of it with null, or of
any other union. What passes it is converted by the type if no union stands inside. -/
theorem endsAs_ruleOf_fieldType (known : IsFieldType united type) (options : List String) :
    EndsAs (fun rule? => ∃ rule, rule? = some rule ∧
        Admits rule fun made => ¬united → Converts Fault.IsTaken type made)
      Fault.IsTaken (fieldType type >>= ruleOf options) := by
  have own {united' : Prop} {part : Hint} (plain : IsPlain united' part)
      (converts : ∀ made, (¬united' → Fits part made) → ¬united → Converts Fault.IsTaken type made) :
      EndsAs (fun rule? => ∃ rule, rule? = some rule ∧
          Admits rule fun made => ¬united → Converts Fault.IsTaken type made)
        Fault.IsTaken (ruleOf options part) := by
    refine (makesRule_ruleOf plain options).weaken ?_ fun _ => id
    rintro _ ⟨rule, rfl, checks⟩
    exact ⟨rule, rfl, fun value => (endsAs_checkValue checks value).weaken converts fun _ => id⟩
  cases known with
  | single plain single =>
    have same : fieldType type = .ok type := by
      unfold fieldType
      rw [admitsNull_eq_false plain single]
      rfl
    rw [same]
    exact own plain fun made fits single =>
      converts_of_ensures ((fits single).converts.weaken (fun _ data => data.1) fun _ => id)
  | @union bars members present parts =>
    have whole (differs : admitsNull (.union bars members) = true →
        ∀ first second, members ≠ [first, second]) :=
      own (IsFieldType.union bars present parts).isPlain fun made _ _ => converts_of_ensures
        (ensures_convert_union bars (Hint.isData_ofValue made) fun null first second pair =>
          absurd pair (differs null first second))
    unfold fieldType
    cases null : admitsNull (.union bars members) with
    | false => exact whole fun null' => absurd (null.symm.trans null') Bool.false_ne_true
    | true =>
      rw [Bool.not_true, if_neg Bool.false_ne_true]
      match members with
      | [first, second] =>
        show EndsAs _ _ ((if !first.isNullType then .ok first
          else if !second.isNullType then .ok second else .error (.outOfRange "list")) >>=
            ruleOf options)
        cases firstNull : first.isNullType with
        | false =>
          have plain := parts first List.mem_cons_self (ne_nullType firstNull)
          refine own plain fun made fits single => converts_of_ensures
            (ensures_convert_union bars (Hint.isData_ofValue made) fun _ member other pair => ?_)
          cases pair
          exact (fits single).converts.weaken (fun _ data => data.1) fun _ => id
        | true =>
          cases secondNull : second.isNullType with
          | false =>
            have plain := parts second (List.mem_cons_of_mem _ List.mem_cons_self)
              (ne_nullType secondNull)
            refine own plain fun made _ _ => converts_of_ensures
              (ensures_convert_union bars (Hint.isData_ofValue made) fun _ member other pair => ?_)
            cases pair
            rw [isNullType_iff.mp firstNull, convert_nullType]
            exact ensures_pure (Hint.isData_ofValue made)
          | true =>
            obtain ⟨member, inside, differs⟩ := present
            rcases List.mem_pair.mp inside with rfl | rfl
            · exact absurd (isNullType_iff.mp firstNull) differs
            · exact absurd (isNullType_iff.mp secondNull) differs
      | [] => exact whole fun _ _ _ => nofun
      | [only] => exact whole fun _ _ _ => nofun
      | first :: second :: third :: others => exact whole fun _ _ _ => nofun

/-- Of which kind a fault is that a conversion may end with: one of the stored text, or an overflow
if there is a union inside of the type. -/
def IsFaultOf (type : Hint) (fault : Fault) : Prop :=
  fault.IsTaken ∨ fault.IsOverflow ∧ ¬IsFieldType False type

/-- A field of such a type has a rule, or else its annotation is a fault of the stored text. -/
theorem endsAs_fieldRule? (known : IsFieldType True type) (field : Class.Field) :
    EndsAs (fun rule? => ∃ rule, rule? = some rule ∧ Admits rule.rule (Converts (IsFaultOf type) type))
      Fault.IsTaken (fieldRule? field type) := by
  have made (options : List String) :
      EndsAs (fun rule? => ∃ rule, rule? = some rule ∧ Admits rule (Converts (IsFaultOf type) type))
        Fault.IsTaken (fieldType type >>= ruleOf options) := by
    by_cases single : IsFieldType False type
    · refine (endsAs_ruleOf_fieldType single options).weaken ?_ fun _ => id
      rintro _ ⟨rule, rfl, admits⟩
      exact ⟨rule, rfl, fun value => (admits value).weaken
        (fun _ converts => (converts id).weaken (fun _ => id) fun _ => Or.inl) fun _ => id⟩
    · refine (endsAs_ruleOf_fieldType known options).weaken ?_ fun _ => id
      rintro _ ⟨rule, rfl, admits⟩
      refine ⟨rule, rfl, fun value => (admits value).weaken (fun made _ => ?_) fun _ => id⟩
      exact converts_of_ensures ((ensures_convert known.isPlain (Hint.isData_ofValue made)).weaken
        (fun _ => id) fun _ usual => usual.imp id fun overflow => ⟨overflow, single⟩)
  unfold fieldRule?
  dsimp only
  rw [← bind_assoc]
  refine (made _).bind ?_
  rintro _ ⟨rule, rfl, admits⟩
  exact ⟨_, rfl, admits⟩

end Snapshot

namespace SnapshotClass

variable {s : SnapshotClass} {types : List Hint}

/-! ### Classes with such fields -/

/-- Whether the annotations of the fields are texts for such types, no field has a default, and no
field hides what snapshots are read by. -/
structure IsOfFields (s : SnapshotClass) (types : List Hint) : Prop where
  quoted : ∀ field ∈ s.fields, isText field.type = true
  resolved : s.resolvedTypes.value s.surroundings.memory = .ok types
  known : ∀ type ∈ types, IsFieldType True type
  required : ∀ field ∈ s.fields, field.defaultValue? = none
  distinct : (s.fields.map (·.name)).Nodup
  decodes : s.checkMethod "decode" = .ok ()
  making : s.hidesMaking = false

/-- Every field has a type. -/
theorem length_eq_of_resolved (resolved : s.resolvedTypes.value s.surroundings.memory = .ok types) :
    types.length = s.fields.length := by
  have ends : s.resolvedTypes.Ensures (fun types => types.length = s.fields.length) fun _ => True := by
    have any : (s.surroundings.resolvedTypes s.info).Ensures (fun _ => True) fun _ => True := by
      intro memory
      cases (s.surroundings.resolvedTypes s.info).value memory <;> trivial
    exact any.bind fun _ _ => ensures_pure (List.length_map _)
  exact (ends _).of_ok resolved

/-- If all fields are declared by texts, what these mean are the types that are checked. -/
theorem map_resolved_of_texts {types resolved : List Hint}
    (quoted : ∀ given ∈ types, isText given = true) (length : resolved.length ≤ types.length) :
    (types.zip resolved).map (fun (type, resolved) => if isText type then resolved else type) =
      resolved := by
  refine Eq.trans (List.map_congr_left fun pair member => ?_) (List.map_snd_zip length)
  exact if_pos (quoted _ (List.of_mem_zip member).1)

/-- Where the annotations are texts, stored values are checked by the types that they are converted
by. -/
theorem checkedTypes_eq_of_texts (texts : ∀ field ∈ s.fields, isText field.type = true)
    (resolved : s.resolvedTypes.value s.surroundings.memory = .ok types) :
    s.checkedTypes.value s.surroundings.memory = .ok types := by
  have quoted : ∀ given ∈ s.fields.map (·.type), isText given = true := by
    intro given member
    obtain ⟨field, inside, rfl⟩ := List.mem_map.mp member
    exact texts field inside
  have length : types.length ≤ (s.fields.map (·.type)).length := by
    rw [List.length_map, length_eq_of_resolved resolved]
  unfold checkedTypes
  dsimp only
  split
  · rw [value_bind, resolved]
    exact congrArg Except.ok (map_resolved_of_texts quoted length)
  · next plain =>
    -- There are no fields then.
    have none : s.fields.map (·.type) = [] := by
      rw [List.eq_nil_iff_forall_not_mem]
      exact fun given member => plain (List.any_eq_true.mpr ⟨given, member, quoted given member⟩)
    rw [none] at length ⊢
    rw [List.length_eq_zero_iff.mp (Nat.le_zero.mp length)]
    rfl

/-! ### Errors -/

variable {α : Type} {result : α → Prop} {unusable : SnapshotError → Prop}

/-- Whether errors that count as errors of the text are among those of a kind. -/
def TakesTexts (s : SnapshotClass) (unusable : SnapshotError → Prop) : Prop :=
  ∀ detail, unusable (.undecodable s.name detail)

/-- A fault that counts as one of the text is reported so, and any other one as it is. -/
theorem endsAs_ofFault (takes : s.TakesTexts unusable) {step : Except Fault α}
    (ends : EndsAs result (fun fault => fault.IsTaken ∨ unusable (.failed fault)) step) :
    EndsAs result unusable (s.ofFault step) := by
  cases step with
  | ok made => exact ends
  | error fault =>
    rw [ofFault]
    split
    · exact takes _
    · next strange => exact ends.resolve_left strange

theorem endsAs_ofFault_of_isTaken (takes : s.TakesTexts unusable) {step : Except Fault α}
    (ends : EndsAs result Fault.IsTaken step) : EndsAs result unusable (s.ofFault step) :=
  endsAs_ofFault takes (ends.weaken (fun _ => id) fun _ => Or.inl)

theorem endsAs_checkMethod (name : String) :
    EndsAs (fun _ => True) Fault.IsTaken (s.checkMethod name) := by
  rw [checkMethod]
  split
  · exact Fault.isTaken_misuse _
  · split
    · trivial
    · exact Fault.isTaken_unknownAttribute _ _

/-- Whatever hides how fields are written, at worst it is no map. -/
theorem endsAs_checkConfiguration :
    EndsAs (fun _ => True) Fault.IsTaken s.checkConfiguration := by
  have map (value : Value) : ∀ fault, configurationFault? value = some fault → fault.IsTaken := by
    intro fault failed
    unfold configurationFault? at failed
    split at failed
    · cases failed
    · have ends := ensures_makeMap (Hint.isData_ofValue value) {}
      split at failed
      · cases failed
      · next made =>
        cases failed
        exact ends.of_error made
  rw [checkConfiguration]
  split
  · trivial
  · split
    · next value _ _ _ failed => exact map _ _ failed
    · exact Fault.isTaken_misuse _
    · exact Fault.isTaken_misuse _
    · trivial

/-! ### Checked values -/

/-- Whether the value of a field is converted by its type. -/
def FitsField (s : SnapshotClass) (types : List Hint) (name : String) (value : Value) : Prop :=
  ∃ pair ∈ s.fields.zip types, pair.1.name = name ∧ Converts (IsFaultOf pair.2) pair.2 value

/-- There is a rule for every field, and what passes it is converted by the type of the field. -/
theorem IsOfFields.endsAs_rules (of : s.IsOfFields types) (takes : s.TakesTexts unusable) :
    EndsAs (fun rules => ∀ rule ∈ rules, Admits rule.2.rule (s.FitsField types rule.1)) unusable
      s.rules := by
  have checked : s.ofEvaluation s.checkedTypes = .ok types := by
    rw [ofEvaluation, checkedTypes_eq_of_texts of.quoted of.resolved, ofFault]
  rw [rules, checked]
  refine (endsAs_ofFault_of_isTaken takes (endsAs_checkMethod _)).bind fun _ _ => ?_
  refine (endsAs_ofFault_of_isTaken takes (endsAs_checkMethod _)).bind fun _ _ => ?_
  refine (endsAs_ofFault_of_isTaken takes endsAs_checkConfiguration).bind fun _ _ => ?_
  have each : ∀ pair ∈ s.fields.zip types,
      EndsAs (fun named => ∀ rule : FieldRule, named.2 = some rule →
          Admits rule.rule (s.FitsField types named.1)) unusable
        (do return (pair.1.name, ← s.ofFault (fieldRule? pair.1 pair.2))) := by
    intro pair member
    have known := of.known _ (List.of_mem_zip member).2
    refine (endsAs_ofFault_of_isTaken takes (endsAs_fieldRule? known pair.1)).bind ?_
    rintro _ ⟨rule, rfl, admits⟩ _ ⟨⟩ value
    exact (admits value).weaken (fun _ converts => ⟨pair, member, rfl, converts⟩) fun _ => id
  refine (endsAs_mapM each).bind fun made admits rule member => ?_
  obtain ⟨⟨name, rule?⟩, inside, found⟩ := List.mem_filterMap.mp member
  obtain ⟨own, rfl, rfl⟩ := Option.map_eq_some_iff.mp found
  exact admits _ inside own rfl

/-- If rules let only values of some kind pass, so does the check of all fields. -/
theorem endsAs_checkFields {fits : String → Value → Prop} {rules : List (String × FieldRule)}
    (each : ∀ rule ∈ rules, Admits rule.2.rule (fits rule.1)) (entries : List (String × Value)) :
    EndsAs (fun made => ∀ entry ∈ made.1, fits entry.1 entry.2) Fault.IsTaken
      (checkFields entries rules) := by
  induction rules with
  | nil => exact fun _ => nofun
  | cons first others inductionHypothesis =>
    obtain ⟨here, later⟩ := List.forall_mem_cons.mp each
    have rest := inductionHypothesis later
    have own : EndsAs (fun made => ∀ value, made = some value → fits first.1 value) Refusal.IsTaken
        (checkField entries first.1 first.2) := by
      rw [checkField]
      split
      · split
        · trivial
        · exact fun _ => nofun
      · next value _ =>
        refine (here value).bind fun made fits => ?_
        rintro _ ⟨⟩
        exact fits
    rw [checkFields]
    split
    · next failed => exact own.of_error failed
    · exact rest.bind fun _ fits => fits
    · exact rest
    · next passed =>
      exact rest.bind fun _ fits => List.forall_mem_cons.mpr ⟨own.of_ok passed _ rfl, fits⟩

theorem IsOfFields.endsAs_checked (of : s.IsOfFields types) (takes : s.TakesTexts unusable)
    (entries : List (String × Value)) :
    EndsAs (fun values => ∀ entry ∈ values, s.FitsField types entry.1 entry.2) unusable
      (s.checked entries) := by
  rw [checked]
  refine (of.endsAs_rules takes).bind fun rules admits => ?_
  refine (endsAs_ofFault_of_isTaken takes (endsAs_checkFields admits entries)).bind
    fun (values, complaints) fits => ?_
  dsimp only
  split
  · exact fits
  · exact takes _

/-! ### Converted values -/

/-- Which errors there may be apart from those of the text: an overflow, if there is a union inside
of the type of a field. -/
def IsUnusable (types : List Hint) : SnapshotError → Prop
  | .undecodable _ _ => True
  | .failed fault => fault.IsOverflow ∧ ∃ type ∈ types, ¬IsFieldType False type

theorem takesTexts_isUnusable : s.TakesTexts (IsUnusable types) := fun _ => trivial

/-- The fields that are paired with types are all fields. -/
theorem IsOfFields.map_fst_zip (of : s.IsOfFields types) :
    (s.fields.zip types).map Prod.fst = s.fields :=
  List.map_fst_zip (Nat.le_of_eq (length_eq_of_resolved of.resolved).symm)

/-- Fields of one name are the same, and so is what they are paired with. -/
theorem eq_of_mem_zip_of_name_eq {β : Type} {others : List β} (length : s.fields.length ≤ others.length)
    (distinct : (s.fields.map (·.name)).Nodup) {first second : Class.Field × β}
    (one : first ∈ s.fields.zip others) (other : second ∈ s.fields.zip others)
    (same : first.1.name = second.1.name) : first = second := by
  have distinct : ((s.fields.zip others).map (·.1.name)).Nodup := by
    rw [← List.map_fst_zip length, List.map_map] at distinct
    exact distinct
  exact List.inj_on_of_nodup_map distinct one other same

/-- A value that is found under a name is paired with it. -/
theorem mem_of_lookup_eq_some {α : Type} {pairs : List (String × α)} {name : String} {value : α}
    (found : pairs.lookup name = some value) : (name, value) ∈ pairs := by
  induction pairs with
  | nil => cases found
  | cons pair others inductionHypothesis =>
    rw [List.lookup_cons] at found
    split at found
    · next same =>
      cases found
      rw [beq_iff_eq.mp same]
      exact List.mem_cons_self
    · exact List.mem_cons_of_mem _ (inductionHypothesis found)

/-- Every field of the constructor is given a converted value. -/
theorem IsOfFields.endsAs_converted (of : s.IsOfFields types) {values : List (String × Value)}
    (fits : ∀ entry ∈ values, s.FitsField types entry.1 entry.2) :
    EndsAs (fun given => given.map (·.1) = (s.fields.filter (·.inConstructor)).map (·.name))
      (IsUnusable types) (s.converted values) := by
  have resolved : s.ofEvaluation s.resolvedTypes = .ok types := by
    rw [ofEvaluation, of.resolved, ofFault]
  rw [converted, resolved]
  have names : ((s.fields.zip types).filter (·.1.inConstructor)).map (·.1.name) =
      (s.fields.filter (·.inConstructor)).map (·.name) := by
    conv => rhs; rw [← of.map_fst_zip]
    rw [List.filter_map, List.map_map]
    rfl
  refine (endsAs_mapM_map (·.1) (·.1.name) fun (field, type) member => ?_).weaken
    (fun _ same => same.trans names) fun _ => id
  have inside : (field, type) ∈ s.fields.zip types := List.mem_of_mem_filter member
  have own := of.required field (List.of_mem_zip inside).1
  dsimp only
  rw [own, Option.or_none]
  split
  · next value found =>
    -- The value under the name of the field has passed the rule of this very field.
    obtain ⟨pair, member, same, converts⟩ := fits _ (mem_of_lookup_eq_some found)
    obtain rfl := eq_of_mem_zip_of_name_eq (Nat.le_of_eq (length_eq_of_resolved of.resolved).symm)
      of.distinct member inside same
    refine EndsAs.bind (endsAs_ofFault takesTexts_isUnusable
      ((converts s.surroundings.memory).weaken (fun _ => id) fun fault known => ?_)) fun _ _ => rfl
    exact known.imp id fun overflow => ⟨overflow.1, _, (List.of_mem_zip inside).2, overflow.2⟩
  · trivial

/-! ### Snapshots -/

/-- Whatever the text is, it is read as a snapshot with a value for each field of the constructor, or
there is an error of the text, or an overflow, and then there is a union inside of a type. -/
theorem IsOfFields.endsAs_decode (of : s.IsOfFields types) (blob : Blob) :
    EndsAs (fun decoded => ∃ snapshot given, decoded = .snapshot snapshot ∧
        Instance.make s.info [] given = .ok snapshot ∧
        given.map (·.1) = (s.fields.filter (·.inConstructor)).map (·.name))
      (IsUnusable types) (s.decode blob) := by
  rw [decode, of.decodes, of.making]
  have begun : EndsAs (fun _ => True) (IsUnusable types)
      (Except.mapError SnapshotError.failed (.ok ())) := trivial
  refine begun.bind fun _ _ => ?_
  split
  · trivial
  · refine (of.endsAs_checked takesTexts_isUnusable _).bind fun values fits => ?_
    rw [if_neg Bool.false_ne_true]
    refine (of.endsAs_converted fits).bind fun given names => ?_
    split
    · next snapshot makes => exact ⟨snapshot, given, rfl, makes, names⟩
    · trivial
  · trivial

end SnapshotClass

end StateContainer
