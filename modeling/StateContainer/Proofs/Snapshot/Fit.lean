/-
This file says how values are checked by the rules of plain types, and that a conversion of
what passed such a check raises no overflow.

A check fails at most in ways that count as faults of the stored text. What passes is of the
class that its scalars have to be of, so that the conversion leaves them alone. This is so
only where no union stands inside of the type: a union lets everything pass that is of the
class of none of its members.
-/

import StateContainer.Proofs.Snapshot.Conversion
import StateContainer.Proofs.Snapshot.Rules

namespace StateContainer

namespace Snapshot

open Hint (Fault IsData construct)
open Hint.Evaluation

/-! ### Refusals -/

/-- Whether a refusal counts as one of the stored text. -/
def Refusal.IsTaken : Refusal → Prop
  | .complaint _ => True
  | .uncheckable fault => fault.IsTaken

variable {fits : Value → Prop} {check : Value → Checking Value}

theorem endsAs_refuse {text : String} : EndsAs fits Refusal.IsTaken (refuse text) := trivial

/-- If every item passes or is refused, so is the list. -/
theorem endsAs_checkItems {items : List Value}
    (each : ∀ item ∈ items, EndsAs fits Refusal.IsTaken (check item)) (position : Nat) :
    EndsAs (fun made => ∀ part ∈ made.1, fits part) Refusal.IsTaken
      (checkItems check position items) := by
  induction items generalizing position with
  | nil => exact fun _ => nofun
  | cons first others inductionHypothesis =>
    obtain ⟨here, later⟩ := List.forall_mem_cons.mp each
    have rest := inductionHypothesis later (position + 1)
    rw [checkItems]
    split
    · next failed => exact here.of_error failed
    · exact rest.bind fun made parts => parts
    · next passed =>
      exact rest.bind fun made parts => List.forall_mem_cons.mpr ⟨here.of_ok passed, parts⟩

/-- Nothing is wrong with parts that go on. -/
theorem endsAs_unlessWrong {α : Type} {parts : α → Prop} {made : α}
    {complaints : List (Value × Complaint)} (right : complaints = [] → parts made) :
    EndsAs parts Refusal.IsTaken (unlessWrong (made, complaints)) := by
  cases complaints with
  | nil => exact right rfl
  | cons first others => trivial

theorem endsAs_asPart {checked : Checking Value} (ends : EndsAs fits Refusal.IsTaken checked) :
    EndsAs (fun part => ∀ made, part = .ok made → fits made) Refusal.IsTaken (asPart checked) := by
  match checked with
  | .ok value =>
    rintro made ⟨⟩
    exact ends
  | .error (.complaint complaint) => exact fun _ => nofun
  | .error (.uncheckable fault) => exact ends

/-- Binding a key in a map changes no other entry, and leaves the spelling of a key that is
there. -/
theorem forall_mem_bindEntry {keyFits itemFits : Value → Prop} {key item : Value}
    {entries : List (Value × Value)} (own : keyFits key) (bound : itemFits item)
    (each : ∀ entry ∈ entries, keyFits entry.1 ∧ itemFits entry.2) :
    ∀ entry ∈ Value.bindEntry key item entries, keyFits entry.1 ∧ itemFits entry.2 := by
  induction entries with
  | nil => exact List.forall_mem_singleton.mpr ⟨own, bound⟩
  | cons first others inductionHypothesis =>
    obtain ⟨here, later⟩ := List.forall_mem_cons.mp each
    rw [Value.bindEntry]
    split
    · exact List.forall_mem_cons.mpr ⟨⟨here.1, bound⟩, later⟩
    · exact List.forall_mem_cons.mpr ⟨here, inductionHypothesis later⟩

theorem forall_mem_foldl_bindEntry {keyFits itemFits : Value → Prop} {pairs : List (Value × Value)}
    (each : ∀ pair ∈ pairs, keyFits pair.1 ∧ itemFits pair.2) (bound : List (Value × Value))
    (fit : ∀ entry ∈ bound, keyFits entry.1 ∧ itemFits entry.2) :
    ∀ entry ∈ pairs.foldl (fun bound (key, value) => Value.bindEntry key value bound) bound,
      keyFits entry.1 ∧ itemFits entry.2 := by
  induction pairs generalizing bound with
  | nil => exact fit
  | cons pair others inductionHypothesis =>
    obtain ⟨here, later⟩ := List.forall_mem_cons.mp each
    exact inductionHypothesis later _ (forall_mem_bindEntry here.1 here.2 fit)

/-- The entries of a map are those that it was made of. -/
theorem exists_entries_dictOf {keyFits itemFits : Value → Prop} {pairs : List (Value × Value)}
    (each : ∀ pair ∈ pairs, keyFits pair.1 ∧ itemFits pair.2) :
    ∃ entries, Value.dictOf pairs = .dict entries ∧
      ∀ entry ∈ entries, keyFits entry.1 ∧ itemFits entry.2 := by
  exact ⟨_, rfl, forall_mem_foldl_bindEntry each [] (List.forall_mem_nil _)⟩

/-- If every key and every value passes or is refused, so is the map. -/
theorem endsAs_checkEntries {keyFits itemFits : Value → Prop}
    {checkKey checkItem : Value → Checking Value}
    (keys : ∀ key, EndsAs keyFits Refusal.IsTaken (checkKey key))
    (items : ∀ item, EndsAs itemFits Refusal.IsTaken (checkItem item))
    (entries : List (Value × Value)) :
    EndsAs (fun made => ∃ entries, made = .dict entries ∧
        ∀ entry ∈ entries, keyFits entry.1 ∧ itemFits entry.2)
      Refusal.IsTaken (checkEntries checkKey checkItem entries) := by
  rw [checkEntries]
  refine (endsAs_mapM fun entry _ => endsAs_asPart (keys entry.1)).bind fun keys own => ?_
  refine (endsAs_mapM fun entry _ => endsAs_asPart (items entry.2)).bind fun items bound => ?_
  dsimp only
  split
  · split
    · exact Fault.isTaken_misuse _
    · refine exists_entries_dictOf fun pair member => ?_
      obtain ⟨⟨key, item⟩, inside, kept⟩ := List.mem_filterMap.mp member
      obtain ⟨there, here⟩ := List.of_mem_zip inside
      split at kept
      · next both =>
        cases both
        cases kept
        exact ⟨own _ there _ rfl, bound _ here _ rfl⟩
      · cases kept
  · trivial

/-! ### What a type does to a value -/

/-- Whether the conversion by a type gives data of a value that was checked, or fails for the stored
text; and so does calling the type with the result, as a map does with its keys. -/
structure Fits (type : Hint) (made : Value) : Prop where
  converts : (convert type (Hint.ofValue made)).Ensures
    (fun part => IsData part ∧ (callKeyType type part).Ensures IsData Fault.IsTaken) Fault.IsTaken

variable {united : Prop} {type item : Hint}

/-- A type that is no scalar may be called with any data. -/
theorem fits_of_ensures {made : Value} (plain : IsPlain united type)
    (several : ∀ id ∈ scalarClasses, type ≠ .classRef id)
    (converts : (convert type (Hint.ofValue made)).Ensures IsData Fault.IsTaken) : Fits type made :=
  ⟨converts.weaken (fun _ data => ⟨data, ensures_callKeyType (fun _ taken => taken) plain data
    fun id known same => absurd same (several id known)⟩) fun _ taken => taken⟩

/-- A class that never overflows fits everything. -/
theorem fits_of_construct {id : Hint.ClassId} (known : id ∈ scalarClasses)
    (makes : ∀ given, (construct "builtins" id { positional := [given] }).Ensures IsData Fault.IsTaken)
    (made : Value) : Fits (.classRef id) made :=
  ⟨(ensures_convert_scalar known (Hint.isData_ofValue made) fun _ => makes _).weaken
    (fun part data => ⟨data, ensures_callKeyType (fun _ taken => taken)
      (IsPlain.scalar known : IsPlain False _) data fun _ _ same =>
        Hint.classRef.inj same ▸ makes part⟩) fun _ taken => taken⟩

theorem fits_text (made : Value) : Fits (.classRef StoredType.textClass) made :=
  fits_of_construct (mem_scalarClasses.mpr (Or.inl rfl)) (fun given =>
    (Hint.ensures_shownText given).bind fun _ _ => ensures_pure (.value _)) made

theorem fits_truth (made : Value) : Fits (.classRef StoredType.truthClass) made :=
  fits_of_construct (mem_scalarClasses.mpr (Or.inr (Or.inr (Or.inr rfl))))
    (fun _ => ensures_pure (.value _)) made

theorem isInstance_float (x : Binary64) : Hint.isInstance (.value (.float x)) numberClass = true :=
  others_in_table.2.2.2

/-- A number that is an instance of its class already is left alone. -/
theorem fits_instance {id : Hint.ClassId} {made : Value} (single : isCollection id = false)
    (scalar : toScalar id (Hint.ofValue made) = makeInstance id (Hint.ofValue made))
    (instance' : Hint.isInstance (Hint.ofValue made) id = true)
    (calls : (callKeyType (.classRef id) (Hint.ofValue made)).Ensures IsData Fault.IsTaken) :
    Fits (.classRef id) made := by
  refine ⟨?_⟩
  rw [StoredType.convert_classRef single, scalar, makeInstance, if_pos instance']
  exact ensures_pure ⟨Hint.isData_ofValue made, calls⟩

theorem fits_int (n : Int) : Fits (.classRef StoredType.integerClass) (.int n) :=
  fits_instance StoredType.isCollection_integerClass rfl (StoredType.isInstance_int n)
    (ensures_pure (.value _))

theorem fits_float (x : Binary64) : Fits (.classRef numberClass) (.float x) :=
  fits_instance isCollection_numberClass rfl (isInstance_float x) (ensures_pure (.value _))

/-- A collection of whatever there is fits everything. -/
theorem fits_bare {id : Hint.ClassId} (known : id ∈ collectionClasses) (made : Value) :
    Fits (.classRef id) made := by
  refine fits_of_ensures (IsPlain.bare known : IsPlain False _) ?_
    (ensures_convert_bare known (Hint.isData_ofValue made))
  rintro id scalar ⟨⟩
  rcases mem_collectionClasses.mp known with rfl | rfl | rfl
  all_goals
    revert scalar
    decide

/-- Null fits everything that is no union. -/
theorem fits_null (plain : IsPlain united type) (single : ¬united) : Fits type .null := by
  have taken : ∀ cause : Fault, cause.IsTaken → cause.IsTaken := fun _ => id
  have refused {id : Hint.ClassId} {what : Hint.Misuse}
      (made : convert (.classRef id) (.value .null) = Hint.misused what) : Fits (.classRef id) .null := by
    refine ⟨?_⟩
    rw [Hint.ofValue, made]
    · exact ensures_throw (Fault.isTaken_misuse what)
    all_goals simp
  cases plain with
  | scalar known =>
    rcases mem_scalarClasses.mp known with rfl | rfl | rfl | rfl
    · exact fits_text .null
    · exact refused (StoredType.convert_classRef StoredType.isCollection_integerClass)
    · exact refused (StoredType.convert_classRef isCollection_numberClass)
    · exact fits_truth .null
  | bare known => exact fits_bare known .null
  | list spelling plain =>
    exact fits_of_ensures (.list spelling plain) (fun _ _ other => by cases other)
      (ensures_convert_list spelling plain fun present => absurd rfl present)
  | map spelling keys items =>
    exact fits_of_ensures (.map spelling keys items) (fun _ _ other => by cases other)
      (ensures_convert_map taken spelling keys items fun present => absurd rfl present)
  | series spelling plain =>
    exact fits_of_ensures (.series spelling plain) (fun _ _ other => by cases other)
      (ensures_convert_series spelling plain fun present => absurd rfl present)
  | tuple spelling plain =>
    exact fits_of_ensures (.tuple spelling plain) (fun _ _ other => by cases other)
      (ensures_convert_tuple taken spelling plain fun present => absurd rfl present)
  | union bars may => exact absurd may single

/-! ### What a type does to collections -/

theorem mem_ofValues {items : List Value} {part : Hint} :
    part ∈ Hint.ofValues items ↔ ∃ item ∈ items, Hint.ofValue item = part := by
  rw [Hint.ofValues_eq_map, List.mem_map]

theorem fits_list (spelling : Hint.Spelling) (plain : IsPlain united item) {made : List Value}
    (each : ∀ part ∈ made, Fits item part) :
    Fits (.applied spelling StoredType.listClass [item]) (.list made) := by
  refine fits_of_ensures (.list spelling plain) (fun _ _ other => by cases other) ?_
  refine ensures_convert_list spelling plain fun _ => ?_
  rw [Hint.ofValue]
  refine ensures_pure fun part member => ?_
  obtain ⟨own, inside, rfl⟩ := mem_ofValues.mp member
  exact (each own inside).converts.weaken (fun _ data => data.1) fun _ => id

theorem fits_series (spelling : Hint.Spelling) (plain : IsPlain united item) {made : List Value}
    (each : ∀ part ∈ made, Fits item part) :
    Fits (.applied spelling tupleClass [item, .ellipsis]) (.list made) := by
  refine fits_of_ensures (.series spelling plain) (fun _ _ other => by cases other) ?_
  refine ensures_convert_series spelling plain fun _ => ?_
  rw [Hint.ofValue]
  refine ensures_pure fun part member => ?_
  obtain ⟨own, inside, rfl⟩ := mem_ofValues.mp member
  exact (each own inside).converts.weaken (fun _ data => data.1) fun _ => id

theorem fits_tuple (spelling : Hint.Spelling) {types : List Hint}
    (plain : ∀ type ∈ types, IsPlain united type) {made : List Value}
    (each : ∀ pair ∈ types.zip made, Fits pair.1 pair.2) :
    Fits (.applied spelling tupleClass types) (.tuple made) := by
  refine fits_of_ensures (.tuple spelling plain) (fun _ _ other => by cases other) ?_
  refine ensures_convert_tuple (fun _ => id) spelling plain fun _ => ?_
  rw [Hint.ofValue]
  refine ensures_pure fun pair member => ?_
  rw [Hint.ofValues_eq_map, List.zip_map_right] at member
  obtain ⟨own, inside, rfl⟩ := List.mem_map.mp member
  exact (each own inside).converts.weaken (fun _ data => data.1) fun _ => id

theorem exists_of_mem_ofEntries {entries : List (Value × Value)} {entry : Hint × Hint}
    (member : entry ∈ Hint.ofEntries entries) :
    ∃ own ∈ entries, entry = (Hint.ofValue own.1, Hint.ofValue own.2) := by
  induction entries with
  | nil => cases member
  | cons first others inductionHypothesis =>
    rw [Hint.ofEntries] at member
    rcases List.mem_cons.mp member with rfl | later
    · exact ⟨first, List.mem_cons_self, rfl⟩
    · obtain ⟨own, inside, same⟩ := inductionHypothesis later
      exact ⟨own, List.mem_cons_of_mem _ inside, same⟩

theorem fits_map (spelling : Hint.Spelling) {key : Hint} (plainKey : IsPlain united key)
    (plainItem : IsPlain united item) {entries : List (Value × Value)}
    (each : ∀ entry ∈ entries, Fits key entry.1 ∧ Fits item entry.2) :
    Fits (.applied spelling StoredType.mapClass [key, item]) (.dict entries) := by
  refine fits_of_ensures (.map spelling plainKey plainItem) (fun _ _ other => by cases other) ?_
  refine ensures_convert_map (fun _ => id) spelling plainKey plainItem fun _ => ?_
  rw [Hint.ofValue]
  refine ensures_pure fun entry member => ?_
  obtain ⟨own, inside, rfl⟩ := exists_of_mem_ofEntries member
  obtain ⟨fitsKey, fitsItem⟩ := each own inside
  exact ⟨fitsKey.converts.weaken (fun _ made => made.2) fun _ => id,
    fitsItem.converts.weaken (fun _ data => data.1) fun _ => id⟩

/-! ### Checks of scalars -/

theorem endsAs_checkText (value : Value) :
    EndsAs (Fits (.classRef StoredType.textClass)) Refusal.IsTaken (checkText value) := by
  unfold checkText
  split
  · exact endsAs_ok (fits_text _)
  · exact endsAs_refuse

theorem endsAs_checkInteger (value : Value) :
    EndsAs (Fits (.classRef StoredType.integerClass)) Refusal.IsTaken (checkInteger value) := by
  cases value with
  | int n => exact endsAs_ok (fits_int n)
  | float x =>
    rw [checkInteger]
    cases x.truncate? with
    | some n => exact endsAs_ok (fits_int n)
    | none => exact endsAs_refuse
  | text s =>
    rw [checkInteger]
    cases Number.readInteger s with
    | ok n => exact endsAs_ok (fits_int n)
    | error _ => exact endsAs_refuse
  | _ => exact endsAs_refuse

theorem endsAs_checkNumber (value : Value) :
    EndsAs (Fits (.classRef numberClass)) Refusal.IsTaken (checkNumber value) := by
  have number (x : Binary64) : EndsAs (Fits (.classRef numberClass)) Refusal.IsTaken
      (if x.isFinite then .ok (.float x) else refuse Complaint.notFinite) := by
    cases x.isFinite with
    | true => exact endsAs_ok (fits_float x)
    | false => exact endsAs_refuse
  cases value with
  | int n =>
    rw [checkNumber]
    cases Binary64.ofInt? n with
    | some x => exact number x
    | none => exact endsAs_refuse
  | float x => exact number x
  | text s =>
    rw [checkNumber]
    cases Number.readBinary64? s with
    | some x => exact number x
    | none => exact endsAs_refuse
  | _ => exact endsAs_refuse

theorem endsAs_checkTruth (value : Value) :
    EndsAs (Fits (.classRef StoredType.truthClass)) Refusal.IsTaken (checkTruth value) := by
  have either (first second : Bool) : EndsAs (Fits (.classRef StoredType.truthClass)) Refusal.IsTaken
      (if first then .ok (.bool true) else if second then .ok (.bool false)
        else refuse Complaint.notTruth) := by
    cases first with
    | true => exact endsAs_ok (fits_truth _)
    | false =>
      cases second with
      | true => exact endsAs_ok (fits_truth _)
      | false => exact endsAs_refuse
  unfold checkTruth
  split
  · exact either _ _
  · exact either _ _

/-! ### Checks by the rules of plain types -/

theorem endsAs_isInstance (value : Value) (member : Hint) :
    EndsAs (fun _ => True) Refusal.IsTaken (isInstance value member) := by
  have told (holds : Hint.ClassId → Bool) (classes : Hint) :
      (Hint.isInstanceOf "isinstance" holds classes).Ensures (fun _ => True) Fault.IsTaken := by
    unfold Hint.isInstanceOf
    split
    · split
      · exact ensures_throw (Fault.isTaken_misuse _)
      · exact ensures_pure trivial
    all_goals first
      | exact ensures_pure trivial
      | exact ensures_throw (Fault.isTaken_misuse _)
  have ends := told (Hint.isInstance (Hint.ofValue value)) (originOf member) {}
  rw [isInstance]
  split
  · trivial
  · next failed => exact ends.of_error failed

/-- Values are checked by the rule of a member of a union, or not at all. -/
theorem endsAs_checkMember {members : List (Hint × Rule)} {value : Value}
    (each : ∀ member ∈ members, EndsAs (fun _ => True) Refusal.IsTaken (checkValue member.2 value)) :
    EndsAs (fun _ => True) Refusal.IsTaken (checkMember members value) := by
  induction members with
  | nil => trivial
  | cons member others inductionHypothesis =>
    obtain ⟨here, later⟩ := List.forall_mem_cons.mp each
    rw [checkMember]
    refine (endsAs_isInstance value member.1).bind fun holds _ => ?_
    cases holds with
    | true => exact here
    | false => exact inductionHypothesis later

/-- If every item passes its own rule or is refused, so does a tuple of them. -/
theorem endsAs_checkEach {fits : Hint → Value → Prop} {types : List Hint} {rules : List Rule}
    (each : ∀ pair ∈ types.zip rules, ∀ value,
      EndsAs (fits pair.1) Refusal.IsTaken (checkValue pair.2 value))
    (length : rules.length = types.length) (position : Nat) {items : List Value}
    (several : items.length = rules.length) :
    EndsAs (fun made => made.2 = [] → ∀ pair ∈ types.zip made.1, fits pair.1 pair.2)
      Refusal.IsTaken (checkEach rules position items) := by
  induction types generalizing rules position items with
  | nil =>
    cases List.length_eq_zero_iff.mp length
    cases List.length_eq_zero_iff.mp several
    exact fun _ _ => nofun
  | cons type others inductionHypothesis =>
    obtain ⟨rule, rules, rfl⟩ := List.exists_cons_of_length_eq_add_one length
    obtain ⟨item, items, rfl⟩ := List.exists_cons_of_length_eq_add_one several
    obtain ⟨here, later⟩ := List.forall_mem_cons.mp each
    have rest := inductionHypothesis later (Nat.succ.inj length) (position + 1) (Nat.succ.inj several)
    rw [checkEach]
    split
    · next failed => exact (here item).of_error failed
    · exact rest.bind fun made _ => nofun
    · next passed =>
      refine rest.bind fun made parts right => ?_
      exact List.forall_mem_cons.mpr ⟨(here item).of_ok passed, parts right⟩

/-! ### Checks of collections -/

theorem endsAs_checkValue_list {rule : Rule}
    (each : ∀ item, EndsAs fits Refusal.IsTaken (checkValue rule item)) (value : Value) :
    EndsAs (fun made => ∃ items, made = .list items ∧ ∀ part ∈ items, fits part) Refusal.IsTaken
      (checkValue (.list rule) value) := by
  cases value with
  | list items =>
    rw [checkValue]
    refine (endsAs_checkItems (fun item _ => each item) 0).bind fun result parts => ?_
    obtain ⟨made, complaints⟩ := result
    have right : EndsAs (fun made => ∀ part ∈ made, fits part) Refusal.IsTaken
        (unlessWrong (made, complaints)) := endsAs_unlessWrong fun _ => parts
    exact right.bind fun made each => ⟨made, rfl, each⟩
  | _ => exact endsAs_refuse

theorem endsAs_checkValue_tuple (fits : Hint → Value → Prop) {types : List Hint} {rules : List Rule}
    (each : ∀ pair ∈ types.zip rules, ∀ value,
      EndsAs (fits pair.1) Refusal.IsTaken (checkValue pair.2 value))
    (length : rules.length = types.length) (value : Value) :
    EndsAs (fun made => ∃ items, made = .tuple items ∧ ∀ pair ∈ types.zip items, fits pair.1 pair.2)
      Refusal.IsTaken (checkValue (.tuple rules) value) := by
  cases value with
  | list items =>
    rw [checkValue]
    split
    · next several =>
      refine (endsAs_checkEach each length 0 several).bind fun result parts => ?_
      obtain ⟨made, complaints⟩ := result
      have right : EndsAs (fun made => ∀ pair ∈ types.zip made, fits pair.1 pair.2) Refusal.IsTaken
          (unlessWrong (made, complaints)) := endsAs_unlessWrong parts
      exact right.bind fun made each => ⟨made, rfl, each⟩
    · exact endsAs_refuse
  | _ => exact endsAs_refuse

theorem endsAs_checkValue_map {keyFits itemFits : Value → Prop} {key item : Option Rule}
    (keys : ∀ value, EndsAs keyFits Refusal.IsTaken (checkPart key value))
    (items : ∀ value, EndsAs itemFits Refusal.IsTaken (checkPart item value)) (value : Value) :
    EndsAs (fun made => ∃ entries, made = .dict entries ∧
        ∀ entry ∈ entries, keyFits entry.1 ∧ itemFits entry.2)
      Refusal.IsTaken (checkValue (.map key item) value) := by
  cases value with
  | dict entries =>
    rw [checkValue]
    exact endsAs_checkEntries keys items entries
  | _ => exact endsAs_refuse

theorem endsAs_checkValue_union {members : List (Hint × Rule)} (value : Value)
    (each : ∀ member ∈ members, EndsAs (fun _ => True) Refusal.IsTaken (checkValue member.2 value)) :
    EndsAs (fun _ => True) Refusal.IsTaken (checkValue (.union members) value) := by
  cases value with
  | null => exact endsAs_refuse
  | dict entries =>
    rw [checkValue]
    trivial
  | _ =>
    rw [checkValue]
    · exact endsAs_checkMember each
    all_goals simp

/-! ### Checks by the rules of plain types -/

/-- The result of a check by a rule of a plain type fits the type, if there is no union in it. -/
theorem endsAs_checkValue {rule : Rule} (checks : rule.Checks united type) (value : Value) :
    EndsAs (fun made => ¬united → Fits type made) Refusal.IsTaken (checkValue rule value) := by
  have scalar {type : Hint} {rule : Rule} {value : Value} {checked : Checking Value}
      (equal : value ≠ .null → checkValue rule value = checked)
      (null : checkValue rule .null = refuse Complaint.null)
      (ends : EndsAs (Fits type) Refusal.IsTaken checked) :
      EndsAs (fun made => ¬united → Fits type made) Refusal.IsTaken (checkValue rule value) := by
    by_cases absent : value = .null
    · rw [absent, null]
      exact endsAs_refuse
    · rw [equal absent]
      exact ends.weaken (fun _ fits _ => fits) fun _ => id
  induction checks generalizing value with
  | text =>
    exact scalar (fun present => by rw [checkValue]; exact present) rfl (endsAs_checkText value)
  | integer =>
    exact scalar (fun present => by rw [checkValue]; exact present) rfl (endsAs_checkInteger value)
  | number =>
    exact scalar (fun present => by rw [checkValue]; exact present) rfl (endsAs_checkNumber value)
  | truth =>
    exact scalar (fun present => by rw [checkValue]; exact present) rfl (endsAs_checkTruth value)
  | list spelling part inductionHypothesis =>
    refine (endsAs_checkValue_list inductionHypothesis value).weaken ?_ fun _ => id
    rintro _ ⟨items, rfl, each⟩ single
    exact fits_list spelling part.isPlain fun own member => each own member single
  | series spelling part inductionHypothesis =>
    refine (endsAs_checkValue_list inductionHypothesis value).weaken ?_ fun _ => id
    rintro _ ⟨items, rfl, each⟩ single
    exact fits_series spelling part.isPlain fun own member => each own member single
  | bareTuple =>
    have each : ∀ pair ∈ List.zip ([] : List Hint) ([] : List Rule), ∀ value,
        EndsAs (Fits pair.1) Refusal.IsTaken (checkValue pair.2 value) :=
      fun _ member => absurd member List.not_mem_nil
    refine (endsAs_checkValue_tuple Fits each rfl value).weaken (fun made _ _ => ?_) fun _ => id
    exact fits_bare (mem_collectionClasses.mpr (Or.inr (Or.inr rfl))) made
  | @tuple spelling rules types length parts inductionHypothesis =>
    refine (endsAs_checkValue_tuple (fun type made => ¬united → Fits type made) inductionHypothesis
      length value).weaken ?_ fun _ => id
    rintro _ ⟨items, rfl, each⟩ single
    exact fits_tuple spelling (forall_of_forall_zip length fun pair member => (parts pair member).isPlain)
      fun pair member => each pair member single
  | bareMap =>
    have part (value : Value) : EndsAs (fun _ => True) Refusal.IsTaken (checkPart none value) := by
      rw [checkPart]
      trivial
    refine (endsAs_checkValue_map part part value).weaken (fun made _ _ => ?_) fun _ => id
    exact fits_bare (mem_collectionClasses.mpr (Or.inr (Or.inl rfl))) made
  | @map spelling keyRule itemRule key item keys items keyHypothesis itemHypothesis =>
    have key (value : Value) : EndsAs (fun made => ¬united → Fits key made) Refusal.IsTaken
        (checkPart (some keyRule) value) := by
      rw [checkPart_some]
      exact keyHypothesis value
    have item (value : Value) : EndsAs (fun made => ¬united → Fits item made) Refusal.IsTaken
        (checkPart (some itemRule) value) := by
      rw [checkPart_some]
      exact itemHypothesis value
    refine (endsAs_checkValue_map key item value).weaken ?_ fun _ => id
    rintro _ ⟨entries, rfl, each⟩ single
    exact fits_map spelling keys.isPlain items.isPlain fun entry member =>
      ⟨(each entry member).1 single, (each entry member).2 single⟩
  | @union bars members types plain parts inductionHypothesis =>
    have each : ∀ member ∈ members,
        EndsAs (fun _ => True) Refusal.IsTaken (checkValue member.2 value) := fun member inside =>
        (inductionHypothesis member inside value).weaken (fun _ _ => trivial) fun _ => id
    refine (endsAs_checkValue_union value each).weaken (fun _ _ single => ?_) fun _ => id
    exact absurd plain.1 single
  | orNull part inductionHypothesis =>
    by_cases null : value = .null
    · rw [null, checkValue]
      exact fun single => fits_null part.isPlain single
    · rw [checkValue_orNull _ null]
      exact inductionHypothesis value

end Snapshot

end StateContainer
