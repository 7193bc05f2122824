/-
This file says when the properties of a definition can be extracted, which properties these are, and
which error stands in their place.

Each parameter is laid next to the field at its position. Such a position is fit for a property if
names, markers, defaults and types are in order, and it offends in one way only: by the first of them
that is not. Going through all positions then gives all properties or the error of the first position
that offends.
-/

import Mathlib.Data.List.Forall2
import StateContainer.Extraction
import StateContainer.Proofs.Except

namespace StateContainer

variable {δ ε : Type}

/-- Going through a list succeeds with the results of its steps, in order. -/
theorem mapM_eq_ok_iff_forall₂ {α β : Type} {step : α → Except ε β} {items : List α} {results : List β} :
    items.mapM step = .ok results ↔
      List.Forall₂ (fun item result => step item = .ok result) items results := by
  induction items generalizing results with
  | nil =>
    rw [List.forall₂_nil_left_iff]
    constructor <;> rintro ⟨⟩ <;> rfl
  | cons first others inductionHypothesis =>
    rw [List.mapM_cons, List.forall₂_cons_left_iff]
    constructor
    · intro succeeds
      obtain ⟨made, here, succeeds⟩ := exists_of_bind_eq_ok succeeds
      obtain ⟨further, later, succeeds⟩ := exists_of_bind_eq_ok succeeds
      cases succeeds
      exact ⟨made, further, here, inductionHypothesis.mp later, rfl⟩
    · rintro ⟨made, further, here, later, rfl⟩
      exact bind_eq_of_eq_ok here (bind_eq_of_eq_ok (inductionHypothesis.mpr later) rfl)

/-- Results of all items can be collected if each item has one. -/
theorem exists_forall₂_iff {α β : Type} {relation : α → β → Prop} {items : List α} :
    (∃ results, List.Forall₂ relation items results) ↔ ∀ item ∈ items, ∃ result, relation item result := by
  constructor
  · rintro ⟨results, each⟩ item member
    induction each with
    | nil => cases member
    | cons here _ inductionHypothesis =>
      rcases List.mem_cons.mp member with rfl | later
      · exact ⟨_, here⟩
      · exact inductionHypothesis later
  · intro each
    induction items with
    | nil => exact ⟨[], .nil⟩
    | cons first others inductionHypothesis =>
      obtain ⟨⟨result, here⟩, later⟩ := List.forall_mem_cons.mp each
      obtain ⟨results, behind⟩ := inductionHypothesis later
      exact ⟨result :: results, .cons here behind⟩

/-! ### Types of parameters -/

/-- Where the type of a parameter is taken from: the structure, or else the signature if it can be
parsed. -/
inductive Parameter.Source (p : Parameter) : Descriptor → Prop where
  | structured {type : Descriptor} (given : p.type = some type) : p.Source type
  | parsed {text : String} {type : Descriptor} (unstructured : p.type = none)
      (given : p.signature = some text) (parses : Signature.parse text = .ok type) : p.Source type

/-- Why a parameter has no type. -/
inductive Parameter.LacksType (p : Parameter) : ExtractionError ε → Prop where
  | missing (unstructured : p.type = none) (unsigned : p.signature = none) :
      p.LacksType (.metadata (.missingType p.name))
  | malformed {text : String} {cause : Signature.ParseError} (unstructured : p.type = none)
      (given : p.signature = some text) (fails : Signature.parse text = .error cause) :
      p.LacksType (.signature cause)

theorem Parameter.Source.declaredType_eq {p : Parameter} {source : Descriptor} (taken : p.Source source) :
    (p.declaredType : Except (ExtractionError ε) _) =
      .ok (source.asNullable (p.nullable || source.nullable)) := by
  unfold declaredType
  cases taken with
  | structured given => rw [given]
  | parsed unstructured given parses =>
    rw [unstructured, given]
    dsimp only
    rw [parses]

theorem Parameter.LacksType.declaredType_eq {p : Parameter} {cause : ExtractionError ε}
    (lacks : p.LacksType cause) : p.declaredType = .error cause := by
  unfold declaredType
  cases lacks with
  | missing unstructured unsigned => rw [unstructured, unsigned]
  | malformed unstructured given fails =>
    rw [unstructured, given]
    dsimp only
    rw [fails]

/-- A parameter either has a type or lacks one for some reason. -/
theorem Parameter.source_or_lacksType (p : Parameter) :
    (∃ source, p.Source source) ∨ ∃ cause : ExtractionError ε, p.LacksType cause := by
  cases structured : p.type with
  | some type => exact Or.inl ⟨type, .structured structured⟩
  | none =>
    cases signed : p.signature with
    | none => exact Or.inr ⟨_, .missing structured signed⟩
    | some text =>
      cases reads : Signature.parse text with
      | ok type => exact Or.inl ⟨type, .parsed structured signed reads⟩
      | error failure => exact Or.inr ⟨_, .malformed structured signed reads⟩

/-- A parameter has a type if there is a structure or a signature that can be parsed. -/
theorem Parameter.exists_source_iff {p : Parameter} : (∃ source, p.Source source) ↔
    (∃ type, p.type = some type) ∨
      ∃ text type, p.signature = some text ∧ Signature.parse text = .ok type := by
  constructor
  · rintro ⟨source, taken⟩
    cases taken with
    | structured given => exact Or.inl ⟨source, given⟩
    | parsed _ given parses => exact Or.inr ⟨_, source, given, parses⟩
  · rintro (⟨type, given⟩ | ⟨text, type, given, parses⟩)
    · exact ⟨type, .structured given⟩
    · cases structured : p.type with
      | some other => exact ⟨other, .structured structured⟩
      | none => exact ⟨type, .parsed structured given parses⟩

/-! ### Positions -/

/-- Whether a property is what a parameter and the field at its position make up. -/
structure Provider.Fits (provider : Provider δ ε) (definition : δ) (position : Parameter × String)
    (property : Property) : Prop where
  named : position.1.name = position.2
  sameName : property.name = position.2
  marked : provider.markers definition position.2 =
    .ok (some { single := property.single, persist := property.persisted, input := property.input })
  sameDefault : property.hasDefault = position.1.hasDefault
  supplied : property.hasDefault = true ∨ property.input = true
  typed : ∃ source, position.1.Source source ∧ property.type.name = source.name ∧
    property.type.arguments = source.arguments ∧
    (property.type.nullable = true ↔ position.1.nullable = true ∨ source.nullable = true)

/-- How a parameter and the field at its position fail to make up a property, and what is reported
then. Each way supposes that none of those before it applies. -/
inductive Provider.Offends (provider : Provider δ ε) (definition : δ) (position : Parameter × String) :
    ExtractionError ε → Prop where
  | misnamed (differ : position.1.name ≠ position.2) :
      provider.Offends definition position (.metadata
        (.nameMismatch (provider.describe definition).name position.1.name position.2))
  | unread (named : position.1.name = position.2) {cause : ExtractionError ε}
      (fails : provider.markers definition position.2 = .error cause) :
      provider.Offends definition position cause
  | unmarked (named : position.1.name = position.2)
      (unresolved : provider.markers definition position.2 = .ok none) :
      provider.Offends definition position (.metadata
        (.unresolvedMarkers (provider.describe definition).name position.2))
  | unsupplied (named : position.1.name = position.2) {markers : Markers}
      (marked : provider.markers definition position.2 = .ok (some markers))
      (lacks : position.1.hasDefault = false) (own : markers.input = false) :
      provider.Offends definition position (.metadata
        (.missingDefault (provider.describe definition).name position.2))
  | untyped (named : position.1.name = position.2) {markers : Markers}
      (marked : provider.markers definition position.2 = .ok (some markers))
      (supplied : position.1.hasDefault = true ∨ markers.input = true) {cause : ExtractionError ε}
      (lacks : position.1.LacksType cause) : provider.Offends definition position cause

variable {provider : Provider δ ε} {definition : δ} {position : Parameter × String}

/-- After the names and the markers of a position, the default and the type are left to be looked at. -/
theorem Provider.property_eq_of_marked {markers : Markers} (named : position.1.name = position.2)
    (marked : provider.markers definition position.2 = .ok (some markers)) :
    provider.property definition position.1 position.2 =
      if position.1.hasDefault = true ∨ markers.input = true then
        position.1.declaredType.map fun type =>
          ⟨position.1.name, type, markers.single, markers.persist, markers.input, position.1.hasDefault⟩
      else .error (.metadata (.missingDefault (provider.describe definition).name position.2)) := by
  unfold Provider.property
  dsimp only
  rw [if_neg (not_not_intro named)]
  refine bind_eq_of_eq_ok marked ?_
  dsimp only
  simp only [← Bool.or_eq_true]
  cases position.1.hasDefault || markers.input with
  | false => rfl
  | true => cases position.1.declaredType <;> rfl

theorem Provider.Fits.property_eq {property : Property} (fits : provider.Fits definition position property) :
    provider.property definition position.1 position.2 = .ok property := by
  obtain ⟨source, taken, name, arguments, nullable⟩ := fits.typed
  rw [Provider.property_eq_of_marked fits.named fits.marked, ← fits.sameDefault, if_pos fits.supplied,
    taken.declaredType_eq]
  have type : source.asNullable (position.1.nullable || source.nullable) = property.type := by
    rw [Descriptor.asNullable, ← name, ← arguments,
      Bool.eq_iff_iff.mpr ((Bool.or_eq_true _ _).to_iff.trans nullable.symm)]
    cases property.type
    rfl
  rw [Except.map, type, fits.named, ← fits.sameName]

theorem Provider.Offends.property_eq {cause : ExtractionError ε}
    (offends : provider.Offends definition position cause) :
    provider.property definition position.1 position.2 = .error cause := by
  cases offends with
  | misnamed differ =>
    unfold Provider.property
    exact if_pos differ
  | unread named fails =>
    unfold Provider.property
    dsimp only
    rw [if_neg (not_not_intro named), fails]
    rfl
  | unmarked named unresolved =>
    unfold Provider.property
    dsimp only
    rw [if_neg (not_not_intro named), unresolved]
    rfl
  | unsupplied named marked lacks own =>
    rw [Provider.property_eq_of_marked named marked, lacks, own, if_neg (by decide)]
  | untyped named marked supplied lacks =>
    rw [Provider.property_eq_of_marked named marked, if_pos supplied, lacks.declaredType_eq]
    rfl

theorem Provider.exists_fits {markers : Markers} {source : Descriptor}
    (named : position.1.name = position.2)
    (marked : provider.markers definition position.2 = .ok (some markers))
    (supplied : position.1.hasDefault = true ∨ markers.input = true)
    (taken : position.1.Source source) : ∃ property, provider.Fits definition position property :=
  ⟨⟨position.2, source.asNullable (position.1.nullable || source.nullable),
    markers.single, markers.persist, markers.input, position.1.hasDefault⟩,
    named, rfl, marked, rfl, supplied, source, taken, rfl, rfl, (Bool.or_eq_true _ _).to_iff⟩

/-- A position either is fit for a property or offends in some way. -/
theorem Provider.fits_or_offends (provider : Provider δ ε) (definition : δ)
    (position : Parameter × String) : (∃ property, provider.Fits definition position property) ∨
      ∃ cause, provider.Offends definition position cause := by
  by_cases named : position.1.name = position.2
  case neg => exact Or.inr ⟨_, .misnamed named⟩
  cases marked : provider.markers definition position.2 with
  | error cause => exact Or.inr ⟨cause, .unread named marked⟩
  | ok resolved =>
    cases resolved with
    | none => exact Or.inr ⟨_, .unmarked named marked⟩
    | some markers =>
      by_cases supplied : position.1.hasDefault = true ∨ markers.input = true
      case neg =>
        rw [not_or, Bool.not_eq_true, Bool.not_eq_true] at supplied
        exact Or.inr ⟨_, .unsupplied named marked supplied.1 supplied.2⟩
      rcases position.1.source_or_lacksType with ⟨source, taken⟩ | ⟨cause, lacks⟩
      · exact Or.inl (Provider.exists_fits named marked supplied taken)
      · exact Or.inr ⟨cause, .untyped named marked supplied lacks⟩

theorem Provider.property_eq_ok_iff {property : Property} :
    provider.property definition position.1 position.2 = .ok property ↔
      provider.Fits definition position property := by
  refine ⟨fun extracts => ?_, Provider.Fits.property_eq⟩
  rcases provider.fits_or_offends definition position with ⟨other, fits⟩ | ⟨cause, offends⟩
  · obtain rfl := Except.ok.inj (fits.property_eq.symm.trans extracts)
    exact fits
  · cases offends.property_eq.symm.trans extracts

theorem Provider.property_eq_error_iff {cause : ExtractionError ε} :
    provider.property definition position.1 position.2 = .error cause ↔
      provider.Offends definition position cause := by
  refine ⟨fun fails => ?_, Provider.Offends.property_eq⟩
  rcases provider.fits_or_offends definition position with ⟨property, fits⟩ | ⟨other, offends⟩
  · cases fits.property_eq.symm.trans fails
  · obtain rfl := Except.error.inj (offends.property_eq.symm.trans fails)
    exact offends

/-! ### All positions -/

/-- The properties are made of the parameters and the fields next to them, one after the other. -/
theorem Provider.properties_eq_mapM (provider : Provider δ ε) (definition : δ)
    (parameters : List Parameter) (fields : List String) :
    provider.properties definition parameters fields =
      (parameters.zip fields).mapM fun position => provider.property definition position.1 position.2 := by
  induction parameters generalizing fields with
  | nil => rw [Provider.properties]; rfl; exact nofun
  | cons parameter others inductionHypothesis =>
    cases fields with
    | nil => rfl
    | cons field fields =>
      rw [Provider.properties, List.zip_cons_cons, List.mapM_cons, inductionHypothesis fields]

theorem Provider.properties_eq_ok_iff {parameters : List Parameter} {fields : List String}
    {properties : List Property} :
    provider.properties definition parameters fields = .ok properties ↔
      List.Forall₂ (provider.Fits definition) (parameters.zip fields) properties := by
  rw [Provider.properties_eq_mapM, mapM_eq_ok_iff_forall₂]
  simp only [Provider.property_eq_ok_iff]

/-- No properties are found if some position offends and all positions before it are fit. -/
theorem Provider.properties_eq_error_iff {parameters : List Parameter} {fields : List String}
    {cause : ExtractionError ε} : provider.properties definition parameters fields = .error cause ↔
      ∃ before position after, parameters.zip fields = before ++ position :: after ∧
        (∀ earlier ∈ before, ∃ property, provider.Fits definition earlier property) ∧
        provider.Offends definition position cause := by
  rw [Provider.properties_eq_mapM, mapM_eq_error_iff]
  simp only [Provider.property_eq_ok_iff, Provider.property_eq_error_iff]

/-- Whether a parameter and the field at its position are in order. -/
theorem Provider.exists_fits_iff : (∃ property, provider.Fits definition position property) ↔
    position.1.name = position.2 ∧
      ∃ markers, provider.markers definition position.2 = .ok (some markers) ∧
        (position.1.hasDefault = true ∨ markers.input = true) ∧
        ((∃ type, position.1.type = some type) ∨
          ∃ text type, position.1.signature = some text ∧ Signature.parse text = .ok type) := by
  rw [← Parameter.exists_source_iff]
  constructor
  · rintro ⟨property, fits⟩
    obtain ⟨source, taken, -⟩ := fits.typed
    exact ⟨fits.named, _, fits.marked, fits.sameDefault ▸ fits.supplied, source, taken⟩
  · rintro ⟨named, markers, marked, supplied, source, taken⟩
    exact Provider.exists_fits named marked supplied taken

/-! ### Definitions -/

theorem Provider.extract_of_parameters {parameters : List Parameter}
    (found : provider.parameters definition = .ok (some parameters)) :
    provider.extract definition =
      if parameters.length = (provider.declaredFields definition).length then
        provider.properties definition parameters (provider.declaredFields definition)
      else .error (.metadata (.countMismatch (provider.describe definition).name parameters.length
        (provider.declaredFields definition).length)) := by
  unfold Provider.extract
  refine bind_eq_of_eq_ok found ?_
  dsimp only
  by_cases length : parameters.length = (provider.declaredFields definition).length
  · rw [if_neg (not_not_intro length), if_pos length]
  · rw [if_pos length, if_neg length]
    rfl

/-- The properties of a definition are found if its constructor has parameters, as many as it has
declared fields, and if all positions are fit; they are what the positions make up. -/
theorem Provider.extract_eq_ok_iff {properties : List Property} :
    provider.extract definition = .ok properties ↔
      ∃ parameters, provider.parameters definition = .ok (some parameters) ∧
        parameters.length = (provider.declaredFields definition).length ∧
        List.Forall₂ (provider.Fits definition)
          (parameters.zip (provider.declaredFields definition)) properties := by
  constructor
  · intro extracts
    have whole := extracts
    rw [Provider.extract] at extracts
    obtain ⟨resolved, found, extracts⟩ := exists_of_bind_eq_ok extracts
    cases resolved with
    | none => cases extracts
    | some parameters =>
      rw [Provider.extract_of_parameters found] at whole
      split at whole
      · next length => exact ⟨parameters, found, length, Provider.properties_eq_ok_iff.mp whole⟩
      · cases whole
  · rintro ⟨parameters, found, length, fit⟩
    rw [Provider.extract_of_parameters found, if_pos length]
    exact Provider.properties_eq_ok_iff.mpr fit

/-- What is reported of a definition whose properties cannot be found. -/
theorem Provider.extract_eq_error_iff {cause : ExtractionError ε} :
    provider.extract definition = .error cause ↔
      provider.parameters definition = .error cause ∨
      (provider.parameters definition = .ok none ∧
        cause = .metadata (.noConstructor (provider.describe definition).name)) ∨
      ∃ parameters, provider.parameters definition = .ok (some parameters) ∧
        ((parameters.length ≠ (provider.declaredFields definition).length ∧
          cause = .metadata (.countMismatch (provider.describe definition).name parameters.length
            (provider.declaredFields definition).length)) ∨
        (parameters.length = (provider.declaredFields definition).length ∧
          ∃ before position after,
            parameters.zip (provider.declaredFields definition) = before ++ position :: after ∧
            (∀ earlier ∈ before, ∃ property, provider.Fits definition earlier property) ∧
            provider.Offends definition position cause)) := by
  cases found : provider.parameters definition with
  | error failure =>
    have stops : provider.extract definition = .error failure := by
      unfold Provider.extract
      rw [found]
      rfl
    rw [stops]
    constructor
    · rintro ⟨⟩
      exact Or.inl rfl
    · rintro (⟨⟨⟩⟩ | ⟨⟨⟩, -⟩ | ⟨_, ⟨⟩, -⟩)
      rfl
  | ok resolved =>
    cases resolved with
    | none =>
      have stops : provider.extract definition =
          .error (.metadata (.noConstructor (provider.describe definition).name)) := by
        unfold Provider.extract
        rw [found]
        rfl
      rw [stops]
      constructor
      · rintro ⟨⟩
        exact Or.inr (Or.inl ⟨rfl, rfl⟩)
      · rintro (⟨⟨⟩⟩ | ⟨-, rfl⟩ | ⟨_, ⟨⟩, -⟩)
        rfl
    | some parameters =>
      rw [Provider.extract_of_parameters found]
      split
      · next length =>
        rw [Provider.properties_eq_error_iff]
        constructor
        · exact fun offends => Or.inr (Or.inr ⟨parameters, rfl, Or.inr ⟨length, offends⟩⟩)
        · rintro (⟨⟨⟩⟩ | ⟨⟨⟩, -⟩ | ⟨_, ⟨⟩, ⟨differ, -⟩ | ⟨-, offends⟩⟩)
          · exact absurd length differ
          · exact offends
      · next differ =>
        constructor
        · rintro ⟨⟩
          exact Or.inr (Or.inr ⟨parameters, rfl, Or.inl ⟨differ, rfl⟩⟩)
        · rintro (⟨⟨⟩⟩ | ⟨⟨⟩, -⟩ | ⟨_, ⟨⟩, ⟨-, rfl⟩ | ⟨length, -⟩⟩)
          · rfl
          · exact absurd length differ

/-- Extraction as a whole. It succeeds if the constructor has parameters, as many as there are declared
fields, and if each parameter has the name of its field, markers, a default or the marker that it is
supplied, and a type. It then gives the property of each position, in order. Otherwise the error is
the one of the provider, of the constructor, of the number of parameters or of the first position that
offends. -/
theorem Provider.extract_correct (provider : Provider δ ε) (definition : δ) :
    ((∃ properties, provider.extract definition = .ok properties) ↔
      ∃ parameters, provider.parameters definition = .ok (some parameters) ∧
        parameters.length = (provider.declaredFields definition).length ∧
        ∀ position ∈ parameters.zip (provider.declaredFields definition),
          position.1.name = position.2 ∧
          ∃ markers, provider.markers definition position.2 = .ok (some markers) ∧
            (position.1.hasDefault = true ∨ markers.input = true) ∧
            ((∃ type, position.1.type = some type) ∨
              ∃ text type, position.1.signature = some text ∧ Signature.parse text = .ok type)) ∧
    (∀ properties, provider.extract definition = .ok properties ↔
      ∃ parameters, provider.parameters definition = .ok (some parameters) ∧
        parameters.length = (provider.declaredFields definition).length ∧
        properties.length = parameters.length ∧
        List.Forall₂ (provider.Fits definition)
          (parameters.zip (provider.declaredFields definition)) properties) ∧
    ∀ cause, provider.extract definition = .error cause ↔
      provider.parameters definition = .error cause ∨
      (provider.parameters definition = .ok none ∧
        cause = .metadata (.noConstructor (provider.describe definition).name)) ∨
      ∃ parameters, provider.parameters definition = .ok (some parameters) ∧
        ((parameters.length ≠ (provider.declaredFields definition).length ∧
          cause = .metadata (.countMismatch (provider.describe definition).name parameters.length
            (provider.declaredFields definition).length)) ∨
        (parameters.length = (provider.declaredFields definition).length ∧
          ∃ before position after,
            parameters.zip (provider.declaredFields definition) = before ++ position :: after ∧
            (∀ earlier ∈ before, ∃ property, provider.Fits definition earlier property) ∧
            provider.Offends definition position cause)) := by
  refine ⟨?_, fun properties => ?_, fun cause => Provider.extract_eq_error_iff⟩
  · simp only [← Provider.exists_fits_iff, ← exists_forall₂_iff, Provider.extract_eq_ok_iff]
    constructor
    · rintro ⟨properties, parameters, found, length, fit⟩
      exact ⟨parameters, found, length, properties, fit⟩
    · rintro ⟨parameters, found, length, properties, fit⟩
      exact ⟨properties, parameters, found, length, fit⟩
  · rw [Provider.extract_eq_ok_iff]
    constructor
    · rintro ⟨parameters, found, length, fit⟩
      have all := fit.length_eq
      rw [List.length_zip, length, Nat.min_self] at all
      exact ⟨parameters, found, length, all.symm.trans length.symm, fit⟩
    · rintro ⟨parameters, found, length, -, fit⟩
      exact ⟨parameters, found, length, fit⟩

end StateContainer
