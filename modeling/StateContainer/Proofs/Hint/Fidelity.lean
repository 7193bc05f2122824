/-
This file says what is left of a type when it is described and its annotation is evaluated again.

Types are built from null, classes that stand for themselves in a scope under the names that are
written for them, such classes applied to types, and unions. The annotation of such a type always
evaluates to a type again. That type means what is kept of the described one: the ellipsis among the
arguments of a class is dropped, the class alone is left where no argument is, and so it is where the
name of the class ends like that of the class of functions. Nothing else is lost, neither another
argument nor the null type of a union, so that the annotation denotes the type again exactly if there
is nothing of that kind in it.
-/

import StateContainer.Hint.Describe
import StateContainer.Proofs.Hint.Applying
import StateContainer.Proofs.Hint.Reading

namespace StateContainer.Hint

open TypeText (expression nameExpression barred indexExpression mapName nullName unionName)

/-! ### What is kept -/

mutual

/-- What is kept of a type. -/
def kept : Hint → Hint
  | applied spelling origin items =>
    let left := keptAll items
    if dropsArguments origin || left.isEmpty then classRef origin else applied spelling origin left
  | union bars members => union bars (keptAll members)
  | other => other

/-- What is kept of several types. -/
def keptAll : List Hint → List Hint
  | [] => []
  | first :: others => if first.isEllipsis then keptAll others else kept first :: keptAll others

end

mutual

/-- Whether nothing of a type is lost. -/
def isLossless : Hint → Bool
  | ellipsis => false
  | applied _ origin items => !dropsArguments origin && !items.isEmpty && allAreLossless items
  | union _ members => allAreLossless members
  | _ => true

/-- Whether nothing of several types is lost. -/
def allAreLossless : List Hint → Bool
  | [] => true
  | first :: others => isLossless first && allAreLossless others

end

/-- The arguments that are types. -/
def typesAmong (items : List Hint) : List Hint :=
  items.filter (!·.isEllipsis)

theorem keptAll_eq_map (items : List Hint) : keptAll items = (typesAmong items).map kept := by
  induction items with
  | nil => rfl
  | cons first others inductionHypothesis =>
    rw [keptAll, typesAmong, List.filter_cons, inductionHypothesis]
    cases first.isEllipsis <;> rfl

theorem allAreLossless_iff {items : List Hint} :
    allAreLossless items = true ↔ ∀ item ∈ items, item.isLossless = true := by
  induction items with
  | nil => simp [allAreLossless]
  | cons first others inductionHypothesis =>
    rw [allAreLossless, Bool.and_eq_true, inductionHypothesis, List.forall_mem_cons]

theorem isEllipsis_of_isLossless {hint : Hint} (lossless : hint.isLossless = true) :
    hint.isEllipsis = false := by
  cases hint with
  | ellipsis => cases lossless
  | _ => rfl

/-! ### Types that can be written -/

/-- Whether a class stands for itself in a scope under the name that is written for it. -/
structure ClassId.IsNamed (scope : Scope) (id : ClassId) : Prop where
  isType : id.IsType
  noUnion : id.qualifiedName ≠ unionName
  readable : ∀ part ∈ Text.dottedParts (mapName id.qualifiedName), TypeText.IsWord part
  stands : ∀ memory : Memory, memory.bindings = {} →
    (evaluateIn scope (nameExpression (mapName id.qualifiedName))).run memory =
      (.ok (classRef id), memory)

/-- Whether a type is built from null, named classes, named classes applied to as many types as they
take, and unions. Besides types an argument may be the ellipsis. A union is none of null alone, and
its members stand for themselves in it. -/
inductive IsDenotable (scope : Scope) : Hint → Prop
  | null : IsDenotable scope (value .null)
  | nullType : IsDenotable scope nullType
  | classRef {id : ClassId} (named : id.IsNamed scope) : IsDenotable scope (classRef id)
  | applied {spelling : Spelling} {origin : ClassId} {items : List Hint}
      (named : origin.IsNamed scope) (takes : origin.Takes (typesAmong items).length)
      (each : ∀ item ∈ items, item ≠ ellipsis → IsDenotable scope item) :
      IsDenotable scope (applied spelling origin items)
  | union {bars : Bool} {members : List Hint} (each : ∀ m ∈ members, IsDenotable scope m)
      (single : ∀ m ∈ members, m.isMember = true) (some : ∃ m ∈ members, m.isNullType = false) :
      IsDenotable scope (union bars members)

/-! ### What is lost -/

/-- The meaning of types under which exactly those types have a value of which something is lost. -/
def lossDetector : Interpretation Unit where
  ofClass _ := ∅
  ofGeneric origin meanings :=
    {v | dropsArguments origin = true ∨ meanings = [] ∨ ∃ meaning ∈ meanings, v ∈ meaning}
  ofOther _ := Set.univ

theorem isEllipsis_iff {hint : Hint} : hint.isEllipsis = true ↔ hint = ellipsis := by
  cases hint <;> simp [isEllipsis]

section
variable {scope : Scope} {hint : Hint}

theorem isEllipsis_of_isDenotable (denotable : IsDenotable scope hint) : hint.isEllipsis = false := by
  cases denotable <;> rfl

/-- The detector finds nothing in what is kept of a type. -/
theorem not_mem_meaning_kept (denotable : IsDenotable scope hint) :
    () ∉ lossDetector.meaning (kept hint) := by
  induction denotable with
  | null => exact id
  | nullType => exact id
  | classRef _ => exact id
  | @applied spelling origin items named takes each inductionHypothesis =>
    rw [kept, keptAll_eq_map]
    split
    · exact id
    · next arguments =>
      rw [Bool.or_eq_true, not_or, Bool.not_eq_true, List.isEmpty_iff] at arguments
      rw [Interpretation.meaning, lossDetector.meanings_eq_map, List.map_map]
      rintro (drops | none | ⟨meaning, member, inside⟩)
      · rw [arguments.1] at drops
        cases drops
      · exact arguments.2 (List.map_eq_nil_iff.mpr (List.map_eq_nil_iff.mp none))
      · obtain ⟨item, listed, rfl⟩ := List.mem_map.mp member
        obtain ⟨listed, isType⟩ := List.mem_filter.mp listed
        refine inductionHypothesis item listed ?_ inside
        rintro rfl
        cases isType
  | @union bars members each single some inductionHypothesis =>
    rw [kept, keptAll_eq_map, Interpretation.meaning, Interpretation.mem_meaningOfAny]
    rintro ⟨m, member, inside⟩
    obtain ⟨m, listed, rfl⟩ := List.mem_map.mp member
    exact inductionHypothesis m (List.mem_filter.mp listed).1 inside

/-- The detector finds everything that is lost of a type. -/
theorem mem_meaning_of_lost (denotable : IsDenotable scope hint) (lost : hint.isLossless = false) :
    () ∈ lossDetector.meaning hint := by
  induction denotable with
  | null => cases lost
  | nullType => cases lost
  | classRef _ => cases lost
  | @applied spelling origin items named takes each inductionHypothesis =>
    rw [Interpretation.meaning, lossDetector.meanings_eq_map]
    rw [isLossless, ← Bool.not_eq_true, Bool.and_eq_true, Bool.and_eq_true, Bool.not_eq_true',
      Bool.not_eq_true', allAreLossless_iff] at lost
    by_cases drops : dropsArguments origin = true
    · exact .inl drops
    · by_cases none : items = []
      · exact .inr (.inl (by rw [none, List.map_nil]))
      · obtain ⟨item, member, lost⟩ : ∃ item ∈ items, item.isLossless = false := by
          by_contra all
          push Not at all
          refine lost ⟨⟨by simpa using drops, by simpa using none⟩, fun item member => ?_⟩
          simpa using all item member
        refine .inr (.inr ⟨_, List.mem_map_of_mem member, ?_⟩)
        by_cases isOpen : item = ellipsis
        · rw [isOpen]
          exact Set.mem_univ ()
        · exact inductionHypothesis item member isOpen lost
  | @union bars members each single some inductionHypothesis =>
    rw [Interpretation.meaning, Interpretation.mem_meaningOfAny]
    obtain ⟨m, member, lost⟩ : ∃ m ∈ members, m.isLossless = false := by
      by_contra all
      push Not at all
      rw [isLossless, ← Bool.not_eq_true, allAreLossless_iff] at lost
      exact lost fun m member => by simpa using all m member
    exact ⟨m, member, inductionHypothesis m member lost⟩

theorem keptAll_of_forall {items : List Hint} (lossless : ∀ item ∈ items, item.isLossless = true)
    (each : ∀ item ∈ items, kept item = item) : keptAll items = items := by
  induction items with
  | nil => rfl
  | cons first others inductionHypothesis =>
    obtain ⟨here, later⟩ := List.forall_mem_cons.mp lossless
    obtain ⟨own, rest⟩ := List.forall_mem_cons.mp each
    rw [keptAll, isEllipsis_of_isLossless here, own, inductionHypothesis later rest]
    rfl

/-- If nothing is lost, all is kept. -/
theorem kept_of_isLossless (denotable : IsDenotable scope hint) (lossless : hint.isLossless = true) :
    kept hint = hint := by
  induction denotable with
  | null => rfl
  | nullType => rfl
  | classRef _ => rfl
  | @applied spelling origin items named takes each inductionHypothesis =>
    simp only [isLossless, Bool.and_eq_true, Bool.not_eq_true', allAreLossless_iff] at lossless
    obtain ⟨⟨takesArguments, some⟩, lossless⟩ := lossless
    have all : keptAll items = items := by
      refine keptAll_of_forall lossless fun item member => ?_
      refine inductionHypothesis item member ?_ (lossless item member)
      rintro rfl
      cases lossless _ member
    rw [kept, all, takesArguments, some]
    rfl
  | @union bars members each single some inductionHypothesis =>
    rw [isLossless, allAreLossless_iff] at lossless
    rw [kept, keptAll_of_forall lossless fun m member =>
      inductionHypothesis m member (lossless m member)]

/-- What is kept of a type means the same exactly if nothing is lost. -/
theorem meansAs_kept_iff (denotable : IsDenotable scope hint) :
    MeansAs (kept hint) hint ↔ hint.isLossless = true := by
  constructor
  · intro means
    by_contra lost
    rw [Bool.not_eq_true] at lost
    refine not_mem_meaning_kept denotable ?_
    rw [means Unit lossDetector]
    exact mem_meaning_of_lost denotable lost
  · intro lossless
    rw [kept_of_isLossless denotable lossless]
    exact .refl _

end

/-! ### Evaluating annotations -/

section
variable {scope : Scope}

theorem evaluateIn_subscript (scope : Scope) (base index : Expression) :
    evaluateIn scope (.subscript base index) =
      (do
        let owner ← evaluateIn scope base
        let index ← evaluateIn scope index
        subscripted owner index) := by
  rw [evaluateIn, evaluate]
  rfl

theorem evaluateIn_binary (scope : Scope) (operator : String) (left right : Expression) :
    evaluateIn scope (.binary operator left right) =
      (do
        let left ← evaluateIn scope left
        let right ← evaluateIn scope right
        combine operator left right) := by
  rw [evaluateIn, evaluate]
  rfl

theorem evaluateIn_null (scope : Scope) : evaluateIn scope (.value .null) = pure (value .null) := by
  rw [evaluateIn, evaluate]

/-- Where no name has been given, the written name of a class evaluates to the class. -/
theorem ClassId.IsNamed.yields {id : ClassId} (named : id.IsNamed scope) :
    (evaluateIn scope (nameExpression (mapName id.qualifiedName))).Yields (· = Hint.classRef id) := by
  intro memory sound
  have run := named.stands memory sound.unnamed
  refine ⟨Hint.classRef id, congrArg Prod.fst run, rfl, ?_⟩
  rw [Evaluation.after, run]
  exact sound

/-- What describing a type gives, and what its annotation evaluates to. -/
structure IsDescribed (scope : Scope) (hint : Hint) (t : Descriptor) : Prop where
  describes : describe hint = .ok t
  readable : TypeText.IsReadable hint.isMember t
  evaluates : (evaluateIn scope (expression t)).Yields fun made =>
    IsType made ∧ MeansAs made (kept hint)
  /-- Only the null type is written like it. -/
  notNull : hint.isMember = true → hint.isNullType = false →
    mapName t.name ≠ nullName ∧ (evaluateIn scope (expression t)).Yields (MadeFor (kept hint))

theorem evaluateAll_cons {first : Expression} (single : ¬TypeText.IsStarred first) (call : Caller)
    (refusal : String → Misuse) (others : List Expression) :
    evaluateAll call scope refusal (first :: others) =
      (do
        let first ← evaluate call scope first
        let others ← evaluateAll call scope refusal others
        return first :: others) := by
  rw [evaluateAll]
  rintro operand rfl
  exact single trivial

/-- Annotations side by side evaluate to types that mean what is kept of each. -/
theorem yields_evaluateAll {hints : List Hint} {types : List Descriptor}
    (all : List.Forall₂ (IsDescribed scope) hints types) :
    (evaluateAll (callNested callDepth) scope .notSpreadable (types.map expression)).Yields fun made =>
      (∀ item ∈ made, IsType item) ∧ List.Forall₂ MeansAs made (hints.map kept) := by
  induction all with
  | nil =>
    rw [List.map_nil, evaluateAll]
    exact Evaluation.yields_pure ⟨List.forall_mem_nil _, .nil⟩
  | cons own _ inductionHypothesis =>
    have single := (TypeText.isArgument_tokens own.readable 0).1.single
    rw [List.map_cons, evaluateAll_cons single]
    refine Evaluation.Yields.bind own.evaluates fun made first => ?_
    refine inductionHypothesis.bind fun others rest => Evaluation.yields_pure ?_
    exact ⟨List.forall_mem_cons.mpr ⟨first.1, rest.1⟩, .cons first.2 rest.2⟩

/-- What stands in square brackets evaluates to the arguments. -/
theorem yields_index {hints : List Hint} {types : List Descriptor}
    (all : List.Forall₂ (IsDescribed scope) hints types) (some : types ≠ []) :
    (evaluateIn scope (indexExpression (types.map expression))).Yields fun index =>
      (∀ item ∈ arguments index, IsType item) ∧
        List.Forall₂ MeansAs (arguments index) (hints.map kept) := by
  cases all with
  | nil => exact absurd rfl some
  | cons own rest =>
    cases rest with
    | nil =>
      refine own.evaluates.weaken fun made means => ?_
      rw [arguments_of_isType means.1, List.forall_mem_singleton]
      exact ⟨means.1, .cons means.2 .nil⟩
    | cons next rest =>
      have several := yields_evaluateAll (.cons own (.cons next rest))
      show (evaluateIn scope (.tuple _)).Yields _
      rw [evaluateIn, evaluate]
      exact several.bind fun made means => Evaluation.yields_pure means

/-- Operands with bars between them evaluate to their union. -/
theorem yields_foldl_bar {hints : List Hint} {types : List Descriptor}
    (all : List.Forall₂
      (fun hint t => (evaluateIn scope (expression t)).Yields (MadeFor (kept hint))) hints types) :
    ∀ {earlier : List Hint} {left : Expression},
      (evaluateIn scope left).Yields (MadeFor (union true earlier)) →
        (evaluateIn scope ((types.map expression).foldl (.binary "|") left)).Yields
          (MadeFor (union true (earlier ++ hints.map kept))) := by
  induction all with
  | nil =>
    intro earlier left own
    rw [List.map_nil, List.map_nil, List.append_nil]
    exact own
  | @cons hint t hints types first _ inductionHypothesis =>
    intro earlier left own
    have both : (evaluateIn scope (.binary "|" left (expression t))).Yields
        (MadeFor (union true (earlier ++ [kept hint]))) := by
      rw [evaluateIn_binary]
      refine own.bind fun made left => first.bind fun made' right => ?_
      refine (yields_combine left.isType left.notNull right.isType).weaken fun _ made => made.of_means ?_
      intro V I
      rw [Interpretation.meaning, Interpretation.meaning, I.meaningOfAny_append]
      simp only [Interpretation.meaningOfAny, left.means V I, right.means V I, Interpretation.meaning]
    have rest := inductionHypothesis both
    rwa [List.append_assoc] at rest

/-- A union of one member is that member. -/
theorem MadeFor.union_singleton {hint made : Hint} (own : MadeFor hint made) (bars : Bool) :
    MadeFor (union bars [hint]) made := by
  refine own.of_means fun V I => ?_
  rw [Interpretation.meaning, Interpretation.meaningOfAny, Interpretation.meaningOfAny, Set.union_empty]

theorem yields_barred {hints : List Hint} {types : List Descriptor}
    (all : List.Forall₂
      (fun hint t => (evaluateIn scope (expression t)).Yields (MadeFor (kept hint))) hints types)
    (some : types ≠ []) :
    (evaluateIn scope (barred (types.map expression))).Yields
      (MadeFor (union true (hints.map kept))) := by
  cases all with
  | nil => exact absurd rfl some
  | cons first rest =>
    exact yields_foldl_bar rest (first.weaken fun _ made => made.union_singleton true)

/-- The null type behind a bar adds null to a union. -/
theorem yields_orNull {members : List Hint} {operand : Expression}
    (own : (evaluateIn scope operand).Yields (MadeFor (union true members))) :
    (evaluateIn scope (.binary "|" operand (.value .null))).Yields
      (MadeFor (union true (members ++ [nullType]))) := by
  rw [evaluateIn_binary, evaluateIn_null]
  refine own.bind fun made left => ?_
  rw [pure_bind]
  refine (yields_combine left.isType left.notNull .null).weaken fun _ made => made.of_means fun V I => ?_
  rw [Interpretation.meaning, Interpretation.meaning, I.meaningOfAny_append]
  simp only [Interpretation.meaningOfAny, left.means V I, Interpretation.meaning, nullType]

end

/-! ### Describing types -/

section
variable {scope : Scope}

theorem ClassId.IsNamed.ne_null {id : ClassId} (named : id.IsNamed scope) :
    mapName id.qualifiedName ≠ nullName := by
  intro null
  have word := named.readable nullName
  rw [null] at word
  exact absurd (word (by decide)) (by decide)

theorem isDescribed_null {hint : Hint} (describes : describe hint = .ok ⟨nullName, false, []⟩)
    (null : hint = value .null ∨ hint = nullType) : IsDescribed scope hint ⟨nullName, false, []⟩ := by
  have evaluates : evaluateIn scope (expression ⟨nullName, false, []⟩) = pure (value .null) :=
    evaluateIn_null scope
  refine ⟨describes, .plain (by decide) (by decide) (List.forall_mem_nil _), ?_, ?_⟩
  · rw [evaluates]
    refine Evaluation.yields_pure ⟨.null, ?_⟩
    rcases null with rfl | rfl
    · exact .refl _
    · exact .null_nullType
  · rcases null with rfl | rfl
    · exact nofun
    · exact fun _ other => absurd other (by decide)

/-- A class is described by its name. -/
theorem isDescribed_class {hint : Hint} {id : ClassId} (named : id.IsNamed scope)
    (describes : describe hint = .ok ⟨id.qualifiedName, false, []⟩)
    (same : kept hint = classRef id) : IsDescribed scope hint ⟨id.qualifiedName, false, []⟩ := by
  have evaluates : (evaluateIn scope (expression ⟨id.qualifiedName, false, []⟩)).Yields
      (MadeFor (kept hint)) := by
    rw [expression, if_neg named.noUnion]
    refine named.yields.weaken ?_
    rintro _ rfl
    rw [same]
    exact ⟨.classRef named.isType, fun same => Hint.noConfusion same, .refl _⟩
  exact ⟨describes, .plain (.inr named.readable) named.noUnion (List.forall_mem_nil _),
    evaluates.weaken fun _ made => ⟨made.isType, made.means⟩, fun _ _ => ⟨named.ne_null, evaluates⟩⟩

theorem forall₂_describeArguments {items : List Hint}
    (each : ∀ item ∈ items, item ≠ ellipsis → ∃ t, IsDescribed scope item t) :
    ∃ types, describeArguments items = .ok types ∧
      List.Forall₂ (IsDescribed scope) (typesAmong items) types := by
  induction items with
  | nil => exact ⟨[], rfl, .nil⟩
  | cons first others inductionHypothesis =>
    obtain ⟨own, later⟩ := List.forall_mem_cons.mp each
    obtain ⟨types, rest, all⟩ := inductionHypothesis later
    by_cases isOpen : first = ellipsis
    · subst isOpen
      exact ⟨types, rest, all⟩
    · obtain ⟨t, described⟩ := own isOpen
      have isType : first.isEllipsis = false := by
        rw [← Bool.not_eq_true, isEllipsis_iff]
        exact isOpen
      refine ⟨t :: types, ?_, ?_⟩
      · rw [describeArguments, isType, described.describes, rest]
        rfl
      · rw [typesAmong, List.filter_cons_of_pos (by rw [isType]; rfl)]
        exact .cons described all

theorem forall₂_describeMembers {members : List Hint}
    (each : ∀ m ∈ members, ∃ t, IsDescribed scope m t) :
    ∃ types, describeMembers members = .ok types ∧
      List.Forall₂ (IsDescribed scope) (members.filter (!·.isNullType)) types := by
  induction members with
  | nil => exact ⟨[], rfl, .nil⟩
  | cons first others inductionHypothesis =>
    obtain ⟨⟨t, described⟩, later⟩ := List.forall_mem_cons.mp each
    obtain ⟨types, rest, all⟩ := inductionHypothesis later
    cases isNull : first.isNullType with
    | true =>
      refine ⟨types, ?_, ?_⟩
      · rw [describeMembers, isNull]
        exact rest
      · rwa [List.filter_cons_of_neg (by rw [isNull]; exact Bool.false_ne_true)]
    | false =>
      refine ⟨t :: types, ?_, ?_⟩
      · rw [describeMembers, isNull, described.describes, rest]
        rfl
      · rw [List.filter_cons_of_pos (by rw [isNull]; rfl)]
        exact .cons described all

/-- The types that describe other types can be read in square brackets. -/
theorem forall_isReadable {hints : List Hint} {types : List Descriptor}
    (all : List.Forall₂ (IsDescribed scope) hints types) :
    ∀ t ∈ types, TypeText.IsReadable false t := by
  induction all with
  | nil => exact List.forall_mem_nil _
  | cons own _ inductionHypothesis =>
    exact List.forall_mem_cons.mpr ⟨own.readable.anywhere, inductionHypothesis⟩

/-- A class applied to types is described by its name and the types. -/
theorem exists_isDescribed_applied {spelling : Spelling} {origin : ClassId} {items : List Hint}
    (named : origin.IsNamed scope) (takes : origin.Takes (typesAmong items).length)
    (each : ∀ item ∈ items, item ≠ ellipsis → ∃ t, IsDescribed scope item t) :
    ∃ t, IsDescribed scope (applied spelling origin items) t := by
  cases drops : dropsArguments origin with
  | true =>
    refine ⟨_, isDescribed_class named ?_ ?_⟩
    · rw [describe, if_pos drops]
    · rw [kept, drops]
      rfl
  | false =>
    obtain ⟨types, describes, all⟩ := forall₂_describeArguments each
    have described :
        describe (applied spelling origin items) = .ok ⟨origin.qualifiedName, false, types⟩ := by
      rw [describe, if_neg (by rw [drops]; exact Bool.false_ne_true), describes]
      rfl
    have left : kept (applied spelling origin items) =
        if ((typesAmong items).map kept).isEmpty then classRef origin
        else applied spelling origin ((typesAmong items).map kept) := by
      rw [kept, keptAll_eq_map, drops]
      rfl
    by_cases none : types = []
    · subst none
      refine ⟨_, isDescribed_class named described ?_⟩
      cases all' : typesAmong items with
      | nil => rw [left, all']; rfl
      | cons _ _ => rw [all'] at all; cases all
    · have some : ((typesAmong items).map kept).isEmpty = false := by
        cases all' : typesAmong items with
        | nil => rw [all'] at all; cases all; exact absurd rfl none
        | cons _ _ => rfl
      rw [some] at left
      have evaluates : (evaluateIn scope (expression ⟨origin.qualifiedName, false, types⟩)).Yields
          (MadeFor (kept (applied spelling origin items))) := by
        rw [expression, if_neg named.noUnion, if_neg Bool.false_ne_true,
          if_neg (by rwa [List.isEmpty_iff]), TypeText.expressions_eq_map, evaluateIn_subscript, left]
        refine named.yields.bind ?_
        rintro _ rfl
        refine (yields_index all none).bind fun index means => ?_
        have length : (arguments index).length = (typesAmong items).length := by
          rw [means.2.length_eq, List.length_map]
        refine (yields_subscripted means.1 (by rwa [length])).weaken fun made own => ?_
        exact own.of_means (MeansAs.applied means.2 _ _ _)
      exact ⟨_, described, .plain (.inr named.readable) named.noUnion (forall_isReadable all),
        evaluates.weaken fun _ made => ⟨made.isType, made.means⟩, fun _ _ => ⟨named.ne_null, evaluates⟩⟩

/-- Members of a union that stand for themselves in it are described by types that may stand between
bars. -/
theorem forall_notNull {members : List Hint} {types : List Descriptor}
    (all : List.Forall₂ (IsDescribed scope) members types)
    (own : ∀ m ∈ members, m.isMember = true ∧ m.isNullType = false) :
    (∀ t ∈ types, TypeText.IsReadable true t ∧ mapName t.name ≠ nullName) ∧
      List.Forall₂ (fun hint t => (evaluateIn scope (expression t)).Yields (MadeFor (kept hint))) members
        types := by
  induction all with
  | nil => exact ⟨List.forall_mem_nil _, .nil⟩
  | cons first _ inductionHypothesis =>
    obtain ⟨⟨isMember, notNull⟩, later⟩ := List.forall_mem_cons.mp own
    obtain ⟨readable, evaluates⟩ := inductionHypothesis later
    have here := first.notNull isMember notNull
    refine ⟨List.forall_mem_cons.mpr ⟨⟨?_, here.1⟩, readable⟩, .cons here.2 evaluates⟩
    have single := first.readable
    rwa [isMember] at single

/-- What is kept of a union means what is kept of its other members, or null. -/
theorem means_kept_union (bars : Bool) {members : List Hint}
    (types : ∀ m ∈ members, m.isEllipsis = false) :
    MeansAs (union true ((members.filter (!·.isNullType)).map kept ++
      if members.any isNullType then [nullType] else [])) (kept (union bars members)) := by
  intro V I
  rw [kept, Interpretation.meaning, Interpretation.meaning, I.meaningOfAny_append]
  induction members with
  | nil => simp only [List.filter_nil, List.map_nil, List.any_nil, keptAll,
      Interpretation.meaningOfAny, Bool.false_eq_true, if_false, Set.union_empty]
  | cons first others inductionHypothesis =>
    obtain ⟨isType, later⟩ := List.forall_mem_cons.mp types
    rw [keptAll, isType, if_neg Bool.false_ne_true, Interpretation.meaningOfAny,
      ← inductionHypothesis later, List.any_cons]
    cases isNull : first.isNullType with
    | true =>
      have null : first = nullType := by
        cases first with
        | classRef id => rw [isNullType, beq_iff_eq] at isNull; rw [isNull, nullType]
        | _ => cases isNull
      rw [List.filter_cons_of_neg (by rw [isNull]; exact Bool.false_ne_true), null, Bool.true_or,
        if_pos rfl]
      cases others.any isNullType with
      | true =>
        simp only [if_true, Interpretation.meaningOfAny, Set.union_empty, kept, nullType]
        rw [Set.union_left_comm, Set.union_self]
      | false =>
        simp only [Bool.false_eq_true, if_false, Interpretation.meaningOfAny, Set.union_empty, kept,
          nullType]
        exact Set.union_comm _ _
    | false =>
      rw [List.filter_cons_of_pos (by rw [isNull]; rfl), List.map_cons, Interpretation.meaningOfAny,
        Bool.false_or, Set.union_assoc]

/-- The description of a union is written with bars between its members, and with the null type
behind them if that is one of them. -/
theorem exists_describe_union (bars : Bool) {members : List Hint} {types : List Descriptor}
    (describes : describeMembers members = .ok types) (some : types ≠ [])
    (readable : ∀ t ∈ types, TypeText.IsReadable true t ∧ mapName t.name ≠ nullName) :
    ∃ t, describe (union bars members) = .ok t ∧ TypeText.IsReadable false t ∧
      expression t =
        if members.any isNullType then .binary "|" (barred (types.map expression)) (.value .null)
        else barred (types.map expression) := by
  match types, some with
  | [only], _ =>
    obtain ⟨single, notNull⟩ := readable only List.mem_cons_self
    refine ⟨only.asNullable (members.any isNullType), ?_, ?_⟩
    · rw [describe, describes]
      rfl
    · cases single with
      | plain named noUnion each =>
        rw [Descriptor.asNullable]
        cases members.any isNullType with
        | true =>
          refine ⟨.orNull (.plain named noUnion each) notNull, ?_⟩
          rw [expression, List.map_singleton, expression]
          rfl
        | false => exact ⟨.plain named noUnion each, rfl⟩
  | first :: second :: others, _ =>
    refine ⟨⟨unionName, members.any isNullType, first :: second :: others⟩, ?_, ?_, ?_⟩
    · rw [describe, describes]
      rfl
    · exact .union (fun t member => (readable t member).1) (Nat.le_add_left 2 others.length)
    · rw [expression, if_pos rfl, TypeText.expressions_eq_map]

/-- A union is described by its members other than the null type, and as nullable if that is one of
them. -/
theorem exists_isDescribed_union {bars : Bool} {members : List Hint}
    (each : ∀ m ∈ members, ∃ t, IsDescribed scope m t) (single : ∀ m ∈ members, m.isMember = true)
    (some : ∃ m ∈ members, m.isNullType = false) (noEllipsis : ∀ m ∈ members, m.isEllipsis = false) :
    ∃ t, IsDescribed scope (union bars members) t := by
  obtain ⟨types, describes, all⟩ := forall₂_describeMembers each
  obtain ⟨readable, evaluates⟩ := forall_notNull all fun m member => by
    obtain ⟨listed, notNull⟩ := List.mem_filter.mp member
    exact ⟨single m listed, by simpa using notNull⟩
  have nonempty : types ≠ [] := by
    rintro rfl
    obtain ⟨m, listed, notNull⟩ := some
    have member : m ∈ members.filter (!·.isNullType) :=
      List.mem_filter.mpr ⟨listed, by rw [notNull]; rfl⟩
    rw [List.forall₂_nil_right_iff.mp all] at member
    cases member
  obtain ⟨t, described, whole, written⟩ := exists_describe_union bars describes nonempty readable
  have operands := yields_barred evaluates nonempty
  have made : (evaluateIn scope (expression t)).Yields (MadeFor (kept (union bars members))) := by
    rw [written]
    cases isNullable : members.any isNullType with
    | true =>
      refine (yields_orNull operands).weaken fun _ made => made.of_means ?_
      have means := means_kept_union bars noEllipsis
      rwa [isNullable] at means
    | false =>
      refine operands.weaken fun _ made => made.of_means ?_
      have means := means_kept_union bars noEllipsis
      rwa [isNullable, if_neg Bool.false_ne_true, List.append_nil] at means
  exact ⟨t, described, whole, made.weaken fun _ made => ⟨made.isType, made.means⟩, nofun⟩

/-- Every type that can be written is described, and its annotation evaluates to a type that means
what is kept of it. -/
theorem exists_isDescribed {hint : Hint} (denotable : IsDenotable scope hint) :
    ∃ t, IsDescribed scope hint t := by
  induction denotable with
  | null => exact ⟨_, isDescribed_null (by rw [describe]) (.inl rfl)⟩
  | nullType => exact ⟨_, isDescribed_null rfl (.inr rfl)⟩
  | @classRef id named =>
    by_cases null : id = nullClass
    · subst null
      exact ⟨_, isDescribed_null rfl (.inr rfl)⟩
    · exact ⟨_, isDescribed_class named (by rw [describe, if_neg null]) rfl⟩
  | applied named takes _ inductionHypothesis =>
    exact exists_isDescribed_applied named takes inductionHypothesis
  | union each single some inductionHypothesis =>
    exact exists_isDescribed_union inductionHypothesis single some fun m member =>
      isEllipsis_of_isDenotable (each m member)

end

/-! ### Names in the common scope -/

section
variable {scope : Scope} {memory : Memory}

/-- What goes on after an expression that leaves what is remembered as it is. -/
theorem run_bind {α β : Type} {first : Evaluation α} {next : α → Evaluation β} {made : α}
    (run : first.run memory = (.ok made, memory)) :
    (first >>= next).run memory = (next made).run memory := by
  rw [ExceptT.run_bind]
  change (StateT.run (bind _ _) memory) = _
  rw [StateT.run_bind]
  change (bind (first.run memory) _) = _
  rw [run]
  rfl

/-- A name evaluates to what it is bound to. -/
theorem run_evaluate_name {name : String} {found : Hint} (noLocal : scope.locals.lookup name = none)
    (bound : scope.find? name = some found) (unnamed : memory.bindings = {}) :
    (evaluate (callNested callDepth) scope (.name name)).run memory = (.ok found, memory) := by
  obtain ⟨results, bindings, count⟩ := memory
  cases unnamed
  rw [evaluate, evaluateName, noLocal, bound]
  rfl

/-- A member of a module evaluates to what the module binds it to. -/
theorem run_evaluate_attribute {base : Expression} {moduleName name : String} {found : Hint}
    (run : (evaluate (callNested callDepth) scope base).run memory =
      (.ok (moduleRef moduleName), memory))
    (bound : scope.moduleMember moduleName name = some found) :
    (evaluate (callNested callDepth) scope (.attribute base name)).run memory =
      (.ok found, memory) := by
  rw [evaluate, run_bind run, attributeOf, bound]
  rfl

/-- The containers and the classes of whole numbers and of texts are called by their own names. -/
theorem isNamed_builtinClass {name : String} {arity : Arity}
    (listed : arity = .free ∧ name ∈ ["list", "dict", "set", "frozenset", "tuple"] ∨
      arity = .closed ∧ name ∈ ["int", "str"]) :
    (builtinClass name arity).IsNamed commonScope := by
  simp only [List.mem_cons, List.not_mem_nil, or_false] at listed
  have written : nameExpression (mapName (builtinClass name arity).qualifiedName) = .name name := by
    rcases listed with ⟨rfl, rfl | rfl | rfl | rfl | rfl⟩ | ⟨rfl, rfl | rfl⟩ <;> rfl
  have bound : commonScope.find? name = some (classRef (builtinClass name arity)) := by
    rcases listed with ⟨rfl, rfl | rfl | rfl | rfl | rfl⟩ | ⟨rfl, rfl | rfl⟩ <;> rfl
  refine ⟨?_, ?_, ?_, fun memory unnamed => ?_⟩
  · rcases listed with ⟨rfl, rfl | rfl | rfl | rfl | rfl⟩ | ⟨rfl, rfl | rfl⟩ <;> decide
  · rcases listed with ⟨rfl, rfl | rfl | rfl | rfl | rfl⟩ | ⟨rfl, rfl | rfl⟩ <;> decide
  · rcases listed with ⟨rfl, rfl | rfl | rfl | rfl | rfl⟩ | ⟨rfl, rfl | rfl⟩ <;> decide
  · rw [written]
    exact run_evaluate_name rfl bound unnamed

/-- The sample classes that take an argument are called by the path to them. -/
theorem isNamed_sampleGeneric {path : String} (listed : path = "Box" ∨ path = "MyCallable") :
    (Vocabulary.sampleGeneric path).IsNamed commonScope := by
  have written : nameExpression (mapName (Vocabulary.sampleGeneric path).qualifiedName) =
      .attribute (.attribute (.name "lib") "shapes") path := by
    rcases listed with rfl | rfl <;> rfl
  have bound : commonScope.moduleMember Vocabulary.sampleModule path =
      some (classRef (Vocabulary.sampleGeneric path)) := by
    rcases listed with rfl | rfl <;> rfl
  refine ⟨?_, ?_, ?_, fun memory unnamed => ?_⟩
  · rcases listed with rfl | rfl <;> decide
  · rcases listed with rfl | rfl <;> decide
  · rcases listed with rfl | rfl <;> decide
  · rw [written]
    have library : (evaluate (callNested callDepth) commonScope (.name "lib")).run memory =
        (.ok (moduleRef "lib"), memory) := run_evaluate_name rfl rfl unnamed
    exact run_evaluate_attribute (run_evaluate_attribute library rfl) bound

/-- A container of types can be written. -/
theorem isDenotable_container {spelling : Spelling} {name : String} {items : List Hint}
    (listed : name ∈ ["list", "dict", "set", "frozenset", "tuple"])
    (each : ∀ item ∈ items, item ≠ ellipsis → IsDenotable commonScope item) :
    IsDenotable commonScope (applied spelling (builtinClass name .free) items) := by
  have named := isNamed_builtinClass (.inl ⟨rfl, listed⟩)
  refine .applied named ⟨named.isType, ⟨?_, ?_, ?_⟩, .inl rfl⟩ each
  · intro same
    simp [builtinClass, annotatedClass] at same
  · intro same
    simp [builtinClass, callableClass] at same
  · exact (by decide : "type" ≠ "EnumType")

theorem isDenotable_int : IsDenotable commonScope (classRef (builtinClass "int" .closed)) :=
  .classRef (isNamed_builtinClass (.inr ⟨rfl, by decide⟩))

end

/-! ### Fidelity -/

/-- A text that begins with a word is evaluated as what it is read as. -/
theorem evaluateText_of_isLine {scope : Scope} {content : String} {e : Expression}
    (line : TypeText.IsLine content.toList) (read : Reader.read content = .ok e) :
    evaluateText scope content = evaluateIn scope e := by
  obtain ⟨⟨c, head, start⟩, -⟩ := line
  have visible : content.toList.dropWhile (fun c => c = ' ' || c = '\t') = content.toList := by
    cases letters : content.toList with
    | nil => rfl
    | cons d rest =>
      rw [letters] at head
      obtain rfl := Option.some.inj head
      refine List.dropWhile_cons_of_neg ?_
      simp only [Bool.or_eq_true, decide_eq_true_eq, not_or]
      exact ⟨TypeText.ne_of_start start rfl, TypeText.ne_of_start start rfl⟩
  rw [evaluateText, visible, String.ofList_toList, read]

/-- The annotation of a type denotes the type again exactly if nothing of it is lost: no argument is
the ellipsis, every class that is applied has arguments, and the name of none of these classes ends
like that of the class of functions. In any case the annotation is the one of the expression that
is evaluated here, and the text of it is read as such if brackets are not nested too deep. -/
theorem annotation_denotes_iff {scope : Scope} {hint : Hint} (denotable : IsDenotable scope hint) :
    ∃ t made, describe hint = .ok t ∧
      (evaluateIn scope (TypeText.expression t)).value {} = .ok made ∧
      (TypeText.nesting t ≤ Token.bracketLimit →
        (evaluateText scope (TypeText.write t)).value {} = .ok made) ∧
      (MeansAs made hint ↔ hint.isLossless = true) := by
  obtain ⟨t, described⟩ := exists_isDescribed denotable
  obtain ⟨made, value, ⟨-, means⟩, -⟩ := described.evaluates {} Memory.isSound_empty
  refine ⟨t, made, described.describes, value, fun shallow => ?_, ?_⟩
  · rw [evaluateText_of_isLine (TypeText.isLine_write described.readable)
      (TypeText.read_write described.readable shallow)]
    exact value
  · rw [← meansAs_kept_iff denotable]
    exact ⟨fun same => means.symm.trans same, fun same => means.trans same⟩

/-- A dictionary, a box of lists, or null. -/
def tallies : Hint :=
  union true [
    applied .plain (builtinClass "dict" .free) [classRef (builtinClass "str" .closed),
      union true [classRef (builtinClass "int" .closed), nullType]],
    applied .declared (Vocabulary.sampleGeneric "Box")
      [applied .plain (builtinClass "list" .free) [classRef (builtinClass "int" .closed)]],
    nullType]

theorem isDenotable_tallies : IsDenotable commonScope tallies := by
  have text : IsDenotable commonScope (classRef (builtinClass "str" .closed)) :=
    .classRef (isNamed_builtinClass (.inr ⟨rfl, by decide⟩))
  have counts : IsDenotable commonScope
      (union true [classRef (builtinClass "int" .closed), nullType]) :=
    .union (by simp [isDenotable_int, IsDenotable.nullType]) (by decide) (by decide)
  have list : IsDenotable commonScope
      (applied .plain (builtinClass "list" .free) [classRef (builtinClass "int" .closed)]) :=
    isDenotable_container (by decide) (by simp [isDenotable_int])
  have named := isNamed_sampleGeneric (.inl rfl)
  refine .union ?_ (by decide) (by decide)
  simp only [List.forall_mem_cons]
  refine ⟨?_, ?_, .nullType, List.forall_mem_nil _⟩
  · exact isDenotable_container (by decide) (by simp [text, counts])
  · exact .applied named ⟨named.isType, by decide, .inr ⟨rfl, by decide⟩⟩ (by simp [list])

/-- Nothing is lost of a type with null among the members of unions and with generic types in each
other: the text that is written for it is evaluated as the type again. -/
theorem annotation_denotes_tallies :
    IsDenotable commonScope tallies ∧ ∃ made,
      (evaluateText commonScope "dict[str, int | None] | lib.shapes.Box[list[int]] | None").value {} =
        .ok made ∧
      MeansAs made tallies := by
  refine ⟨isDenotable_tallies, ?_⟩
  obtain ⟨t, made, described, -, evaluated, means⟩ := annotation_denotes_iff isDenotable_tallies
  have written : describe tallies = .ok ⟨unionName, true,
      [⟨"builtins.dict", false, [⟨"builtins.str", false, []⟩, ⟨"builtins.int", true, []⟩]⟩,
        ⟨"lib.shapes.Box", false, [⟨"builtins.list", false, [⟨"builtins.int", false, []⟩]⟩]⟩]⟩ := rfl
  obtain rfl := Except.ok.inj (described.symm.trans written)
  exact ⟨made, evaluated (by decide +kernel), means.mpr (by decide +kernel)⟩

/-- Tuples of any length. -/
def integers : Hint :=
  applied .plain (builtinClass "tuple" .free) [classRef (builtinClass "int" .closed), ellipsis]

/-- Tuples of one item. -/
def singleInteger : Hint :=
  applied .plain (builtinClass "tuple" .free) [classRef (builtinClass "int" .closed)]

/-- The type of tuples of any length is described like that of tuples of one item, and that is what
its annotation denotes. -/
theorem annotation_denotes_single :
    IsDenotable commonScope integers ∧
      describe integers = .ok ⟨"builtins.tuple", false, [⟨"builtins.int", false, []⟩]⟩ ∧
      TypeText.write ⟨"builtins.tuple", false, [⟨"builtins.int", false, []⟩]⟩ = "tuple[int]" ∧
      (evaluateText commonScope "tuple[int]").value {} = .ok singleInteger ∧
      ¬MeansAs singleInteger integers := by
  have denotable : IsDenotable commonScope integers :=
    isDenotable_container (by decide) (by simp [isDenotable_int])
  have readable :
      TypeText.IsReadable false ⟨"builtins.tuple", false, [⟨"builtins.int", false, []⟩]⟩ :=
    .plain (by decide) (by decide) <| List.forall_mem_singleton.mpr <|
      .plain (by decide) (by decide) (List.forall_mem_nil _)
  have written : TypeText.write ⟨"builtins.tuple", false, [⟨"builtins.int", false, []⟩]⟩ =
      "tuple[int]" := by decide +kernel
  have subscript : expression ⟨"builtins.tuple", false, [⟨"builtins.int", false, []⟩]⟩ =
      .subscript (.name "tuple") (.name "int") := rfl
  refine ⟨denotable, rfl, written, ?_, fun means => ?_⟩
  · rw [← written, evaluateText_of_isLine (TypeText.isLine_write readable)
      (TypeText.read_write readable (by decide +kernel)), subscript, evaluateIn_subscript,
      Evaluation.value, evaluateIn, run_bind (run_evaluate_name rfl rfl rfl), evaluateIn,
      run_bind (run_evaluate_name rfl rfl rfl)]
    rfl
  · cases (meansAs_kept_iff denotable).mp means

end StateContainer.Hint
