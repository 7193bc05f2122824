/-
This file says what types mean, and that equality of types is equality of what they mean.

A type means a set of values. What a class means is given, and so is what a class applied to
arguments means once it is known what the arguments mean; a union means the values that one of its
members means. How a generic type is spelled does not count, nor does the order of the members of a
union. Two types mean the same if they do so whatever the classes mean.

Equality finds a member of the second union for every member of the first one. Since the members of
a union are told apart and both unions have equally many, that leaves no member of the second union
without a partner: equality of types is symmetric, and equal unions mean the same.
-/

import Mathlib.Data.List.Forall2
import Mathlib.Data.Set.Lattice
import StateContainer.Hint

namespace StateContainer.Hint

/-! ### Meanings -/

/-- What is given of the meaning of types. -/
structure Interpretation (V : Type) where
  ofClass : ClassId → Set V
  /-- What a class means that is applied to arguments of the given meanings. -/
  ofGeneric : ClassId → List (Set V) → Set V
  /-- What is no class and no generic type, such as the ellipsis among the arguments of one. -/
  ofOther : Hint → Set V

namespace Interpretation

variable {V : Type} (I : Interpretation V)

mutual

/-- The values of a type. -/
def meaning : Hint → Set V
  | value .null => I.ofClass nullClass
  | classRef id => I.ofClass id
  | applied _ origin items => I.ofGeneric origin (meanings items)
  | union _ members => meaningOfAny members
  | other => I.ofOther other

/-- The values of each of several types. -/
def meanings : List Hint → List (Set V)
  | [] => []
  | first :: others => meaning first :: meanings others

/-- The values of any of several types. -/
def meaningOfAny : List Hint → Set V
  | [] => ∅
  | first :: others => meaning first ∪ meaningOfAny others

end

theorem meanings_eq_map (items : List Hint) : I.meanings items = items.map I.meaning := by
  induction items with
  | nil => rfl
  | cons first others inductionHypothesis => rw [meanings, inductionHypothesis, List.map_cons]

theorem mem_meaningOfAny {members : List Hint} {v : V} :
    v ∈ I.meaningOfAny members ↔ ∃ m ∈ members, v ∈ I.meaning m := by
  induction members with
  | nil =>
    simp only [meaningOfAny, Set.mem_empty_iff_false, List.not_mem_nil, false_and, exists_false]
  | cons first others inductionHypothesis =>
    simp only [meaningOfAny, Set.mem_union, inductionHypothesis, List.mem_cons, exists_eq_or_imp]

@[simp] theorem meaningOfAny_append (items others : List Hint) :
    I.meaningOfAny (items ++ others) = I.meaningOfAny items ∪ I.meaningOfAny others := by
  ext v
  simp only [mem_meaningOfAny, List.mem_append, or_and_right, exists_or, Set.mem_union]

/-- Unions that have members of the same meanings mean the same. -/
theorem meaningOfAny_eq {members others : List Hint}
    (forth : ∀ m ∈ members, ∃ o ∈ others, I.meaning m = I.meaning o)
    (back : ∀ o ∈ others, ∃ m ∈ members, I.meaning m = I.meaning o) :
    I.meaningOfAny members = I.meaningOfAny others := by
  ext v
  rw [mem_meaningOfAny, mem_meaningOfAny]
  constructor
  · rintro ⟨m, member, inside⟩
    obtain ⟨o, other, same⟩ := forth m member
    exact ⟨o, other, same ▸ inside⟩
  · rintro ⟨o, other, inside⟩
    obtain ⟨m, member, same⟩ := back o other
    exact ⟨m, member, same ▸ inside⟩

/-- A type means what any of its members means. -/
@[simp] theorem meaningOfAny_members (hint : Hint) :
    I.meaningOfAny hint.members = I.meaning hint := by
  unfold members
  split <;> simp only [meaningOfAny, meaning, nullType, Set.union_empty]

theorem meaningOfAny_flatMap_members (items : List Hint) :
    I.meaningOfAny (items.flatMap members) = I.meaningOfAny items := by
  induction items with
  | nil => rfl
  | cons first others inductionHypothesis =>
    rw [List.flatMap_cons, meaningOfAny_append, meaningOfAny_members, inductionHypothesis,
      meaningOfAny]

end Interpretation

/-- Whether two types mean the same, whatever the classes mean. -/
def MeansAs (hint other : Hint) : Prop :=
  ∀ (V : Type) (I : Interpretation V), I.meaning hint = I.meaning other

namespace MeansAs

theorem refl (hint : Hint) : MeansAs hint hint := fun _ _ => rfl

theorem symm {x y : Hint} (means : MeansAs x y) : MeansAs y x := fun V I => (means V I).symm

theorem trans {x y z : Hint} (first : MeansAs x y) (second : MeansAs y z) : MeansAs x z :=
  fun V I => (first V I).trans (second V I)

/-- Null stands for its class. -/
theorem null_nullType : MeansAs (value .null) nullType := fun _ _ => rfl

/-- Generic types mean the same if their arguments do, however they are spelled. -/
theorem applied {items others : List Hint} (each : List.Forall₂ MeansAs items others)
    (spelling spelling' : Spelling) (origin : ClassId) :
    MeansAs (.applied spelling origin items) (.applied spelling' origin others) := by
  intro V I
  have same : items.map I.meaning = others.map I.meaning := by
    induction each with
    | nil => rfl
    | cons first _ inductionHypothesis =>
      rw [List.map_cons, List.map_cons, first V I, inductionHypothesis]
  rw [Interpretation.meaning, Interpretation.meaning, I.meanings_eq_map, I.meanings_eq_map, same]

/-- Unions mean the same if their members do. -/
theorem union {members others : List Hint} (each : List.Forall₂ MeansAs members others)
    (bars bars' : Bool) : MeansAs (.union bars members) (.union bars' others) := by
  intro V I
  rw [Interpretation.meaning, Interpretation.meaning]
  induction each with
  | nil => rfl
  | cons first _ inductionHypothesis =>
    rw [Interpretation.meaningOfAny, Interpretation.meaningOfAny, first V I, inductionHypothesis]

end MeansAs

/-! ### Types -/

/-- Whether a class is a type: the declarations of generic classes are none. The class of null is
the only one whose class is called like it. -/
def ClassId.IsType (id : ClassId) : Prop :=
  id.metaName ≠ "NoneType" ∧
    (id.moduleName = "typing" && (id.path = "Generic" || id.path = "Protocol")) = false

instance (id : ClassId) : Decidable id.IsType := instDecidableAnd

/-- Whether a member of a union is one that stands for itself in it. -/
def isMember : Hint → Bool
  | union _ _ => false
  | value .null => false
  | _ => true

/-- What evaluating the annotation of a type gives: null, classes, classes applied to types, and
unions of members that are told apart. -/
inductive IsType : Hint → Prop
  | null : IsType (value .null)
  | classRef {id : ClassId} (isType : id.IsType) : IsType (classRef id)
  | applied {spelling : Spelling} {origin : ClassId} {items : List Hint}
      (each : ∀ item ∈ items, IsType item) : IsType (applied spelling origin items)
  | union {bars : Bool} {members : List Hint} (each : ∀ m ∈ members, IsType m)
      (single : ∀ m ∈ members, m.isMember = true)
      (apart : members.Pairwise fun earlier later => same later earlier = false) :
      IsType (union bars members)

/-! ### Equality -/

section
variable {x y z : Hint}

theorem eq_null_of_same (equal : same (value .null) y = true) : y = value .null := by
  cases y with
  | value v =>
    rw [same] at equal
    cases v <;> first | rfl | simp [Value.same, Value.integer?] at equal
  | complex a b => simp [same, isReal, Value.same, Value.integer?] at equal
  | _ => simp [same] at equal

theorem eq_classRef_of_same {id : ClassId} (equal : same (classRef id) y = true) :
    y = classRef id := by
  cases y with
  | classRef other => rw [same, beq_iff_eq] at equal; rw [equal]
  | _ => simp [same] at equal

theorem sameAll_iff {items others : List Hint} :
    sameAll items others = true ↔ List.Forall₂ (fun x y => same x y = true) items others := by
  induction items generalizing others with
  | nil => cases others <;> simp [sameAll]
  | cons first rest inductionHypothesis =>
    cases others with
    | nil => simp [sameAll]
    | cons first' rest' =>
      rw [sameAll, Bool.and_eq_true, inductionHypothesis, List.forall₂_cons]

theorem allIn_iff {members others : List Hint} :
    allIn members others = true ↔ ∀ x ∈ members, ∃ y ∈ others, same x y = true := by
  induction members with
  | nil => simp [allIn]
  | cons first rest inductionHypothesis =>
    rw [allIn, Bool.and_eq_true, List.any_eq_true, inductionHypothesis, List.forall_mem_cons]

theorem exists_of_same_applied {spelling : Spelling} {origin : ClassId} {items : List Hint}
    (equal : same (applied spelling origin items) y = true) :
    ∃ spelling' others, y = applied spelling' origin others ∧
      (spelling == .plain) = (spelling' == .plain) ∧
      List.Forall₂ (fun x y => same x y = true) items others := by
  cases y with
  | applied spelling' origin' others =>
    rw [same, Bool.and_eq_true, Bool.and_eq_true, beq_iff_eq, beq_iff_eq, sameAll_iff] at equal
    obtain ⟨⟨spelled, rfl⟩, each⟩ := equal
    exact ⟨spelling', others, rfl, spelled, each⟩
  | _ => simp [same] at equal

theorem exists_of_same_union {bars : Bool} {members : List Hint}
    (equal : same (union bars members) y = true) :
    ∃ bars' others, y = union bars' others ∧ members.length = others.length ∧
      ∀ m ∈ members, ∃ o ∈ others, same m o = true := by
  cases y with
  | union bars' others =>
    rw [same, Bool.and_eq_true, beq_iff_eq, allIn_iff] at equal
    exact ⟨bars', others, rfl, equal⟩
  | _ => simp [same] at equal

/-- What one relation gives item by item, so does another one that the first one entails for the
items of the first list. -/
theorem forall₂_imp_of_mem {R S : Hint → Hint → Prop} {items others : List Hint}
    (each : ∀ x ∈ items, ∀ {y}, R x y → S x y) (all : List.Forall₂ R items others) :
    List.Forall₂ S items others := by
  induction all with
  | nil => exact .nil
  | cons own _ inductionHypothesis =>
    obtain ⟨here, later⟩ := List.forall_mem_cons.mp each
    exact .cons (here own) (inductionHypothesis later)

/-- Equality of types is transitive. -/
theorem same_trans (isType : IsType x) (first : same x y = true) (second : same y z = true) :
    same x z = true := by
  induction isType generalizing y z with
  | null =>
    obtain rfl := eq_null_of_same first
    exact second
  | classRef _ =>
    obtain rfl := eq_classRef_of_same first
    exact second
  | @applied spelling origin items types inductionHypothesis =>
    obtain ⟨_, others, rfl, spelled, each⟩ := exists_of_same_applied first
    obtain ⟨_, further, rfl, spelled', each'⟩ := exists_of_same_applied second
    have all : List.Forall₂ (fun x y => same x y = true) items further := by
      clear first second types
      induction each generalizing further with
      | nil => cases each'; exact .nil
      | cons own _ later =>
        cases each' with
        | cons own' each' =>
          obtain ⟨here, rest⟩ := List.forall_mem_cons.mp inductionHypothesis
          exact .cons (here own own') (later rest _ each')
    rw [same, spelled, spelled', beq_self_eq_true, beq_self_eq_true, sameAll_iff.mpr all]
    rfl
  | union _ _ _ inductionHypothesis =>
    obtain ⟨_, others, rfl, length, each⟩ := exists_of_same_union first
    obtain ⟨_, further, rfl, length', each'⟩ := exists_of_same_union second
    rw [same, Bool.and_eq_true, beq_iff_eq, allIn_iff]
    refine ⟨length.trans length', fun m member => ?_⟩
    obtain ⟨o, other, equal⟩ := each m member
    obtain ⟨f, later, equal'⟩ := each' o other
    exact ⟨f, later, inductionHypothesis m member equal equal'⟩

end

/-- If no two of at least as many items share a partner, everything has one. -/
theorem exists_partner {α β : Type} {related : α → β → Prop} {items : List α} {others : List β}
    (length : others.length ≤ items.length) (each : ∀ x ∈ items, ∃ y ∈ others, related x y)
    (apart : items.Pairwise fun x x' => ∀ y, related x y → ¬related x' y) :
    ∀ y ∈ others, ∃ x ∈ items, related x y := by
  induction items generalizing others with
  | nil =>
    rw [List.length_nil, Nat.le_zero, List.length_eq_zero_iff] at length
    rw [length]
    exact List.forall_mem_nil _
  | cons first rest inductionHypothesis =>
    obtain ⟨⟨partner, member, own⟩, later⟩ := List.forall_mem_cons.mp each
    obtain ⟨before, after, rfl⟩ := List.append_of_mem member
    obtain ⟨alone, apart⟩ := List.pairwise_cons.mp apart
    have remaining : ∀ y ∈ before ++ after, ∃ x ∈ rest, related x y := by
      refine inductionHypothesis ?_ (fun x inRest => ?_) apart
      · simp only [List.length_append, List.length_cons] at length ⊢
        omega
      · obtain ⟨y, other, relates⟩ := later x inRest
        rcases List.mem_append.mp other with inBefore | inAfter
        · exact ⟨y, List.mem_append_left _ inBefore, relates⟩
        · rcases List.mem_cons.mp inAfter with rfl | inAfter
          · exact absurd relates (alone x inRest _ own)
          · exact ⟨y, List.mem_append_right _ inAfter, relates⟩
    intro y other
    by_cases here : y = partner
    · exact ⟨first, List.mem_cons_self, here ▸ own⟩
    · have elsewhere : y ∈ before ++ after := by
        simpa only [List.mem_append, List.mem_cons, here, false_or] using other
      obtain ⟨x, inRest, relates⟩ := remaining y elsewhere
      exact ⟨x, List.mem_cons_of_mem _ inRest, relates⟩

/-- In equal unions every member of the second one is equal to one of the first one, if equality is
symmetric for the members of the first one. -/
theorem exists_same_member {members others : List Hint} (each : ∀ m ∈ members, IsType m)
    (apart : members.Pairwise fun earlier later => same later earlier = false)
    (symmetric : ∀ m ∈ members, ∀ o, same m o = true → same o m = true)
    (length : members.length = others.length)
    (found : ∀ m ∈ members, ∃ o ∈ others, same m o = true) :
    ∀ o ∈ others, ∃ m ∈ members, same m o = true := by
  refine exists_partner length.ge found
    (apart.imp_of_mem fun {earlier later} inside member differ => ?_)
  intro o first second
  have back := symmetric earlier inside o first
  rw [same_trans (each later member) second back] at differ
  cases differ

/-- Equality of types is symmetric. -/
theorem same_symm {x y : Hint} (isType : IsType x) (equal : same x y = true) : same y x = true := by
  induction isType generalizing y with
  | null =>
    obtain rfl := eq_null_of_same equal
    exact equal
  | classRef _ =>
    obtain rfl := eq_classRef_of_same equal
    exact equal
  | @applied spelling origin items _ inductionHypothesis =>
    obtain ⟨_, others, rfl, spelled, each⟩ := exists_of_same_applied equal
    have all : List.Forall₂ (fun x y => same x y = true) others items :=
      (forall₂_imp_of_mem inductionHypothesis each).flip
    rw [same, spelled, beq_self_eq_true, beq_self_eq_true, sameAll_iff.mpr all]
    rfl
  | union each _ apart inductionHypothesis =>
    obtain ⟨_, others, rfl, length, found⟩ := exists_of_same_union equal
    rw [same, Bool.and_eq_true, beq_iff_eq, allIn_iff]
    refine ⟨length.symm, fun o other => ?_⟩
    obtain ⟨m, member, own⟩ :=
      exists_same_member each apart (fun m member _ => inductionHypothesis m member) length found o other
    exact ⟨m, member, inductionHypothesis m member own⟩

/-- Equal types mean the same. -/
theorem meansAs_of_same {x y : Hint} (isType : IsType x) (equal : same x y = true) :
    MeansAs x y := by
  induction isType generalizing y with
  | null =>
    obtain rfl := eq_null_of_same equal
    exact .refl _
  | classRef _ =>
    obtain rfl := eq_classRef_of_same equal
    exact .refl _
  | applied _ inductionHypothesis =>
    obtain ⟨_, others, rfl, -, each⟩ := exists_of_same_applied equal
    exact .applied (forall₂_imp_of_mem inductionHypothesis each) _ _ _
  | union each _ apart inductionHypothesis =>
    obtain ⟨_, others, rfl, length, found⟩ := exists_of_same_union equal
    intro V I
    rw [Interpretation.meaning, Interpretation.meaning]
    refine I.meaningOfAny_eq (fun m member => ?_) fun o other => ?_
    · obtain ⟨o, other, own⟩ := found m member
      exact ⟨o, other, inductionHypothesis m member own V I⟩
    · obtain ⟨m, member, own⟩ :=
        exists_same_member each apart (fun m member _ => same_symm (each m member)) length found o other
      exact ⟨m, member, inductionHypothesis m member own V I⟩

/-! ### Unions -/

/-- What is kept of items while those equal to an earlier one are left out. -/
theorem distinct_foldl {items kept : List Hint}
    (apart : kept.Pairwise fun earlier later => same later earlier = false) :
    let final :=
      items.foldl (fun kept item => if kept.any (same item ·) then kept else kept ++ [item]) kept
    kept ⊆ final ∧ final ⊆ kept ++ items ∧
      final.Pairwise (fun earlier later => same later earlier = false) ∧
      ∀ item ∈ items, item ∈ final ∨ ∃ earlier ∈ final, same item earlier = true := by
  induction items generalizing kept with
  | nil =>
    exact ⟨List.Subset.refl _, List.subset_append_left _ _, apart, List.forall_mem_nil _⟩
  | cons first others inductionHypothesis =>
    rw [List.foldl_cons]
    by_cases present : kept.any (same first ·) = true
    · obtain ⟨grows, within, apart, covered⟩ := inductionHypothesis apart
      rw [if_pos present]
      refine ⟨grows, fun item member => ?_, apart, List.forall_mem_cons.mpr ⟨.inr ?_, covered⟩⟩
      · rcases List.mem_append.mp (within member) with inKept | inOthers
        · exact List.mem_append_left _ inKept
        · exact List.mem_append_right _ (List.mem_cons_of_mem _ inOthers)
      · obtain ⟨earlier, member, equal⟩ := List.any_eq_true.mp present
        exact ⟨earlier, grows member, equal⟩
    · have longer : (kept ++ [first]).Pairwise fun earlier later => same later earlier = false := by
        refine List.pairwise_append.mpr
          ⟨apart, List.pairwise_singleton _ _, fun earlier member later single => ?_⟩
        rw [List.mem_singleton.mp single, ← Bool.not_eq_true]
        exact fun equal => present (List.any_eq_true.mpr ⟨earlier, member, equal⟩)
      obtain ⟨grows, within, apart, covered⟩ := inductionHypothesis longer
      rw [if_neg present]
      refine ⟨fun item member => grows (List.mem_append_left _ member), ?_, apart,
        List.forall_mem_cons.mpr ⟨.inl (grows ?_), covered⟩⟩
      · rwa [List.append_assoc] at within
      · exact List.mem_append_right _ List.mem_cons_self

theorem distinct_spec (items : List Hint) :
    distinct items ⊆ items ∧
      (distinct items).Pairwise (fun earlier later => same later earlier = false) ∧
      ∀ item ∈ items, item ∈ distinct items ∨ ∃ earlier ∈ distinct items, same item earlier = true :=
  (distinct_foldl List.Pairwise.nil).2

/-- Leaving out repeated members does not change what a union means. -/
theorem meaningOfAny_distinct {V : Type} (I : Interpretation V) {items : List Hint}
    (each : ∀ item ∈ items, IsType item) :
    I.meaningOfAny (distinct items) = I.meaningOfAny items := by
  obtain ⟨within, -, covered⟩ := distinct_spec items
  refine I.meaningOfAny_eq (fun item kept => ⟨item, within kept, rfl⟩) fun item member => ?_
  rcases covered item member with kept | ⟨earlier, kept, equal⟩
  · exact ⟨item, kept, rfl⟩
  · exact ⟨earlier, kept, (meansAs_of_same (each item member) equal V I).symm⟩

/-- The members of a type are types that stand for themselves in a union. -/
theorem isType_of_mem_members {hint m : Hint} (isType : IsType hint) (member : m ∈ hint.members) :
    IsType m ∧ m.isMember = true := by
  cases isType with
  | null =>
    obtain rfl := List.mem_singleton.mp member
    exact ⟨.classRef (by decide), rfl⟩
  | classRef isType =>
    obtain rfl := List.mem_singleton.mp member
    exact ⟨.classRef isType, rfl⟩
  | applied each =>
    obtain rfl := List.mem_singleton.mp member
    exact ⟨.applied each, rfl⟩
  | union each single apart => exact ⟨each m member, single m member⟩

/-- The union of types is a type, and no null. -/
theorem isType_unite {items : List Hint} (each : ∀ item ∈ items, IsType item) (bars : Bool) :
    IsType (unite bars items) ∧ unite bars items ≠ value .null := by
  have own : ∀ m ∈ items.flatMap members, IsType m ∧ m.isMember = true := by
    intro m member
    obtain ⟨item, inside, member⟩ := List.mem_flatMap.mp member
    exact isType_of_mem_members (each item inside) member
  obtain ⟨within, apart, -⟩ := distinct_spec (items.flatMap members)
  unfold unite
  split
  · next only single =>
    have member : only ∈ distinct (items.flatMap members) := by rw [single]; exact List.mem_cons_self
    obtain ⟨isType, isMember⟩ := own only (within member)
    refine ⟨isType, ?_⟩
    rintro rfl
    cases isMember
  · exact ⟨.union (fun m member => (own m (within member)).1) (fun m member => (own m (within member)).2)
      apart, nofun⟩

/-- The union of types means the values of any of them. -/
theorem meaning_unite {V : Type} (I : Interpretation V) {items : List Hint}
    (each : ∀ item ∈ items, IsType item) (bars : Bool) :
    I.meaning (unite bars items) = I.meaningOfAny items := by
  have own : ∀ m ∈ items.flatMap members, IsType m := by
    intro m member
    obtain ⟨item, inside, member⟩ := List.mem_flatMap.mp member
    exact (isType_of_mem_members (each item inside) member).1
  rw [← I.meaningOfAny_flatMap_members, ← meaningOfAny_distinct I own]
  unfold unite
  split
  · next only single =>
    rw [single, Interpretation.meaningOfAny, Interpretation.meaningOfAny, Set.union_empty]
  · rw [Interpretation.meaning]

/-! ### Keys -/

/-- A type can be a key. -/
theorem unhashable?_of_isType {hint : Hint} (isType : IsType hint) : hint.unhashable? = none := by
  have all : ∀ items : List Hint, (∀ item ∈ items, item.unhashable? = none) →
      unhashableIn? items = none := by
    intro items each
    induction items with
    | nil => rfl
    | cons first others inductionHypothesis =>
      obtain ⟨own, later⟩ := List.forall_mem_cons.mp each
      rw [unhashableIn?, own, inductionHypothesis later]
      rfl
  induction isType with
  | null => rfl
  | classRef _ => rfl
  | applied _ inductionHypothesis => rw [unhashable?]; exact all _ inductionHypothesis
  | union _ _ _ inductionHypothesis => rw [unhashable?]; exact all _ inductionHypothesis

end StateContainer.Hint
