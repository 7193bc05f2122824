/-
This file says which state definitions of a module are found.

Names are gone through, and not classes. So every class that is declared at the top of the
module, marked as a state definition and still bound to a name is found, but it is found as
often as names are bound to it; a class inside of another one is found once a name is bound to
it; and where a name is bound anew, what it is bound to stands at the place of what it was
bound to first. If all names are different and bound once, the definitions are the classes
that are declared, in this order.
-/

import Mathlib.Data.List.Nodup
import StateContainer.Proofs.Class.Identity

namespace StateContainer

open StateContainer.Class

/-! ### Lists without repetitions -/

/-- What is taken of a list without repetitions has none itself, and keeps the order. -/
theorem eq_filter_mem_iff {α : Type} [DecidableEq α] {all taken : List α} (distinct : all.Nodup) :
    taken = all.filter (· ∈ taken) ↔
      taken.Nodup ∧ taken ⊆ all ∧
        taken.Pairwise fun first second => all.idxOf first ≤ all.idxOf second := by
  have ordered : (all.filter (· ∈ taken)).Pairwise fun first second =>
      all.idxOf first ≤ all.idxOf second := by
    refine List.Pairwise.filter _ (List.pairwise_iff_getElem.mpr fun i j before within less => ?_)
    rw [distinct.idxOf_getElem, distinct.idxOf_getElem]
    exact Nat.le_of_lt less
  constructor
  · intro same
    have once : taken.Nodup := same ▸ distinct.filter _
    have inside : taken ⊆ all := fun item member => List.mem_of_mem_filter (same ▸ member)
    exact ⟨once, inside, same ▸ ordered⟩
  · rintro ⟨once, inside, sorted⟩
    have permuted : taken.Perm (all.filter (· ∈ taken)) := by
      refine (List.perm_ext_iff_of_nodup once (distinct.filter _)).mpr fun item => ?_
      rw [List.mem_filter, decide_eq_true_iff]
      exact ⟨fun member => ⟨inside member, member⟩, And.right⟩
    refine permuted.eq_of_pairwise (fun first second member _ le ge => ?_) sorted ordered
    exact (List.idxOf_inj (inside member)).mp (Nat.le_antisymm le ge)

namespace ClassModule

section
variable {m next last : ClassModule} {name : String} {declarations : List Declaration}
  {aliases : List (String × String)} {c : ClassInfo}

/-! ### The classes at the top of a module -/

/-- Declares classes of a module one after the other, and binds their names. -/
def declareEach (m : ClassModule) : List Declaration → Building (ClassModule × List ClassInfo)
  | [] => return (m, [])
  | first :: others => do
    let (next, c) ← m.declareClass "" first
    let bound := { next with names := next.names.insert first.name (.classRef c.id) }
    let (last, found) ← bound.declareEach others
    return (last, c :: found)

theorem foldlM_declare_eq (m : ClassModule) (declarations : List Declaration) :
    declarations.foldlM declare m = Prod.fst <$> m.declareEach declarations := by
  induction declarations generalizing m with
  | nil => rfl
  | cons first others inductionHypothesis =>
    rw [List.foldlM_cons, declare, declareEach, map_bind, bind_assoc]
    refine bind_congr fun made => ?_
    rw [pure_bind, inductionHypothesis, map_bind]
    rw [map_eq_pure_bind]
    rfl

/-- The classes that are declared at the top of a module, in order. -/
def topLevel (name : String) (declarations : List Declaration) : List ClassInfo :=
  match (declareEach { name } declarations).run {} with
  | (.ok (_, found), _) => found
  | (.error _, _) => []

/-- Whether classes are those that were declared one after the other on the way from one module to
another. -/
structure AddsEach (m next : ClassModule) (declarations : List Declaration) (found : List ClassInfo) :
    Prop extends Grows m next where
  length : found.length = declarations.length
  names : next.names = ((declarations.map (·.name)).zip found).foldl
    (fun names pair => names.insert pair.1 (.classRef pair.2.id)) m.names
  distinct : (found.map (·.id)).Nodup
  fresh : ∀ c ∈ found, c.id ∉ m.classes.keys
  found : ∀ c ∈ found, next.classOf? c.id = some c

theorem Adds.cons {declaration : Declaration} {others : List ClassInfo} (first : m.Adds next c)
    (rest : AddsEach { next with names := next.names.insert declaration.name (.classRef c.id) } last
      declarations others) :
    m.AddsEach last (declaration :: declarations) (c :: others) where
  toGrows := (first.toGrows.bind _).trans rest.toGrows
  length := congrArg (· + 1) rest.length
  names := by
    rw [rest.names, first.names]
    rfl
  distinct := by
    refine List.nodup_cons.mpr ⟨fun member => ?_, rest.distinct⟩
    obtain ⟨other, inside, same⟩ := List.mem_map.mp member
    exact rest.fresh other inside (same ▸ mem_keys_of_classOf? first.found)
  fresh := by
    refine List.forall_mem_cons.mpr ⟨first.fresh, fun other inside member => ?_⟩
    exact rest.fresh other inside (first.keys.subset member)
  found := by
    refine List.forall_mem_cons.mpr ⟨?_, rest.found⟩
    exact (rest.same c.id (mem_keys_of_classOf? first.found)).trans first.found

theorem gives_declareEach (numbered : m.IsNumbered) (declarations : List Declaration) :
    Gives (m.declareEach declarations) fun made => m.AddsEach made.1 declarations made.2 := by
  induction declarations generalizing m with
  | nil =>
    exact gives_pure ⟨numbered.grows, rfl, rfl, List.nodup_nil, List.forall_mem_nil _,
      List.forall_mem_nil _⟩
  | cons first others inductionHypothesis =>
    refine (gives_adds numbered "" first).bind fun made adds => ?_
    exact (inductionHypothesis (adds.toGrows.bind _).numbered).bind fun last rest =>
      gives_pure (adds.cons rest)

/-- Further names add no classes. -/
theorem gives_bindAliases (m : ClassModule) (aliases : List (String × String)) :
    Gives (aliases.foldlM bindAlias m) fun made => ∃ names, made = { m with names } := by
  refine gives_foldlM ⟨m.names, rfl⟩ fun made kept _ _ => gives_bind fun bound => ?_
  obtain ⟨names, rfl⟩ := kept
  exact gives_pure ⟨_, rfl⟩

/-- A module that was built has the classes that were declared at its top, and its names are those
of them and further ones. -/
theorem exists_of_build (builds : build name declarations aliases = .ok m) : ∃ declared names memory,
    m = { declared with names, memory } ∧ (aliases = [] → names = declared.names) ∧
    AddsEach { name } declared declarations (topLevel name declarations) := by
  unfold build at builds
  extract_lets building at builds
  split at builds
  next result memory run =>
    cases result with
    | error _ => cases builds
    | ok bound =>
      cases builds
      dsimp only [building] at run
      rw [foldlM_declare_eq, map_eq_pure_bind, bind_assoc] at run
      obtain ⟨⟨declared, found⟩, middle, declares, binds⟩ := exists_of_run_bind run
      rw [pure_bind] at binds
      have same : topLevel name declarations = found := by rw [topLevel, declares]
      obtain ⟨names, rfl⟩ := (gives_bindAliases declared aliases).of_run binds
      refine ⟨declared, names, _, rfl, ?_, ?_⟩
      · rintro rfl
        exact congrArg ClassModule.names (Except.ok.inj (congrArg Prod.fst binds)).symm
      · rw [same]
        exact (gives_declareEach (.start name) declarations).of_run declares

/-! ### Names that are bound once -/

/-- Names that differ from each other and from those that are bound everywhere stand in the order of
the declarations. -/
theorem boundInOrder_of_distinct {found : List ClassInfo} (adds : AddsEach { name } next declarations found)
    (distinct : (declarations.map (·.name)).Nodup)
    (apart : ∀ declaration ∈ declarations, declaration.name ∉ Hint.Vocabulary.globalNames) :
    next.boundInOrder = found.map fun c => .classRef c.id := by
  have length : (declarations.map (·.name)).length = found.length :=
    (List.length_map _).trans adds.length.symm
  have keys : ((declarations.map (·.name)).zip found).map Prod.fst = declarations.map (·.name) :=
    List.map_fst_zip (Nat.le_of_eq length)
  have values : ((declarations.map (·.name)).zip found).map Prod.snd = found :=
    List.map_snd_zip (Nat.le_of_eq length.symm)
  have entries : next.names.entries =
      ((declarations.map (·.name)).zip found).map fun pair => (pair.1, .classRef pair.2.id) := by
    rw [adds.names]
    exact OrderedMap.entries_foldl {} (by rwa [keys])
  have apart : ∀ entry ∈ next.names.entries, entry.1 ∉ Hint.Vocabulary.globalNames := by
    intro entry member
    rw [entries] at member
    obtain ⟨pair, inside, rfl⟩ := List.mem_map.mp member
    obtain ⟨declaration, declared, same⟩ := List.mem_map.mp (keys ▸ List.mem_map_of_mem inside)
    exact same ▸ apart declaration declared
  have anew : Hint.Vocabulary.globalNames.filterMap next.names.get? = [] := by
    refine List.filterMap_eq_nil_iff.mpr fun global member => OrderedMap.get?_eq_none_iff.mpr ?_
    intro bound
    obtain ⟨entry, inside, rfl⟩ := List.mem_map.mp bound
    exact apart entry inside member
  have own : (next.names.entries.filter fun entry =>
      !Hint.Vocabulary.globalNames.contains entry.1) = next.names.entries := by
    refine List.filter_eq_self.mpr fun entry member => ?_
    rw [Bool.not_eq_true', ← Bool.not_eq_true, List.contains_iff_mem]
    exact apart entry member
  have inOrder : next.boundInOrder = Hint.Vocabulary.globalNames.filterMap next.names.get? ++
      (next.names.entries.filter fun entry =>
        !Hint.Vocabulary.globalNames.contains entry.1).map (·.2) := rfl
  rw [inOrder, anew, own, List.nil_append, entries, List.map_map]
  conv_rhs => rw [← values, List.map_map]
  rfl

/-- Where all names are different and bound once, the definitions are the classes that are declared
as state definitions of the module, in this order. -/
theorem definitions_of_distinct (builds : build name declarations [] = .ok m)
    (distinct : (declarations.map (·.name)).Nodup)
    (apart : ∀ declaration ∈ declarations, declaration.name ∉ Hint.Vocabulary.globalNames) :
    m.definitions =
      (topLevel name declarations).filter fun c => c.isState && c.id.moduleName = m.name := by
  obtain ⟨next, names, memory, rfl, same, adds⟩ := exists_of_build builds
  cases same rfl
  have inOrder := boundInOrder_of_distinct adds distinct apart
  change boundInOrder { next with memory } = _ at inOrder
  rw [definitions, inOrder, List.filterMap_map, ← List.filterMap_eq_filter]
  refine List.filterMap_congr fun c member => ?_
  exact congrArg (Option.filter _) (adds.found c member)

/-! ### The definitions that are found -/

/-- Whether a name of the module is bound to a class. -/
def isBound (m : ClassModule) (id : Hint.ClassId) : Bool :=
  m.boundInOrder.any fun bound =>
    match bound with
    | .classRef other => other = id
    | _ => false

/-- Those of some classes that are marked as state definitions, say that they belong to the module
and are bound to a name in it. -/
def ownDefinitions (m : ClassModule) (found : List ClassInfo) : List ClassInfo :=
  found.filter fun c => c.isState && c.id.moduleName = m.name && m.isBound c.id

theorem mem_definitions (keyed : ∀ {id c}, m.classOf? id = some c → c.id = id) :
    c ∈ m.definitions ↔ m.classOf? c.id = some c ∧
      (c.isState && c.id.moduleName = m.name && m.isBound c.id) = true := by
  rw [definitions, List.mem_filterMap, isBound, Bool.and_eq_true, List.any_eq_true]
  constructor
  · rintro ⟨bound, member, is⟩
    split at is
    · next id =>
      obtain ⟨found, marked⟩ := Option.filter_eq_some_iff.mp is
      have same := keyed found
      exact ⟨same ▸ found, marked, _, member, decide_eq_true same.symm⟩
    · cases is
  · rintro ⟨found, marked, bound, member, is⟩
    split at is
    · next id =>
      cases of_decide_eq_true is
      exact ⟨_, member, Option.filter_eq_some_iff.mpr ⟨found, marked⟩⟩
    · cases is

/-- Classes that are found by their identities are the same if these are. -/
theorem eq_of_map_id_eq {first second : List ClassInfo}
    (found : ∀ c ∈ first, m.classOf? c.id = some c) (found' : ∀ c ∈ second, m.classOf? c.id = some c)
    (same : first.map (·.id) = second.map (·.id)) : first = second := by
  have back {classes : List ClassInfo} (found : ∀ c ∈ classes, m.classOf? c.id = some c) :
      (classes.map (·.id)).filterMap m.classOf? = classes := by
    rw [List.filterMap_map]
    exact (List.filterMap_congr found).trans (List.filterMap_some ..)
  rw [← back found, same, back found']

/-- Every class at the top of a module that is marked as a state definition of it and bound to a name
is found. The definitions that are found are these classes in order exactly if none is found twice,
none is inside of another class, and none comes before one that was declared earlier. -/
theorem definitions_eq_ownDefinitions_iff (builds : build name declarations aliases = .ok m) :
    let declared := topLevel name declarations
    let ids := declared.map (·.id)
    let found := m.definitions.map (·.id)
    (∀ c ∈ m.ownDefinitions declared, c ∈ m.definitions) ∧
      (m.definitions = m.ownDefinitions declared ↔
        found.Nodup ∧ found ⊆ ids ∧
          found.Pairwise fun first second => ids.idxOf first ≤ ids.idxOf second) := by
  intro declared ids found
  obtain ⟨last, names, memory, rfl, -, adds⟩ := exists_of_build builds
  have inDefinitions {c : ClassInfo} := mem_definitions (m := { last with names, memory }) (c := c)
    adds.numbered.keyed
  have inOwn {c : ClassInfo} (member : c ∈ declared) :
      (c.isState && c.id.moduleName = last.name && isBound { last with names, memory } c.id) = true ↔
        c.id ∈ found := by
    rw [List.mem_map]
    constructor
    · exact fun marked => ⟨c, inDefinitions.mpr ⟨adds.found c member, marked⟩, rfl⟩
    · rintro ⟨other, inside, same⟩
      obtain ⟨found, marked⟩ := inDefinitions.mp inside
      rw [same] at found
      cases (adds.found c member).symm.trans found
      exact marked
  have idsOfOwn : (ownDefinitions { last with names, memory } declared).map (·.id) =
      ids.filter (· ∈ found) := by
    rw [ownDefinitions, List.filter_map]
    refine congrArg _ (List.filter_congr fun c member => ?_)
    exact Bool.eq_iff_iff.mpr ((inOwn member).trans decide_eq_true_iff.symm)
  refine ⟨fun c member => ?_, ?_⟩
  · obtain ⟨inside, marked⟩ := List.mem_filter.mp member
    exact inDefinitions.mpr ⟨adds.found c inside, marked⟩
  · rw [← eq_filter_mem_iff adds.distinct, ← idsOfOwn]
    refine ⟨congrArg _, eq_of_map_id_eq (m := { last with names, memory }) ?_ ?_⟩
    · exact fun c member => (inDefinitions.mp member).1
    · exact fun c member => adds.found c (List.mem_of_mem_filter member)

end

/-! ### Two definitions and a class that is none -/

namespace Neighbours

def declarations : List Declaration :=
  [{ name := "First", state := some .none }, { name := "Plain" }, { name := "Second", state := some .none }]

def classModule : ClassModule :=
  (build "app.state" declarations []).toOption.getD default

theorem definitions_eq_ownDefinitions_neighbours :
    classModule.definitions = classModule.ownDefinitions (topLevel "app.state" declarations) ∧
      classModule.definitions.map (·.id.path) = ["First", "Second"] := by
  have builds : build "app.state" declarations [] = .ok classModule :=
    eq_ok_getD_of_isSome (by decide +kernel)
  refine ⟨(definitions_eq_ownDefinitions_iff builds).2.mpr ⟨?_, ?_, ?_⟩, ?_⟩
  all_goals decide +kernel

end Neighbours

/-! ### A definition with a further name -/

namespace Renamed

def declarations : List Declaration :=
  [{ name := "S", state := some .none }]

def classModule : ClassModule :=
  (build "app.state" declarations [("T", "S")]).toOption.getD default

/-- A class that two names are bound to is found twice. -/
theorem not_forall_definitions_eq_ownDefinitions : ¬ ∀ name declarations aliases m,
    build name declarations aliases = .ok m →
      m.definitions = m.ownDefinitions (topLevel name declarations) := by
  intro holds
  have builds : build "app.state" declarations [("T", "S")] = .ok classModule :=
    eq_ok_getD_of_isSome (by decide +kernel)
  have same := congrArg List.length (holds _ _ _ _ builds)
  have twice : classModule.definitions.length = 2 := by decide +kernel
  have once : (classModule.ownDefinitions (topLevel "app.state" declarations)).length = 1 := by
    decide +kernel
  rw [twice, once] at same
  exact absurd same (by decide)

end Renamed

end ClassModule

end StateContainer
