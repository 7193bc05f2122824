/-
This file proves how maps that remember the order of their keys are built up: binding a
new key adds an entry at the end, binding pairs one after the other never binds a key
twice, and pairs whose keys differ become the entries as they are.
-/

import Mathlib.Data.List.Induction
import Mathlib.Data.List.Nodup
import StateContainer.OrderedMap

namespace StateContainer.OrderedMap

variable {κ ν : Type} [DecidableEq κ]

/-! ### Binding -/

/-- A new key is bound at the end. -/
theorem bind_of_not_mem {key : κ} {entries : List (κ × ν)} (value : ν)
    (new : key ∉ entries.map (·.1)) : bind key value entries = entries ++ [(key, value)] := by
  induction entries with
  | nil => rfl
  | cons entry rest inductionHypothesis =>
    rw [List.map_cons, List.mem_cons, not_or] at new
    rw [bind, if_neg fun same => new.1 same.symm, inductionHypothesis new.2]
    rfl

/-- A key that is bound again keeps its place. -/
theorem keys_bind_of_mem {key : κ} {entries : List (κ × ν)} (value : ν)
    (present : key ∈ entries.map (·.1)) :
    (bind key value entries).map (·.1) = entries.map (·.1) := by
  induction entries with
  | nil => cases present
  | cons entry rest inductionHypothesis =>
    rw [bind]
    split
    · rfl
    · next differ =>
      rw [List.map_cons, List.mem_cons] at present
      have later := present.resolve_left fun same => differ same.symm
      rw [List.map_cons, List.map_cons, inductionHypothesis later]

/-- Binding a key does not bind any key twice. -/
theorem nodup_keys_insert {m : OrderedMap κ ν} (distinct : m.keys.Nodup) (key : κ) (value : ν) :
    (m.insert key value).keys.Nodup := by
  rw [keys, insert]
  by_cases present : key ∈ m.entries.map (·.1)
  · rw [keys_bind_of_mem value present]
    exact distinct
  · rw [bind_of_not_mem value present, List.map_append, List.nodup_append]
    refine ⟨distinct, List.nodup_singleton key, ?_⟩
    rintro other member _ single rfl
    have same : other = key := List.mem_singleton.mp single
    exact present (same ▸ member)

theorem mem_keys_insert {m : OrderedMap κ ν} {key other : κ} {value : ν} :
    other ∈ (m.insert key value).keys ↔ other ∈ m.keys ∨ other = key := by
  rw [keys, keys, insert]
  by_cases present : key ∈ m.entries.map (·.1)
  · rw [keys_bind_of_mem value present]
    exact ⟨Or.inl, fun either => either.elim id fun same => same ▸ present⟩
  · rw [bind_of_not_mem value present, List.map_append, List.mem_append]
    simp

/-! ### Binding pairs one after the other -/

theorem nodup_keys_foldl {α : Type} (pairs : List α) (key : α → κ) (value : α → ν)
    {m : OrderedMap κ ν} (distinct : m.keys.Nodup) :
    (pairs.foldl (fun m a => m.insert (key a) (value a)) m).keys.Nodup := by
  induction pairs generalizing m with
  | nil => exact distinct
  | cons first others inductionHypothesis =>
    exact inductionHypothesis (nodup_keys_insert distinct _ _)

theorem nodup_keys_ofList (pairs : List (κ × ν)) : (ofList pairs).keys.Nodup :=
  nodup_keys_foldl pairs (·.1) (·.2) List.nodup_nil

/-- Pairs with new keys that differ are added as they are. -/
theorem entries_foldl {α : Type} {pairs : List α} {key : α → κ} {value : α → ν}
    (m : OrderedMap κ ν) (distinct : (m.keys ++ pairs.map key).Nodup) :
    (pairs.foldl (fun m a => m.insert (key a) (value a)) m).entries =
      m.entries ++ pairs.map fun a => (key a, value a) := by
  induction pairs generalizing m with
  | nil => exact (List.append_nil _).symm
  | cons first others inductionHypothesis =>
    have new : key first ∉ m.entries.map (·.1) := by
      intro member
      exact (List.nodup_append.mp distinct).2.2 _ member _ (List.mem_cons_self) rfl
    have added : (m.insert (key first) (value first)).entries =
        m.entries ++ [(key first, value first)] := bind_of_not_mem _ new
    rw [List.foldl_cons, inductionHypothesis, added, List.append_assoc]
    · rfl
    · rw [keys, added, List.map_append, List.append_assoc]
      exact distinct

/-- Pairs whose keys differ are the entries of the map that they make up. -/
theorem entries_ofList {pairs : List (κ × ν)} (distinct : (pairs.map (·.1)).Nodup) :
    (ofList pairs).entries = pairs := by
  have added : (ofList pairs).entries = [] ++ pairs.map fun pair => (pair.1, pair.2) :=
    entries_foldl {} distinct
  rw [added, List.nil_append, List.map_id'']
  exact fun _ => rfl

/-! ### Reading -/

/-- What an entry binds is read, unless an earlier entry has the same key. -/
theorem get?_eq_some_of_mem {m : OrderedMap κ ν} (distinct : m.keys.Nodup) {key : κ} {value : ν}
    (member : (key, value) ∈ m.entries) : m.get? key = some value := by
  obtain ⟨entries⟩ := m
  change lookup key entries = some value
  change (entries.map (·.1)).Nodup at distinct
  change (key, value) ∈ entries at member
  induction entries with
  | nil => cases member
  | cons entry rest inductionHypothesis =>
    rw [List.map_cons, List.nodup_cons] at distinct
    rw [lookup]
    rcases List.mem_cons.mp member with rfl | later
    · rw [if_pos rfl]
    · have differ : entry.1 ≠ key := by
        rintro rfl
        exact distinct.1 (List.mem_map.mpr ⟨_, later, rfl⟩)
      rw [if_neg differ]
      exact inductionHypothesis distinct.2 later

theorem mem_of_get?_eq_some {m : OrderedMap κ ν} {key : κ} {value : ν}
    (found : m.get? key = some value) : (key, value) ∈ m.entries := by
  obtain ⟨entries⟩ := m
  change lookup key entries = some value at found
  change (key, value) ∈ entries
  induction entries with
  | nil => cases found
  | cons entry rest inductionHypothesis =>
    rw [lookup] at found
    split at found
    · next same =>
      cases found
      subst same
      exact List.mem_cons_self
    · exact List.mem_cons_of_mem _ (inductionHypothesis found)

/-- A key is bound to nothing exactly if it is not bound. -/
theorem get?_eq_none_iff {m : OrderedMap κ ν} {key : κ} : m.get? key = none ↔ key ∉ m.keys := by
  rw [get?, keys]
  induction m.entries with
  | nil => simp [lookup]
  | cons entry rest inductionHypothesis =>
    rw [lookup, List.map_cons, List.mem_cons, not_or]
    split
    · next same => simp [same]
    · next differ =>
      rw [inductionHypothesis]
      exact ⟨fun absent => ⟨fun same => differ same.symm, absent⟩, And.right⟩

/-- After pairs were bound, a key other than theirs is read as before. -/
theorem get?_foldl_of_not_mem {α : Type} {pairs : List α} {key : α → κ} {value : α → ν}
    {other : κ} (absent : other ∉ pairs.map key) (m : OrderedMap κ ν) :
    (pairs.foldl (fun m a => m.insert (key a) (value a)) m).get? other = m.get? other := by
  induction pairs generalizing m with
  | nil => rfl
  | cons first others inductionHypothesis =>
    rw [List.map_cons, List.mem_cons, not_or] at absent
    rw [List.foldl_cons, inductionHypothesis absent.2, get?_insert_of_ne _ _ absent.1]

/-- Of pairs that are bound one after the other, the last one with a key is read. -/
theorem get?_ofList_eq_some_iff {pairs : List (κ × ν)} {key : κ} {value : ν} :
    (ofList pairs).get? key = some value ↔
      ∃ before after, pairs = before ++ (key, value) :: after ∧ key ∉ after.map (·.1) := by
  rw [ofList]
  constructor
  · intro found
    induction pairs using List.reverseRecOn with
    | nil => cases found
    | append_singleton earlier last inductionHypothesis =>
      rw [List.foldl_append, List.foldl_cons, List.foldl_nil] at found
      by_cases same : key = last.1
      · subst same
        rw [get?_insert_self] at found
        cases found
        exact ⟨earlier, [], rfl, List.not_mem_nil⟩
      · rw [get?_insert_of_ne _ _ same] at found
        obtain ⟨before, after, rfl, absent⟩ := inductionHypothesis found
        refine ⟨before, after ++ [last], by simp, ?_⟩
        rw [List.map_append, List.mem_append, not_or]
        exact ⟨absent, fun member => same (List.mem_singleton.mp member)⟩
  · rintro ⟨before, after, rfl, absent⟩
    rw [List.foldl_append, List.foldl_cons, get?_foldl_of_not_mem absent, get?_insert_self]

/-- The keys of pairs that are bound one after the other are bound. -/
theorem mem_keys_ofList {pairs : List (κ × ν)} {key : κ} :
    key ∈ (ofList pairs).keys ↔ key ∈ pairs.map (·.1) := by
  rw [ofList]
  induction pairs using List.reverseRecOn with
  | nil => exact Iff.rfl
  | append_singleton earlier last inductionHypothesis =>
    rw [List.foldl_append, List.foldl_cons, List.foldl_nil, mem_keys_insert, inductionHypothesis,
      List.map_append, List.mem_append, List.map_singleton, List.mem_singleton]

/-- Only without any pair there are no entries. -/
theorem entries_ofList_eq_nil_iff {pairs : List (κ × ν)} : (ofList pairs).entries = [] ↔ pairs = [] := by
  constructor
  · intro empty
    rcases List.eq_nil_or_concat pairs with rfl | ⟨earlier, last, rfl⟩
    · rfl
    · have found : (ofList (earlier.concat last)).get? last.1 = some last.2 :=
        get?_ofList_eq_some_iff.mpr ⟨earlier, [], List.concat_eq_append, List.not_mem_nil⟩
      rw [get?, empty] at found
      cases found
  · rintro rfl
    rfl

/-- An entry was there before, or is the one that was bound. -/
theorem mem_entries_insert {m : OrderedMap κ ν} {key : κ} {value : ν} {entry : κ × ν}
    (member : entry ∈ (m.insert key value).entries) : entry ∈ m.entries ∨ entry = (key, value) := by
  obtain ⟨entries⟩ := m
  change entry ∈ bind key value entries at member
  show entry ∈ entries ∨ _
  induction entries with
  | nil => exact Or.inr (List.mem_singleton.mp member)
  | cons first others inductionHypothesis =>
    rw [bind] at member
    split at member
    · next same =>
      rcases List.mem_cons.mp member with rfl | later
      · exact Or.inr (congrArg (·, value) same)
      · exact Or.inl (List.mem_cons_of_mem _ later)
    · rcases List.mem_cons.mp member with rfl | later
      · exact Or.inl List.mem_cons_self
      · exact (inductionHypothesis later).imp_left (List.mem_cons_of_mem _)

theorem mem_of_mem_foldl {pairs : List (κ × ν)} {m : OrderedMap κ ν} {entry : κ × ν}
    (member : entry ∈ (pairs.foldl (fun m pair => m.insert pair.1 pair.2) m).entries) :
    entry ∈ m.entries ∨ entry ∈ pairs := by
  induction pairs generalizing m with
  | nil => exact Or.inl member
  | cons pair others inductionHypothesis =>
    rcases inductionHypothesis member with before | later
    · rcases mem_entries_insert before with before | rfl
      · exact Or.inl before
      · exact Or.inr List.mem_cons_self
    · exact Or.inr (List.mem_cons_of_mem _ later)

/-- Every entry of a map is one of the pairs that were bound. -/
theorem mem_of_mem_ofList {pairs : List (κ × ν)} {entry : κ × ν}
    (member : entry ∈ (ofList pairs).entries) : entry ∈ pairs := by
  rcases mem_of_mem_foldl member with before | later
  · cases before
  · exact later

/-! ### Changing the values -/

theorem bind_map {μ : Type} (change : ν → μ) (key : κ) (value : ν) (entries : List (κ × ν)) :
    bind key (change value) (entries.map fun entry => (entry.1, change entry.2)) =
      (bind key value entries).map fun entry => (entry.1, change entry.2) := by
  induction entries with
  | nil => rfl
  | cons first others inductionHypothesis =>
    rw [List.map_cons, bind, bind]
    split
    · rfl
    · rw [List.map_cons, inductionHypothesis]

/-- Binding changed values is changing the bound values. -/
theorem entries_ofList_map {μ : Type} (change : ν → μ) (pairs : List (κ × ν)) :
    (ofList (pairs.map fun pair => (pair.1, change pair.2))).entries =
      (ofList pairs).entries.map fun entry => (entry.1, change entry.2) := by
  induction pairs using List.reverseRecOn with
  | nil => rfl
  | append_singleton earlier last inductionHypothesis =>
    rw [ofList] at inductionHypothesis ⊢
    rw [List.map_append, List.foldl_append, List.map_singleton, List.foldl_cons, List.foldl_nil, ofList,
      List.foldl_append, List.foldl_cons, List.foldl_nil, insert, insert, inductionHypothesis]
    exact bind_map change last.1 last.2 _

theorem lookup_map {μ : Type} (change : ν → μ) (key : κ) (entries : List (κ × ν)) :
    lookup key (entries.map fun entry => (entry.1, change entry.2)) = (lookup key entries).map change := by
  induction entries with
  | nil => rfl
  | cons first others inductionHypothesis =>
    rw [List.map_cons, lookup, lookup]
    split
    · rfl
    · exact inductionHypothesis

/-! ### Changing the keys -/

section
variable {κ' : Type} [DecidableEq κ'] {rename : κ → κ'}

/-- A key is bound where it was before if no other key is renamed to the same. -/
theorem bind_rename {key : κ} {entries : List (κ × ν)} (value : ν)
    (apart : ∀ entry ∈ entries, rename entry.1 = rename key → entry.1 = key) :
    bind (rename key) value (entries.map fun entry => (rename entry.1, entry.2)) =
      (bind key value entries).map fun entry => (rename entry.1, entry.2) := by
  induction entries with
  | nil => rfl
  | cons first others inductionHypothesis =>
    obtain ⟨here, later⟩ := List.forall_mem_cons.mp apart
    rw [List.map_cons, bind, bind]
    by_cases same : first.1 = key
    · rw [if_pos same, if_pos (congrArg rename same)]
      rfl
    · rw [if_neg same, if_neg fun renamed => same (here renamed), inductionHypothesis later]
      rfl

/-- Binding renamed keys is renaming the bound keys, if different keys are renamed differently. -/
theorem entries_ofList_rename (rename : κ → κ') {pairs : List (κ × ν)}
    (apart : ∀ key ∈ pairs.map (·.1), ∀ other ∈ pairs.map (·.1), rename key = rename other → key = other) :
    (ofList (pairs.map fun pair => (rename pair.1, pair.2))).entries =
      (ofList pairs).entries.map fun entry => (rename entry.1, entry.2) := by
  induction pairs using List.reverseRecOn with
  | nil => rfl
  | append_singleton earlier last inductionHypothesis =>
    have before : earlier.map (·.1) ⊆ (earlier ++ [last]).map (·.1) :=
      List.map_subset _ (List.subset_append_left _ _)
    have own : last.1 ∈ (earlier ++ [last]).map (·.1) :=
      List.mem_map_of_mem (List.mem_append_right _ (List.mem_singleton_self last))
    have renamed := inductionHypothesis fun key member other memberOther =>
      apart key (before member) other (before memberOther)
    rw [ofList] at renamed ⊢
    rw [List.map_append, List.foldl_append, List.map_singleton, List.foldl_cons, List.foldl_nil, ofList,
      List.foldl_append, List.foldl_cons, List.foldl_nil, insert, insert, renamed]
    refine bind_rename last.2 fun entry member => apart entry.1 (before ?_) last.1 own
    exact List.mem_map_of_mem (mem_of_mem_ofList member)

end

end StateContainer.OrderedMap
