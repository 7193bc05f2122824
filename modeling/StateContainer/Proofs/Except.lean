/-
This file says what steps give that may fail: going through a list gives the results of all
steps, in order, if none of them fails. Which errors there may be is carried through sequences
of steps along with the results.
-/

namespace StateContainer

variable {ε α β : Type}

/-- Wording an error differently makes no result. -/
theorem mapError_eq_ok_iff {ε' : Type} {value : Except ε α} {change : ε → ε'} {result : α} :
    value.mapError change = .ok result ↔ value = .ok result := by
  cases value with
  | ok found => constructor <;> intro same <;> cases same <;> rfl
  | error failure => constructor <;> intro same <;> cases same

theorem mapError_eq_error_iff {ε' : Type} {value : Except ε α} {change : ε → ε'} {failure : ε'} :
    value.mapError change = .error failure ↔ ∃ cause, value = .error cause ∧ change cause = failure := by
  cases value with
  | ok found => exact iff_of_false nofun (by rintro ⟨_, ⟨⟩, -⟩)
  | error cause =>
    constructor
    · rintro ⟨⟩
      exact ⟨cause, rfl, rfl⟩
    · rintro ⟨_, ⟨⟩, rfl⟩
      rfl

/-- Forgetting an error leaves the result. -/
theorem toOption_eq_some_iff {value : Except ε α} {result : α} :
    value.toOption = some result ↔ value = .ok result := by
  cases value with
  | ok found => constructor <;> intro same <;> cases same <;> rfl
  | error failure => constructor <;> intro same <;> cases same

/-- Where there is a result, it is what is taken in place of an error. -/
theorem eq_ok_getD_of_isSome {value : Except ε α} {other : α} (found : value.toOption.isSome = true) :
    value = .ok (value.toOption.getD other) := by
  cases value with
  | ok result => rfl
  | error failure => cases found

/-- One step after another one gives a result if both do. -/
theorem exists_of_bind_eq_ok {step : Except ε α} {next : α → Except ε β} {result : β}
    (succeeds : step >>= next = .ok result) : ∃ middle, step = .ok middle ∧ next middle = .ok result := by
  cases step with
  | error failure => cases succeeds
  | ok middle => exact ⟨middle, rfl, succeeds⟩

/-- After a step that gives a result, what goes on with it is left. -/
theorem bind_eq_of_eq_ok {step : Except ε α} {next : α → Except ε β} {middle : α}
    {result : Except ε β} (first : step = .ok middle) (rest : next middle = result) :
    step >>= next = result := by
  rw [first]
  exact rest

/-- If every step succeeds, so does going through all of them. -/
theorem mapM_eq_pure_of_forall {m : Type → Type} [Monad m] [LawfulMonad m] {step : α → m β}
    {result : α → β} {items : List α}
    (succeeds : ∀ item ∈ items, step item = pure (result item)) :
    items.mapM step = pure (items.map result) := by
  induction items with
  | nil => rfl
  | cons first others inductionHypothesis =>
    rw [List.mapM_cons, succeeds first List.mem_cons_self,
      inductionHypothesis fun item member => succeeds item (List.mem_cons_of_mem _ member)]
    simp only [pure_bind, List.map_cons]

/-- If no step changes anything, neither does going through all of them. -/
theorem mapM_eq_pure_of_fixed {m : Type → Type} [Monad m] [LawfulMonad m] {step : α → m α}
    {items : List α} (fixed : ∀ item ∈ items, step item = pure item) :
    items.mapM step = pure items := by
  have all := mapM_eq_pure_of_forall fun item member => fixed item member
  rw [List.map_id'] at all
  exact all

/-- If every step succeeds and keeps what is required of it, so does going through all of them. -/
theorem exists_foldlM_eq_ok (invariant : β → Prop) {step : β → α → Except ε β}
    (succeeds : ∀ made item, invariant made → ∃ next, step made item = .ok next ∧ invariant next)
    (items : List α) {made : β} (own : invariant made) : ∃ last, items.foldlM step made = .ok last := by
  induction items generalizing made with
  | nil => exact ⟨made, rfl⟩
  | cons item others inductionHypothesis =>
    obtain ⟨next, first, own⟩ := succeeds made item own
    obtain ⟨last, rest⟩ := inductionHypothesis own
    exact ⟨last, by rw [List.foldlM_cons]; exact bind_eq_of_eq_ok first rest⟩

/-- Every result is that of a step. -/
theorem exists_of_mem_mapM {step : α → Except ε β} {items : List α} {results : List β}
    (succeeds : items.mapM step = .ok results) {result : β} (member : result ∈ results) :
    ∃ item ∈ items, step item = .ok result := by
  induction items generalizing results with
  | nil =>
    cases succeeds
    cases member
  | cons first others inductionHypothesis =>
    rw [List.mapM_cons] at succeeds
    cases found : step first with
    | error failure => rw [found] at succeeds; cases succeeds
    | ok made =>
      cases behind : others.mapM step with
      | error failure => rw [found, behind] at succeeds; cases succeeds
      | ok further =>
        rw [found, behind] at succeeds
        cases succeeds
        rcases List.mem_cons.mp member with rfl | later
        · exact ⟨first, List.mem_cons_self, found⟩
        · obtain ⟨item, inside, same⟩ := inductionHypothesis behind later
          exact ⟨item, List.mem_cons_of_mem _ inside, same⟩

/-- Every step has its result. -/
theorem exists_mem_of_mapM {step : α → Except ε β} {items : List α} {results : List β}
    (succeeds : items.mapM step = .ok results) {item : α} (member : item ∈ items) :
    ∃ result ∈ results, step item = .ok result := by
  induction items generalizing results with
  | nil => cases member
  | cons first others inductionHypothesis =>
    rw [List.mapM_cons] at succeeds
    obtain ⟨made, found, succeeds⟩ := exists_of_bind_eq_ok succeeds
    obtain ⟨further, behind, succeeds⟩ := exists_of_bind_eq_ok succeeds
    cases succeeds
    rcases List.mem_cons.mp member with rfl | later
    · exact ⟨made, List.mem_cons_self, found⟩
    · obtain ⟨result, inside, same⟩ := inductionHypothesis behind later
      exact ⟨result, List.mem_cons_of_mem _ inside, same⟩

/-- Each result stands where its item stands. -/
theorem eq_ok_of_mem_zip {step : α → Except ε β} {items : List α} {results : List β}
    (succeeds : items.mapM step = .ok results) {item : α} {result : β}
    (pair : (item, result) ∈ items.zip results) : step item = .ok result := by
  induction items generalizing results with
  | nil => cases pair
  | cons first others inductionHypothesis =>
    rw [List.mapM_cons] at succeeds
    obtain ⟨made, found, succeeds⟩ := exists_of_bind_eq_ok succeeds
    obtain ⟨further, behind, succeeds⟩ := exists_of_bind_eq_ok succeeds
    cases succeeds
    rcases List.mem_cons.mp pair with same | later
    · cases same
      exact found
    · exact inductionHypothesis behind later

/-- If every step succeeds, there are results of all of them. -/
theorem exists_mapM_eq_ok {step : α → Except ε β} {items : List α}
    (succeeds : ∀ item ∈ items, ∃ result, step item = .ok result) :
    ∃ results, items.mapM step = .ok results := by
  induction items with
  | nil => exact ⟨[], rfl⟩
  | cons first others inductionHypothesis =>
    obtain ⟨⟨result, found⟩, later⟩ := List.forall_mem_cons.mp succeeds
    obtain ⟨results, behind⟩ := inductionHypothesis later
    refine ⟨result :: results, ?_⟩
    rw [List.mapM_cons, found, behind]
    rfl

/-- Going through a list stops at the first step that fails. -/
theorem mapM_eq_error_iff {step : α → Except ε β} {items : List α} {failure : ε} :
    items.mapM step = .error failure ↔
      ∃ before item after, items = before ++ item :: after ∧
        (∀ earlier ∈ before, ∃ result, step earlier = .ok result) ∧ step item = .error failure := by
  constructor
  · intro fails
    induction items with
    | nil => cases fails
    | cons first others inductionHypothesis =>
      rw [List.mapM_cons] at fails
      cases found : step first with
      | error cause =>
        rw [found] at fails
        cases fails
        exact ⟨[], first, others, rfl, List.forall_mem_nil _, found⟩
      | ok made =>
        cases behind : others.mapM step with
        | ok further => rw [found, behind] at fails; cases fails
        | error cause =>
          rw [found, behind] at fails
          cases fails
          obtain ⟨before, item, after, rfl, succeeds, stops⟩ := inductionHypothesis behind
          exact ⟨first :: before, item, after, rfl,
            List.forall_mem_cons.mpr ⟨⟨made, found⟩, succeeds⟩, stops⟩
  · rintro ⟨before, item, after, rfl, succeeds, stops⟩
    obtain ⟨results, through⟩ := exists_mapM_eq_ok succeeds
    rw [List.mapM_append, through, List.mapM_cons, stops]
    rfl

/-! ### Ends -/

/-- Whether something ends with a result of one kind or with an error of another kind. -/
def EndsAs (result : α → Prop) (fault : ε → Prop) : Except ε α → Prop
  | .ok made => result made
  | .error cause => fault cause

section
variable {result : α → Prop} {fault : ε → Prop} {step : Except ε α}

theorem endsAs_ok {made : α} (holds : result made) : EndsAs result fault (.ok made) := holds

theorem EndsAs.of_ok {made : α} (ends : EndsAs result fault step) (succeeds : step = .ok made) :
    result made := by
  subst succeeds
  exact ends

theorem EndsAs.of_error {cause : ε} (ends : EndsAs result fault step) (fails : step = .error cause) :
    fault cause := by
  subst fails
  exact ends

/-- What goes on with a result ends in some way if it does so with every result there may be. -/
theorem EndsAs.bind {next : α → Except ε β} {final : β → Prop} (ends : EndsAs result fault step)
    (rest : ∀ made, result made → EndsAs final fault (next made)) :
    EndsAs final fault (step >>= next) := by
  cases step with
  | error cause => exact ends
  | ok made => exact rest made ends

theorem EndsAs.weaken {wider : α → Prop} {more : ε → Prop} (ends : EndsAs result fault step)
    (results : ∀ made, result made → wider made) (faults : ∀ cause, fault cause → more cause) :
    EndsAs wider more step := by
  cases step with
  | error cause => exact faults cause ends
  | ok made => exact results made ends

/-- Going through a list ends with results of one kind if every step does. -/
theorem endsAs_mapM {step : α → Except ε β} {items : List α} {results : β → Prop}
    (each : ∀ item ∈ items, EndsAs results fault (step item)) :
    EndsAs (fun made => ∀ part ∈ made, results part) fault (items.mapM step) := by
  induction items with
  | nil => exact fun _ => nofun
  | cons first others inductionHypothesis =>
    obtain ⟨here, later⟩ := List.forall_mem_cons.mp each
    rw [List.mapM_cons]
    refine here.bind fun made own => (inductionHypothesis later).bind fun others rest => ?_
    exact List.forall_mem_cons.mpr ⟨own, rest⟩

/-- If every step keeps something of its item, so does going through all of them. -/
theorem endsAs_mapM_map {γ : Type} (kept : β → γ) (given : α → γ) {step : α → Except ε β}
    {items : List α} (each : ∀ item ∈ items, EndsAs (kept · = given item) fault (step item)) :
    EndsAs (fun made => made.map kept = items.map given) fault (items.mapM step) := by
  induction items with
  | nil => exact rfl
  | cons first others inductionHypothesis =>
    obtain ⟨here, later⟩ := List.forall_mem_cons.mp each
    rw [List.mapM_cons]
    refine here.bind fun made own => (inductionHypothesis later).bind fun others rest => ?_
    exact (List.map_cons ..).trans (own ▸ rest ▸ rfl)

theorem map_eq_of_mapM_eq_ok {γ : Type} (kept : β → γ) (given : α → γ) {step : α → Except ε β}
    {items : List α} {made : List β}
    (each : ∀ item ∈ items, EndsAs (kept · = given item) (fun _ => True) (step item))
    (succeeds : items.mapM step = .ok made) : made.map kept = items.map given :=
  (endsAs_mapM_map kept given each).of_ok succeeds

end

end StateContainer
