/-
This file says what a channel holds that no observer pushes to.

Whoever pushes to a channel from the outside pushes while it is idle. The value is then taken at
once, before any observer is called, and stays the value of the channel whatever the observers do
and however they fail, as long as they do not push to this channel themselves. So each push is
followed by the taking of a value, nothing is left to wait, and the channel holds what was pushed
last; not even an interruption makes a difference.
-/

import StateContainer.Proofs.Channel.Isolation

namespace StateContainer

variable {κ ν ε σ : Type}

/-! ### Channels that are spared -/

/-- How many calls are open after a history, if so many were before. -/
def openAfter (depth : Nat) (history : History κ ν ε σ) : Nat :=
  history.foldl (fun depth happening => happening.depthAfter depth) depth

/-- Whether nobody pushes to a channel while the call of an observer is open. -/
def IsSpared (name : κ) (history : History κ ν ε σ) : Prop :=
  ∀ earlier value later, history = earlier ++ .pushed name value :: later → openAfter 0 earlier = 0

section
variable [DecidableEq κ] {name : κ} {happening : Happening κ ν ε σ}

/-- Whether nobody pushes to a channel while a call is open, as far as it can be computed. -/
def spares (name : κ) : Nat → History κ ν ε σ → Bool
  | _, [] => true
  | depth, happening :: later =>
    ((pushedTo name [happening]).isEmpty || depth = 0) &&
      spares name (happening.depthAfter depth) later

theorem openAfter_of_spares {depth : Nat} {history : History κ ν ε σ}
    (known : spares name depth history = true) {earlier later : History κ ν ε σ} {value : ν}
    (split : history = earlier ++ .pushed name value :: later) : openAfter depth earlier = 0 := by
  induction earlier generalizing depth history with
  | nil =>
    rw [split, List.nil_append, spares, Bool.and_eq_true, Bool.or_eq_true] at known
    refine known.1.elim (fun nothing => ?_) of_decide_eq_true
    have pushed : pushedTo name [(.pushed name value : Happening κ ν ε σ)] = [value] := by
      rw [pushedTo, found_singleton]
      exact if_pos rfl
    rw [pushed] at nothing
    cases nothing
  | cons happening others inductionHypothesis =>
    rw [split, List.cons_append, spares, Bool.and_eq_true] at known
    exact inductionHypothesis known.2 rfl

theorem isSpared_of_spares {history : History κ ν ε σ} (known : spares name 0 history = true) :
    IsSpared name history :=
  fun _ _ _ split => openAfter_of_spares known split

/-- A push to a channel is what adds to the values that are pushed to it. -/
theorem eq_pushed_of_pushedTo_ne_nil (pushing : pushedTo name [happening] ≠ []) :
    ∃ value, happening = .pushed name value := by
  rw [pushedTo, found_singleton] at pushing
  cases happening with
  | pushed other value =>
    by_cases here : other = name
    · exact ⟨value, here ▸ rfl⟩
    · exact absurd (if_neg here) pushing
  | _ => exact absurd (ite_self _) pushing

theorem pushedTo_eq_nil {history : History κ ν ε σ}
    (quiet : ∀ happening ∈ history, happening.pushed? = none) : pushedTo name history = [] :=
  List.filterMap_eq_nil_iff.mpr fun happening member => quiet happening (List.mem_filter.mp member).1

/-- All pushes to a channel that is spared happen outside of calls. -/
theorem pushedTo_outermost {depth : Nat} {history : History κ ν ε σ}
    (spared : ∀ earlier value later, history = earlier ++ .pushed name value :: later →
      openAfter depth earlier = 0) :
    pushedTo name (outermost depth history) = pushedTo name history := by
  induction history generalizing depth with
  | nil => rfl
  | cons happening later inductionHypothesis =>
    have rest := @inductionHypothesis (happening.depthAfter depth)
      fun earlier value behind split => spared (happening :: earlier) value behind (by rw [split]; rfl)
    have split : pushedTo name (happening :: later) =
        pushedTo name [happening] ++ pushedTo name later := found_cons
    rw [outermost, split]
    split
    next =>
      rw [← rest]
      exact found_cons
    next inside =>
      rw [rest]
      refine (List.append_left_eq_self.mpr ?_).symm
      by_contra pushing
      obtain ⟨value, rfl⟩ := eq_pushed_of_pushedTo_ne_nil pushing
      exact inside (Or.inl (spared [] value later rfl))

end

/-! ### Each push is followed by a taking -/

namespace Chronicle

variable [DecidableEq κ] {name : κ} {fuel : Nat} {chronicle middle : Chronicle κ ν ε σ}
  {result : Outcome ε × Chronicle κ ν ε σ}

theorem stable_true : Stable (ν := ν) (ε := ε) (σ := σ) name fun _ _ => True where
  pushBusy _ _ _ := trivial
  pushIdle _ _ _ := trivial
  pushElsewhere _ _ _ := trivial
  markElsewhere _ _ _ := trivial
  cease _ _ := trivial
  take _ _ _ := trivial
  takeElsewhere _ _ _ _ := trivial
  call _ := trivial
  callElsewhere _ _ _ _ := trivial
  endCall _ _ := trivial
  breakOff _ _ _ := trivial
  replay _ _ _ := trivial
  register _ _ _ _ _ := trivial
  detach _ _ _ := trivial
  keep _ _ := trivial
  note _ _ _ := trivial

omit [DecidableEq κ] in
theorem Leaves.delivering_eq {holds : Agenda κ ν ε σ → Chronicle κ ν ε σ → Prop}
    {due : Agenda κ ν ε σ} {delivering : Bool} (leaves : Leaves name holds due delivering result)
    (ended : result.1.raised? ≠ none) : (result.2.channel name).delivering = delivering := by
  cases leaves with
  | ended kept same => exact same
  | givenUp => exact absurd rfl ended

/-- A script that has ended leaves a channel idle or not as it was. -/
theorem delivering_record (script : Script κ ν ε σ)
    (idle : (chronicle.channel name).delivering = false)
    (ended : (record fuel script chronicle).1.raised? ≠ none) :
    ((record fuel script chronicle).2.channel name).delivering = false := by
  have leaves := (@stable_true κ ν ε σ _ name).carries fuel |>.script script chronicle
    (trivial : (fun _ _ => True) [] chronicle) (Or.inr rfl)
  rw [leaves.delivering_eq ended, idle]

/-- So does a delivery in another channel. -/
theorem delivering_recordDrain_of_ne {other : κ} (differ : other ≠ name) (first : Option ε)
    (idle : (chronicle.channel name).delivering = false)
    (ended : (recordDrain fuel other first chronicle).1.raised? ≠ none) :
    ((recordDrain fuel other first chronicle).2.channel name).delivering = false := by
  have leaves := (@stable_true κ ν ε σ _ name).carries fuel |>.drainElsewhere first chronicle differ
    (trivial : (fun _ _ => True) [] chronicle) (Or.inr rfl)
  rw [leaves.delivering_eq ended, idle]

/-- Whether a part of a run, if it has ended, has taken as many values in a channel as it has itself
pushed to it, or more, and has left the channel idle. -/
def Answers (name : κ) (chronicle : Chronicle κ ν ε σ) (result : Outcome ε × Chronicle κ ν ε σ) :
    Prop :=
  result.1.raised? ≠ none →
    (result.2.channel name).delivering = false ∧
    ∃ added, result.2.history = chronicle.history ++ added ∧ Encloses (fun _ => True) added ∧
      (pushedTo name (outermost 0 added)).length ≤ (takenFrom name added).length

theorem answers_nothing (idle : (chronicle.channel name).delivering = false) (outcome : Outcome ε) :
    Answers name chronicle (outcome, chronicle) :=
  fun _ => ⟨idle, [], (List.append_nil _).symm, .nil _, Nat.le_refl _⟩

theorem answers_exhausted : Answers name chronicle (.exhausted, middle) :=
  fun ended => absurd rfl ended

/-- A part of a run answers for what stands before it, too. -/
theorem Answers.after (answers : Answers name middle result) {before : History κ ν ε σ}
    (written : middle.history = chronicle.history ++ before)
    (encloses : Encloses (fun _ => True) before)
    (covers : (pushedTo name (outermost 0 before)).length ≤ (takenFrom name before).length) :
    Answers name chronicle result := by
  intro ended
  obtain ⟨idle, added, grown, rest, within⟩ := answers ended
  refine ⟨idle, before ++ added, by rw [grown, written, List.append_assoc], encloses.append rest, ?_⟩
  rw [outermost_append encloses, pushedTo, found_append, takenFrom, found_append, List.length_append,
    List.length_append]
  exact Nat.add_le_add covers within

/-- What is no push is added before what follows. -/
theorem Answers.afterStep (answers : Answers name middle result) {happening : Happening κ ν ε σ}
    (written : middle.history = chronicle.history ++ [happening]) (plain : happening.isOfCall = false)
    (noPush : pushedTo name [happening] = []) : Answers name chronicle result := by
  refine answers.after written (.step plain trivial (.nil _)) ?_
  rw [outermost_plain plain]
  exact noPush ▸ Nat.zero_le _

/-- What is done outside of calls is no push if nothing is done. -/
theorem pushedTo_outermost_of_deedless {added : History κ ν ε σ}
    (encloses : Encloses (·.deed? = none) added) : pushedTo name (outermost 0 added) = [] := by
  refine pushedTo_eq_nil fun happening member => ?_
  have undone := List.filterMap_eq_nil_iff.mp (deedsOf_eq_nil encloses) happening member
  cases happening with
  | pushed => cases undone
  | _ => rfl

/-- A delivery of what waits takes a value if one waits. -/
theorem takenFrom_ne_nil_of_recordDrain {first : Option ε} {added : History κ ν ε σ}
    (waits : (chronicle.channel name).pending ≠ [])
    (ended : (recordDrain fuel name first chronicle).1.raised? ≠ none)
    (grown : (recordDrain fuel name first chronicle).2.history = chronicle.history ++ added) :
    takenFrom name added ≠ [] := by
  cases fuel with
  | zero => exact absurd rfl ended
  | succ fuel =>
  obtain ⟨value, left, takes⟩ : ∃ value left,
      (chronicle.channel name).take? = some (value, left) := by
    rw [Channel.take?]
    cases pending : (chronicle.channel name).pending with
    | nil => exact absurd pending waits
    | cons value others => exact ⟨_, _, rfl⟩
  have delivered := (onlyAdds fuel).deliver name value (chronicle.channel name).observers first
    (chronicle.take name value left)
  have taken : (chronicle.take name value left).history <+:
      (recordDrain (fuel + 1) name first chronicle).2.history := by
    rw [recordDrain, takes]
    dsimp only
    generalize recordDeliver fuel name value (chronicle.channel name).observers first
      (chronicle.take name value left) = result at delivered ⊢
    obtain ⟨outcome, after⟩ := result
    cases outcome with
    | finished => exact delivered.trans ((onlyAdds fuel).drain _ _ _)
    | failed error => exact delivered.trans ((onlyAdds fuel).drain _ _ _)
    | interrupted error => exact delivered
    | exhausted => exact delivered
  obtain ⟨rest, whole⟩ := taken
  have same : chronicle.history ++ added = chronicle.history ++
      (.taken name value (chronicle.channel name).observers :: rest) := by
    rw [← grown, ← whole, take, change, List.append_assoc]
    rfl
  have here : takenFrom name (.taken name value (chronicle.channel name).observers :: rest) =
      value :: takenFrom name rest :=
    found_cons.trans (congrArg (· ++ _) (takenFrom_taken name value _))
  rw [List.append_cancel_left same, here]
  exact List.cons_ne_nil _ _

/-- A push to an idle channel, with the delivery that it begins, answers for itself. -/
theorem answers_drain_of_push (other : κ) (value : ν)
    (idle : (chronicle.channel name).delivering = false)
    (ended : (recordDrain fuel other none
      ((chronicle.push other value).mark other true)).1.raised? ≠ none) :
    ((recordDrain fuel other none
        ((chronicle.push other value).mark other true)).2.mark other false |>.channel name).delivering =
      false ∧
    ∃ added, (recordDrain fuel other none
        ((chronicle.push other value).mark other true)).2.history = chronicle.history ++ added ∧
      Encloses (fun _ => True) added ∧
      (pushedTo name (outermost 0 added)).length ≤ (takenFrom name added).length := by
  obtain ⟨added, grown, encloses, -⟩ :=
    (performing fuel).drain other none ((chronicle.push other value).mark other true) ended
  refine ⟨?_, .pushed other value :: added, ?_,
    .step rfl trivial (encloses.mono fun _ _ => trivial), ?_⟩
  · by_cases same : other = name
    · subst same
      rw [delivering_mark_self]
    · rw [delivering_mark_of_ne _ same]
      refine delivering_recordDrain_of_ne same none ?_ ended
      rw [delivering_mark_of_ne _ same, delivering_push, idle]
  · rw [grown, history_mark, push, change, List.append_assoc]
    rfl
  · have pushes : pushedTo name (outermost 0 (.pushed other value :: added)) =
        if other = name then [value] else [] := by
      rw [outermost_plain rfl, pushedTo, found_cons, found_singleton]
      exact (congrArg (_ ++ ·) (pushedTo_outermost_of_deedless encloses)).trans (List.append_nil _)
    have takes : takenFrom name (.pushed other value :: added) = takenFrom name added := by
      rw [takenFrom, found_cons, found_singleton]
      exact congrArg (· ++ _) (ite_self _)
    rw [pushes, takes]
    by_cases same : other = name
    · subst same
      rw [if_pos rfl]
      refine List.length_pos_iff.mpr (takenFrom_ne_nil_of_recordDrain ?_ ended grown)
      rw [mark, channel_change_self, push, channel_change_self]
      exact List.append_ne_nil_of_right_ne_nil _ (List.cons_ne_nil _ _)
    · rw [if_neg same]
      exact Nat.zero_le _

theorem answers_push (inner : ∀ (script : Script κ ν ε σ) (chronicle : Chronicle κ ν ε σ),
      (chronicle.channel name).delivering = false →
      Answers name chronicle (record fuel script chronicle))
    (other : κ) (value : ν) (next : Option (Raised ε) → Script κ ν ε σ)
    (idle : (chronicle.channel name).delivering = false) :
    Answers name chronicle (record (fuel + 1) (.push other value next) chronicle) := by
  rw [record]
  by_cases busy : (chronicle.channel other).delivering
  · -- The channel is idle, so this is another one.
    rw [if_pos busy]
    have differ : other ≠ name := by
      rintro rfl
      exact absurd (busy.symm.trans idle) (by decide)
    have elsewhere : pushedTo name [(.pushed other value : Happening κ ν ε σ)] = [] := by
      rw [pushedTo, found_singleton]
      exact if_neg differ
    refine (inner (next none) _ ?_).afterStep rfl rfl elsewhere
    rw [delivering_push, idle]
  · rw [if_neg busy]
    have conducted := (performing fuel).drain other none ((chronicle.push other value).mark other true)
    have answers := @answers_drain_of_push _ _ _ _ _ name fuel chronicle other value idle
    generalize recordDrain fuel other none ((chronicle.push other value).mark other true) = result
      at conducted answers ⊢
    dsimp only
    cases ending : result.1.raised? with
    | none => exact answers_exhausted
    | some raised =>
      have ended : result.1.raised? ≠ none := by
        rw [ending]
        exact Option.some_ne_none _
      obtain ⟨idle, added, grown, encloses, covers⟩ := answers ended
      refine (inner (next raised) _ idle).after ?_ encloses covers
      rw [history_mark, grown]

theorem answers_subscribe (inner : ∀ (script : Script κ ν ε σ) (chronicle : Chronicle κ ν ε σ),
      (chronicle.channel name).delivering = false →
      Answers name chronicle (record fuel script chronicle))
    (other : κ) (observer : Callback κ ν ε σ) (next : Except (Raised ε) Nat → Script κ ν ε σ)
    (idle : (chronicle.channel name).delivering = false) :
    Answers name chronicle (record (fuel + 1) (.subscribe other observer next) chronicle) := by
  rw [record]
  dsimp only
  have nested := (nests fuel).script (observer (chronicle.channel other).value)
    (chronicle.beginReplay other observer (chronicle.channel other).value)
  have idle' := @delivering_record _ _ _ _ _ name fuel
    (chronicle.beginReplay other observer (chronicle.channel other).value)
    (observer (chronicle.channel other).value) idle
  generalize record fuel (observer (chronicle.channel other).value)
    (chronicle.beginReplay other observer (chronicle.channel other).value) = result
    at nested idle' ⊢
  obtain ⟨outcome, after⟩ := result
  -- The replay is a call, and what happens in it is not done by the script itself.
  have goesOn {middle : Chronicle κ ν ε σ} {result : Outcome ε × Chronicle κ ν ε σ}
      (ends : outcome.raised? ≠ none)
      (written : middle.history = (after.endCall other none outcome).history)
      (answers : Answers name middle result) : Answers name chronicle result := by
    obtain ⟨inside, grown, work⟩ := nested ends
    have encloses : Encloses (fun _ => True) (.subscribing other observer ::
        (.called other none observer (chronicle.channel other).value
          (chronicle.channel other).value :: inside ++ [.ended other none outcome])) :=
      .step rfl trivial (.call trivial work (.nil _))
    refine answers.after ?_ encloses ?_
    · rw [written, endCall, write, grown, beginReplay, write]
      simp
    · rw [outermost_plain rfl, outermost_call work, pushedTo_eq_nil]
      · exact Nat.zero_le _
      · simp [Happening.pushed?, outermost]
  cases outcome with
  | exhausted => exact answers_exhausted
  | finished =>
    refine goesOn (Option.some_ne_none _) rfl (Answers.afterStep (inner _ _ ?_) rfl rfl ?_)
    · rw [delivering_register]
      exact idle' (Option.some_ne_none _)
    · rw [pushedTo, found_singleton]
      exact ite_self _
  | failed error => exact goesOn (Option.some_ne_none _) rfl (inner _ _ (idle' (Option.some_ne_none _)))
  | interrupted error => exact goesOn (Option.some_ne_none _) rfl (inner _ _ (idle' (Option.some_ne_none _)))

/-- A script that is run while a channel is idle answers for what it pushes there itself. -/
theorem answers_record (script : Script κ ν ε σ) (idle : (chronicle.channel name).delivering = false) :
    Answers name chronicle (record fuel script chronicle) := by
  induction fuel generalizing script chronicle with
  | zero => exact answers_exhausted
  | succ fuel inductionHypothesis =>
    have inner (script : Script κ ν ε σ) (chronicle : Chronicle κ ν ε σ)
        (idle : (chronicle.channel name).delivering = false) :
        Answers name chronicle (record fuel script chronicle) :=
      inductionHypothesis script idle
    cases script with
    | finish => exact answers_nothing idle _
    | fail error => exact answers_nothing idle _
    | interrupt error => exact answers_nothing idle _
    | push other value next => exact answers_push inner other value next idle
    | subscribe other observer next => exact answers_subscribe inner other observer next idle
    | dispose other token next =>
      refine (inner next (chronicle.detach other token) ?_).afterStep rfl rfl ?_
      · rw [delivering_detach, idle]
      · rw [pushedTo, found_singleton]
        exact ite_self _
    | read other next => exact inner _ chronicle idle
    | consult next => exact inner _ chronicle idle
    | update change next => exact inner next (chronicle.keep change) idle

/-- So do scripts that are run from the outside, one after the other. -/
theorem answers_recordAll (scripts : List (Script κ ν ε σ))
    (idle : (chronicle.channel name).delivering = false) :
    Answers name chronicle (recordAll fuel scripts chronicle) := by
  induction scripts generalizing chronicle with
  | nil => exact answers_nothing idle _
  | cons script others inductionHypothesis =>
    have answers := @answers_record _ _ _ _ _ name fuel chronicle script idle
    rw [recordAll]
    generalize record fuel script chronicle = result at answers ⊢
    obtain ⟨outcome, after⟩ := result
    have goesOn (ends : outcome.raised? ≠ none) :
        Answers name chronicle (recordAll fuel others after) := by
      obtain ⟨idle, added, grown, encloses, covers⟩ := answers ends
      exact (inductionHypothesis idle).after grown encloses covers
    cases outcome with
    | exhausted => exact answers_exhausted
    | finished => exact goesOn (Option.some_ne_none _)
    | failed error => exact goesOn (Option.some_ne_none _)
    | interrupted error => exact goesOn (Option.some_ne_none _)

end Chronicle

/-- When a run from the outside has ended, nothing waits in a new channel that no observer has pushed
to: all that was pushed to it was taken. -/
theorem takenFrom_eq_pushedTo [DecidableEq κ] (fuel : Nat) (scripts : List (Script κ ν ε σ))
    (bank : Bank κ ν ε σ) (name : κ) (initial : ν) {result : Outcome ε × Chronicle κ ν ε σ}
    (recorded : Chronicle.recordAll fuel scripts (.opened bank name initial) = result)
    (ended : result.1.raised? ≠ none) (spared : IsSpared name result.2.history) :
    takenFrom name result.2.history = pushedTo name result.2.history := by
  obtain ⟨last, way, -, closing⟩ := way_recordAll fuel scripts bank name initial recorded
  have idle : ((Chronicle.opened bank name initial).channel name).delivering = false := by
    rw [Chronicle.channel_opened]
  have answers := @Chronicle.answers_recordAll _ _ _ _ _ name fuel _ scripts idle
  rw [recorded] at answers
  obtain ⟨-, added, grown, -, covers⟩ := answers ended
  have whole : result.2.history = added := grown
  have queue := way.waiting_append
  rw [pushedTo_outermost (whole ▸ spared), ← whole] at covers
  rw [List.nil_append] at queue
  have length := congrArg List.length queue
  rw [List.length_append] at length
  have empty : last.waiting = [] := List.eq_nil_of_length_eq_zero (by omega)
  rw [queue, empty, List.append_nil]

end StateContainer
