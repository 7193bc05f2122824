/-
This file says when the observers of a channel are called no more.

A registered observer is called only after a value was taken, and before anything else happens that is not
itself the work of such an observer. So when a registration is disposed while no observer is at work,
nobody is called any more before the next value is taken, and then only those are called that are still
registered.

The main statement is about the registrations of a channel in all runs: how many there are, what disposing
them does, what failed subscriptions leave, and that those who are disposed are not called again.
-/

import StateContainer.Proofs.Channel.Holding
import StateContainer.Proofs.Channel.Registering

namespace StateContainer

variable {κ ν ε σ : Type}

/-! ### How a channel goes through its deliveries -/

/-- Where a channel is in the delivery of a value. -/
inductive Phase where
  /-- Nobody is called. -/
  | idle
  /-- A value was taken or an observer has answered, and since then nothing has happened. -/
  | between
  /-- A registered observer is at work. -/
  | calling
deriving DecidableEq

/-- The phase of a channel after something has happened in it. -/
def Phase.after (phase : Phase) : Happening κ ν ε σ → Phase
  | .taken _ _ _ => .between
  | .called _ (some _) _ _ _ => .calling
  | .ended _ (some _) _ => if phase = .calling then .between else phase
  | _ => if phase = .between then .idle else phase

section
variable [DecidableEq κ]

/-- The phase of a channel after a history. -/
def phaseAfter (name : κ) (history : History κ ν ε σ) : Phase :=
  (within name history).foldl Phase.after .idle

variable {name : κ} {history added : History κ ν ε σ} {happening : Happening κ ν ε σ}

theorem phaseAfter_concat_of_here (here : happening.place = name) :
    phaseAfter name (history ++ [happening]) = (phaseAfter name history).after happening := by
  rw [phaseAfter, within_append, within_of_here here, List.foldl_append]
  rfl

theorem phaseAfter_concat_of_away (away : happening.place ≠ name) :
    phaseAfter name (history ++ [happening]) = phaseAfter name history := by
  rw [phaseAfter, within_append, within_of_away away, List.append_nil]
  rfl

/-- Whether a registered observer of a channel is called only right after a value was taken or another
one has answered. -/
def Paced (name : κ) : History κ ν ε σ → Prop :=
  Each fun earlier happening => ∀ token observer value current,
    happening = .called name (some token) observer value current → phaseAfter name earlier = .between

/-- Whether something is a taking, or a call or an answer of a registered observer. -/
def Happening.drives : Happening κ ν ε σ → Bool
  | .taken _ _ _ => true
  | .called _ (some _) _ _ _ => true
  | .ended _ (some _) _ => true
  | _ => false

/-- Nothing else begins or ends the call of a registered observer. -/
theorem phaseAfter_calling_iff (plain : happening.drives = false ∨ happening.place ≠ name) :
    phaseAfter name (history ++ [happening]) = .calling ↔ phaseAfter name history = .calling := by
  by_cases here : happening.place = name
  · have undriven := plain.resolve_right (not_not_intro here)
    rw [phaseAfter_concat_of_here here]
    have same : (phaseAfter name history).after happening =
        if phaseAfter name history = .between then .idle else phaseAfter name history := by
      cases happening with
      | taken => cases undriven
      | called _ token => cases token with
        | none => rfl
        | some => cases undriven
      | ended _ token => cases token with
        | none => rfl
        | some => cases undriven
      | _ => rfl
    rw [same]
    cases phaseAfter name history <;> decide
  · rw [phaseAfter_concat_of_away here]

theorem Paced.concat (paced : Paced name history)
    (fits : (∀ token observer value current,
      happening ≠ .called name (some token) observer value current) ∨
        phaseAfter name history = .between) : Paced name (history ++ [happening]) :=
  Each.concat paced fun token observer value current same =>
    fits.resolve_left fun other => other token observer value current same

end

namespace Chronicle

variable [DecidableEq κ] {name other : κ} {c next : Chronicle κ ν ε σ} {site last : Site}

/-- Whether the phase of a channel is the one that it has to be in where the run is. -/
def Site.Suits (name : κ) (site : Site) (c : Chronicle κ ν ε σ) : Prop :=
  match site with
  | .script => phaseAfter name c.history = .calling ↔ (c.channel name).delivering = true
  | .drain => phaseAfter name c.history ≠ .calling
  | .deliver => phaseAfter name c.history = .between
  | .over => True

theorem Site.Suits.congr (suits : site.Suits name c) (history : next.history = c.history)
    (delivering : (next.channel name).delivering = (c.channel name).delivering) :
    site.Suits name next := by
  unfold Suits
  rw [history, delivering]
  exact suits

/-- What a script does itself leaves the phase of a channel as it has to be. -/
theorem Site.Suits.of_plain (suits : Site.script.Suits name c) {happening : Happening κ ν ε σ}
    (written : next.history = c.history ++ [happening])
    (plain : happening.drives = false ∨ happening.place ≠ name)
    (unmoved : (next.channel name).delivering = (c.channel name).delivering) :
    Site.script.Suits name next := by
  rw [Suits, unmoved, written]
  exact (phaseAfter_calling_iff plain).trans suits

theorem Site.Suits.of_change (suits : Site.script.Suits name c)
    {change : Channel ν (Callback κ ν ε σ) → Channel ν (Callback κ ν ε σ)}
    {happening : Happening κ ν ε σ} (plain : happening.drives = false ∨ other ≠ name)
    (here : happening.place = other)
    (kept : ∀ channel, (change channel).delivering = channel.delivering) :
    Site.script.Suits name (c.change other change [happening]) :=
  suits.of_plain rfl (here ▸ plain) (delivering_change c other change kept _)

omit [DecidableEq κ] in
theorem beginReplay_eq (c : Chronicle κ ν ε σ) (other : κ) (observer : Callback κ ν ε σ) (value : ν) :
    c.beginReplay other observer value = (c.write [.subscribing other observer]).write
      [.called other none observer value (c.channel other).value] := by
  rw [beginReplay, write, write, write, List.append_assoc]
  rfl

/-- Every step leaves the phase of a channel as it has to be. -/
theorem Step.suits (step : Step name site c last next) (marks : site.Marks name c)
    (suits : site.Suits name c) : last.Suits name next := by
  cases step with
  | push other value => exact suits.of_change (Or.inl rfl) rfl fun _ => rfl
  | detach other token => exact suits.of_change (Or.inl rfl) rfl fun _ => rfl
  | beginReplay other observer value =>
    rw [beginReplay_eq]
    have subscribed : Site.script.Suits name (c.write [.subscribing other observer]) :=
      suits.of_plain rfl (Or.inl rfl) rfl
    exact subscribed.of_plain rfl (Or.inl rfl) rfl
  | endReplay other outcome => exact suits.of_plain rfl (Or.inl rfl) rfl
  | register other observer replayed => exact suits.of_change (Or.inl rfl) rfl fun _ => rfl
  | keep change => exact suits
  | note first error =>
    exact suits.congr rfl (congrArg Channel.delivering (channel_note c first error name))
  | begin idle =>
    rw [Site.Suits, history_mark]
    exact fun calling => Bool.false_ne_true (idle.symm.trans (suits.mp calling))
  | cease =>
    rw [Site.Suits, history_mark, delivering_mark_self]
    exact iff_of_false suits Bool.false_ne_true
  | take waiting => exact phaseAfter_concat_of_here rfl
  | finish => exact fun calling => nomatch suits.symm.trans calling
  | call registration value =>
    exact iff_of_true (phaseAfter_concat_of_here rfl) (marks (Or.inr rfl))
  | answer token outcome busy =>
    show phaseAfter name (c.history ++ [.ended name (some token) outcome]) = .between
    have here : (Happening.ended name (some token) outcome : Happening κ ν ε σ).place = name := rfl
    rw [phaseAfter_concat_of_here here, suits.mpr busy]
    rfl
  | markElsewhere differ delivering =>
    rw [Site.Suits, history_mark, delivering_mark_of_ne _ differ]
    exact suits
  | takeElsewhere differ value left =>
    exact suits.of_plain rfl (Or.inr differ)
      (congrArg Channel.delivering (channel_change_of_ne c differ _ _))
  | callElsewhere differ registration value => exact suits.of_plain rfl (Or.inr differ) rfl
  | answerElsewhere differ token outcome => exact suits.of_plain rfl (Or.inr differ) rfl
  | stop => trivial
  | giveUp other => trivial

/-- Registered observers are called only right after a value was taken or another one has answered. -/
theorem Step.paced (step : Step name site c last next) (suits : site.Suits name c)
    (paced : Paced name c.history) : Paced name next.history := by
  cases step with
  | push other value => exact paced.concat (Or.inl nofun)
  | detach other token => exact paced.concat (Or.inl nofun)
  | beginReplay other observer value =>
    rw [beginReplay_eq]
    exact Paced.concat (paced.concat (Or.inl nofun)) (Or.inl nofun)
  | endReplay other outcome => exact paced.concat (Or.inl nofun)
  | register other observer replayed => exact paced.concat (Or.inl nofun)
  | keep change => exact paced
  | note first error => exact paced
  | begin idle => exact (history_mark c name true).symm ▸ paced
  | cease => exact (history_mark c name false).symm ▸ paced
  | take waiting => exact paced.concat (Or.inl nofun)
  | finish => exact paced
  | call registration value => exact paced.concat (Or.inr suits)
  | answer token outcome busy => exact paced.concat (Or.inl nofun)
  | @markElsewhere _ other _ delivering => exact (history_mark c other delivering).symm ▸ paced
  | takeElsewhere differ value left => exact paced.concat (Or.inl nofun)
  | callElsewhere differ registration value =>
    refine paced.concat (Or.inl fun _ _ _ _ same => ?_)
    cases same
    exact differ rfl
  | answerElsewhere differ token outcome => exact paced.concat (Or.inl nofun)
  | stop => exact paced
  | giveUp other => exact (history_mark c other false).symm ▸ paced

end Chronicle

/-! ### Who is disposed is not called again -/

section
variable [DecidableEq κ] {name : κ} {token : Nat} {earlier later history added : History κ ν ε σ}
  {observer : Callback κ ν ε σ} {value current : ν}

/-- As long as no value is taken, an idle channel stays idle. -/
theorem Paced.phaseAfter_of_untaken (paced : Paced name (earlier ++ later))
    (idle : phaseAfter name earlier = .idle) (untaken : takenFrom name later = []) :
    phaseAfter name (earlier ++ later) = .idle := by
  induction later using List.reverseRecOn with
  | nil => rw [List.append_nil, idle]
  | append_singleton later happening inductionHypothesis =>
    rw [takenFrom, found_append, List.append_eq_nil_iff] at untaken
    rw [← List.append_assoc] at paced ⊢
    have still := inductionHypothesis paced.of_append untaken.1
    by_cases here : happening.place = name
    · rw [phaseAfter_concat_of_here here, still]
      cases happening with
      | taken other value present =>
        rw [found_singleton, if_pos here] at untaken
        cases untaken.2
      | called other token observer value current =>
        cases token with
        | none => rfl
        | some token =>
          subst here
          cases still.symm.trans (paced _ _ [] rfl token observer value current rfl)
      | ended other token outcome => cases token <;> rfl
      | _ => rfl
    · rw [phaseAfter_concat_of_away here, still]

/-- The value that was taken last. -/
theorem exists_last_taken (taking : takenFrom name history ≠ []) : ∃ before value present after,
    history = before ++ .taken name value present :: after ∧ takenFrom name after = [] := by
  induction history using List.reverseRecOn with
  | nil => exact absurd rfl taking
  | append_singleton history happening inductionHypothesis =>
    by_cases untaken : takenFrom name [happening] = []
    · rw [takenFrom, found_append, ← takenFrom, ← takenFrom, untaken, List.append_nil] at taking
      obtain ⟨before, value, present, after, rfl, none⟩ := inductionHypothesis taking
      refine ⟨before, value, present, after ++ [happening], by simp, ?_⟩
      rw [takenFrom, found_append, ← takenFrom, ← takenFrom, none, untaken]
      rfl
    · obtain ⟨value, present, rfl⟩ := exists_of_takenFrom_ne_nil untaken
      exact ⟨history, value, present, [], rfl, rfl⟩

theorem chapter_append (untaken : takenFrom name earlier = []) :
    chapter name (earlier ++ later) = earlier ++ chapter name later := by
  induction earlier with
  | nil => rfl
  | cons happening others inductionHypothesis =>
    rw [takenFrom, found_cons, List.append_eq_nil_iff] at untaken
    rw [List.cons_append, chapter_cons untaken.1, inductionHypothesis untaken.2, List.cons_append]

/-- Whoever is called on account of a registration was present when the value was taken that was taken
last. -/
theorem Delivers.mem_present {result : Outcome ε × Chronicle κ ν ε σ} (delivers : Delivers name result)
    {before after rest : History κ ν ε σ} {taken : ν} {present : List (Registration κ ν ε σ)}
    (split : result.2.history = before ++ .taken name taken present ::
      (after ++ .called name (some token) observer value current :: rest))
    (untaken : takenFrom name after = []) : (token, observer) ∈ present := by
  have within := delivers.atMostOnce split
  rw [chapter_append untaken, chapter_cons (by simp [takenFrom, Happening.taken?])] at within
  have called : ((token, observer), value) ∈ deliveredIn name
      (after ++ .called name (some token) observer value current :: chapter name rest) := by
    rw [deliveredIn, found_append, found_cons, found_singleton]
    refine List.mem_append_right _ (List.mem_append_left _ ?_)
    show ((token, observer), value) ∈ if name = name then [((token, observer), value)] else []
    rw [if_pos rfl]
    exact List.mem_singleton_self _
  obtain ⟨registration, member, same⟩ := List.mem_map.mp (within.subset called)
  cases same
  exact member

/-- Who is disposed stays so. -/
theorem isDisposed_append (disposed : isDisposed name token history = true) :
    isDisposed name token (history ++ added) = true := by
  induction added using List.reverseRecOn with
  | nil => rw [List.append_nil, disposed]
  | append_singleton added happening inductionHypothesis =>
    rw [← List.append_assoc, isDisposed_concat, inductionHypothesis, Bool.true_or]

theorem isDisposed_of_detached (registered : token ∈ (registrationsIn name earlier).map (·.1)) :
    isDisposed name token (earlier ++ [.detached name token]) = true := by
  obtain ⟨registration, member, same⟩ := List.mem_map.mp registered
  rw [isDisposed_concat, Bool.or_eq_true, Bool.and_eq_true]
  exact Or.inr ⟨by simp [Happening.disposes],
    List.any_eq_true.mpr ⟨registration, member, decide_eq_true same⟩⟩

/-- If a registration is disposed while no registered observer is at work, its observer is not called any
more on account of it. -/
theorem not_called_of_detached {result : Outcome ε × Chronicle κ ν ε σ} (delivers : Delivers name result)
    (accounts : Chronicle.Accounts name result.2) (paced : Paced name result.2.history)
    (split : result.2.history = earlier ++ .detached name token :: later)
    (registered : token ∈ (registrationsIn name earlier).map (·.1))
    (quiet : phaseAfter name earlier ≠ .calling) :
    .called name (some token) observer value current ∉ later := by
  intro member
  obtain ⟨middle, rest, rfl⟩ := List.append_of_mem member
  have idle : phaseAfter name (earlier ++ [.detached name token]) = .idle := by
    have here : (Happening.detached name token : Happening κ ν ε σ).place = name := rfl
    rw [phaseAfter_concat_of_here here]
    cases phase : phaseAfter name earlier with
    | calling => exact absurd phase quiet
    | _ => rfl
  have regrouped : result.2.history = (earlier ++ [.detached name token]) ++ middle ++
      .called name (some token) observer value current :: rest := by
    rw [split]
    simp
  have between : phaseAfter name ((earlier ++ [.detached name token]) ++ middle) = .between :=
    paced _ _ rest regrouped token observer value current rfl
  have taking : takenFrom name middle ≠ [] := by
    intro untaken
    have still := Paced.phaseAfter_of_untaken (regrouped ▸ paced).of_append idle untaken
    cases still.symm.trans between
  obtain ⟨before, taken, present, after, rfl, untaken⟩ := exists_last_taken taking
  have atTaking : result.2.history = ((earlier ++ [.detached name token]) ++ before) ++
      .taken name taken present :: (after ++
        .called name (some token) observer value current :: rest) := by
    rw [regrouped]
    simp
  have there := delivers.mem_present atTaking untaken
  rw [accounts.takings _ _ _ atTaking taken present rfl] at there
  have gone : isDisposed name token ((earlier ++ [.detached name token]) ++ before) = true :=
    isDisposed_append (isDisposed_of_detached registered)
  have open' := (List.mem_filter.mp there).2
  rw [gone] at open'
  cases open'

end

/-! ### Registrations in runs -/

variable [DecidableEq κ]

/-- What a subscription comes to. If the replay of the value raises something, nothing is registered, and
the bank is what the observer left. -/
theorem Bank.run_subscribe {fuel : Nat} {name : κ} {observer : Callback κ ν ε σ}
    {bank after : Bank κ ν ε σ} {outcome : Outcome ε} (next : Except (Raised ε) Nat → Script κ ν ε σ)
    (replays : run fuel (observer (bank.channels name).value) bank = (outcome, after)) :
    (∀ raised, outcome.raised? = some (some raised) →
      run (fuel + 1) (.subscribe name observer next) bank = run fuel (next (.error raised)) after) ∧
    (outcome.raised? = some none →
      run (fuel + 1) (.subscribe name observer next) bank =
        run fuel (next (.ok (after.channels name).nextToken))
          (after.modify name (·.register observer))) := by
  constructor
  · intro raised fails
    rw [run, replays]
    dsimp only
    rw [fails]
  · intro returns
    rw [run, replays]
    dsimp only
    rw [returns]

/-- Whether the registrations of a channel are as many as they should be, and disposing them does what it
should do. -/
structure Chronicle.Balances (name : κ) (c : Chronicle κ ν ε σ) : Prop where
  /-- No two registrations share a token, not even if they are of the same observer. -/
  distinct : ((registrationsIn name c.history).map (·.1)).Nodup
  /-- Those who are present were registered and not disposed. -/
  present : (c.channel name).observers = undisposed name c.history
  count : (c.channel name).observerCount +
    ((registrationsIn name c.history).filter fun registration =>
      isDisposed name registration.1 c.history).length = (registrationsIn name c.history).length
  /-- Disposing a registration removes it and leaves all else in the channel. -/
  removes : ∀ {before registration after},
    (c.channel name).observers = before ++ registration :: after →
    (c.channel name).detach registration.1 = { c.channel name with observers := before ++ after }
  /-- Disposing it again leaves the channel as it is. -/
  again : ∀ {token}, isDisposed name token c.history = true →
    (c.channel name).detach token = c.channel name

theorem Chronicle.Accounts.balances {name : κ} {c : Chronicle κ ν ε σ} (accounts : Accounts name c) :
    c.Balances name where
  distinct := accounts.nodup_tokens
  present := accounts.observers
  count := accounts.count
  removes := accounts.detach_of_present
  again := accounts.detach_of_isDisposed

/-- Whatever is run from the outside on a new channel, the registrations balance at every moment, and
while a script is at work, a delivery is going on exactly if a registered observer is. Each registration is
made when a replay has just returned; a replay that raises something leaves no trace but what its observer
did. An observer is not called any more on account of a registration that is disposed while no delivery is
going on. -/
theorem registrations_recordAll (fuel : Nat) (scripts : List (Script κ ν ε σ)) (bank : Bank κ ν ε σ)
    (name : κ) (initial : ν) :
    Chronicle.erased (Chronicle.recordAll fuel scripts (.opened bank name initial)) =
        Bank.runAll fuel scripts (bank.start name initial) ∧
      Chronicle.GoesThrough name .script (.opened bank name initial)
        (Chronicle.recordAll fuel scripts (.opened bank name initial)) ∧
      (∀ site c, Chronicle.Steps name .script (.opened bank name initial) site c →
        c.Balances name ∧ (site = .script →
          (phaseAfter name c.history = .calling ↔ (c.channel name).delivering = true))) ∧
      AllReplayed name (Chronicle.recordAll fuel scripts (.opened bank name initial)).2.history ∧
      (∀ fuel (observer : Callback κ ν ε σ) next (before after : Bank κ ν ε σ) outcome,
        Bank.run fuel (observer (before.channels name).value) before = (outcome, after) →
        (∀ raised, outcome.raised? = some (some raised) →
          Bank.run (fuel + 1) (.subscribe name observer next) before =
            Bank.run fuel (next (.error raised)) after) ∧
        (outcome.raised? = some none →
          Bank.run (fuel + 1) (.subscribe name observer next) before =
            Bank.run fuel (next (.ok (after.channels name).nextToken))
              (after.modify name (·.register observer)))) ∧
      (∀ earlier token later,
        (Chronicle.recordAll fuel scripts (.opened bank name initial)).2.history =
          earlier ++ .detached name token :: later →
        token ∈ (registrationsIn name earlier).map (·.1) → phaseAfter name earlier ≠ .calling →
        ∀ observer value current, .called name (some token) observer value current ∉ later) := by
  have moments : ∀ {site c}, Chronicle.Steps name .script (.opened bank name initial) site c →
      Chronicle.Accounts name c ∧ site.Marks name c ∧ site.Suits name c ∧ Paced name c.history := by
    intro site c steps
    refine steps.preserves (fun site c => Chronicle.Accounts name c ∧ site.Marks name c ∧
      site.Suits name c ∧ Paced name c.history) ?_ fun step kept => ?_
    · refine ⟨Chronicle.accounts_opened bank name initial, nofun, ?_, each_nil _⟩
      rw [Chronicle.Site.Suits, Chronicle.channel_opened]
      exact iff_of_false nofun nofun
    · obtain ⟨accounts, marks, suits, paced⟩ := kept
      exact ⟨step.accounts accounts, step.marks marks, step.suits marks suits, step.paced suits paced⟩
  have through : Chronicle.GoesThrough name .script (.opened bank name initial)
      (Chronicle.recordAll fuel scripts (.opened bank name initial)) :=
    Chronicle.goesThrough_recordAll fuel scripts (.opened bank name initial)
  refine ⟨Chronicle.erased_recordAll fuel scripts _, through, fun site c steps => ⟨?_, ?_⟩,
    allReplayed_recordAll fuel scripts bank name initial,
    fun fuel observer next before after outcome replays => Bank.run_subscribe next replays,
    fun earlier token later split registered quiet observer value current => ?_⟩
  · exact (moments steps).1.balances
  · rintro rfl
    exact (moments steps).2.2.1
  · obtain ⟨last, steps, -⟩ := through
    obtain ⟨accounts, -, -, paced⟩ := moments steps
    exact not_called_of_detached (delivers_recordAll fuel scripts bank name initial).2 accounts paced split
      registered quiet

end StateContainer
