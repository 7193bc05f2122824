/-
This file says which value each observer of a channel holds.

An observer holds the value that it was called with last on account of its registration;
the replay, which comes before the registration, is counted as the first such call. While
a value is being delivered, every registration that was present when it was taken either
holds it or is still due. So once nothing is due, an observer holds the value of the
channel if any value was taken since its registration.

If none was, it holds what was replayed to it, and this need not be the value of the
channel: a value that the observer pushes while it is replayed to is delivered at once,
unless a delivery is going on, and the observer is not registered yet. The main statement
is that there is no other way to be left behind.
-/

import StateContainer.Proofs.Channel.Delivery

namespace StateContainer

variable {κ ν ε σ : Type} [DecidableEq κ]

/-! ### What is heard -/

/-- The value that a registration is called with, or that was replayed to its observer. -/
def Happening.heard? (token : Nat) : Happening κ ν ε σ → Option ν
  | .registered _ other _ replayed _ => if other = token then some replayed else none
  | .called _ (some other) _ value _ => if other = token then some value else none
  | _ => none

/-- The value that a registration holds: the last one that it was called with. -/
def heard (name : κ) (token : Nat) (history : History κ ν ε σ) : Option ν :=
  (found name (Happening.heard? token) history).getLast?

section
variable {name : κ} {token : Nat} {history earlier later : History κ ν ε σ}
  {happening : Happening κ ν ε σ}

/-- A registration holds what it hears last. -/
theorem heard_of_hears {value : ν} (here : happening.place = name)
    (hears : happening.heard? token = some value) :
    heard name token (history ++ [happening]) = some value := by
  rw [heard, found_append, found_singleton, if_pos here, hears]
  exact List.getLast?_concat

/-- A registration goes on holding what it holds until it hears something else. -/
theorem heard_of_silent (silent : happening.place = name → happening.heard? token = none) :
    heard name token (history ++ [happening]) = heard name token history := by
  have nothing : found name (Happening.heard? token) [happening] = [] := by
    rw [found_singleton]
    split
    · next here => rw [silent here]; rfl
    · rfl
  rw [heard, found_append, nothing, List.append_nil]
  rfl

end

/-! ### Replays come before registrations -/

/-- Every registration in a history was made when the replay to its observer had just returned. -/
def AllReplayed (name : κ) (history : History κ ν ε σ) : Prop :=
  ∀ earlier token observer replayed current later,
    history = earlier ++ .registered name token observer replayed current :: later →
    Chronicle.JustReplayed name observer replayed earlier

section
variable {name other : κ} {history : History κ ν ε σ} {happening : Happening κ ν ε σ}
  {chronicle : Chronicle κ ν ε σ}

omit [DecidableEq κ] in
theorem AllReplayed.snoc (all : AllReplayed name history) (happening : Happening κ ν ε σ)
    (new : ∀ token observer replayed current,
      happening = .registered name token observer replayed current →
      Chronicle.JustReplayed name observer replayed history) :
    AllReplayed name (history ++ [happening]) := by
  intro earlier token observer replayed current later split
  rcases List.eq_nil_or_concat later with rfl | ⟨before, final, rfl⟩
  · obtain ⟨rfl, same⟩ := List.append_inj' split rfl
    exact new token observer replayed current (List.singleton_inj.mp same)
  · rw [List.concat_eq_append, ← List.cons_append, ← List.append_assoc] at split
    obtain ⟨rfl, -⟩ := List.append_inj' split rfl
    exact all earlier token observer replayed current before rfl

theorem stable_allReplayed : Chronicle.Stable name
    fun _ (chronicle : Chronicle κ ν ε σ) => AllReplayed name chronicle.history where
  pushBusy value _ all := all.snoc _ nofun
  pushIdle value _ all := by
    rw [Chronicle.history_mark]
    exact all.snoc _ nofun
  pushElsewhere value _ all := all.snoc _ nofun
  markElsewhere delivering _ all := by
    rw [Chronicle.history_mark]
    exact all
  cease _ all := by
    rw [Chronicle.history_mark]
    exact all
  take _ _ all := all.snoc _ nofun
  takeElsewhere value left _ all := all.snoc _ nofun
  call all := all.snoc _ nofun
  callElsewhere registration value _ all := all.snoc _ nofun
  endCall _ all := all.snoc _ nofun
  breakOff token error all := all.snoc _ nofun
  replay {due chronicle} other observer all := by
    have called := (all.snoc (.subscribing other observer) nofun).snoc (.called other none observer
      (chronicle.channel other).value (chronicle.channel other).value) nofun
    rw [List.append_assoc] at called
    exact called
  register other observer replayed returned all := by
    refine all.snoc _ fun token observer' replayed' current same => ?_
    cases same
    exact returned
  detach other token all := all.snoc _ nofun
  keep change all := all
  note first error all := all

end

/-! ### What registrations hold on the way -/

/-- What a registration that is present holds. As long as no value was taken since it was made, it
holds what was replayed to it and is not due; afterwards it holds the value of the channel or is
still due. -/
def Holds (name : κ) (history : History κ ν ε σ) (now : Situation κ ν ε σ)
    (registration : Registration κ ν ε σ) : Prop :=
  ∃ earlier replayed current later,
    history = earlier ++
      .registered name registration.1 registration.2 replayed current :: later ∧
    (takenFrom name later = [] → heard name registration.1 history = some replayed ∧
      ∀ delivery ∈ now.due, delivery.1.1 ≠ registration.1) ∧
    (takenFrom name later ≠ [] → heard name registration.1 history = some now.value ∨
      ∃ delivery ∈ now.due, delivery.1.1 = registration.1)

section
variable {name : κ} {now next first last : Situation κ ν ε σ} {history : History κ ν ε σ}
  {happening : Happening κ ν ε σ} {registration : Registration κ ν ε σ}

/-- A registration holds what it did if neither the channel nor what it hears or is due changes. -/
theorem Holds.of_silent (holds : Holds name history now registration)
    (silent : happening.place = name → happening.heard? registration.1 = none)
    (untaken : takenFrom name [happening] = []) (value : next.value = now.value)
    (due : next.due = now.due) : Holds name (history ++ [happening]) next registration := by
  obtain ⟨earlier, replayed, current, later, rfl, untouched, reached⟩ := holds
  refine ⟨earlier, replayed, current, later ++ [happening], ?_, ?_⟩
  · rw [List.append_assoc, List.cons_append]
  · have same : takenFrom name (later ++ [happening]) = takenFrom name later := by
      rw [takenFrom, found_append, ← takenFrom, ← takenFrom, untaken, List.append_nil]
    rw [heard_of_silent silent, same, value, due]
    exact ⟨untouched, reached⟩

/-- A value that is taken becomes due to a registration that is present. -/
theorem Holds.of_taken (holds : Holds name history now registration) (value : ν)
    (present : List (Registration κ ν ε σ))
    (due : ∃ delivery ∈ next.due, delivery.1.1 = registration.1) :
    Holds name (history ++ [.taken name value present]) next registration := by
  obtain ⟨earlier, replayed, current, later, rfl, -⟩ := holds
  refine ⟨earlier, replayed, current, later ++ [.taken name value present], ?_, ?_, ?_⟩
  · rw [List.append_assoc, List.cons_append]
  · rw [takenFrom, found_append, ← takenFrom, ← takenFrom, takenFrom_taken]
    exact fun untaken => absurd (List.append_eq_nil_iff.mp untaken).2 (List.cons_ne_nil _ _)
  · exact fun _ => Or.inr due

/-- A registration that is called with the value of the channel holds it. -/
theorem Holds.of_called (holds : Holds name history now registration)
    {called : Registration κ ν ε σ} {due : Agenda κ ν ε σ}
    (turn : now.due = (called, now.value) :: due) :
    Holds name
      (history ++ [.called name (some called.1) called.2 now.value now.value]) { now with due }
      registration := by
  obtain ⟨earlier, replayed, current, later, rfl, untouched, reached⟩ := holds
  refine ⟨earlier, replayed, current, later ++ [.called name (some called.1) called.2 now.value
    now.value], ?_, ?_, ?_⟩
  · rw [List.append_assoc, List.cons_append]
  · intro untaken
    rw [takenFrom, found_append] at untaken
    obtain ⟨holds, idle⟩ := untouched (List.append_eq_nil_iff.mp untaken).1
    have other : called.1 ≠ registration.1 := idle _ (turn ▸ List.mem_cons_self)
    refine ⟨?_, fun delivery member => idle _ (turn ▸ List.mem_cons_of_mem _ member)⟩
    rw [heard_of_silent fun _ => by exact if_neg other]
    exact holds
  · intro taken
    by_cases same : called.1 = registration.1
    · exact Or.inl (heard_of_hears rfl (if_pos same))
    · rw [heard_of_silent fun _ => by exact if_neg same]
      have taken : takenFrom name later ≠ [] := by
        rw [takenFrom, found_append, found_singleton] at taken
        simpa [takenFrom, Happening.place, Happening.taken?] using taken
      refine (reached taken).imp_right ?_
      rintro ⟨delivery, member, its⟩
      refine ⟨delivery, ?_, its⟩
      rw [turn] at member
      rcases List.mem_cons.mp member with rfl | member
      · exact absurd its same
      · exact member

/-- A new registration holds what was replayed to it. -/
theorem Holds.of_registered (token : Nat) (observer : Callback κ ν ε σ) (replayed current : ν)
    (fresh : ∀ delivery ∈ next.due, delivery.1.1 ≠ token) :
    Holds name (history ++ [.registered name token observer replayed current]) next
      (token, observer) := by
  refine ⟨history, replayed, current, [], rfl, fun _ => ⟨?_, fresh⟩, absurd rfl⟩
  exact heard_of_hears rfl (if_pos rfl)

/-- The tokens that were given away are below the next one, what is due is due with the value of
the channel, and every registration holds what it should, unless a delivery was broken off. -/
structure Steady (name : κ) (history : History κ ν ε σ) (now : Situation κ ν ε σ) : Prop where
  presentOld : ∀ registration ∈ now.present, registration.1 < now.nextToken
  dueOld : ∀ delivery ∈ now.due, delivery.1.1 < now.nextToken
  isCurrent : now.IsCurrent
  holding : isBrokenOff name history = false →
    ∀ registration ∈ now.present, Holds name history now registration

/-- A turn that leaves the registrations, the value and what is due leaves a channel steady. -/
theorem Steady.of_silent (steady : Steady name history now)
    (silent : ∀ token, happening.place = name → happening.heard? token = none)
    (untaken : takenFrom name [happening] = [])
    (present : ∀ registration ∈ next.present, registration ∈ now.present)
    (value : next.value = now.value) (due : next.due = now.due)
    (token : next.nextToken = now.nextToken) :
    Steady name (history ++ [happening]) next where
  presentOld registration member := token ▸ steady.presentOld _ (present _ member)
  dueOld delivery member := token ▸ steady.dueOld _ (due ▸ member)
  isCurrent delivery member := (steady.isCurrent _ (due ▸ member)).trans value.symm
  holding unbroken registration member := by
    rw [isBrokenOff_append, Bool.or_eq_false_iff] at unbroken
    exact (steady.holding unbroken.1 _ (present _ member)).of_silent (silent _) untaken value due

/-- Every turn leaves a channel steady. -/
theorem Turn.steady (turn : Turn name now happening next) (steady : Steady name history now) :
    Steady name (history ++ [happening]) next := by
  have stillCurrent := turn.isCurrent steady.isCurrent
  cases turn with
  | push value =>
    exact steady.of_silent (fun _ _ => rfl) (by simp [takenFrom, Happening.taken?])
      (fun _ => id) rfl rfl rfl
  | take value waiting oldest delivered =>
    refine ⟨steady.presentOld, ?_, stillCurrent, ?_⟩
    · intro delivery member
      obtain ⟨registration, present, rfl⟩ := List.mem_map.mp member
      exact steady.presentOld registration present
    · intro unbroken registration member
      rw [isBrokenOff_append, Bool.or_eq_false_iff] at unbroken
      refine (steady.holding unbroken.1 registration member).of_taken value now.present ?_
      exact ⟨(registration, value), List.mem_map_of_mem member, rfl⟩
  | call registration value due turn =>
    have current : value = now.value := steady.isCurrent _ (turn ▸ List.mem_cons_self)
    subst current
    refine ⟨steady.presentOld, ?_, stillCurrent, ?_⟩
    · exact fun delivery member => steady.dueOld _ (turn ▸ List.mem_cons_of_mem _ member)
    · intro unbroken registration' member
      rw [isBrokenOff_append, Bool.or_eq_false_iff] at unbroken
      exact (steady.holding unbroken.1 registration' member).of_called turn
  | subscribe observer free =>
    exact steady.of_silent (fun _ _ => rfl) (by simp [takenFrom, Happening.taken?])
      (fun _ => id) rfl rfl rfl
  | replay observer promised =>
    exact steady.of_silent (fun _ _ => rfl) (by simp [takenFrom, Happening.taken?])
      (fun _ => id) rfl rfl rfl
  | answer token outcome quiet =>
    exact steady.of_silent (fun _ _ => rfl) (by simp [takenFrom, Happening.taken?])
      (fun _ => id) rfl rfl rfl
  | breakOff token error =>
    refine ⟨steady.presentOld, by simp, stillCurrent, fun unbroken => ?_⟩
    rw [isBrokenOff_append, Bool.or_eq_false_iff] at unbroken
    simp [isBrokenOff, Happening.isBreak] at unbroken
  | register observer replayed =>
    have old : ∀ delivery ∈ now.due, delivery.1.1 ≠ now.nextToken :=
      fun delivery member => Nat.ne_of_lt (steady.dueOld delivery member)
    refine ⟨?_, ?_, stillCurrent, ?_⟩
    · intro registration member
      rcases List.mem_append.mp member with member | member
      · exact Nat.lt_succ_of_lt (steady.presentOld registration member)
      · rw [List.mem_singleton.mp member]
        exact Nat.lt_succ_self _
    · exact fun delivery member => Nat.lt_succ_of_lt (steady.dueOld delivery member)
    · intro unbroken registration member
      rw [isBrokenOff_append, Bool.or_eq_false_iff] at unbroken
      rcases List.mem_append.mp member with member | member
      · have other : now.nextToken ≠ registration.1 :=
          Nat.ne_of_gt (steady.presentOld registration member)
        exact (steady.holding unbroken.1 registration member).of_silent (fun _ => if_neg other)
          (by simp [takenFrom, Happening.taken?]) rfl rfl
      · rw [List.mem_singleton.mp member]
        exact .of_registered now.nextToken observer replayed now.value old
  | detach token =>
    exact steady.of_silent (fun _ _ => rfl) (by simp [takenFrom, Happening.taken?])
      (fun _ member => (List.mem_filter.mp member).1) rfl rfl rfl
  | elsewhere _ away =>
    exact steady.of_silent (fun _ here => absurd here away) (by simp [takenFrom, away])
      (fun _ => id) rfl rfl rfl

/-- Every way from the beginning of a channel leaves it steady. -/
theorem Way.steady {initial : ν} (way : Way name { value := initial } history last) :
    Steady name history last :=
  way.preserves (Steady name) ⟨fun _ => nofun, fun _ => nofun, fun _ => nofun, fun _ _ => nofun⟩
    fun _ turn steady => turn.steady steady

/-- A turn leaves the value of a channel or takes another one. -/
theorem Turn.value_cases (turn : Turn name now happening next) :
    takenFrom name [happening] = [] ∧ next.value = now.value ∨
      takenFrom name [happening] = [next.value] := by
  cases turn with
  | take value => exact Or.inr (takenFrom_taken name value now.present)
  | elsewhere _ away => exact Or.inl ⟨by simp [takenFrom, away], rfl⟩
  | _ => exact Or.inl ⟨by simp [takenFrom, Happening.taken?], rfl⟩

/-- The value of a channel is the one that was taken last, or its first value. -/
theorem Way.value_eq (way : Way name first history last) :
    last.value = (takenFrom name history).getLastD first.value := by
  induction way with
  | nil => rfl
  | @cons now next last happening later turn _ inductionHypothesis =>
    rw [inductionHypothesis]
    have split : takenFrom name (happening :: later) =
        takenFrom name [happening] ++ takenFrom name later := found_cons
    rw [split]
    rcases turn.value_cases with ⟨untaken, same⟩ | taken
    · rw [untaken, same, List.nil_append]
    · rw [taken, List.singleton_append, List.getLastD_cons]

/-- No value is taken when a replay returns and its observer is registered. -/
theorem takenFrom_registered (name : κ) (observer : Callback κ ν ε σ) (token : Nat)
    (replayed current : ν) (during later : History κ ν ε σ) :
    takenFrom name (during ++ .ended name none .finished ::
        .registered name token observer replayed current :: later) =
      takenFrom name during ++ takenFrom name later := by
  have nothing : takenFrom name [.ended name none .finished,
      .registered name token observer replayed current] = [] := by
    simp [takenFrom, found, within, Happening.place, Happening.taken?]
  rw [takenFrom, found_append]
  exact congrArg _ ((found_append _ later).trans (congrArg (· ++ _) nothing))

/-- The value of a channel is the one that was taken last since a replay, or the one that was
replayed. -/
theorem Way.value_of_replayed {before rest : History κ ν ε σ} {observer : Callback κ ν ε σ}
    {replayed : ν}
    (way : Way name first (before ++ .called name none observer replayed replayed :: rest) last) :
    last.value = (takenFrom name rest).getLastD replayed := by
  obtain ⟨now, -, toLast⟩ := way.exists_of_append
  cases toLast with
  | cons turn toLast =>
    cases turn with
    | replay => exact toLast.value_eq
    | elsewhere _ away => exact absurd rfl away

/-- The value of a channel is the one that was taken last since a registration, or while its
observer was called for the replay, or the one that was replayed. -/
theorem Way.value_of_registered {before during later : History κ ν ε σ} {token : Nat}
    {observer : Callback κ ν ε σ} {replayed current : ν}
    (way : Way name first (before ++
      .subscribing name observer :: .called name none observer replayed replayed :: during ++
        .ended name none .finished :: .registered name token observer replayed current :: later)
      last) :
    last.value = (takenFrom name during ++ takenFrom name later).getLastD replayed := by
  have split : before ++ .subscribing name observer ::
        .called name none observer replayed replayed :: during ++ .ended name none .finished ::
          .registered name token observer replayed current :: later =
      (before ++ [.subscribing name observer]) ++
        .called name none observer replayed replayed :: (during ++ .ended name none .finished ::
          .registered name token observer replayed current :: later) := by
    simp
  rw [split] at way
  rw [← takenFrom_registered name observer token replayed current during later]
  exact way.value_of_replayed

/-! ### Each registration is made once -/

omit [DecidableEq κ] in
/-- Tokens are given away in increasing order. -/
theorem Way.nextToken_le (way : Way name first history last) :
    first.nextToken ≤ last.nextToken := by
  induction way with
  | nil => exact Nat.le_refl _
  | cons turn _ inductionHypothesis =>
    refine Nat.le_trans ?_ inductionHypothesis
    cases turn with
    | register => exact Nat.le_succ _
    | _ => exact Nat.le_refl _

omit [DecidableEq κ] in
/-- A registration takes the next token. -/
theorem Turn.of_registered {token : Nat} {observer : Callback κ ν ε σ} {replayed current : ν}
    (turn : Turn name now (.registered name token observer replayed current) next) :
    token = now.nextToken ∧ next.nextToken = now.nextToken + 1 := by
  cases turn with
  | register => exact ⟨rfl, rfl⟩
  | elsewhere _ away => exact absurd rfl away

omit [DecidableEq κ] in
/-- No token is given away twice. -/
theorem Way.token_ne {between later : History κ ν ε σ} {token token' : Nat}
    {observer observer' : Callback κ ν ε σ} {replayed current replayed' current' : ν}
    (way : Way name first (.registered name token observer replayed current :: between ++
      .registered name token' observer' replayed' current' :: later) last) : token ≠ token' := by
  cases way with
  | cons turn rest =>
    obtain ⟨now, before, after⟩ := rest.exists_of_append
    cases after with
    | cons turn' rest' =>
      obtain ⟨rfl, next⟩ := turn.of_registered
      obtain ⟨rfl, -⟩ := turn'.of_registered
      have least := before.nextToken_le
      omega

omit [DecidableEq κ] in
/-- A history has one registration of each token. -/
theorem Way.registered_unique {earlier earlier' later later' : History κ ν ε σ} {token : Nat}
    {observer observer' : Callback κ ν ε σ} {replayed current replayed' current' : ν}
    (way : Way name first
      (earlier ++ .registered name token observer replayed current :: later) last)
    (same : earlier ++ .registered name token observer replayed current :: later =
      earlier' ++ .registered name token observer' replayed' current' :: later') :
    replayed = replayed' ∧ later = later' := by
  rcases List.append_eq_append_iff.mp same with ⟨between, rfl, rest⟩ | ⟨between, rfl, rest⟩
  · cases between with
    | nil =>
      cases rest
      exact ⟨rfl, rfl⟩
    | cons happening between =>
      obtain ⟨rfl, rfl⟩ := List.cons.inj rest
      obtain ⟨now, -, through⟩ := way.exists_of_append
      exact absurd rfl through.token_ne
  · cases between with
    | nil =>
      cases rest
      exact ⟨rfl, rfl⟩
    | cons happening between =>
      obtain ⟨rfl, rfl⟩ := List.cons.inj rest
      rw [List.append_assoc] at way
      obtain ⟨now, -, through⟩ := way.exists_of_append
      exact absurd rfl through.token_ne

end

/-! ### What registrations hold in the end -/

section
variable {fuel : Nat} {scripts : List (Script κ ν ε σ)} {bank last : Bank κ ν ε σ} {name : κ}
  {initial : ν} {outcome : Outcome ε}

/-- Every registration in a recording was made when the replay to its observer had just returned. -/
theorem allReplayed_recordAll (fuel : Nat) (scripts : List (Script κ ν ε σ)) (bank : Bank κ ν ε σ)
    (name : κ) (initial : ν) :
    AllReplayed name
      (Chronicle.recordAll fuel scripts (.opened bank name initial)).2.history := by
  have start : AllReplayed name (Chronicle.opened bank name initial).history := by
    intro earlier token observer replayed current later split
    exact absurd split.symm (List.append_ne_nil_of_right_ne_nil _ (List.cons_ne_nil _ _))
  have leaves := stable_allReplayed.recordAll fuel scripts (.opened bank name initial) start
    (by rw [Chronicle.channel_opened])
  generalize Chronicle.recordAll fuel scripts (.opened bank name initial) = result at leaves ⊢
  cases leaves with
  | ended kept same => exact kept
  | givenUp kept written => exact written ▸ kept

/-- A registration is left behind if no value was taken since it was made, and the last one that was
taken while its observer was called for the replay is not the one that was replayed. -/
def IsLeftBehind (name : κ) (token : Nat) (history : History κ ν ε σ) : Prop :=
  ∃ before observer replayed during current later,
    history = before ++
      .subscribing name observer :: .called name none observer replayed replayed :: during ++
        .ended name none .finished :: .registered name token observer replayed current :: later ∧
    takenFrom name later = [] ∧ (takenFrom name during).getLastD replayed ≠ replayed

/-- When a run from the outside has ended, in which no interruption broke off a delivery, a
registration holds another value than the channel exactly if it is left behind. -/
theorem heard_ne_value_iff {history : History κ ν ε σ} {token : Nat}
    {observer : Callback κ ν ε σ}
    (recorded : Chronicle.recordAll fuel scripts (.opened bank name initial) =
      (outcome, ⟨last, history⟩))
    (ended : outcome.raised? ≠ none) (unbroken : isBrokenOff name history = false)
    (present : (token, observer) ∈ (last.channels name).observers) :
    Bank.runAll fuel scripts (bank.start name initial) = (outcome, last) ∧
      (heard name token history ≠ some (last.channels name).value ↔
        IsLeftBehind name token history) := by
  have erased := Chronicle.erased_recordAll fuel scripts (.opened bank name initial)
  have replays := allReplayed_recordAll fuel scripts bank name initial
  obtain ⟨now, way, -, closing⟩ := way_recordAll fuel scripts bank name initial recorded
  rw [recorded] at erased replays
  have atLast : now = .of (last.channels name) [] := closing ended
  subst atLast
  refine ⟨erased.symm, ?_⟩
  obtain ⟨earlier, replayed, current, later, split, untouched, reached⟩ :=
    way.steady.holding unbroken (token, observer) present
  constructor
  · intro stale
    obtain ⟨before, during, rfl⟩ := replays _ token observer replayed current later split
    rw [List.append_assoc, List.singleton_append] at split
    have untaken : takenFrom name later = [] := by
      by_contra taken
      exact stale ((reached taken).resolve_right fun ⟨_, due, _⟩ => absurd due List.not_mem_nil)
    refine ⟨before, observer, replayed, during, current, later, split, untaken, fun same => stale ?_⟩
    have value := (split ▸ way).value_of_registered
    rw [untaken, List.append_nil, same] at value
    exact (untouched untaken).1.trans (congrArg some value.symm)
  · rintro ⟨before, observer', replayed', during, current', later', split', untaken, changed⟩ holds
    have value := (split' ▸ way).value_of_registered
    have regrouped := split'.trans (List.append_cons _ _ _)
    obtain ⟨rfl, rfl⟩ := (split ▸ way).registered_unique (split.symm.trans regrouped)
    rw [untaken, List.append_nil] at value
    exact changed (Option.some.inj
      ((congrArg some value.symm).trans (holds.symm.trans (untouched untaken).1)))

end

/-! ### Pushing during a replay -/

/-- An observer that pushes a value when it is called with `0`. -/
def pushes : Callback Unit Nat String Unit
  | 0 => .push () 1 fun _ => .finish
  | _ + 1 => .finish

/-- An observer that pushes during its replay is subscribed. -/
def pushing : List (Script Unit Nat String Unit) :=
  [.subscribe () pushes fun _ => .finish]

theorem isLeftBehind_pushing :
    IsLeftBehind () 0 (Chronicle.recordAll 9 pushing (.opened resting () 0)).2.history := by
  have recorded : Chronicle.recordAll 9 pushing (.opened resting () 0) = (.finished, ⟨_, _⟩) := rfl
  have finished : Outcome.finished.raised? ≠ (none : Option (Option (Raised String))) := nofun
  have iff := (heard_ne_value_iff recorded finished rfl List.mem_cons_self).2
  exact iff.mp (by decide)

/-- A registration need not hold the value of the channel: an observer that pushes during its replay
is left behind. -/
theorem exists_left_behind : ¬ ∀ (fuel : Nat) (scripts : List (Script Unit Nat String Unit))
    (bank last : Bank Unit Nat String Unit) (initial : Nat) (outcome : Outcome String)
    (history : History Unit Nat String Unit),
    Chronicle.recordAll fuel scripts (.opened bank () initial) = (outcome, ⟨last, history⟩) →
    outcome.raised? ≠ none → isBrokenOff () history = false →
    ∀ token observer, (token, observer) ∈ (last.channels ()).observers →
      heard () token history = some (last.channels ()).value := by
  intro always
  have holds := always 9 pushing resting _ 0 _ _ rfl nofun rfl 0 pushes List.mem_cons_self
  exact absurd holds (by decide)

end StateContainer
