/-
This file says which observers a push calls itself.

The calls of observers are nested: what happens between the beginning of a call and its end is
the work of the observer, other calls included. What a script does itself happens outside of
all calls that it causes. A history encloses its calls if each of them comes to its end, and
then what happens outside of them can be told apart from what observers do.

The main statement is that a push itself does nothing in other channels: all that happens
outside of calls, and every call that it makes, is in the channel that the value is pushed to.
Those who are called there were registered there before.

What a part of a run does itself can be taken out of a history. A history holds what a part of a
run does itself, and between the beginnings and the ends of calls what the observers do that it
calls. Going through the history one counts how many calls are open; what happens while none is
open, the beginnings and the ends of the outermost calls included, is the layer of the part
itself.

If the calls in a history all come to their ends, its layer can be read off piece by piece:
the layer of two histories is that of the one and then that of the other, and what happens
inside of a call leaves no trace in it.
-/

import StateContainer.Proofs.Channel.Situation

namespace StateContainer

variable {κ ν ε σ : Type}

/-! ### Histories that enclose calls -/

/-- Whether something begins or ends the call of an observer. -/
def Happening.isOfCall : Happening κ ν ε σ → Bool
  | .called _ _ _ _ _ => true
  | .ended _ _ _ => true
  | _ => false

/-- Whether the calls in a history all come to their ends, and what happens outside of them, their
beginnings included, is as it should be. -/
inductive Encloses : (Happening κ ν ε σ → Prop) → History κ ν ε σ → Prop where
  | nil (outside : Happening κ ν ε σ → Prop) : Encloses outside []
  | step {outside : Happening κ ν ε σ → Prop} {happening : Happening κ ν ε σ}
      {later : History κ ν ε σ} (plain : happening.isOfCall = false)
      (allowed : outside happening) (rest : Encloses outside later) :
      Encloses outside (happening :: later)
  | call {outside : Happening κ ν ε σ → Prop} {name : κ} {token : Option Nat}
      {observer : Callback κ ν ε σ} {value current : ν} {outcome : Outcome ε}
      {inside later : History κ ν ε σ}
      (allowed : outside (.called name token observer value current))
      (work : Encloses (fun _ => True) inside) (rest : Encloses outside later) :
      Encloses outside
        (.called name token observer value current :: inside ++ .ended name token outcome :: later)

theorem Encloses.append {outside : Happening κ ν ε σ → Prop} {earlier later : History κ ν ε σ}
    (first : Encloses outside earlier) (second : Encloses outside later) :
    Encloses outside (earlier ++ later) := by
  induction first with
  | nil => exact second
  | step plain allowed _ inductionHypothesis =>
    exact .step plain allowed (inductionHypothesis second)
  | call allowed work _ _ inductionHypothesis =>
    rw [List.append_assoc, List.cons_append]
    exact .call allowed work (inductionHypothesis second)

theorem Encloses.mono {outside wider : Happening κ ν ε σ → Prop} {history : History κ ν ε σ}
    (encloses : Encloses outside history) (within : ∀ happening, outside happening → wider happening) :
    Encloses wider history := by
  induction encloses with
  | nil => exact .nil _
  | step plain allowed _ inductionHypothesis =>
    exact .step plain (within _ allowed) (inductionHypothesis within)
  | call allowed work _ _ inductionHypothesis =>
    exact .call (within _ allowed) work (inductionHypothesis within)

/-! ### What parts of runs enclose -/

namespace Chronicle

variable [DecidableEq κ] {outside : Happening κ ν ε σ → Prop} {chronicle middle : Chronicle κ ν ε σ}
  {result : Outcome ε × Chronicle κ ν ε σ}

/-- Whether a part of a run, if it has ended, has added something that encloses its calls. -/
def Adds (outside : Happening κ ν ε σ → Prop) (chronicle : Chronicle κ ν ε σ)
    (result : Outcome ε × Chronicle κ ν ε σ) : Prop :=
  result.1.raised? ≠ none →
    ∃ added, result.2.history = chronicle.history ++ added ∧ Encloses outside added

omit [DecidableEq κ] in
/-- A part of a run adds what stands before it, too. -/
theorem Adds.after (adds : Adds outside middle result) {before : History κ ν ε σ}
    (written : middle.history = chronicle.history ++ before) (encloses : Encloses outside before) :
    Adds outside chronicle result := by
  intro ended
  obtain ⟨added, grown, rest⟩ := adds ended
  exact ⟨before ++ added, by rw [grown, written, List.append_assoc], encloses.append rest⟩

omit [DecidableEq κ] in
/-- Something plain that happens is added. -/
theorem Adds.afterStep (adds : Adds outside middle result) {happening : Happening κ ν ε σ}
    (written : middle.history = chronicle.history ++ [happening])
    (plain : happening.isOfCall = false) (allowed : outside happening) :
    Adds outside chronicle result :=
  adds.after written (.step plain allowed (.nil _))

omit [DecidableEq κ] in
/-- A call that has come to its end is added before what follows. -/
theorem Adds.afterCall {name : κ} {token : Option Nat} {observer : Callback κ ν ε σ}
    {value current : ν} {outcome : Outcome ε} {after : Chronicle κ ν ε σ}
    (work : Adds (fun _ => True)
      (chronicle.write [.called name token observer value current]) (outcome, after))
    (ends : outcome.raised? ≠ none) (allowed : outside (.called name token observer value current))
    (written : middle.history = (after.endCall name token outcome).history)
    (adds : Adds outside middle result) :
    Adds outside chronicle result := by
  obtain ⟨inside, grown, encloses⟩ := work ends
  have whole : Encloses outside
      (.called name token observer value current :: inside ++ [.ended name token outcome]) :=
    .call allowed encloses (.nil outside)
  refine adds.after ?_ whole
  rw [written, endCall, write, grown, write, List.append_assoc, List.append_assoc]
  rfl

/-- Every part of a run with some fuel adds what encloses its calls. The deliveries of a channel do
nothing in others. -/
structure Nests (κ ν ε σ : Type) [DecidableEq κ] (fuel : Nat) : Prop where
  script : ∀ (script : Script κ ν ε σ) (chronicle : Chronicle κ ν ε σ),
    Adds (fun _ => True) chronicle (record fuel script chronicle)
  drain : ∀ (name : κ) (first : Option ε) (chronicle : Chronicle κ ν ε σ),
    Adds (·.place = name) chronicle (recordDrain fuel name first chronicle)
  deliver : ∀ (name : κ) (value : ν) (registrations : List (Registration κ ν ε σ))
      (first : Option ε) (chronicle : Chronicle κ ν ε σ),
    Adds (·.place = name) chronicle (recordDeliver fuel name value registrations first chronicle)

omit [DecidableEq κ] in
/-- What ends at once has added nothing. -/
theorem adds_nothing (outcome : Outcome ε) : Adds outside chronicle (outcome, chronicle) :=
  fun _ => ⟨[], (List.append_nil _).symm, .nil _⟩

omit [DecidableEq κ] in
/-- Nothing is said of what is given up. -/
theorem adds_exhausted : Adds outside chronicle (.exhausted, middle) :=
  fun ended => absurd rfl ended

variable {fuel : Nat}

theorem Nests.script_push (inner : Nests κ ν ε σ fuel) (name : κ) (value : ν)
    (next : Option (Raised ε) → Script κ ν ε σ) (chronicle : Chronicle κ ν ε σ) :
    Adds (fun _ => True) chronicle (record (fuel + 1) (.push name value next) chronicle) := by
  have pushed {result : Outcome ε × Chronicle κ ν ε σ}
      (adds : Adds (fun _ => True) (chronicle.push name value) result) :
      Adds (fun _ => True) chronicle result :=
    adds.afterStep rfl rfl trivial
  rw [record]
  by_cases busy : (chronicle.channel name).delivering
  · rw [if_pos busy]
    exact pushed (inner.script _ _)
  · rw [if_neg busy]
    have drained := inner.drain name none ((chronicle.push name value).mark name true)
    generalize recordDrain fuel name none ((chronicle.push name value).mark name true) = result
      at drained ⊢
    dsimp only
    cases ending : result.1.raised? with
    | none => exact adds_exhausted
    | some raised =>
      obtain ⟨added, grown, encloses⟩ := drained (by rw [ending]; exact Option.some_ne_none raised)
      refine pushed ((inner.script (next raised) _).after ?_ (encloses.mono fun _ _ => trivial))
      rw [history_mark, grown, history_mark]

theorem Nests.script_subscribe (inner : Nests κ ν ε σ fuel) (name : κ)
    (observer : Callback κ ν ε σ) (next : Except (Raised ε) Nat → Script κ ν ε σ)
    (chronicle : Chronicle κ ν ε σ) :
    Adds (fun _ => True) chronicle (record (fuel + 1) (.subscribe name observer next) chronicle) := by
  have begun : chronicle.beginReplay name observer (chronicle.channel name).value =
      (chronicle.write [.subscribing name observer]).write
        [.called name none observer (chronicle.channel name).value
          (chronicle.channel name).value] := by
    rw [beginReplay, write, write, write, List.append_assoc]
    rfl
  rw [record, begun]
  have replayed := inner.script (observer (chronicle.channel name).value)
    ((chronicle.write [.subscribing name observer]).write
      [.called name none observer (chronicle.channel name).value (chronicle.channel name).value])
  generalize record fuel (observer (chronicle.channel name).value)
    ((chronicle.write [.subscribing name observer]).write
      [.called name none observer (chronicle.channel name).value
        (chronicle.channel name).value]) = result at replayed ⊢
  obtain ⟨outcome, after⟩ := result
  have goesOn {middle : Chronicle κ ν ε σ} {result : Outcome ε × Chronicle κ ν ε σ}
      (ends : outcome.raised? ≠ none)
      (written : middle.history = (after.endCall name none outcome).history)
      (adds : Adds (fun _ => True) middle result) :
      Adds (fun _ => True) chronicle result :=
    (replayed.afterCall ends trivial written adds).afterStep rfl rfl trivial
  dsimp only
  cases outcome with
  | exhausted => exact adds_exhausted
  | finished =>
    exact goesOn (Option.some_ne_none _) rfl (Adds.afterStep (inner.script _ _) rfl rfl trivial)
  | failed error => exact goesOn (Option.some_ne_none _) rfl (inner.script _ _)
  | interrupted error => exact goesOn (Option.some_ne_none _) rfl (inner.script _ _)

theorem Nests.script_succ (inner : Nests κ ν ε σ fuel) (script : Script κ ν ε σ)
    (chronicle : Chronicle κ ν ε σ) :
    Adds (fun _ => True) chronicle (record (fuel + 1) script chronicle) := by
  cases script with
  | finish => exact adds_nothing _
  | fail error => exact adds_nothing _
  | interrupt error => exact adds_nothing _
  | push name value next => exact inner.script_push name value next chronicle
  | subscribe name observer next => exact inner.script_subscribe name observer next chronicle
  | dispose name token next =>
    exact (inner.script next (chronicle.detach name token)).afterStep rfl rfl trivial
  | read name next => exact inner.script _ chronicle
  | consult next => exact inner.script _ chronicle
  | update change next => exact inner.script next (chronicle.keep change)

theorem Nests.drain_succ (inner : Nests κ ν ε σ fuel) (name : κ) (first : Option ε)
    (chronicle : Chronicle κ ν ε σ) :
    Adds (·.place = name) chronicle (recordDrain (fuel + 1) name first chronicle) := by
  rw [recordDrain]
  cases (chronicle.channel name).take? with
  | none => exact adds_nothing _
  | some next =>
    obtain ⟨value, left⟩ := next
    have taken {result : Outcome ε × Chronicle κ ν ε σ}
        (adds : Adds (·.place = name) (chronicle.take name value left) result) :
        Adds (·.place = name) chronicle result :=
      adds.afterStep rfl rfl rfl
    have delivered := inner.deliver name value (chronicle.channel name).observers first
      (chronicle.take name value left)
    dsimp only
    generalize recordDeliver fuel name value (chronicle.channel name).observers first
      (chronicle.take name value left) = result at delivered ⊢
    obtain ⟨outcome, after⟩ := result
    cases outcome with
    | finished =>
      obtain ⟨added, grown, encloses⟩ := delivered (Option.some_ne_none _)
      exact taken ((inner.drain name none after).after grown encloses)
    | failed error =>
      obtain ⟨added, grown, encloses⟩ := delivered (Option.some_ne_none _)
      exact taken ((inner.drain name (some error) after).after grown encloses)
    | interrupted error => exact taken delivered
    | exhausted => exact adds_exhausted

theorem Nests.deliver_succ (inner : Nests κ ν ε σ fuel) (name : κ) (value : ν)
    (registrations : List (Registration κ ν ε σ)) (first : Option ε)
    (chronicle : Chronicle κ ν ε σ) :
    Adds (·.place = name) chronicle
      (recordDeliver (fuel + 1) name value registrations first chronicle) := by
  cases registrations with
  | nil => exact adds_nothing _
  | cons registration others =>
    have called := inner.script (registration.2 value)
      (chronicle.beginCall name registration value)
    rw [recordDeliver]
    generalize record fuel (registration.2 value)
      (chronicle.beginCall name registration value) = result at called ⊢
    obtain ⟨outcome, after⟩ := result
    cases outcome with
    | finished =>
      exact called.afterCall (Option.some_ne_none _) rfl rfl (inner.deliver name value others first _)
    | failed error =>
      exact called.afterCall (Option.some_ne_none _) rfl rfl (inner.deliver name value others _ _)
    | interrupted error => exact called.afterCall (Option.some_ne_none _) rfl rfl (adds_nothing _)
    | exhausted => exact adds_exhausted

theorem nests (fuel : Nat) : Nests κ ν ε σ fuel := by
  induction fuel with
  | zero => exact ⟨fun _ _ => adds_exhausted, fun _ _ _ => adds_exhausted,
      fun _ _ _ _ _ => adds_exhausted⟩
  | succ fuel inner => exact ⟨inner.script_succ, inner.drain_succ, inner.deliver_succ⟩

/-- A push that has ended has done nothing itself outside of its channel, and has called no observer
there but of this channel. -/
theorem exists_encloses_of_push {name : κ} {value : ν} {outcome : Outcome ε}
    {after : Chronicle κ ν ε σ}
    (recorded : record fuel (.push name value fun _ => .finish) chronicle = (outcome, after))
    (ended : outcome.raised? ≠ none) :
    ∃ made, after.history = chronicle.history ++ .pushed name value :: made ∧
      Encloses (·.place = name) made := by
  cases fuel with
  | zero =>
    cases recorded
    exact absurd rfl ended
  | succ fuel =>
  -- What follows on the push does nothing, whatever the push raised.
  have ends {middle : Chronicle κ ν ε σ}
      (rest : record fuel .finish middle = (outcome, after)) : after = middle := by
    cases fuel with
    | zero =>
      cases rest
      exact absurd rfl ended
    | succ fuel =>
      cases rest
      rfl
  rw [record] at recorded
  by_cases busy : (chronicle.channel name).delivering
  · rw [if_pos busy] at recorded
    obtain rfl := ends recorded
    exact ⟨[], rfl, .nil _⟩
  · rw [if_neg busy] at recorded
    have drained := (nests fuel).drain name none ((chronicle.push name value).mark name true)
    generalize recordDrain fuel name none ((chronicle.push name value).mark name true) = result
      at drained recorded
    dsimp only at recorded
    cases ending : result.1.raised? with
    | none =>
      rw [ending] at recorded
      cases recorded
      exact absurd rfl ended
    | some raised =>
      rw [ending] at recorded
      obtain rfl := ends recorded
      obtain ⟨made, grown, encloses⟩ := drained (by rw [ending]; exact Option.some_ne_none raised)
      refine ⟨made, ?_, encloses⟩
      rw [history_mark, grown, history_mark, push, change, List.append_assoc]
      rfl

end Chronicle

/-! ### Who is called -/

/-- Whether all who are present in a channel, and all whose calls are due, were registered. -/
def AllRegistered (name : κ) (history : History κ ν ε σ) (now : Situation κ ν ε σ) : Prop :=
  ∀ registration, registration ∈ now.present ∨ registration ∈ now.due.map (·.1) →
    ∃ replayed current, .registered name registration.1 registration.2 replayed current ∈ history

section
variable {name : κ} {initial : ν} {now next last : Situation κ ν ε σ}
  {history earlier later : History κ ν ε σ} {happening : Happening κ ν ε σ}

/-- Who was registered stays so, whatever happens. -/
theorem AllRegistered.snoc (all : AllRegistered name history now) (happening : Happening κ ν ε σ)
    (within : ∀ registration, registration ∈ next.present ∨ registration ∈ next.due.map (·.1) →
      registration ∈ now.present ∨ registration ∈ now.due.map (·.1)) :
    AllRegistered name (history ++ [happening]) next := by
  intro registration known
  obtain ⟨replayed, current, registered⟩ := all registration (within registration known)
  exact ⟨replayed, current, List.mem_append_left _ registered⟩

theorem Turn.allRegistered (turn : Turn name now happening next)
    (all : AllRegistered name history now) : AllRegistered name (history ++ [happening]) next := by
  cases turn with
  | take value waiting oldest delivered =>
    refine all.snoc _ fun registration known => Or.inl (known.elim id fun due => ?_)
    rw [deliveries, List.map_map] at due
    obtain ⟨other, present, rfl⟩ := List.mem_map.mp due
    exact present
  | call registration value due turn =>
    refine all.snoc _ fun other known => known.imp_right fun later => ?_
    rw [turn, List.map_cons]
    exact List.mem_cons_of_mem _ later
  | breakOff token error =>
    exact all.snoc _ fun registration known => Or.inl (known.resolve_right nofun)
  | register observer replayed =>
    intro registration known
    rcases known with present | due
    · rcases List.mem_append.mp present with before | new
      · obtain ⟨replayed', current, registered⟩ := all registration (Or.inl before)
        exact ⟨replayed', current, List.mem_append_left _ registered⟩
      · cases List.mem_singleton.mp new
        exact ⟨replayed, _, List.mem_append_right _ List.mem_cons_self⟩
    · obtain ⟨replayed', current, registered⟩ := all registration (Or.inr due)
      exact ⟨replayed', current, List.mem_append_left _ registered⟩
  | detach token =>
    exact all.snoc _ fun registration known => known.imp_left fun present => (List.mem_filter.mp present).1
  | _ => exact all.snoc _ fun _ => id

/-- An observer that is called for a registration was registered in the channel before. -/
theorem Way.registered_of_called (way : Way name {value := initial} history last)
    {token : Nat} {observer : Callback κ ν ε σ} {value current : ν}
    (split : history = earlier ++ .called name (some token) observer value current :: later) :
    ∃ replayed current', .registered name token observer replayed current' ∈ earlier := by
  obtain ⟨now, before, after⟩ := (split ▸ way).exists_of_append
  have all : AllRegistered name earlier now :=
    before.preserves (AllRegistered name) (fun _ known => absurd known (by simp))
      fun _ turn all => turn.allRegistered all
  cases after with
  | cons turn _ =>
    cases turn with
    | call registration value due turn =>
      refine all registration (Or.inr ?_)
      rw [turn, List.map_cons]
      exact List.mem_cons_self
    | elsewhere _ away => exact absurd rfl away

end

/-! ### Layers -/

/-- How many calls are open when something has happened, if so many were before. -/
def Happening.depthAfter (depth : Nat) : Happening κ ν ε σ → Nat
  | .called _ _ _ _ _ => depth + 1
  | .ended _ _ _ => depth - 1
  | _ => depth

/-- What happens outside of all calls, their beginnings and ends included, if so many calls are
open at first. -/
def outermost (depth : Nat) : History κ ν ε σ → History κ ν ε σ
  | [] => []
  | happening :: later =>
    let behind := happening.depthAfter depth
    if depth = 0 ∨ behind = 0 then happening :: outermost behind later else outermost behind later

section
variable {outside : Happening κ ν ε σ → Prop} {happening : Happening κ ν ε σ}
  {inside earlier later : History κ ν ε σ} {name : κ} {token : Option Nat}
  {observer : Callback κ ν ε σ} {value current : ν} {outcome : Outcome ε}

theorem Happening.depthAfter_of_plain (plain : happening.isOfCall = false) (depth : Nat) :
    happening.depthAfter depth = depth := by
  cases happening with
  | called => cases plain
  | ended => cases plain
  | _ => rfl

/-- What happens while no call is open belongs to the layer, unless it is of a call. -/
theorem outermost_plain (plain : happening.isOfCall = false) :
    outermost 0 (happening :: later) = happening :: outermost 0 later := by
  rw [outermost, Happening.depthAfter_of_plain plain]
  exact if_pos (Or.inl rfl)

/-- A call that comes to its end leaves as many calls open as there were before. -/
theorem outermost_succ_append (encloses : Encloses outside inside) (depth : Nat)
    (later : History κ ν ε σ) :
    outermost (depth + 1) (inside ++ later) = outermost (depth + 1) later := by
  have skipped {happening : Happening κ ν ε σ} {before behind : Nat}
      (moves : happening.depthAfter (before + 1) = behind + 1) (later : History κ ν ε σ) :
      outermost (before + 1) (happening :: later) = outermost (behind + 1) later := by
    rw [outermost, moves]
    exact if_neg (by simp)
  induction encloses generalizing depth later with
  | nil => rfl
  | step plain _ _ inductionHypothesis =>
    rw [List.cons_append, skipped (Happening.depthAfter_of_plain plain _)]
    exact inductionHypothesis depth later
  | @call _ name token observer value current outcome inside behind _ _ _ work rest =>
    have begun (later : History κ ν ε σ) : outermost (depth + 1)
        (.called name token observer value current :: later) = outermost (depth + 2) later :=
      skipped rfl later
    have ended (later : History κ ν ε σ) : outermost (depth + 2)
        (.ended name token outcome :: later) = outermost (depth + 1) later :=
      skipped rfl later
    rw [List.append_assoc, List.cons_append, List.cons_append, begun, work, ended]
    exact rest depth later

/-- Of a call that comes to its end only the beginning and the end belong to the layer. -/
theorem outermost_call (work : Encloses outside inside) (later : History κ ν ε σ) :
    outermost 0 (.called name token observer value current :: inside ++
        .ended name token outcome :: later) =
      .called name token observer value current :: .ended name token outcome ::
        outermost 0 later := by
  have ends : outermost 1 (.ended name token outcome :: later) =
      .ended name token outcome :: outermost 0 later := by
    have closed : (Happening.ended name token outcome : Happening κ ν ε σ).depthAfter 1 = 0 := rfl
    rw [outermost, closed]
    exact if_pos (Or.inr rfl)
  rw [List.cons_append, outermost, if_pos (Or.inl rfl)]
  refine congrArg _ ?_
  show outermost 1 (inside ++ .ended name token outcome :: later) = _
  rw [outermost_succ_append work, ends]

/-- The layer of a history is made of the layers of its pieces. -/
theorem outermost_append (encloses : Encloses outside earlier) (later : History κ ν ε σ) :
    outermost 0 (earlier ++ later) = outermost 0 earlier ++ outermost 0 later := by
  induction encloses with
  | nil => rfl
  | step plain _ _ inductionHypothesis =>
    rw [List.cons_append, outermost_plain plain, outermost_plain plain, inductionHypothesis,
      List.cons_append]
  | @call _ name token observer value current outcome inside behind _ work _ _ inductionHypothesis =>
    have moved : .called name token observer value current :: inside ++
          .ended name token outcome :: behind ++ later =
        .called name token observer value current :: inside ++
          .ended name token outcome :: (behind ++ later) := by
      rw [List.append_assoc]
      rfl
    rw [moved, outermost_call work, outermost_call work, inductionHypothesis]
    rfl

/-- If a history is as it should be outside of its calls, so is its layer. -/
theorem Encloses.outside_of_mem (encloses : Encloses outside inside)
    (ends : ∀ name token observer value current outcome,
      outside (.called name token observer value current) → outside (.ended name token outcome))
    {happening : Happening κ ν ε σ} (member : happening ∈ outermost 0 inside) :
    outside happening := by
  induction encloses with
  | nil => cases member
  | step plain allowed _ inductionHypothesis =>
    rw [outermost_plain plain] at member
    rcases List.mem_cons.mp member with rfl | later
    · exact allowed
    · exact inductionHypothesis ends later
  | call allowed work _ _ inductionHypothesis =>
    rw [outermost_call work] at member
    rcases List.mem_cons.mp member with rfl | member
    · exact allowed
    · rcases List.mem_cons.mp member with rfl | later
      · exact ends _ _ _ _ _ _ allowed
      · exact inductionHypothesis ends later

end

end StateContainer
