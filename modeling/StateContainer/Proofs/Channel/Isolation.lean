/-
This file compares two runs whose observers do the same, but raise at different places.

What a run does to channels is made of deeds: pushes, subscriptions and disposals. Some are done
from the outside, and the others by the calls of observers. Which calls are made, and with
which values, follows from the deeds alone, those of the outside and those of each call in
turn: deeds are played by rules in which nothing is raised at all.

A run is undisturbed if every replay of a value returns and no delivery is interrupted. The
main statement is that an undisturbed run plays its deeds, whatever errors its observers
raise; two runs with the same deeds, one of whose observers raise where those of the other
return, therefore make the same calls and leave their channels alike. Interruptions are
excluded with good reason: they keep values from the observers behind.
-/

import StateContainer.Proofs.Channel.Delivery
import StateContainer.Proofs.Channel.Nesting

namespace StateContainer

variable {κ ν ε σ : Type}

/-! ### Deeds and calls -/

/-- Something that is done to a channel. -/
inductive ChannelDeed (κ ν : Type) where
  | push (channel : κ) (value : ν)
  | subscribe (channel : κ)
  | dispose (channel : κ) (token : Nat)

/-- What is done, if something is done. -/
def Happening.deed? : Happening κ ν ε σ → Option (ChannelDeed κ ν)
  | .pushed name value => some (.push name value)
  | .subscribing name _ => some (.subscribe name)
  | .detached name token => some (.dispose name token)
  | _ => none

/-- A call: its channel, the token that it is made for, if it is no replay, and its value. -/
abbrev Call (κ ν : Type) := κ × Option Nat × ν

/-- The call that begins, if one begins. -/
def Happening.call? : Happening κ ν ε σ → Option (Call κ ν)
  | .called name token _ value _ => some (name, token, value)
  | _ => none

/-- The calls that are made in a history, in the order in which they begin. -/
def callsOf (history : History κ ν ε σ) : List (Call κ ν) :=
  history.filterMap Happening.call?

/-- What is done in a history outside of all calls. -/
def deedsOf (history : History κ ν ε σ) : List (ChannelDeed κ ν) :=
  (outermost 0 history).filterMap Happening.deed?

/-- What happens until the calls that are open have ended. -/
def untilEnd : Nat → History κ ν ε σ → History κ ν ε σ
  | _, [] => []
  | depth, happening :: later =>
    let behind := happening.depthAfter depth
    if behind = 0 then [] else happening :: untilEnd behind later

/-- What each call in a history does itself, in the order in which the calls begin. -/
def partsOf : History κ ν ε σ → List (List (ChannelDeed κ ν))
  | [] => []
  | .called _ _ _ _ _ :: later => deedsOf (untilEnd 1 later) :: partsOf later
  | _ :: later => partsOf later

section
variable {outside : Happening κ ν ε σ → Prop} {happening : Happening κ ν ε σ}
  {inside earlier later : History κ ν ε σ} {name : κ} {token : Option Nat}
  {observer : Callback κ ν ε σ} {value current : ν} {outcome : Outcome ε}

theorem callsOf_append (earlier later : History κ ν ε σ) :
    callsOf (earlier ++ later) = callsOf earlier ++ callsOf later :=
  List.filterMap_append

theorem deedsOf_append (encloses : Encloses outside earlier) (later : History κ ν ε σ) :
    deedsOf (earlier ++ later) = deedsOf earlier ++ deedsOf later := by
  rw [deedsOf, outermost_append encloses, List.filterMap_append]
  rfl

/-- What happens inside of calls that are open is not left out. -/
theorem untilEnd_append (encloses : Encloses outside inside) (depth : Nat)
    (later : History κ ν ε σ) :
    untilEnd (depth + 1) (inside ++ later) = inside ++ untilEnd (depth + 1) later := by
  have kept {happening : Happening κ ν ε σ} {before behind : Nat}
      (moves : happening.depthAfter (before + 1) = behind + 1) (later : History κ ν ε σ) :
      untilEnd (before + 1) (happening :: later) = happening :: untilEnd (behind + 1) later := by
    rw [untilEnd, moves]
    exact if_neg (Nat.succ_ne_zero behind)
  induction encloses generalizing depth later with
  | nil => rfl
  | step plain _ _ inductionHypothesis =>
    rw [List.cons_append, kept (Happening.depthAfter_of_plain plain _), inductionHypothesis]
    rfl
  | @call _ name token observer value current outcome inside behind _ _ _ work rest =>
    have begun (later : History κ ν ε σ) : untilEnd (depth + 1)
        (.called name token observer value current :: later) =
          .called name token observer value current :: untilEnd (depth + 2) later :=
      kept rfl later
    have ended (later : History κ ν ε σ) : untilEnd (depth + 2)
        (.ended name token outcome :: later) =
          .ended name token outcome :: untilEnd (depth + 1) later :=
      kept rfl later
    rw [List.append_assoc, List.cons_append, List.cons_append, begun, work, ended, rest,
      List.append_assoc]
    rfl

/-- What happens until the end of a call is what happens inside of it. -/
theorem untilEnd_call (work : Encloses outside inside) (later : History κ ν ε σ) :
    untilEnd 1 (inside ++ .ended name token outcome :: later) = inside := by
  have ends : untilEnd 1 (.ended name token outcome :: later) = [] := by
    rw [untilEnd]
    exact if_pos rfl
  rw [untilEnd_append work 0, ends, List.append_nil]

/-- The part of a call stands before those of the calls inside of it and behind it. -/
theorem partsOf_called (work : Encloses outside inside) (later : History κ ν ε σ) :
    partsOf (.called name token observer value current :: inside ++
      .ended name token outcome :: later) =
      deedsOf inside :: partsOf (inside ++ .ended name token outcome :: later) := by
  rw [List.cons_append, partsOf, untilEnd_call work]

/-- The parts of a history begin with those of the calls that come first. -/
theorem partsOf_append (encloses : Encloses outside earlier) (later : History κ ν ε σ) :
    partsOf (earlier ++ later) = partsOf earlier ++ partsOf later := by
  induction encloses generalizing later with
  | nil => rfl
  | @step _ happening _ plain _ _ inductionHypothesis =>
    cases happening with
    | called => cases plain
    | _ => exact inductionHypothesis later
  | @call _ name token observer value current outcome inside behind _ work _ whole rest =>
    have moved : .called name token observer value current :: inside ++
          .ended name token outcome :: behind ++ later =
        .called name token observer value current :: inside ++
          .ended name token outcome :: (behind ++ later) := by
      rw [List.append_assoc]
      rfl
    have skipped (later : History κ ν ε σ) :
        partsOf (.ended name token outcome :: later) = partsOf later := rfl
    rw [moved, partsOf_called work, partsOf_called work, whole, whole, skipped, skipped, rest,
      List.cons_append, List.append_assoc]

theorem partsOf_call (work : Encloses outside inside) (later : History κ ν ε σ) :
    partsOf (.called name token observer value current :: inside ++
      .ended name token outcome :: later) = deedsOf inside :: (partsOf inside ++ partsOf later) := by
  rw [partsOf_called work, partsOf_append work]
  rfl

theorem callsOf_call (inside later : History κ ν ε σ) :
    callsOf (.called name token observer value current :: inside ++
      .ended name token outcome :: later) =
      (name, token, value) :: callsOf inside ++ callsOf later :=
  congrArg _ (callsOf_append inside (.ended name token outcome :: later))

end

/-! ### Playing deeds -/

/-- A channel without what its observers do. -/
def Channel.outline {ν ο : Type} (c : Channel ν ο) : Channel ν Unit :=
  { c with observers := c.observers.map fun registration => (registration.1, ()) }

/-- The channels as they stand, and what the calls to come do, in the order in which these begin. -/
structure Stage (κ ν : Type) where
  channels : κ → Channel ν Unit
  parts : List (List (ChannelDeed κ ν))

/-- The stage with a channel changed. -/
def Stage.modify [DecidableEq κ] (stage : Stage κ ν) (name : κ)
    (change : Channel ν Unit → Channel ν Unit) : Stage κ ν :=
  { stage with
    channels := fun other =>
      if other = name then change (stage.channels other) else stage.channels other }

/-- What is to be played: deeds one after the other, the deliveries of a channel, or the delivery of
one value to the registrations of some tokens. -/
inductive Task (κ ν : Type) where
  | act (deeds : List (ChannelDeed κ ν))
  | drain (name : κ)
  | deliver (name : κ) (value : ν) (tokens : List Nat)

/-- How deeds are played. A task leads from a stage to another one, and makes calls on its way; each
call does its part, and returns. -/
inductive Plays [DecidableEq κ] : Task κ ν → Stage κ ν → List (Call κ ν) → Stage κ ν → Prop where
  | rest (stage : Stage κ ν) : Plays (.act []) stage [] stage
  | pushBusy {name : κ} {value : ν} {deeds : List (ChannelDeed κ ν)} {stage last : Stage κ ν}
      {calls : List (Call κ ν)} (busy : (stage.channels name).delivering = true)
      (later : Plays (.act deeds) (stage.modify name (·.enqueue value)) calls last) :
      Plays (.act (.push name value :: deeds)) stage calls last
  | pushIdle {name : κ} {value : ν} {deeds : List (ChannelDeed κ ν)} {stage middle last : Stage κ ν}
      {calls callsLater : List (Call κ ν)} (idle : (stage.channels name).delivering = false)
      (delivery : Plays (.drain name)
        ((stage.modify name (·.enqueue value)).modify name (·.mark true)) calls middle)
      (later : Plays (.act deeds) (middle.modify name (·.mark false)) callsLater last) :
      Plays (.act (.push name value :: deeds)) stage (calls ++ callsLater) last
  | subscribe {name : κ} {deeds part : List (ChannelDeed κ ν)} {parts : List (List (ChannelDeed κ ν))}
      {stage middle last : Stage κ ν} {calls callsLater : List (Call κ ν)}
      (next : stage.parts = part :: parts)
      (replay : Plays (.act part) { stage with parts } calls middle)
      (later : Plays (.act deeds) (middle.modify name (·.register ())) callsLater last) :
      Plays (.act (.subscribe name :: deeds)) stage
        ((name, none, (stage.channels name).value) :: calls ++ callsLater) last
  | dispose {name : κ} {token : Nat} {deeds : List (ChannelDeed κ ν)} {stage last : Stage κ ν}
      {calls : List (Call κ ν)}
      (later : Plays (.act deeds) (stage.modify name (·.detach token)) calls last) :
      Plays (.act (.dispose name token :: deeds)) stage calls last
  | emptied {name : κ} {stage : Stage κ ν} (nothing : (stage.channels name).take? = none) :
      Plays (.drain name) stage [] stage
  | take {name : κ} {value : ν} {left : Channel ν Unit} {stage middle last : Stage κ ν}
      {calls callsLater : List (Call κ ν)}
      (waiting : (stage.channels name).take? = some (value, left))
      (delivery : Plays (.deliver name value ((stage.channels name).observers.map (·.1)))
        (stage.modify name fun _ => left) calls middle)
      (later : Plays (.drain name) middle callsLater last) :
      Plays (.drain name) stage (calls ++ callsLater) last
  | delivered {name : κ} {value : ν} (stage : Stage κ ν) : Plays (.deliver name value []) stage [] stage
  | call {name : κ} {value : ν} {token : Nat} {tokens : List Nat} {part : List (ChannelDeed κ ν)}
      {parts : List (List (ChannelDeed κ ν))} {stage middle last : Stage κ ν}
      {calls callsLater : List (Call κ ν)} (next : stage.parts = part :: parts)
      (work : Plays (.act part) { stage with parts } calls middle)
      (later : Plays (.deliver name value tokens) middle callsLater last) :
      Plays (.deliver name value (token :: tokens)) stage
        ((name, some token, value) :: calls ++ callsLater) last

section
variable [DecidableEq κ] {task : Task κ ν} {stage middle last lastOther : Stage κ ν}
  {calls callsLater callsOther : List (Call κ ν)} {deeds deedsLater : List (ChannelDeed κ ν)}

/-- Deeds can be played in one way only. -/
theorem Plays.deterministic (plays : Plays task stage calls last)
    (other : Plays task stage callsOther lastOther) : calls = callsOther ∧ last = lastOther := by
  induction plays generalizing callsOther lastOther with
  | rest =>
    cases other
    exact ⟨rfl, rfl⟩
  | pushBusy busy _ inductionHypothesis =>
    cases other with
    | pushBusy _ later => exact inductionHypothesis later
    | pushIdle idle => exact absurd (idle.symm.trans busy) Bool.false_ne_true
  | pushIdle idle _ _ deliveryHypothesis laterHypothesis =>
    cases other with
    | pushBusy busy => exact absurd (idle.symm.trans busy) Bool.false_ne_true
    | pushIdle _ delivery later =>
      obtain ⟨rfl, rfl⟩ := deliveryHypothesis delivery
      obtain ⟨rfl, rfl⟩ := laterHypothesis later
      exact ⟨rfl, rfl⟩
  | subscribe next _ _ replayHypothesis laterHypothesis =>
    cases other with
    | subscribe nextOther replay later =>
      cases next.symm.trans nextOther
      obtain ⟨rfl, rfl⟩ := replayHypothesis replay
      obtain ⟨rfl, rfl⟩ := laterHypothesis later
      exact ⟨rfl, rfl⟩
  | dispose _ inductionHypothesis =>
    cases other with
    | dispose later => exact inductionHypothesis later
  | emptied nothing =>
    cases other with
    | emptied => exact ⟨rfl, rfl⟩
    | take waiting => cases nothing.symm.trans waiting
  | take waiting _ _ deliveryHypothesis laterHypothesis =>
    cases other with
    | emptied nothing => cases nothing.symm.trans waiting
    | take waitingOther delivery later =>
      cases waiting.symm.trans waitingOther
      obtain ⟨rfl, rfl⟩ := deliveryHypothesis delivery
      obtain ⟨rfl, rfl⟩ := laterHypothesis later
      exact ⟨rfl, rfl⟩
  | delivered =>
    cases other
    exact ⟨rfl, rfl⟩
  | call next _ _ workHypothesis laterHypothesis =>
    cases other with
    | call nextOther work later =>
      cases next.symm.trans nextOther
      obtain ⟨rfl, rfl⟩ := workHypothesis work
      obtain ⟨rfl, rfl⟩ := laterHypothesis later
      exact ⟨rfl, rfl⟩

/-- Deeds are played after others. -/
theorem Plays.act_append (first : Plays (.act deeds) stage calls middle)
    (second : Plays (.act deedsLater) middle callsLater last) :
    Plays (.act (deeds ++ deedsLater)) stage (calls ++ callsLater) last := by
  generalize acting : Task.act deeds = task at first
  induction first generalizing deeds with
  | rest =>
    cases acting
    exact second
  | pushBusy busy _ inductionHypothesis =>
    cases acting
    exact .pushBusy busy (inductionHypothesis second rfl)
  | pushIdle idle delivery _ _ inductionHypothesis =>
    cases acting
    rw [List.append_assoc]
    exact .pushIdle idle delivery (inductionHypothesis second rfl)
  | subscribe next replay _ _ inductionHypothesis =>
    cases acting
    rw [List.append_assoc]
    exact .subscribe next replay (inductionHypothesis second rfl)
  | dispose _ inductionHypothesis =>
    cases acting
    exact .dispose (inductionHypothesis second rfl)
  | _ => cases acting

end

/-! ### Runs play their deeds -/

/-- Whether the replay of a value does not return. -/
def Happening.failsReplay : Happening κ ν ε σ → Bool
  | .ended _ none .finished => false
  | .ended _ none _ => true
  | _ => false

/-- Whether the call of a registered observer is interrupted. -/
def Happening.interrupts : Happening κ ν ε σ → Bool
  | .ended _ (some _) (.interrupted _) => true
  | _ => false

/-- Whether a call does not return. -/
def Happening.raises : Happening κ ν ε σ → Bool
  | .ended _ _ .finished => false
  | .ended _ _ _ => true
  | _ => false

/-- Whether every replay in a history returns, and no delivery is interrupted. -/
def IsUndisturbed (history : History κ ν ε σ) : Prop :=
  ∀ happening ∈ history, happening.failsReplay = false ∧ happening.interrupts = false

/-- Whether every call in a history returns. -/
def AllReturn (history : History κ ν ε σ) : Prop :=
  ∀ happening ∈ history, happening.raises = false

instance (history : History κ ν ε σ) : Decidable (IsUndisturbed history) :=
  inferInstanceAs (Decidable (∀ happening ∈ history,
    happening.failsReplay = false ∧ happening.interrupts = false))

instance (history : History κ ν ε σ) : Decidable (AllReturn history) :=
  inferInstanceAs (Decidable (∀ happening ∈ history, happening.raises = false))

section
variable {happening : Happening κ ν ε σ} {earlier later added : History κ ν ε σ}

theorem isUndisturbed_append :
    IsUndisturbed (earlier ++ later) ↔ IsUndisturbed earlier ∧ IsUndisturbed later :=
  List.forall_mem_append

theorem isUndisturbed_cons :
    IsUndisturbed (happening :: later) ↔
      (happening.failsReplay = false ∧ happening.interrupts = false) ∧ IsUndisturbed later :=
  List.forall_mem_cons

/-- A run in which every call returns is undisturbed. -/
theorem AllReturn.isUndisturbed (returns : AllReturn added) : IsUndisturbed added := by
  intro happening member
  have returned := returns happening member
  cases happening with
  | ended name token outcome =>
    cases outcome with
    | finished => cases token <;> exact ⟨rfl, rfl⟩
    | _ => cases returned
  | _ => exact ⟨rfl, rfl⟩

theorem deedsOf_plain (plain : happening.isOfCall = false) (later : History κ ν ε σ) :
    deedsOf (happening :: later) = happening.deed?.toList ++ deedsOf later := by
  rw [deedsOf, outermost_plain plain, List.filterMap_cons]
  cases happening.deed? <;> rfl

theorem partsOf_plain (plain : happening.isOfCall = false) (later : History κ ν ε σ) :
    partsOf (happening :: later) = partsOf later := by
  cases happening with
  | called => cases plain
  | _ => rfl

theorem callsOf_plain (plain : happening.isOfCall = false) (later : History κ ν ε σ) :
    callsOf (happening :: later) = callsOf later := by
  cases happening with
  | called => cases plain
  | _ => rfl

/-- Calls are no deeds. -/
theorem deedsOf_call {outside : Happening κ ν ε σ → Prop} {inside : History κ ν ε σ} {name : κ}
    {token : Option Nat} {observer : Callback κ ν ε σ} {value current : ν} {outcome : Outcome ε}
    (work : Encloses outside inside) (later : History κ ν ε σ) :
    deedsOf (.called name token observer value current :: inside ++
      .ended name token outcome :: later) = deedsOf later := by
  rw [deedsOf, outermost_call work]
  rfl

theorem deedsOf_eq_nil (encloses : Encloses (·.deed? = none) added) : deedsOf added = [] := by
  rw [deedsOf, List.filterMap_eq_nil_iff]
  exact fun happening member => encloses.outside_of_mem (fun _ _ _ _ _ _ _ => rfl) member

end

namespace Chronicle

variable [DecidableEq κ] {outside : Happening κ ν ε σ → Prop} {name : κ}
  {chronicle middle after : Chronicle κ ν ε σ} {result : Outcome ε × Chronicle κ ν ε σ} {fuel : Nat}

/-- The channels of a chronicle with what calls to come do. -/
def stage (chronicle : Chronicle κ ν ε σ) (parts : List (List (ChannelDeed κ ν))) : Stage κ ν where
  channels name := (chronicle.channel name).outline
  parts := parts

/-- A change of a channel changes its outline. -/
theorem stage_change (chronicle : Chronicle κ ν ε σ) (name : κ)
    (change : Channel ν (Callback κ ν ε σ) → Channel ν (Callback κ ν ε σ))
    (changeOutline : Channel ν Unit → Channel ν Unit)
    (same : (change (chronicle.channel name)).outline =
      changeOutline (chronicle.channel name).outline)
    (happenings : History κ ν ε σ) (parts : List (List (ChannelDeed κ ν))) :
    (chronicle.change name change happenings).stage parts =
      (chronicle.stage parts).modify name changeOutline := by
  rw [stage, stage, Stage.modify]
  congr
  funext other
  by_cases here : other = name
  · subst here
    rw [channel_change_self, if_pos rfl, same]
  · rw [channel_change_of_ne _ (Ne.symm here), if_neg here]

section
variable (chronicle : Chronicle κ ν ε σ) (name : κ) (parts : List (List (ChannelDeed κ ν)))

theorem stage_push (value : ν) : (chronicle.push name value).stage parts =
    (chronicle.stage parts).modify name (·.enqueue value) :=
  stage_change chronicle name (·.enqueue value) (·.enqueue value) rfl _ parts

theorem stage_mark (delivering : Bool) : (chronicle.mark name delivering).stage parts =
    (chronicle.stage parts).modify name (·.mark delivering) :=
  stage_change chronicle name (·.mark delivering) (·.mark delivering) rfl _ parts

theorem stage_take (value : ν) (left : Channel ν (Callback κ ν ε σ)) :
    (chronicle.take name value left).stage parts =
      (chronicle.stage parts).modify name fun _ => left.outline :=
  stage_change chronicle name (fun _ => left) (fun _ => left.outline) rfl _ parts

theorem stage_register (observer : Callback κ ν ε σ) (replayed : ν) :
    (chronicle.register name observer replayed).stage parts =
      (chronicle.stage parts).modify name (·.register ()) := by
  refine stage_change chronicle name (·.register observer) (·.register ()) ?_ _ parts
  rw [Channel.outline, Channel.register, List.map_append]
  rfl

theorem stage_detach (token : Nat) : (chronicle.detach name token).stage parts =
    (chronicle.stage parts).modify name (·.detach token) := by
  refine stage_change chronicle name (·.detach token) (·.detach token) ?_ _ parts
  rw [Channel.outline, Channel.detach, Channel.outline, Channel.detach, List.filter_map]
  rfl

end

omit [DecidableEq κ] in
theorem stage_note (chronicle : Chronicle κ ν ε σ) (first : Option ε) (error : ε)
    (parts : List (List (ChannelDeed κ ν))) :
    (chronicle.note first error).2.stage parts = chronicle.stage parts := by
  rw [stage, stage]
  congr
  funext name
  rw [channel_note]

/-- The waiting values of a channel are those of its outline. -/
theorem take?_outline {ν ο : Type} (c : Channel ν ο) :
    c.outline.take? = c.take?.map fun next => (next.1, next.2.outline) := by
  rw [Channel.take?, Channel.take?, Channel.outline]
  cases c.pending <;> rfl

/-- Whether scripts, if they have ended undisturbed, play what they did themselves. -/
def Performs (chronicle : Chronicle κ ν ε σ) (result : Outcome ε × Chronicle κ ν ε σ) : Prop :=
  result.1.raised? ≠ none →
    ∃ added, result.2.history = chronicle.history ++ added ∧ Encloses (fun _ => True) added ∧
      (IsUndisturbed added → ∀ parts,
        Plays (.act (deedsOf added)) (chronicle.stage (partsOf added ++ parts)) (callsOf added)
          (result.2.stage parts))

/-- Whether a delivery, if it has ended undisturbed, plays its task. It does nothing itself. -/
def Conducts (task : Task κ ν) (chronicle : Chronicle κ ν ε σ)
    (result : Outcome ε × Chronicle κ ν ε σ) : Prop :=
  result.1.raised? ≠ none →
    ∃ added, result.2.history = chronicle.history ++ added ∧ Encloses (·.deed? = none) added ∧
      (IsUndisturbed added → (∀ error, result.1 ≠ .interrupted error) ∧ ∀ parts,
        Plays task (chronicle.stage (partsOf added ++ parts)) (callsOf added) (result.2.stage parts))

/-- Every part of a run with some fuel plays what it does. -/
structure Performing (κ ν ε σ : Type) [DecidableEq κ] (fuel : Nat) : Prop where
  script : ∀ (script : Script κ ν ε σ) (chronicle : Chronicle κ ν ε σ),
    Performs chronicle (record fuel script chronicle)
  drain : ∀ (name : κ) (first : Option ε) (chronicle : Chronicle κ ν ε σ),
    Conducts (.drain name) chronicle (recordDrain fuel name first chronicle)
  deliver : ∀ (name : κ) (value : ν) (registrations : List (Registration κ ν ε σ))
      (first : Option ε) (chronicle : Chronicle κ ν ε σ),
    Conducts (.deliver name value (registrations.map (·.1))) chronicle
      (recordDeliver fuel name value registrations first chronicle)

/-- A script that ends at once does nothing. -/
theorem performs_nothing (outcome : Outcome ε) : Performs chronicle (outcome, chronicle) :=
  fun _ => ⟨[], (List.append_nil _).symm, .nil _, fun _ _ => .rest _⟩

/-- Nothing is said of what is given up. -/
theorem performs_exhausted : Performs chronicle (.exhausted, middle) :=
  fun ended => absurd rfl ended

theorem conducts_exhausted {task : Task κ ν} : Conducts task chronicle (.exhausted, middle) :=
  fun ended => absurd rfl ended

theorem settle_ne_interrupted (first : Option ε) (error : ε) :
    Bank.settle first ≠ .interrupted error := by
  cases first <;> simp [Bank.settle]

/-- Something plain is done before what follows. -/
theorem Performs.afterDeed {deed : ChannelDeed κ ν} {happening : Happening κ ν ε σ}
    (performs : Performs middle result)
    (written : middle.history = chronicle.history ++ [happening])
    (plain : happening.isOfCall = false) (done : happening.deed? = some deed)
    (plays : ∀ {deeds calls parts last}, Plays (.act deeds) (middle.stage parts) calls last →
      Plays (.act (deed :: deeds)) (chronicle.stage parts) calls last) :
    Performs chronicle result := by
  intro ended
  obtain ⟨added, grown, encloses, rest⟩ := performs ended
  refine ⟨happening :: added, ?_, .step plain trivial encloses, fun undisturbed parts => ?_⟩
  · rw [grown, written, List.append_assoc]
    rfl
  · rw [deedsOf_plain plain, done, partsOf_plain plain, callsOf_plain plain]
    exact plays (rest (isUndisturbed_cons.mp undisturbed).2 parts)

theorem Performing.script_push (inner : Performing κ ν ε σ fuel) (name : κ) (value : ν)
    (next : Option (Raised ε) → Script κ ν ε σ) (chronicle : Chronicle κ ν ε σ) :
    Performs chronicle (record (fuel + 1) (.push name value next) chronicle) := by
  rw [record]
  by_cases busy : (chronicle.channel name).delivering
  · rw [if_pos busy]
    refine (inner.script _ _).afterDeed rfl rfl rfl fun rest => ?_
    rw [stage_push] at rest
    exact .pushBusy busy rest
  · rw [if_neg busy]
    have drained := inner.drain name none ((chronicle.push name value).mark name true)
    generalize recordDrain fuel name none ((chronicle.push name value).mark name true) = delivery
      at drained ⊢
    dsimp only
    cases ending : delivery.1.raised? with
    | none => exact performs_exhausted
    | some raised =>
      obtain ⟨delivered, written, encloses, plays⟩ :=
        drained (by rw [ending]; exact Option.some_ne_none raised)
      intro ended
      obtain ⟨added, grown, enclosesLater, rest⟩ := inner.script _ _ ended
      refine ⟨.pushed name value :: delivered ++ added, ?_,
        .step rfl trivial ((encloses.mono fun _ _ => trivial).append enclosesLater),
        fun undisturbed parts => ?_⟩
      · rw [grown, history_mark, written, history_mark, push, change, List.append_assoc,
          List.append_assoc]
        rfl
      · rw [List.cons_append, isUndisturbed_cons, isUndisturbed_append] at undisturbed
        have delivery := (plays undisturbed.2.1).2 (partsOf added ++ parts)
        have later := rest undisturbed.2.2 parts
        rw [stage_mark, stage_push] at delivery
        rw [stage_mark] at later
        rw [List.cons_append, deedsOf_plain rfl, deedsOf_append encloses, deedsOf_eq_nil encloses]
        have idle : (chronicle.channel name).outline.delivering = false :=
          Bool.eq_false_iff.mpr busy
        have whole : Plays (.act (.push name value :: deedsOf added)) _ _ _ :=
          .pushIdle idle delivery later
        rw [← List.append_assoc, ← partsOf_append encloses, ← callsOf_append] at whole
        exact whole

theorem Performing.script_subscribe (inner : Performing κ ν ε σ fuel) (name : κ)
    (observer : Callback κ ν ε σ) (next : Except (Raised ε) Nat → Script κ ν ε σ)
    (chronicle : Chronicle κ ν ε σ) :
    Performs chronicle (record (fuel + 1) (.subscribe name observer next) chronicle) := by
  rw [record]
  have replayed := inner.script (observer (chronicle.channel name).value)
    (chronicle.beginReplay name observer (chronicle.channel name).value)
  dsimp only
  generalize record fuel (observer (chronicle.channel name).value)
    (chronicle.beginReplay name observer (chronicle.channel name).value) = replay at replayed ⊢
  obtain ⟨outcome, after⟩ := replay
  -- What happens until the end of the replay, and what the script goes on with.
  have whole {middle : Chronicle κ ν ε σ} {result : Outcome ε × Chronicle κ ν ε σ}
      {inside later : History κ ν ε σ}
      (grown : after.history =
        (chronicle.beginReplay name observer (chronicle.channel name).value).history ++ inside)
      (written : middle.history = (after.endCall name none outcome).history)
      (goesOn : result.2.history = middle.history ++ later) :
      result.2.history = chronicle.history ++ .subscribing name observer ::
        (.called name none observer (chronicle.channel name).value
          (chronicle.channel name).value :: inside ++ .ended name none outcome :: later) := by
    rw [goesOn, written, endCall, write, grown, beginReplay, write, List.append_assoc,
      List.append_assoc, List.append_assoc]
    rfl
  have disturbed {result : Outcome ε × Chronicle κ ν ε σ} (ends : outcome.raised? ≠ none)
      (raises : (Happening.ended name none outcome : Happening κ ν ε σ).failsReplay = true)
      (performs : Performs (after.endCall name none outcome) result) :
      Performs chronicle result := by
    intro ended
    obtain ⟨inside, grown, work, -⟩ := replayed ends
    obtain ⟨later, goesOn, rest, -⟩ := performs ended
    refine ⟨_, whole grown rfl goesOn, .step rfl trivial (.call trivial work rest),
      fun undisturbed => ?_⟩
    have quiet := undisturbed (.ended name none outcome) (by simp)
    exact absurd (quiet.1.symm.trans raises) Bool.false_ne_true
  cases outcome with
  | exhausted => exact performs_exhausted
  | failed error => exact disturbed (Option.some_ne_none _) rfl (inner.script _ _)
  | interrupted error => exact disturbed (Option.some_ne_none _) rfl (inner.script _ _)
  | finished =>
    intro ended
    obtain ⟨inside, grown, work, plays⟩ := replayed (Option.some_ne_none _)
    obtain ⟨later, goesOn, rest, playsLater⟩ := inner.script _ _ ended
    rw [register, change, List.append_assoc] at goesOn
    refine ⟨_, whole grown rfl goesOn,
      .step rfl trivial (.call trivial work (.step rfl trivial rest)), fun undisturbed parts => ?_⟩
    rw [List.cons_append, isUndisturbed_cons, isUndisturbed_cons, isUndisturbed_append,
      isUndisturbed_cons, List.singleton_append, isUndisturbed_cons] at undisturbed
    have replay := plays undisturbed.2.2.1 (partsOf later ++ parts)
    have behind := playsLater undisturbed.2.2.2.2.2 parts
    rw [stage_register] at behind
    rw [List.singleton_append, deedsOf_plain rfl, deedsOf_call work, deedsOf_plain rfl]
    rw [partsOf_plain rfl, partsOf_call work, partsOf_plain rfl, callsOf_plain rfl, callsOf_call,
      callsOf_plain rfl, List.cons_append, List.append_assoc]
    exact .subscribe rfl replay behind

theorem Performing.script_succ (inner : Performing κ ν ε σ fuel) (script : Script κ ν ε σ)
    (chronicle : Chronicle κ ν ε σ) :
    Performs chronicle (record (fuel + 1) script chronicle) := by
  cases script with
  | finish => exact performs_nothing _
  | fail error => exact performs_nothing _
  | interrupt error => exact performs_nothing _
  | push name value next => exact inner.script_push name value next chronicle
  | subscribe name observer next => exact inner.script_subscribe name observer next chronicle
  | dispose name token next =>
    refine (inner.script next (chronicle.detach name token)).afterDeed rfl rfl rfl fun rest => ?_
    rw [stage_detach] at rest
    exact .dispose rest
  | read name next => exact inner.script _ chronicle
  | consult next => exact inner.script _ chronicle
  | update change next => exact inner.script next (chronicle.keep change)

theorem Performing.drain_succ (inner : Performing κ ν ε σ fuel) (name : κ) (first : Option ε)
    (chronicle : Chronicle κ ν ε σ) :
    Conducts (.drain name) chronicle (recordDrain (fuel + 1) name first chronicle) := by
  rw [recordDrain]
  have outlined := take?_outline (chronicle.channel name)
  cases waiting : (chronicle.channel name).take? with
  | none =>
    rw [waiting] at outlined
    exact fun _ => ⟨[], (List.append_nil _).symm, .nil _,
      fun _ => ⟨settle_ne_interrupted first, fun _ => .emptied outlined⟩⟩
  | some next =>
    obtain ⟨value, left⟩ := next
    rw [waiting] at outlined
    have delivered := inner.deliver name value (chronicle.channel name).observers first
      (chronicle.take name value left)
    dsimp only
    generalize recordDeliver fuel name value (chronicle.channel name).observers first
      (chronicle.take name value left) = result at delivered ⊢
    obtain ⟨outcome, after⟩ := result
    have tokens : (chronicle.channel name).outline.observers.map (·.1) =
        (chronicle.channel name).observers.map (·.1) := List.map_map
    have taken {added : History κ ν ε σ} {result : Outcome ε × Chronicle κ ν ε σ}
        (grown : result.2.history = (chronicle.take name value left).history ++ added) :
        result.2.history = chronicle.history ++
          .taken name value (chronicle.channel name).observers :: added := by
      rw [grown, take, change, List.append_assoc]
      rfl
    have goesOn {result : Outcome ε × Chronicle κ ν ε σ} (ends : outcome.raised? ≠ none)
        (conducts : Conducts (.drain name) after result) :
        Conducts (.drain name) chronicle result := by
      intro ended
      obtain ⟨added, grown, encloses, plays⟩ := delivered ends
      obtain ⟨later, written, rest, playsLater⟩ := conducts ended
      refine ⟨_, taken (written.trans (by rw [grown, List.append_assoc])),
        .step rfl rfl (encloses.append rest), fun undisturbed => ?_⟩
      rw [isUndisturbed_cons, isUndisturbed_append] at undisturbed
      refine ⟨(playsLater undisturbed.2.2).1, fun parts => ?_⟩
      have delivery := (plays undisturbed.2.1).2 (partsOf later ++ parts)
      rw [stage_take] at delivery
      rw [partsOf_plain rfl, partsOf_append encloses, callsOf_plain rfl, callsOf_append,
        List.append_assoc]
      exact .take outlined (tokens ▸ delivery) ((playsLater undisturbed.2.2).2 parts)
    cases outcome with
    | finished => exact goesOn (Option.some_ne_none _) (inner.drain name none after)
    | failed error => exact goesOn (Option.some_ne_none _) (inner.drain name (some error) after)
    | interrupted error =>
      intro ended
      obtain ⟨added, grown, encloses, plays⟩ := delivered ended
      refine ⟨_, taken grown, .step rfl rfl encloses, fun undisturbed => ?_⟩
      exact absurd rfl ((plays (isUndisturbed_cons.mp undisturbed).2).1 error)
    | exhausted => exact conducts_exhausted

theorem Performing.deliver_succ (inner : Performing κ ν ε σ fuel) (name : κ) (value : ν)
    (registrations : List (Registration κ ν ε σ)) (first : Option ε)
    (chronicle : Chronicle κ ν ε σ) :
    Conducts (.deliver name value (registrations.map (·.1))) chronicle
      (recordDeliver (fuel + 1) name value registrations first chronicle) := by
  cases registrations with
  | nil =>
    exact fun _ => ⟨[], (List.append_nil _).symm, .nil _,
      fun _ => ⟨settle_ne_interrupted first, fun _ => .delivered _⟩⟩
  | cons registration others =>
    have called := inner.script (registration.2 value) (chronicle.beginCall name registration value)
    rw [recordDeliver]
    generalize record fuel (registration.2 value)
      (chronicle.beginCall name registration value) = result at called ⊢
    obtain ⟨outcome, after⟩ := result
    have whole {result middle : Chronicle κ ν ε σ} {inside later : History κ ν ε σ}
        (grown : after.history = (chronicle.beginCall name registration value).history ++ inside)
        (written : middle.history = (after.endCall name (some registration.1) outcome).history)
        (goesOn : result.history = middle.history ++ later) :
        result.history = chronicle.history ++
          (.called name (some registration.1) registration.2 value (chronicle.channel name).value ::
            inside ++ .ended name (some registration.1) outcome :: later) := by
      rw [goesOn, written, endCall, write, grown, beginCall, write, List.append_assoc,
        List.append_assoc, List.append_assoc]
      rfl
    have goesOn {middle : Chronicle κ ν ε σ} {result : Outcome ε × Chronicle κ ν ε σ}
        (ends : outcome.raised? ≠ none)
        (written : middle.history = (after.endCall name (some registration.1) outcome).history)
        (same : ∀ parts, middle.stage parts = after.stage parts)
        (conducts : Conducts (.deliver name value (others.map (·.1))) middle result) :
        Conducts (.deliver name value ((registration :: others).map (·.1))) chronicle result := by
      intro ended
      obtain ⟨inside, grown, work, plays⟩ := called ends
      obtain ⟨later, more, rest, playsLater⟩ := conducts ended
      refine ⟨_, whole grown written more, .call rfl work rest, fun undisturbed => ?_⟩
      rw [List.cons_append, isUndisturbed_cons, isUndisturbed_append, isUndisturbed_cons]
        at undisturbed
      refine ⟨(playsLater undisturbed.2.2.2).1, fun parts => ?_⟩
      have call := plays undisturbed.2.1 (partsOf later ++ parts)
      have behind := (playsLater undisturbed.2.2.2).2 parts
      rw [same] at behind
      have parted : deedsOf inside :: (partsOf inside ++ partsOf later) ++ parts =
          deedsOf inside :: (partsOf inside ++ (partsOf later ++ parts)) :=
        congrArg _ (List.append_assoc _ _ _)
      rw [partsOf_call work, callsOf_call, parted]
      exact .call rfl call behind
    cases outcome with
    | finished =>
      exact goesOn (Option.some_ne_none _) rfl (fun _ => rfl) (inner.deliver name value others _ _)
    | failed error =>
      have noted (chronicle : Chronicle κ ν ε σ) :
          (chronicle.note first error).2.history = chronicle.history := rfl
      exact goesOn (Option.some_ne_none _) (noted _) (stage_note _ first error)
        (inner.deliver name value others _ _)
    | interrupted error =>
      intro ended
      obtain ⟨inside, grown, work, -⟩ := called (Option.some_ne_none _)
      refine ⟨_, whole grown rfl (List.append_nil _).symm, .call rfl work (.nil _),
        fun undisturbed => ?_⟩
      have quiet := undisturbed (.ended name (some registration.1) (.interrupted error)) (by simp)
      exact absurd quiet.2.symm Bool.false_ne_true
    | exhausted => exact conducts_exhausted

theorem performing (fuel : Nat) : Performing κ ν ε σ fuel := by
  induction fuel with
  | zero =>
    exact ⟨fun _ _ => performs_exhausted, fun _ _ _ => conducts_exhausted,
      fun _ _ _ _ _ => conducts_exhausted⟩
  | succ fuel inner => exact ⟨inner.script_succ, inner.drain_succ, inner.deliver_succ⟩

/-- Scripts that are run from the outside, one after the other, play what they do. -/
theorem performs_recordAll (fuel : Nat) (scripts : List (Script κ ν ε σ))
    (chronicle : Chronicle κ ν ε σ) : Performs chronicle (recordAll fuel scripts chronicle) := by
  induction scripts generalizing chronicle with
  | nil => exact performs_nothing _
  | cons script others inductionHypothesis =>
    have performed := (performing fuel).script script chronicle
    rw [recordAll]
    generalize record fuel script chronicle = result at performed ⊢
    obtain ⟨outcome, after⟩ := result
    have goesOn (ends : outcome.raised? ≠ none) :
        Performs chronicle (recordAll fuel others after) := by
      intro ended
      obtain ⟨added, grown, encloses, plays⟩ := performed ends
      obtain ⟨later, written, rest, playsLater⟩ := inductionHypothesis after ended
      refine ⟨added ++ later, by rw [written, grown, List.append_assoc], encloses.append rest,
        fun undisturbed parts => ?_⟩
      rw [isUndisturbed_append] at undisturbed
      rw [deedsOf_append encloses, partsOf_append encloses, callsOf_append, List.append_assoc]
      exact (plays undisturbed.1 _).act_append (playsLater undisturbed.2 parts)
    cases outcome with
    | exhausted => exact performs_exhausted
    | finished => exact goesOn (Option.some_ne_none _)
    | failed error => exact goesOn (Option.some_ne_none _)
    | interrupted error => exact goesOn (Option.some_ne_none _)

/-! ### Runs with the same deeds -/

section
variable {ε' σ' : Type} {fuel fuelOther : Nat} {scripts : List (Script κ ν ε σ)}
  {scriptsOther : List (Script κ ν ε' σ')} {bank : Bank κ ν ε σ} {bankOther : Bank κ ν ε' σ'}
  {initial : ν} {result : Outcome ε × Chronicle κ ν ε σ}
  {resultOther : Outcome ε' × Chronicle κ ν ε' σ'}

/-- Errors of observers are isolated. A run in which every replay returns and no delivery is
interrupted, and one in which every call returns, make the same calls with the same values in the
same order and leave every channel with the same value and the same registrations, if the same is
done from the outside and each call of the first run does the same in the second one. -/
theorem isolated_recordAll
    (first : recordAll fuel scripts (.opened bank name initial) = result)
    (second : recordAll fuelOther scriptsOther (.opened bankOther name initial) = resultOther)
    (ended : result.1.raised? ≠ none) (endedOther : resultOther.1.raised? ≠ none)
    (around : ∀ other, other ≠ name →
      (bank.channels other).outline = (bankOther.channels other).outline)
    (undisturbed : IsUndisturbed result.2.history) (returning : AllReturn resultOther.2.history)
    (outside : deedsOf result.2.history = deedsOf resultOther.2.history)
    (inside : partsOf result.2.history <+: partsOf resultOther.2.history) :
    callsOf result.2.history = callsOf resultOther.2.history ∧
      ∀ other, (result.2.channel other).outline = (resultOther.2.channel other).outline := by
  have stages (parts : List (List (ChannelDeed κ ν))) :
      (opened bank name initial).stage parts = (opened bankOther name initial).stage parts := by
    rw [stage, stage]
    congr
    funext other
    by_cases here : other = name
    · rw [here, channel_opened, channel_opened]
      rfl
    · have away : (opened bank name initial).channel other = bank.channels other := if_neg here
      have awayOther : (opened bankOther name initial).channel other = bankOther.channels other :=
        if_neg here
      rw [away, awayOther, around other here]
  have performed := performs_recordAll fuel scripts (opened bank name initial)
  have performedOther := performs_recordAll fuelOther scriptsOther (opened bankOther name initial)
  rw [first] at performed
  rw [second] at performedOther
  obtain ⟨added, written, -, plays⟩ := performed ended
  obtain ⟨addedOther, writtenOther, -, playsOther⟩ := performedOther endedOther
  obtain rfl : result.2.history = added := written
  obtain rfl : resultOther.2.history = addedOther := writtenOther
  -- What the second run might do besides is left over by the first one.
  obtain ⟨extra, more⟩ := inside
  have own := plays undisturbed extra
  have other := playsOther returning.isUndisturbed []
  rw [List.append_nil, ← more, ← outside, ← stages] at other
  obtain ⟨calls, lasts⟩ := own.deterministic other
  exact ⟨calls, fun other => congrFun (congrArg Stage.channels lasts) other⟩

end

end Chronicle

/-- An observer is subscribed before another one that does nothing, and a value is pushed. -/
def calling (observer : Callback Unit Nat String Unit) : List (Script Unit Nat String Unit) :=
  [.subscribe () observer fun _ => .finish,
    .subscribe () (fun _ => .finish) fun _ => .finish,
    .push () 1 fun _ => .finish]

/-- An observer that is called with `0` when it is subscribed, pushes `2` when it is called with `1`,
and then goes on as it is said. -/
def forwards (last : Script Unit Nat String Unit) : Callback Unit Nat String Unit
  | 0 => .finish
  | 1 => .push () 2 fun _ => last
  | _ => last

/-- The calls are the same whether the observer fails each time or returns. -/
theorem isolated_forwarding :
    callsOf (Chronicle.recordAll 9 (calling (forwards (.fail "no")))
        (.opened resting () 0)).2.history =
      callsOf (Chronicle.recordAll 9 (calling (forwards .finish))
        (.opened resting () 0)).2.history := by
  have first : Chronicle.recordAll 9 (calling (forwards (.fail "no"))) (.opened resting () 0) =
      (.finished, _) := rfl
  have second : Chronicle.recordAll 9 (calling (forwards .finish)) (.opened resting () 0) =
      (.finished, _) := rfl
  exact (Chronicle.isolated_recordAll first second (Option.some_ne_none _) (Option.some_ne_none _)
    (fun _ differ => absurd rfl differ) (by decide) (by decide) rfl ⟨[], rfl⟩).1

/-- Runs need not make the same calls if a delivery of one of them is interrupted, though every
replay returns: the observers behind one that quits are not called. -/
theorem exists_calls_ne : ¬ ∀ (fuel fuelOther : Nat)
    (scripts scriptsOther : List (Script Unit Nat String Unit)) (bank : Bank Unit Nat String Unit)
    (initial : Nat) (result resultOther : Outcome String × Chronicle Unit Nat String Unit),
    Chronicle.recordAll fuel scripts (.opened bank () initial) = result →
    Chronicle.recordAll fuelOther scriptsOther (.opened bank () initial) = resultOther →
    result.1.raised? ≠ none → resultOther.1.raised? ≠ none →
    (∀ happening ∈ result.2.history, happening.failsReplay = false) →
    AllReturn resultOther.2.history →
    deedsOf result.2.history = deedsOf resultOther.2.history →
    partsOf result.2.history <+: partsOf resultOther.2.history →
    callsOf result.2.history = callsOf resultOther.2.history := by
  intro always
  have same := always 9 9 quitting (calling fun _ => .finish) resting 0 _ _ rfl rfl
    (Option.some_ne_none none) (Option.some_ne_none none) (by decide) (by decide) rfl ⟨[[]], rfl⟩
  exact absurd (congrArg List.length same) (by decide)

end StateContainer
