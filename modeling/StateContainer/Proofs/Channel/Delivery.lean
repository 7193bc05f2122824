/-
This file says which values a channel delivers, to which observers and in which order.

A history is read from the outside: which values were pushed, which were taken, which
observers were called with what. Between two takings lies a chapter, in which the value
that was taken last is delivered. Each of the statements is first made about ways through
situations, where it is a short induction, and then about histories.

The main statement is `delivers_recordAll`. Whatever observers do, values are taken in the
order in which they were pushed, and each is delivered once to every registration that was
present when it was taken, in the order of registration. Only an interruption cuts a
delivery short; it loses the calls that were due, but no value.
-/

import StateContainer.Proofs.Channel.Situation

namespace StateContainer

variable {κ ν ε σ : Type}

/-! ### Reading histories -/

/-- The value that is pushed. -/
def Happening.pushed? : Happening κ ν ε σ → Option ν
  | .pushed _ value => some value
  | _ => none

/-- The value that is taken for delivery. -/
def Happening.taken? : Happening κ ν ε σ → Option ν
  | .taken _ value _ => some value
  | _ => none

/-- The registration that is called, and the value that it is called with. -/
def Happening.delivered? : Happening κ ν ε σ → Option (Registration κ ν ε σ × ν)
  | .called _ (some token) observer value _ => some ((token, observer), value)
  | _ => none

/-- The observer that is subscribed. -/
def Happening.subscribed? : Happening κ ν ε σ → Option (Callback κ ν ε σ)
  | .subscribing _ observer => some observer
  | _ => none

/-- The observer that a value is replayed to. -/
def Happening.replayed? : Happening κ ν ε σ → Option (Callback κ ν ε σ)
  | .called _ none observer _ _ => some observer
  | _ => none

/-- The registrations that are left of some others when something has happened to them. -/
def Happening.changePresent (happening : Happening κ ν ε σ)
    (present : List (Registration κ ν ε σ)) : List (Registration κ ν ε σ) :=
  match happening with
  | .registered _ token observer _ _ => present ++ [(token, observer)]
  | .detached _ token => present.filter (·.1 ≠ token)
  | _ => present

section
variable [DecidableEq κ]

/-- What happens in one channel. -/
def within (name : κ) (history : History κ ν ε σ) : History κ ν ε σ :=
  history.filter (·.place = name)

/-- What a reading finds of what happens in one channel. -/
def found {α : Type} (name : κ) (read : Happening κ ν ε σ → Option α)
    (history : History κ ν ε σ) : List α :=
  (within name history).filterMap read

/-- The values that are pushed to a channel. -/
def pushedTo (name : κ) (history : History κ ν ε σ) : List ν :=
  found name Happening.pushed? history

/-- The values that are taken for delivery in a channel. -/
def takenFrom (name : κ) (history : History κ ν ε σ) : List ν :=
  found name Happening.taken? history

/-- The deliveries that are made in a channel. -/
def deliveredIn (name : κ) (history : History κ ν ε σ) : Agenda κ ν ε σ :=
  found name Happening.delivered? history

/-- The observers that are subscribed to a channel. -/
def subscribedTo (name : κ) (history : History κ ν ε σ) : List (Callback κ ν ε σ) :=
  found name Happening.subscribed? history

/-- The observers that values of a channel are replayed to. -/
def replayedIn (name : κ) (history : History κ ν ε σ) : List (Callback κ ν ε σ) :=
  found name Happening.replayed? history

/-- The registrations that were made in a channel and not disposed, in the order in which they were
made. -/
def standing (name : κ) (history : History κ ν ε σ) : List (Registration κ ν ε σ) :=
  (within name history).foldl (fun present happening => happening.changePresent present) []

/-- What happens until the next value is taken in a channel. -/
def chapter (name : κ) (history : History κ ν ε σ) : History κ ν ε σ :=
  history.takeWhile fun happening => takenFrom name [happening] = []

variable {α : Type} {name : κ} {earlier later history : History κ ν ε σ}
  {happening : Happening κ ν ε σ} {read : Happening κ ν ε σ → Option α}

@[simp] theorem within_nil : within (ν := ν) (ε := ε) (σ := σ) name [] = [] := rfl

theorem within_append : within name (earlier ++ later) = within name earlier ++ within name later :=
  List.filter_append _ _

theorem within_of_away (away : happening.place ≠ name) : within name [happening] = [] :=
  List.filter_cons_of_neg (by simpa using away)

theorem within_of_here (here : happening.place = name) : within name [happening] = [happening] :=
  List.filter_cons_of_pos (by simpa using here)

@[simp] theorem found_nil : found name read [] = [] := rfl

theorem found_append (earlier later : History κ ν ε σ) : found name read (earlier ++ later) =
    found name read earlier ++ found name read later := by
  rw [found, within_append, List.filterMap_append]
  rfl

theorem found_cons : found name read (happening :: later) =
    found name read [happening] ++ found name read later :=
  found_append [happening] later

@[simp] theorem found_singleton :
    found name read [happening] = if happening.place = name then (read happening).toList else [] := by
  by_cases here : happening.place = name
  · rw [found, within_of_here here, if_pos here, List.filterMap_cons]
    cases read happening <;> rfl
  · rw [found, within_of_away here, if_neg here]
    rfl

theorem standing_of_away (away : happening.place ≠ name) :
    standing name (earlier ++ [happening]) = standing name earlier := by
  rw [standing, within_append, within_of_away away, List.append_nil]
  rfl

theorem standing_of_here (here : happening.place = name) :
    standing name (earlier ++ [happening]) = happening.changePresent (standing name earlier) := by
  rw [standing, within_append, within_of_here here, List.foldl_append]
  rfl

end

/-! ### What ways deliver -/

section
variable [DecidableEq κ] {name : κ} {now next first last : Situation κ ν ε σ}
  {happening : Happening κ ν ε σ} {history earlier later : History κ ν ε σ}

/-- If every turn puts what it enters at the end of a queue and strikes off what leaves from its
front, then what is in the queue at first and enters it on the way is what leaves it on the way and
is in it in the end. -/
theorem Way.queue_append {α : Type} {queue : Situation κ ν ε σ → List α}
    {enters leaves : Happening κ ν ε σ → Option α} (way : Way name first history last)
    (turns : ∀ {now happening next}, Turn name now happening next →
      queue now ++ found name enters [happening] = found name leaves [happening] ++ queue next) :
    queue first ++ found name enters history = found name leaves history ++ queue last := by
  induction way with
  | nil => exact List.append_nil _
  | @cons now next last happening later turn _ inductionHypothesis =>
    rw [found_cons, ← List.append_assoc, turns turn, List.append_assoc, inductionHypothesis,
      ← List.append_assoc, ← found_cons]

/-- A turn lets a pushed value wait behind the others, and takes the one that waits longest. -/
theorem Turn.waiting_append (turn : Turn name now happening next) :
    now.waiting ++ pushedTo name [happening] = takenFrom name [happening] ++ next.waiting := by
  cases turn with
  | take value waiting oldest delivered =>
    simp [pushedTo, takenFrom, Happening.place, Happening.pushed?, Happening.taken?, oldest]
  | elsewhere _ away => simp [pushedTo, takenFrom, away]
  | _ => simp [pushedTo, takenFrom, Happening.place, Happening.pushed?, Happening.taken?]

/-- Values are taken in the order in which they are pushed. -/
theorem Way.waiting_append (way : Way name first history last) :
    first.waiting ++ pushedTo name history = takenFrom name history ++ last.waiting :=
  way.queue_append fun turn => turn.waiting_append

/-- A subscription is promised a replay, and a replay keeps the promise. -/
theorem Turn.promised_append (turn : Turn name now happening next) :
    now.promised.toList ++ subscribedTo name [happening] =
      replayedIn name [happening] ++ next.promised.toList := by
  cases turn with
  | subscribe observer free =>
    simp [subscribedTo, replayedIn, Happening.place, Happening.subscribed?, Happening.replayed?,
      free]
  | replay observer promised =>
    simp [subscribedTo, replayedIn, Happening.place, Happening.subscribed?, Happening.replayed?,
      promised]
  | elsewhere _ away => simp [subscribedTo, replayedIn, away]
  | _ =>
    simp [subscribedTo, replayedIn, Happening.place, Happening.subscribed?, Happening.replayed?]

/-- Each subscription has one replay, and there are no other replays. -/
theorem Way.promised_append (way : Way name first history last) :
    first.promised.toList ++ subscribedTo name history =
      replayedIn name history ++ last.promised.toList :=
  way.queue_append fun turn => turn.promised_append

/-- Unless a value is taken, only what is due is delivered, and it stays in its order. -/
theorem Turn.delivered_prefix (turn : Turn name now happening next)
    (untaken : takenFrom name [happening] = []) :
    deliveredIn name [happening] ++ next.due <+: now.due := by
  cases turn with
  | take value waiting oldest delivered =>
    simp [takenFrom, Happening.place, Happening.taken?] at untaken
  | call registration value due turn =>
    simp [deliveredIn, Happening.place, Happening.delivered?, turn]
  | elsewhere _ away => simp [deliveredIn, away]
  | _ => simp [deliveredIn, Happening.place, Happening.delivered?]

/-- Unless a delivery is broken off, everything that is due is delivered or stays due. -/
theorem Turn.delivered_append (turn : Turn name now happening next)
    (untaken : takenFrom name [happening] = []) (unbroken : isBrokenOff name [happening] = false) :
    deliveredIn name [happening] ++ next.due = now.due := by
  cases turn with
  | take value waiting oldest delivered =>
    simp [takenFrom, Happening.place, Happening.taken?] at untaken
  | call registration value due turn =>
    simp [deliveredIn, Happening.place, Happening.delivered?, turn]
  | breakOff token error => simp [isBrokenOff, Happening.isBreak] at unbroken
  | elsewhere _ away => simp [deliveredIn, away]
  | _ => simp [deliveredIn, Happening.place, Happening.delivered?]

theorem Way.delivered_prefix (way : Way name first history last)
    (untaken : takenFrom name history = []) :
    deliveredIn name history ++ last.due <+: first.due := by
  induction way with
  | nil => exact List.prefix_rfl
  | @cons now next last happening later turn _ inductionHypothesis =>
    rw [takenFrom, found_cons, List.append_eq_nil_iff] at untaken
    rw [deliveredIn, found_cons, List.append_assoc]
    have rest := (List.prefix_append_right_inj (deliveredIn name [happening])).mpr
      (inductionHypothesis untaken.2)
    exact rest.trans (turn.delivered_prefix untaken.1)

theorem Way.delivered_append (way : Way name first history last)
    (untaken : takenFrom name history = []) (unbroken : isBrokenOff name history = false) :
    deliveredIn name history ++ last.due = first.due := by
  induction way with
  | nil => rfl
  | @cons now next last happening later turn _ inductionHypothesis =>
    rw [takenFrom, found_cons, List.append_eq_nil_iff] at untaken
    rw [← List.singleton_append, isBrokenOff_append, Bool.or_eq_false_iff] at unbroken
    rw [← turn.delivered_append untaken.1 unbroken.1,
      ← inductionHypothesis untaken.2 unbroken.2, ← List.append_assoc]
    exact congrArg (· ++ last.due) found_cons

/-- Whether what is due is to be called with the value of the channel. -/
def Situation.IsCurrent (now : Situation κ ν ε σ) : Prop :=
  ∀ delivery ∈ now.due, delivery.2 = now.value

omit [DecidableEq κ] in
theorem Turn.isCurrent (turn : Turn name now happening next) (current : now.IsCurrent) :
    next.IsCurrent := by
  cases turn with
  | take value waiting oldest delivered =>
    intro delivery due
    obtain ⟨registration, -, rfl⟩ := List.mem_map.mp due
    rfl
  | call registration value due turn =>
    intro delivery member
    exact current delivery (turn ▸ List.mem_cons_of_mem _ member)
  | breakOff token error => exact fun _ => nofun
  | _ => exact current

omit [DecidableEq κ] in
/-- Observers are called with the value that the channel has just then. -/
theorem Way.called_current (way : Way name first history last) (current : first.IsCurrent)
    {token : Option Nat} {observer : Callback κ ν ε σ} {value value' : ν}
    (called : .called name token observer value value' ∈ history) : value = value' := by
  induction way with
  | nil => cases called
  | @cons now next last happening later turn _ inductionHypothesis =>
    cases called with
    | tail _ called => exact inductionHypothesis (turn.isCurrent current) called
    | head =>
      cases turn with
      | call registration value due turn =>
        exact current _ (turn ▸ List.mem_cons_self)
      | replay => rfl
      | elsewhere _ away => exact absurd rfl away

/-- The registrations that are present are those that were made and not disposed. -/
theorem Way.present_eq_standing (way : Way name first history last) (start : first.present = []) :
    last.present = standing name history := by
  refine way.preserves (fun history now => now.present = standing name history) start ?_
  intro earlier now happening next _ turn present
  by_cases here : happening.place = name
  · rw [standing_of_here here, ← present]
    cases turn with
    | elsewhere _ away => exact absurd here away
    | _ => rfl
  · rw [standing_of_away here, ← present]
    cases turn with
    | elsewhere => rfl
    | _ => exact absurd rfl here

/-! ### Chapters -/

theorem takenFrom_taken (name : κ) (value : ν) (present : List (Registration κ ν ε σ)) :
    takenFrom name [.taken name value present] = [value] := by
  simp [takenFrom, Happening.place, Happening.taken?]

/-- Only a taking takes a value. -/
theorem exists_of_takenFrom_ne_nil (taking : takenFrom name [happening] ≠ []) :
    ∃ value present, happening = .taken name value present := by
  by_cases here : happening.place = name
  · cases happening with
    | taken other value present =>
      subst here
      exact ⟨value, present, rfl⟩
    | _ => simp [takenFrom, Happening.taken?] at taking
  · simp [takenFrom, here] at taking

/-- A chapter goes on until a value is taken. -/
theorem chapter_cons (untaken : takenFrom name [happening] = []) :
    chapter name (happening :: later) = happening :: chapter name later :=
  List.takeWhile_cons_of_pos (decide_eq_true untaken)

theorem chapter_cons_taken (value : ν) (present : List (Registration κ ν ε σ)) :
    chapter name (.taken name value present :: later) = [] := by
  refine List.takeWhile_cons_of_neg ?_
  rw [takenFrom_taken]
  simp

/-- No value is taken in a chapter. -/
theorem takenFrom_chapter (name : κ) (history : History κ ν ε σ) :
    takenFrom name (chapter name history) = [] := by
  induction history with
  | nil => rfl
  | cons happening later inductionHypothesis =>
    by_cases untaken : takenFrom name [happening] = []
    · rw [chapter_cons untaken, takenFrom, found_cons, List.append_eq_nil_iff]
      exact ⟨untaken, inductionHypothesis⟩
    · obtain ⟨value, present, rfl⟩ := exists_of_takenFrom_ne_nil untaken
      rw [chapter_cons_taken]
      rfl

/-- A chapter ends with the history, or when the next value is taken. -/
theorem chapter_cases (name : κ) (history : History κ ν ε σ) :
    chapter name history = history ∨
      takenFrom name history ≠ [] ∧ ∃ value present later,
        history = chapter name history ++ .taken name value present :: later := by
  induction history with
  | nil => exact Or.inl rfl
  | cons happening later inductionHypothesis =>
    rw [takenFrom, found_cons, ← takenFrom, ← takenFrom]
    by_cases untaken : takenFrom name [happening] = []
    · rw [chapter_cons untaken, untaken]
      refine inductionHypothesis.imp (congrArg (happening :: ·)) fun ⟨taking, _, _, _, split⟩ => ?_
      exact ⟨taking, _, _, _, congrArg (happening :: ·) split⟩
    · obtain ⟨value, present, rfl⟩ := exists_of_takenFrom_ne_nil untaken
      rw [chapter_cons_taken, takenFrom_taken]
      exact Or.inr ⟨List.cons_ne_nil _ _, value, present, later, rfl⟩

/-- A way through a chapter. -/
theorem Way.through_chapter (way : Way name first history last) :
    ∃ now, Way name first (chapter name history) now ∧
      (chapter name history = history ∧ now = last ∨
        takenFrom name history ≠ [] ∧ now.due = []) := by
  rcases chapter_cases name history with whole | ⟨taking, value, present, later, split⟩
  · exact ⟨last, whole.symm ▸ way, Or.inl ⟨whole, rfl⟩⟩
  · rw [split] at way
    obtain ⟨now, before, after⟩ := way.exists_of_append
    refine ⟨now, before, Or.inr ⟨taking, ?_⟩⟩
    cases after with
    | cons turn rest =>
      cases turn with
      | take _ waiting oldest delivered => exact delivered
      | elsewhere _ away => exact absurd rfl away

omit [DecidableEq κ] in
/-- What is due when a value has been taken is its delivery to the registrations of that moment. -/
theorem Way.of_taken {value : ν} {present : List (Registration κ ν ε σ)}
    (way : Way name first (earlier ++ .taken name value present :: later) last) :
    ∃ before after, Way name first earlier before ∧ Way name after later last ∧
      present = before.present ∧ after.due = deliveries present value := by
  obtain ⟨before, toBefore, rest⟩ := way.exists_of_append
  cases rest with
  | @cons _ after _ _ _ turn toLast =>
    refine ⟨before, after, toBefore, toLast, ?_⟩
    cases turn with
    | take _ waiting oldest delivered => exact ⟨rfl, rfl⟩
    | elsewhere _ away => exact absurd rfl away

/-- In a chapter only what is due at its beginning is delivered. -/
theorem Way.delivered_chapter_prefix (way : Way name first history last) :
    deliveredIn name (chapter name history) <+: first.due := by
  obtain ⟨now, through, -⟩ := way.through_chapter
  exact (List.prefix_append _ _).trans (through.delivered_prefix (takenFrom_chapter name history))

/-- Everything that is due at the beginning of a chapter is delivered when it ends, unless an
interruption breaks off the delivery. -/
theorem Way.delivered_chapter (way : Way name first history last)
    (closing : last.due = [] ∨ takenFrom name history ≠ [])
    (unbroken : isBrokenOff name (chapter name history) = false) :
    deliveredIn name (chapter name history) = first.due := by
  obtain ⟨now, through, ending⟩ := way.through_chapter
  have nothing : now.due = [] := by
    rcases ending with ⟨whole, rfl⟩ | ⟨-, delivered⟩
    · refine closing.resolve_right fun taking => taking ?_
      rw [← whole, takenFrom_chapter]
    · exact delivered
  rw [← through.delivered_append (takenFrom_chapter name history) unbroken, nothing,
    List.append_nil]

/-! ### What runs deliver -/

/-- How a run from the outside delivers the values of a new channel. -/
structure Delivers (name : κ) (result : Outcome ε × Chronicle κ ν ε σ) : Prop where
  /-- At each moment, the values that were taken are those that were pushed first. -/
  inOrder : ∀ {earlier later}, result.2.history = earlier ++ later →
    takenFrom name earlier <+: pushedTo name earlier
  /-- No value is lost: what was not taken still waits when the run has ended. -/
  lossless : result.1.raised? ≠ none →
    pushedTo name result.2.history =
      takenFrom name result.2.history ++ (result.2.channel name).pending
  /-- Nothing waits when the run has ended, unless an interruption broke off a delivery. -/
  emptied : result.1.raised? ≠ none → isBrokenOff name result.2.history = false →
    (result.2.channel name).pending = []
  /-- No registration is called before a value is taken. -/
  beforehand : deliveredIn name (chapter name result.2.history) = []
  /-- The registrations that are present when a value is taken are those that were made before and
  not disposed, in the order in which they were made. -/
  present : ∀ {earlier value present later},
    result.2.history = earlier ++ .taken name value present :: later →
    present = standing name earlier
  /-- A value that is taken is delivered to these registrations in their order, to each at most
  once, and to no others. -/
  atMostOnce : ∀ {earlier value present later},
    result.2.history = earlier ++ .taken name value present :: later →
    deliveredIn name (chapter name later) <+: deliveries present value
  /-- It is delivered to all of them when the next value is taken or the run has ended, unless an
  interruption broke off its delivery. -/
  once : ∀ {earlier value present later},
    result.2.history = earlier ++ .taken name value present :: later →
    (result.1.raised? ≠ none ∨ takenFrom name later ≠ []) →
    isBrokenOff name (chapter name later) = false →
    deliveredIn name (chapter name later) = deliveries present value
  /-- A delivery that is broken off is not taken up again. -/
  brokenOff : ∀ {earlier token error later},
    result.2.history = earlier ++ .ended name (some token) (.interrupted error) :: later →
    deliveredIn name (chapter name later) = []
  /-- An observer that is called for no registration is the one that was subscribed last. -/
  replay : ∀ {earlier observer value current later},
    result.2.history = earlier ++ .called name none observer value current :: later →
    subscribedTo name earlier = replayedIn name earlier ++ [observer]
  /-- Each subscription has one replay. -/
  replayed : replayedIn name result.2.history = subscribedTo name result.2.history
  /-- Observers are called with the value that the channel has just then. -/
  current : ∀ {token observer value current},
    .called name token observer value current ∈ result.2.history → value = current

/-- A run from the outside is a way for a new channel. When it has ended nothing is due. -/
theorem way_recordAll (fuel : Nat) (scripts : List (Script κ ν ε σ)) (bank : Bank κ ν ε σ)
    (name : κ) (initial : ν) {result : Outcome ε × Chronicle κ ν ε σ}
    (recorded : Chronicle.recordAll fuel scripts (.opened bank name initial) = result) :
    ∃ last, Way name { value := initial } result.2.history last ∧ last.promised = none ∧
      (result.1.raised? ≠ none → last = .of (result.2.channel name) []) := by
  have leads := leads_recordAll fuel scripts bank name initial
  rw [recorded] at leads
  cases leads with
  | ended kept same => exact ⟨_, kept, rfl, fun _ => rfl⟩
  | givenUp kept written =>
    rw [Leads, written] at kept
    exact ⟨_, kept, rfl, fun ended => absurd rfl ended⟩

/-- A run from the outside that has ended leaves nothing waiting in a new channel, unless an
interruption cut its last delivery short. -/
theorem isCutShort_or_pending_eq_nil (fuel : Nat) (scripts : List (Script κ ν ε σ))
    (bank : Bank κ ν ε σ) (name : κ) (initial : ν) {result : Outcome ε × Chronicle κ ν ε σ}
    (recorded : Chronicle.recordAll fuel scripts (.opened bank name initial) = result)
    (ended : result.1.raised? ≠ none) :
    IsCutShort name result.2.history ∨ (result.2.channel name).pending = [] := by
  have opened := Chronicle.channel_opened bank name initial
  have leaves : Chronicle.Leaves name (Emptied name) [] false result := by
    rw [← recorded]
    refine stable_emptied.recordAll fuel scripts _ ?_ ?_
    · exact Or.inr (Or.inr (by rw [opened]))
    · rw [opened]
  cases leaves with
  | ended kept same =>
    exact kept.resolve_left fun busy => Bool.false_ne_true (same.symm.trans busy)
  | givenUp => exact absurd rfl ended

/-- Nor does anything wait if no interruption broke off a delivery at all. -/
theorem pending_recordAll (fuel : Nat) (scripts : List (Script κ ν ε σ)) (bank : Bank κ ν ε σ)
    (name : κ) (initial : ν) {result : Outcome ε × Chronicle κ ν ε σ}
    (recorded : Chronicle.recordAll fuel scripts (.opened bank name initial) = result)
    (ended : result.1.raised? ≠ none) (unbroken : isBrokenOff name result.2.history = false) :
    (result.2.channel name).pending = [] :=
  (isCutShort_or_pending_eq_nil fuel scripts bank name initial recorded ended).resolve_left
    fun cutShort => Bool.false_ne_true (unbroken.symm.trans cutShort.isBrokenOff)

/-- Whatever is run from the outside, and whatever observers do, a new channel delivers its values in
order. A recording is what is run, together with its history. -/
theorem delivers_recordAll (fuel : Nat) (scripts : List (Script κ ν ε σ)) (bank : Bank κ ν ε σ)
    (name : κ) (initial : ν) :
    Chronicle.erased (Chronicle.recordAll fuel scripts (.opened bank name initial)) =
        Bank.runAll fuel scripts (bank.start name initial) ∧
      Delivers name (Chronicle.recordAll fuel scripts (.opened bank name initial)) := by
  refine ⟨Chronicle.erased_recordAll fuel scripts _, ?_⟩
  generalize recorded : Chronicle.recordAll fuel scripts (.opened bank name initial) = result
  obtain ⟨last, way, kept, closing⟩ := way_recordAll fuel scripts bank name initial recorded
  exact {
    inOrder := fun split => by
      obtain ⟨now, before, -⟩ := (split ▸ way).exists_of_append
      exact ⟨now.waiting, before.waiting_append.symm⟩
    lossless := fun ended => by
      have queue := way.waiting_append
      rw [closing ended] at queue
      exact queue
    emptied := pending_recordAll fuel scripts bank name initial recorded
    beforehand := List.prefix_nil.mp way.delivered_chapter_prefix
    present := fun split => by
      obtain ⟨before, -, toBefore, -, rfl, -⟩ := (split ▸ way).of_taken
      exact toBefore.present_eq_standing rfl
    atMostOnce := fun split => by
      obtain ⟨-, after, -, toLast, -, due⟩ := (split ▸ way).of_taken
      exact due ▸ toLast.delivered_chapter_prefix
    once := fun split ending unbroken => by
      obtain ⟨-, after, -, toLast, -, due⟩ := (split ▸ way).of_taken
      refine (toLast.delivered_chapter (ending.imp_left fun ended => ?_) unbroken).trans due
      rw [closing ended]
      rfl
    brokenOff := fun split => by
      obtain ⟨before, -, rest⟩ := (split ▸ way).exists_of_append
      cases rest with
      | cons turn toLast =>
        cases turn with
        | answer _ _ quiet => exact absurd rfl ((quiet.resolve_left nofun) _)
        | breakOff => exact List.prefix_nil.mp toLast.delivered_chapter_prefix
        | elsewhere _ away => exact absurd rfl away
    replay := fun split => by
      obtain ⟨before, toBefore, rest⟩ := (split ▸ way).exists_of_append
      cases rest with
      | cons turn _ =>
        cases turn with
        | replay _ promised =>
          have queue := toBefore.promised_append
          rw [promised] at queue
          exact queue
        | elsewhere _ away => exact absurd rfl away
    replayed := by
      have queue := way.promised_append
      rw [kept] at queue
      exact ((List.append_nil _).symm.trans queue.symm)
    current := way.called_current fun _ => nofun }

end

/-! ### Interruptions -/

/-- An observer that is called with `0` when it is subscribed, and quits when it is called again. -/
def quits : Callback Unit Nat String Unit
  | 0 => .finish
  | _ + 1 => .interrupt "quit"

/-- An observer that quits is subscribed before another one, and a value is pushed. -/
def quitting : List (Script Unit Nat String Unit) :=
  [.subscribe () quits fun _ => .finish,
    .subscribe () (fun _ => .finish) fun _ => .finish,
    .push () 1 fun _ => .finish]

/-- A bank in which nothing has happened. -/
def resting : Bank Unit Nat String Unit where
  channels := fun _ => { value := 0 }
  kept := ()

/-- A value need not be delivered to every registration that was present when it was taken: the
observers behind one that quits are not called. -/
theorem exists_undelivered : ¬ ∀ (fuel : Nat) (scripts : List (Script Unit Nat String Unit))
    (bank : Bank Unit Nat String Unit) (initial : Nat) (outcome : Outcome String)
    (after : Chronicle Unit Nat String Unit),
    Chronicle.recordAll fuel scripts (.opened bank () initial) = (outcome, after) →
    outcome.raised? ≠ none → ∀ earlier value present later,
    after.history = earlier ++ .taken () value present :: later →
    deliveredIn () (chapter () later) = deliveries present value := by
  intro always
  have delivered := always 9 quitting resting 0 _ _ rfl nofun
    ((Chronicle.recordAll 9 quitting (.opened resting () 0)).2.history.take 9)
    1 [(0, quits), (1, fun _ => .finish)]
    [.called () (some 0) quits 1 1, .ended () (some 0) (.interrupted "quit")] rfl
  exact absurd (congrArg List.length delivered) (by decide)

end StateContainer
