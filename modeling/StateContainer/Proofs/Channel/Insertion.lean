/-
This file says that steps which show nothing may be inserted anywhere in a run.

A part of what the calls keep may be hidden from them. Reading a channel, looking at what is kept
and changing the hidden part of it are then silent: a script with more of these steps, in its
observers too, goes on as it would without them. A view tells the part that is not hidden.

The main statements compare a run with another one in which silent steps have been inserted. If one
of the two ends, so does the other one, and they end alike: with the same outcome, the same errors
in the log, the same values in the channels, waiting or not, the same registrations and the same
view of what is kept. The second run may need more steps.
-/

import Mathlib.Data.List.Forall2
import StateContainer.Proofs.Channel.Chronicle
import StateContainer.Proofs.Channel.Ending

namespace StateContainer

variable {κ ν ε σ τ : Type}

/-! ### Scripts, channels and banks with silent steps inserted -/

/-- Whether the second script is the first one with silent steps inserted. -/
inductive Script.Inserts (view : σ → τ) : Script κ ν ε σ → Script κ ν ε σ → Prop where
  | finish : Inserts view .finish .finish
  | fail (error : ε) : Inserts view (.fail error) (.fail error)
  | interrupt (error : ε) : Inserts view (.interrupt error) (.interrupt error)
  | push (channel : κ) (value : ν) {next next' : Option (Raised ε) → Script κ ν ε σ}
      (rest : ∀ raised, Inserts view (next raised) (next' raised)) :
      Inserts view (.push channel value next) (.push channel value next')
  | subscribe (channel : κ) {observer observer' : Callback κ ν ε σ}
      (calls : ∀ value, Inserts view (observer value) (observer' value))
      {next next' : Except (Raised ε) Nat → Script κ ν ε σ}
      (rest : ∀ token, Inserts view (next token) (next' token)) :
      Inserts view (.subscribe channel observer next) (.subscribe channel observer' next')
  | dispose (channel : κ) (token : Nat) {next next' : Script κ ν ε σ}
      (rest : Inserts view next next') :
      Inserts view (.dispose channel token next) (.dispose channel token next')
  | read (channel : κ) {next next' : ν → Script κ ν ε σ}
      (rest : ∀ value, Inserts view (next value) (next' value)) :
      Inserts view (.read channel next) (.read channel next')
  | consult {next next' : σ → Script κ ν ε σ}
      (rest : ∀ kept kept', view kept = view kept' → Inserts view (next kept) (next' kept')) :
      Inserts view (.consult next) (.consult next')
  | update {change change' : σ → σ}
      (same : ∀ kept kept', view kept = view kept' → view (change kept) = view (change' kept'))
      {next next' : Script κ ν ε σ} (rest : Inserts view next next') :
      Inserts view (.update change next) (.update change' next')
  | silentRead (channel : κ) {script : Script κ ν ε σ} {next' : ν → Script κ ν ε σ}
      (rest : ∀ value, Inserts view script (next' value)) :
      Inserts view script (.read channel next')
  | silentConsult {script : Script κ ν ε σ} {next' : σ → Script κ ν ε σ}
      (rest : ∀ kept, Inserts view script (next' kept)) : Inserts view script (.consult next')
  | silentUpdate {change : σ → σ} (hidden : ∀ kept, view (change kept) = view kept)
      {script next' : Script κ ν ε σ} (rest : Inserts view script next') :
      Inserts view script (.update change next')

/-- Whether two registrations differ in silent steps. -/
def Registration.Inserts (view : σ → τ) (registration other : Registration κ ν ε σ) : Prop :=
  registration.1 = other.1 ∧ ∀ value, (registration.2 value).Inserts view (other.2 value)

/-- Whether two channels differ at most in the silent steps of their observers. -/
structure Channel.Inserts (view : σ → τ) (channel other : Channel ν (Callback κ ν ε σ)) : Prop where
  value : channel.value = other.value
  observers : List.Forall₂ (Registration.Inserts view) channel.observers other.observers
  nextToken : channel.nextToken = other.nextToken
  pending : channel.pending = other.pending
  delivering : channel.delivering = other.delivering

/-- Whether two banks differ at most in the silent steps of their observers and in what is hidden of
what the calls keep. -/
structure Bank.Inserts (view : σ → τ) (bank other : Bank κ ν ε σ) : Prop where
  channels : ∀ name, (bank.channels name).Inserts view (other.channels name)
  kept : view bank.kept = view other.kept
  log : bank.log = other.log

/-- Whether two parts of runs end alike and leave banks that differ at most so. -/
structure Outcome.Inserts (view : σ → τ) (result other : Outcome ε × Bank κ ν ε σ) : Prop where
  outcome : result.1 = other.1
  bank : result.2.Inserts view other.2

/-! ### Steps -/

section
variable {view : σ → τ} {channel other : Channel ν (Callback κ ν ε σ)}

theorem Channel.Inserts.enqueue (inserts : channel.Inserts view other) (value : ν) :
    (channel.enqueue value).Inserts view (other.enqueue value) :=
  { inserts with pending := congrArg (· ++ [value]) inserts.pending }

theorem Channel.Inserts.mark (inserts : channel.Inserts view other) (delivering : Bool) :
    (channel.mark delivering).Inserts view (other.mark delivering) :=
  { inserts with delivering := rfl }

theorem Channel.Inserts.register (inserts : channel.Inserts view other)
    {observer observer' : Callback κ ν ε σ}
    (calls : ∀ value, (observer value).Inserts view (observer' value)) :
    (channel.register observer).Inserts view (other.register observer') :=
  { inserts with
    observers := List.rel_append inserts.observers (.cons ⟨inserts.nextToken, calls⟩ .nil)
    nextToken := congrArg (· + 1) inserts.nextToken }

theorem Channel.Inserts.detach (inserts : channel.Inserts view other) (token : Nat) :
    (channel.detach token).Inserts view (other.detach token) := by
  refine { inserts with observers := List.rel_filter ?_ inserts.observers }
  intro registration registration' same
  exact iff_of_eq (congrArg (fun own => decide (own ≠ token) = true) same.1)

/-- Both channels have a value to take, or neither does. -/
theorem Channel.Inserts.take? (inserts : channel.Inserts view other) :
    channel.take? = none ∧ other.take? = none ∨
      ∃ value left left', channel.take? = some (value, left) ∧ other.take? = some (value, left') ∧
        left.Inserts view left' := by
  unfold Channel.take?
  rw [inserts.pending]
  cases other.pending with
  | nil => exact Or.inl ⟨rfl, rfl⟩
  | cons next others =>
    exact Or.inr ⟨next, _, _, rfl, rfl, { inserts with value := rfl, pending := rfl }⟩

end

section
variable [DecidableEq κ] {view : σ → τ} {bank other : Bank κ ν ε σ}

theorem Bank.Inserts.modify (inserts : bank.Inserts view other) (name : κ)
    (change change' : Channel ν (Callback κ ν ε σ) → Channel ν (Callback κ ν ε σ))
    (here : (bank.channels name).Inserts view (other.channels name) →
      (change (bank.channels name)).Inserts view (change' (other.channels name))) :
    (bank.modify name change).Inserts view (other.modify name change') := by
  refine { inserts with channels := fun name' => ?_ }
  rw [Bank.modify, Bank.modify]
  dsimp only
  by_cases same : name' = name
  · subst same
    rw [if_pos rfl, if_pos rfl]
    exact here (inserts.channels name')
  · rw [if_neg same, if_neg same]
    exact inserts.channels name'

/-- A push lets its value wait in both banks. -/
theorem Bank.Inserts.enqueue (inserts : bank.Inserts view other) (name : κ) (value : ν) :
    (bank.modify name (·.enqueue value)).Inserts view (other.modify name (·.enqueue value)) :=
  inserts.modify name (·.enqueue value) (·.enqueue value) fun same => same.enqueue value

theorem Bank.Inserts.mark (inserts : bank.Inserts view other) (name : κ) (delivering : Bool) :
    (bank.modify name (·.mark delivering)).Inserts view (other.modify name (·.mark delivering)) :=
  inserts.modify name (·.mark delivering) (·.mark delivering) fun same => same.mark delivering

omit [DecidableEq κ] in
theorem Bank.Inserts.note (inserts : bank.Inserts view other) (first : Option ε) (error : ε) :
    (bank.note first error).1 = (other.note first error).1 ∧
      (bank.note first error).2.Inserts view (other.note first error).2 := by
  cases first with
  | none => exact ⟨rfl, inserts⟩
  | some => exact ⟨rfl, { inserts with log := congrArg (· ++ [error]) inserts.log }⟩

omit [DecidableEq κ] in
/-- A change of what is hidden shows nothing. -/
theorem Bank.Inserts.hide (inserts : bank.Inserts view other) {change : σ → σ}
    (hidden : ∀ kept, view (change kept) = view kept) : bank.Inserts view (other.keep change) :=
  { inserts with kept := inserts.kept.trans (hidden other.kept).symm }

end

/-! ### Taking silent steps out -/

variable [DecidableEq κ] {view : σ → τ}

/-- Every part of a run with some fuel that has ended ends alike without its silent steps. -/
structure Omits (κ ν ε : Type) [DecidableEq κ] (view : σ → τ) (fuel : Nat) : Prop where
  script : ∀ {script script' : Script κ ν ε σ} {bank other : Bank κ ν ε σ},
    script.Inserts view script' → bank.Inserts view other →
    (Bank.run fuel script' other).1.raised? ≠ none →
    Outcome.Inserts view (Bank.run fuel script bank) (Bank.run fuel script' other)
  drain : ∀ (name : κ) (first : Option ε) {bank other : Bank κ ν ε σ}, bank.Inserts view other →
    (Bank.drain fuel name first other).1.raised? ≠ none →
    Outcome.Inserts view (Bank.drain fuel name first bank) (Bank.drain fuel name first other)
  deliver : ∀ (value : ν) {registrations registrations' : List (Registration κ ν ε σ)}
      (first : Option ε) {bank other : Bank κ ν ε σ},
      List.Forall₂ (Registration.Inserts view) registrations registrations' →
      bank.Inserts view other →
    (Bank.deliver fuel value (registrations'.map (·.2)) first other).1.raised? ≠ none →
    Outcome.Inserts view (Bank.deliver fuel value (registrations.map (·.2)) first bank)
      (Bank.deliver fuel value (registrations'.map (·.2)) first other)

theorem Omits.zero : Omits κ ν ε view 0 where
  script _ _ ended := absurd rfl ended
  drain _ _ _ _ _ ended := absurd rfl ended
  deliver _ _ _ _ _ _ _ _ ended := absurd rfl ended

variable {fuel : Nat}

theorem Omits.script_push (inner : Omits κ ν ε view fuel) (name : κ) (value : ν)
    {next next' : Option (Raised ε) → Script κ ν ε σ}
    (rest : ∀ raised, (next raised).Inserts view (next' raised)) {bank other : Bank κ ν ε σ}
    (inserts : bank.Inserts view other)
    (ended : (Bank.run (fuel + 1) (.push name value next') other).1.raised? ≠ none) :
    Outcome.Inserts view (Bank.run (fuel + 1) (.push name value next) bank)
      (Bank.run (fuel + 1) (.push name value next') other) := by
  rw [Bank.run] at ended
  rw [Bank.run, Bank.run, (inserts.channels name).delivering]
  by_cases busy : (other.channels name).delivering
  · rw [if_pos busy] at ended
    rw [if_pos busy, if_pos busy]
    exact inner.script (rest none) (inserts.enqueue name value) ended
  · rw [if_neg busy] at ended
    rw [if_neg busy, if_neg busy]
    have drained := inner.drain name none ((inserts.enqueue name value).mark name true)
    generalize Bank.drain fuel name none
      ((bank.modify name (·.enqueue value)).modify name (·.mark true)) = result at drained ⊢
    generalize Bank.drain fuel name none
      ((other.modify name (·.enqueue value)).modify name (·.mark true)) = result'
      at drained ended ⊢
    dsimp only at ended ⊢
    cases raised : result'.1.raised? with
    | none =>
      rw [raised] at ended
      exact absurd rfl ended
    | some what =>
      rw [raised] at ended
      obtain ⟨ending, left⟩ := drained (by rw [raised]; exact Option.some_ne_none _)
      rw [ending, raised]
      exact inner.script (rest what) (left.mark name false) ended

theorem Omits.script_subscribe (inner : Omits κ ν ε view fuel) (name : κ)
    {observer observer' : Callback κ ν ε σ}
    (calls : ∀ value, (observer value).Inserts view (observer' value))
    {next next' : Except (Raised ε) Nat → Script κ ν ε σ}
    (rest : ∀ token, (next token).Inserts view (next' token)) {bank other : Bank κ ν ε σ}
    (inserts : bank.Inserts view other)
    (ended : (Bank.run (fuel + 1) (.subscribe name observer' next') other).1.raised? ≠ none) :
    Outcome.Inserts view (Bank.run (fuel + 1) (.subscribe name observer next) bank)
      (Bank.run (fuel + 1) (.subscribe name observer' next') other) := by
  rw [Bank.run] at ended
  rw [Bank.run, Bank.run, (inserts.channels name).value]
  have replayed := inner.script (calls (other.channels name).value) inserts
  generalize Bank.run fuel (observer (other.channels name).value) bank = result at replayed ⊢
  generalize Bank.run fuel (observer' (other.channels name).value) other = result'
    at replayed ended ⊢
  dsimp only at ended ⊢
  cases raised : result'.1.raised? with
  | none =>
    rw [raised] at ended
    exact absurd rfl ended
  | some what =>
    rw [raised] at ended
    obtain ⟨ending, left⟩ := replayed (by rw [raised]; exact Option.some_ne_none _)
    rw [ending, raised]
    cases what with
    | none =>
      dsimp only
      rw [(left.channels name).nextToken]
      exact inner.script (rest _) 
        (left.modify name (·.register observer) (·.register observer') fun same =>
          same.register calls) ended
    | some what => exact inner.script (rest _) left ended

/-- Without a silent step that comes first, there is a step to spare. -/
theorem Outcome.Inserts.spare {script : Script κ ν ε σ} {bank : Bank κ ν ε σ}
    {result : Outcome ε × Bank κ ν ε σ}
    (same : Outcome.Inserts view (Bank.run fuel script bank) result)
    (ended : result.1.raised? ≠ none) :
    Outcome.Inserts view (Bank.run (fuel + 1) script bank) result := by
  rw [← same.outcome] at ended
  rw [(lasts fuel).script ended]
  exact same

theorem Omits.script_succ (inner : Omits κ ν ε view fuel) {script script' : Script κ ν ε σ}
    {bank other : Bank κ ν ε σ} (same : script.Inserts view script')
    (inserts : bank.Inserts view other)
    (ended : (Bank.run (fuel + 1) script' other).1.raised? ≠ none) :
    Outcome.Inserts view (Bank.run (fuel + 1) script bank)
      (Bank.run (fuel + 1) script' other) := by
  cases same with
  | finish => exact ⟨rfl, inserts⟩
  | fail error => exact ⟨rfl, inserts⟩
  | interrupt error => exact ⟨rfl, inserts⟩
  | push name value rest => exact inner.script_push name value rest inserts ended
  | subscribe name calls rest => exact inner.script_subscribe name calls rest inserts ended
  | dispose name token rest =>
    exact inner.script rest
      (inserts.modify name (·.detach token) (·.detach token) fun same => same.detach token) ended
  | read name rest =>
    rw [Bank.run] at ended
    rw [Bank.run, Bank.run, (inserts.channels name).value]
    exact inner.script (rest _) inserts ended
  | consult rest => exact inner.script (rest _ _ inserts.kept) inserts ended
  | update same rest =>
    exact inner.script rest { inserts with kept := same _ _ inserts.kept } ended
  | silentRead name rest => exact .spare (inner.script (rest _) inserts ended) ended
  | silentConsult rest => exact .spare (inner.script (rest _) inserts ended) ended
  | silentUpdate hidden rest =>
    exact .spare (inner.script rest (inserts.hide hidden) ended) ended

theorem Omits.drain_succ (inner : Omits κ ν ε view fuel) (name : κ) (first : Option ε)
    {bank other : Bank κ ν ε σ} (inserts : bank.Inserts view other)
    (ended : (Bank.drain (fuel + 1) name first other).1.raised? ≠ none) :
    Outcome.Inserts view (Bank.drain (fuel + 1) name first bank)
      (Bank.drain (fuel + 1) name first other) := by
  rw [Bank.drain] at ended
  rw [Bank.drain, Bank.drain]
  have here := inserts.channels name
  rcases here.take? with ⟨nothing, nothing'⟩ | ⟨value, left, left', taken, taken', leaves⟩
  · rw [nothing, nothing']
    exact ⟨rfl, inserts⟩
  · rw [taken'] at ended
    rw [taken, taken']
    dsimp only at ended ⊢
    have delivered := inner.deliver value first here.observers
      (inserts.modify name (fun _ => left) (fun _ => left') fun _ => leaves)
    generalize Bank.deliver fuel value ((bank.channels name).observers.map (·.2)) first
      (bank.modify name fun _ => left) = result at delivered ⊢
    generalize Bank.deliver fuel value ((other.channels name).observers.map (·.2)) first
      (other.modify name fun _ => left') = result' at delivered ended ⊢
    obtain ⟨outcome, bank⟩ := result
    obtain ⟨outcome', other⟩ := result'
    cases outcome' with
    | finished =>
      obtain ⟨ending, after⟩ := delivered (Option.some_ne_none _)
      obtain rfl : outcome = .finished := ending
      exact inner.drain name none after ended
    | failed error =>
      obtain ⟨ending, after⟩ := delivered (Option.some_ne_none _)
      obtain rfl : outcome = .failed error := ending
      exact inner.drain name (some error) after ended
    | interrupted error =>
      obtain ⟨ending, after⟩ := delivered (Option.some_ne_none _)
      obtain rfl : outcome = .interrupted error := ending
      exact ⟨rfl, after⟩
    | exhausted => exact absurd rfl ended

theorem Omits.deliver_succ (inner : Omits κ ν ε view fuel) (value : ν)
    {registrations registrations' : List (Registration κ ν ε σ)} (first : Option ε)
    {bank other : Bank κ ν ε σ}
    (same : List.Forall₂ (Registration.Inserts view) registrations registrations')
    (inserts : bank.Inserts view other)
    (ended : (Bank.deliver (fuel + 1) value (registrations'.map (·.2)) first other).1.raised? ≠
      none) :
    Outcome.Inserts view (Bank.deliver (fuel + 1) value (registrations.map (·.2)) first bank)
      (Bank.deliver (fuel + 1) value (registrations'.map (·.2)) first other) := by
  cases same with
  | nil => exact ⟨rfl, inserts⟩
  | @cons registration registration' others others' head rest =>
    rw [List.map_cons, Bank.deliver] at ended
    rw [List.map_cons, List.map_cons, Bank.deliver, Bank.deliver]
    have called := inner.script (head.2 value) inserts
    generalize Bank.run fuel (registration.2 value) bank = result at called ⊢
    generalize Bank.run fuel (registration'.2 value) other = result' at called ended ⊢
    obtain ⟨outcome, bank⟩ := result
    obtain ⟨outcome', other⟩ := result'
    cases outcome' with
    | finished =>
      obtain ⟨ending, after⟩ := called (Option.some_ne_none _)
      obtain rfl : outcome = .finished := ending
      exact inner.deliver value first rest after ended
    | failed error =>
      obtain ⟨ending, after⟩ := called (Option.some_ne_none _)
      obtain rfl : outcome = .failed error := ending
      obtain ⟨noted, after⟩ := after.note first error
      dsimp only at ended ⊢
      rw [noted]
      exact inner.deliver value _ rest after ended
    | interrupted error =>
      obtain ⟨ending, after⟩ := called (Option.some_ne_none _)
      obtain rfl : outcome = .interrupted error := ending
      exact ⟨rfl, after⟩
    | exhausted => exact absurd rfl ended

theorem omits (fuel : Nat) : Omits κ ν ε view fuel := by
  induction fuel with
  | zero => exact .zero
  | succ fuel inner => exact ⟨inner.script_succ, inner.drain_succ, inner.deliver_succ⟩

/-! ### Putting silent steps in -/

/-- Whether a part of a run comes to a result that differs from another one at most in silent steps
and in what is hidden. -/
def Attains (view : σ → τ) (result : Outcome ε × Bank κ ν ε σ)
    (part : Nat → Outcome ε × Bank κ ν ε σ) : Prop :=
  ∃ result', ComesTo part result' ∧ Outcome.Inserts view result result'

/-- Every part of a run with some fuel that has ended ends alike with silent steps, if there are
enough steps for them. -/
structure AllowsInsertion (κ ν ε : Type) [DecidableEq κ] (view : σ → τ) (fuel : Nat) : Prop where
  script : ∀ {script script' : Script κ ν ε σ} {bank other : Bank κ ν ε σ},
    script.Inserts view script' → bank.Inserts view other →
    (Bank.run fuel script bank).1.raised? ≠ none →
    Attains view (Bank.run fuel script bank) (Bank.run · script' other)
  drain : ∀ (name : κ) (first : Option ε) {bank other : Bank κ ν ε σ}, bank.Inserts view other →
    (Bank.drain fuel name first bank).1.raised? ≠ none →
    Attains view (Bank.drain fuel name first bank) (Bank.drain · name first other)
  deliver : ∀ (value : ν) {registrations registrations' : List (Registration κ ν ε σ)}
      (first : Option ε) {bank other : Bank κ ν ε σ},
      List.Forall₂ (Registration.Inserts view) registrations registrations' →
      bank.Inserts view other →
    (Bank.deliver fuel value (registrations.map (·.2)) first bank).1.raised? ≠ none →
    Attains view (Bank.deliver fuel value (registrations.map (·.2)) first bank)
      (Bank.deliver · value (registrations'.map (·.2)) first other)

theorem AllowsInsertion.zero : AllowsInsertion κ ν ε view 0 where
  script _ _ ended := absurd rfl ended
  drain _ _ _ _ _ ended := absurd rfl ended
  deliver _ _ _ _ _ _ _ _ ended := absurd rfl ended

omit [DecidableEq κ] in
theorem Attains.step {result : Outcome ε × Bank κ ν ε σ}
    {part rest : Nat → Outcome ε × Bank κ ν ε σ} (attains : Attains view result rest)
    (first : ∀ steps, part (steps + 1) = rest steps) : Attains view result part := by
  obtain ⟨result', comes, same⟩ := attains
  exact ⟨result', comes.step first, same⟩

omit [DecidableEq κ] in
theorem Attains.step_of {result between : Outcome ε × Bank κ ν ε σ}
    {part inner rest : Nat → Outcome ε × Bank κ ν ε σ} (comes : ComesTo inner between)
    (attains : Attains view result rest)
    (first : ∀ steps, inner steps = between → part (steps + 1) = rest steps) :
    Attains view result part := by
  obtain ⟨result', comes', same⟩ := attains
  exact ⟨result', comes.step_of comes' first, same⟩

omit [DecidableEq κ] in
theorem Attains.last {outcome : Outcome ε} {bank other : Bank κ ν ε σ}
    {part : Nat → Outcome ε × Bank κ ν ε σ} (inserts : bank.Inserts view other)
    (first : ∀ steps, part (steps + 1) = (outcome, other)) : Attains view (outcome, bank) part :=
  ⟨_, (comesTo_const _).step first, rfl, inserts⟩

omit [DecidableEq κ] in
theorem Attains.last_of {outcome : Outcome ε} {bank other : Bank κ ν ε σ}
    {between : Outcome ε × Bank κ ν ε σ} {part inner : Nat → Outcome ε × Bank κ ν ε σ}
    (comes : ComesTo inner between) (inserts : bank.Inserts view other)
    (first : ∀ steps, inner steps = between → part (steps + 1) = (outcome, other)) :
    Attains view (outcome, bank) part :=
  ⟨_, comes.step_of (comesTo_const _) first, rfl, inserts⟩

theorem AllowsInsertion.script_push (inner : AllowsInsertion κ ν ε view fuel) (name : κ) (value : ν)
    {next next' : Option (Raised ε) → Script κ ν ε σ}
    (rest : ∀ raised, (next raised).Inserts view (next' raised)) {bank other : Bank κ ν ε σ}
    (inserts : bank.Inserts view other)
    (ended : (Bank.run (fuel + 1) (.push name value next) bank).1.raised? ≠ none) :
    Attains view (Bank.run (fuel + 1) (.push name value next) bank)
      (Bank.run · (.push name value next') other) := by
  rw [Bank.run] at ended ⊢
  rw [(inserts.channels name).delivering] at ended ⊢
  by_cases busy : (other.channels name).delivering
  · rw [if_pos busy] at ended ⊢
    refine (inner.script (rest none) (inserts.enqueue name value) ended).step fun steps => ?_
    rw [Bank.run, if_pos busy]
  · rw [if_neg busy] at ended ⊢
    have drained := inner.drain name none ((inserts.enqueue name value).mark name true)
    generalize Bank.drain fuel name none
      ((bank.modify name (·.enqueue value)).modify name (·.mark true)) = result
      at drained ended ⊢
    dsimp only at ended ⊢
    cases raised : result.1.raised? with
    | none =>
      rw [raised] at ended
      exact absurd rfl ended
    | some what =>
      rw [raised] at ended
      obtain ⟨between, comes, ending, left⟩ := drained (by rw [raised]; exact Option.some_ne_none _)
      refine Attains.step_of comes (inner.script (rest what) (left.mark name false) ended)
        fun steps same => ?_
      rw [Bank.run, if_neg busy, same]
      dsimp only
      rw [← ending, raised]

theorem AllowsInsertion.script_subscribe (inner : AllowsInsertion κ ν ε view fuel) (name : κ)
    {observer observer' : Callback κ ν ε σ}
    (calls : ∀ value, (observer value).Inserts view (observer' value))
    {next next' : Except (Raised ε) Nat → Script κ ν ε σ}
    (rest : ∀ token, (next token).Inserts view (next' token)) {bank other : Bank κ ν ε σ}
    (inserts : bank.Inserts view other)
    (ended : (Bank.run (fuel + 1) (.subscribe name observer next) bank).1.raised? ≠ none) :
    Attains view (Bank.run (fuel + 1) (.subscribe name observer next) bank)
      (Bank.run · (.subscribe name observer' next') other) := by
  rw [Bank.run, (inserts.channels name).value] at ended ⊢
  have replayed := inner.script (calls (other.channels name).value) inserts
  generalize Bank.run fuel (observer (other.channels name).value) bank = result at replayed ended ⊢
  dsimp only at ended ⊢
  cases raised : result.1.raised? with
  | none =>
    rw [raised] at ended
    exact absurd rfl ended
  | some what =>
    rw [raised] at ended
    obtain ⟨between, comes, ending, left⟩ := replayed (by rw [raised]; exact Option.some_ne_none _)
    cases what with
    | none =>
      dsimp only at ended ⊢
      rw [(left.channels name).nextToken] at ended ⊢
      have registered := left.modify name (·.register observer) (·.register observer') fun same =>
        same.register calls
      refine Attains.step_of comes (inner.script (rest _) registered ended) fun steps same => ?_
      rw [Bank.run, same]
      dsimp only
      rw [← ending, raised]
    | some what =>
      refine Attains.step_of comes (inner.script (rest _) left ended) fun steps same => ?_
      rw [Bank.run, same]
      dsimp only
      rw [← ending, raised]

theorem AllowsInsertion.script_succ (inner : AllowsInsertion κ ν ε view fuel)
    {script script' : Script κ ν ε σ}
    {bank other : Bank κ ν ε σ} (same : script.Inserts view script')
    (inserts : bank.Inserts view other)
    (ended : (Bank.run (fuel + 1) script bank).1.raised? ≠ none) :
    Attains view (Bank.run (fuel + 1) script bank) (Bank.run · script' other) := by
  -- Each silent step takes one more step, and finitely many of them come before the next other one.
  induction same generalizing other with
  | finish => exact Attains.last inserts fun _ => rfl
  | fail error => exact Attains.last inserts fun _ => rfl
  | interrupt error => exact Attains.last inserts fun _ => rfl
  | push name value rest => exact inner.script_push name value rest inserts ended
  | subscribe name calls rest => exact inner.script_subscribe name calls rest inserts ended
  | dispose name token rest =>
    have detached := inserts.modify name (·.detach token) (·.detach token) fun same =>
      same.detach token
    exact (inner.script rest detached ended).step fun _ => rfl
  | read name rest =>
    rw [Bank.run, (inserts.channels name).value] at ended ⊢
    exact (inner.script (rest _) inserts ended).step fun _ => rfl
  | consult rest => exact (inner.script (rest _ _ inserts.kept) inserts ended).step fun _ => rfl
  | @update change change' same _ _ rest =>
    have updated : (bank.keep change).Inserts view (other.keep change') :=
      { inserts with kept := same _ _ inserts.kept }
    exact (inner.script rest updated ended).step fun _ => rfl
  | silentRead name rest inductionHypothesis =>
    exact (inductionHypothesis _ inserts ended).step fun _ => rfl
  | silentConsult rest inductionHypothesis =>
    exact (inductionHypothesis _ inserts ended).step fun _ => rfl
  | silentUpdate hidden rest inductionHypothesis =>
    exact (inductionHypothesis (inserts.hide hidden) ended).step fun _ => rfl

theorem AllowsInsertion.drain_succ (inner : AllowsInsertion κ ν ε view fuel) (name : κ) (first : Option ε)
    {bank other : Bank κ ν ε σ} (inserts : bank.Inserts view other)
    (ended : (Bank.drain (fuel + 1) name first bank).1.raised? ≠ none) :
    Attains view (Bank.drain (fuel + 1) name first bank) (Bank.drain · name first other) := by
  rw [Bank.drain] at ended ⊢
  have here := inserts.channels name
  rcases here.take? with ⟨nothing, nothing'⟩ | ⟨value, left, left', taken, taken', leaves⟩
  · rw [nothing]
    refine Attains.last inserts fun steps => ?_
    rw [Bank.drain, nothing']
  · rw [taken] at ended ⊢
    dsimp only at ended ⊢
    have delivered := inner.deliver value first here.observers
      (inserts.modify name (fun _ => left) (fun _ => left') fun _ => leaves)
    generalize Bank.deliver fuel value ((bank.channels name).observers.map (·.2)) first
      (bank.modify name fun _ => left) = result at delivered ended ⊢
    obtain ⟨outcome, bank⟩ := result
    cases outcome with
    | exhausted => exact absurd rfl ended
    | finished =>
      obtain ⟨⟨_, after⟩, comes, rfl, inserts⟩ := delivered (Option.some_ne_none _)
      refine Attains.step_of comes (inner.drain name none inserts ended) fun steps same => ?_
      rw [Bank.drain, taken']
      dsimp only
      rw [same]
    | failed error =>
      obtain ⟨⟨_, after⟩, comes, rfl, inserts⟩ := delivered (Option.some_ne_none _)
      refine Attains.step_of comes (inner.drain name (some error) inserts ended)
        fun steps same => ?_
      rw [Bank.drain, taken']
      dsimp only
      rw [same]
    | interrupted error =>
      obtain ⟨⟨_, after⟩, comes, rfl, inserts⟩ := delivered (Option.some_ne_none _)
      refine Attains.last_of comes inserts fun steps same => ?_
      rw [Bank.drain, taken']
      dsimp only
      rw [same]

theorem AllowsInsertion.deliver_succ (inner : AllowsInsertion κ ν ε view fuel) (value : ν)
    {registrations registrations' : List (Registration κ ν ε σ)} (first : Option ε)
    {bank other : Bank κ ν ε σ}
    (same : List.Forall₂ (Registration.Inserts view) registrations registrations')
    (inserts : bank.Inserts view other)
    (ended : (Bank.deliver (fuel + 1) value (registrations.map (·.2)) first bank).1.raised? ≠
      none) :
    Attains view (Bank.deliver (fuel + 1) value (registrations.map (·.2)) first bank)
      (Bank.deliver · value (registrations'.map (·.2)) first other) := by
  cases same with
  | nil => exact Attains.last inserts fun _ => rfl
  | @cons registration registration' others others' head rest =>
    rw [List.map_cons, Bank.deliver] at ended ⊢
    have called := inner.script (head.2 value) inserts
    generalize Bank.run fuel (registration.2 value) bank = result at called ended ⊢
    obtain ⟨outcome, bank⟩ := result
    cases outcome with
    | exhausted => exact absurd rfl ended
    | finished =>
      obtain ⟨⟨_, after⟩, comes, rfl, inserts⟩ := called (Option.some_ne_none _)
      refine Attains.step_of comes (inner.deliver value first rest inserts ended)
        fun steps same => ?_
      rw [List.map_cons, Bank.deliver, same]
    | failed error =>
      obtain ⟨⟨_, after⟩, comes, rfl, inserts⟩ := called (Option.some_ne_none _)
      obtain ⟨noted, inserts⟩ := inserts.note first error
      dsimp only at ended ⊢
      refine Attains.step_of comes (inner.deliver value _ rest inserts ended) fun steps same => ?_
      rw [List.map_cons, Bank.deliver, same]
      dsimp only
      rw [noted]
    | interrupted error =>
      obtain ⟨⟨_, after⟩, comes, rfl, inserts⟩ := called (Option.some_ne_none _)
      refine Attains.last_of comes inserts fun steps same => ?_
      rw [List.map_cons, Bank.deliver, same]

theorem allowsInsertion (fuel : Nat) : AllowsInsertion κ ν ε view fuel := by
  induction fuel with
  | zero => exact .zero
  | succ fuel inner => exact ⟨inner.script_succ, inner.drain_succ, inner.deliver_succ⟩

end StateContainer
