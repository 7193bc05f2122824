/-
This file says that a run does not depend on what the calls keep besides what they look at.

Calls may keep more than others and do the same otherwise. What the first ones keep then
shows what the second ones keep: looking away from the rest takes each step of the first run
to the same step of the second one. So something can be written down beside what the calls
keep, and what is proved of the run that is written down holds of the run that is not.

The main statement is that mirrored scripts, run on mirrored banks with the same number of
steps, end alike and leave mirrored banks.
-/

import Mathlib.Data.List.Forall2
import StateContainer.Proofs.Channel.Chronicle

namespace StateContainer

variable {κ ν ε σ τ : Type}

/-! ### Scripts, channels and banks that mirror others -/

/-- Whether one script does what another one does, which sees of what the first one keeps a part
only. Both use no channels but those of an area. -/
inductive Script.Mirrors (view : σ → τ) (area : κ → Prop) :
    Script κ ν ε σ → Script κ ν ε τ → Prop where
  | finish : Mirrors view area .finish .finish
  | fail (error : ε) : Mirrors view area (.fail error) (.fail error)
  | interrupt (error : ε) : Mirrors view area (.interrupt error) (.interrupt error)
  | push {channel : κ} (inside : area channel) (value : ν)
      {next : Option (Raised ε) → Script κ ν ε σ} {next' : Option (Raised ε) → Script κ ν ε τ}
      (rest : ∀ raised, Mirrors view area (next raised) (next' raised)) :
      Mirrors view area (.push channel value next) (.push channel value next')
  | subscribe {channel : κ} (inside : area channel) {observer : Callback κ ν ε σ}
      {observer' : Callback κ ν ε τ}
      (calls : ∀ value, Mirrors view area (observer value) (observer' value))
      {next : Except (Raised ε) Nat → Script κ ν ε σ}
      {next' : Except (Raised ε) Nat → Script κ ν ε τ}
      (rest : ∀ token, Mirrors view area (next token) (next' token)) :
      Mirrors view area (.subscribe channel observer next) (.subscribe channel observer' next')
  | dispose (channel : κ) (token : Nat) {next : Script κ ν ε σ} {next' : Script κ ν ε τ}
      (rest : Mirrors view area next next') :
      Mirrors view area (.dispose channel token next) (.dispose channel token next')
  | read {channel : κ} (inside : area channel) {next : ν → Script κ ν ε σ}
      {next' : ν → Script κ ν ε τ}
      (rest : ∀ value, Mirrors view area (next value) (next' value)) :
      Mirrors view area (.read channel next) (.read channel next')
  | consult {next : σ → Script κ ν ε σ} {next' : τ → Script κ ν ε τ}
      (rest : ∀ kept, Mirrors view area (next kept) (next' (view kept))) :
      Mirrors view area (.consult next) (.consult next')
  | update {change : σ → σ} {change' : τ → τ} (same : ∀ kept, view (change kept) = change' (view kept))
      {next : Script κ ν ε σ} {next' : Script κ ν ε τ} (rest : Mirrors view area next next') :
      Mirrors view area (.update change next) (.update change' next')

/-- Whether one registration mirrors another one. -/
def Registration.Mirrors (view : σ → τ) (area : κ → Prop) (registration : Registration κ ν ε σ)
    (other : Registration κ ν ε τ) : Prop :=
  registration.1 = other.1 ∧
    ∀ value, (registration.2 value).Mirrors view area (other.2 value)

/-- Whether two channels differ at most in what their observers keep. -/
structure Channel.Mirrors (view : σ → τ) (area : κ → Prop) (channel : Channel ν (Callback κ ν ε σ))
    (other : Channel ν (Callback κ ν ε τ)) : Prop where
  value : channel.value = other.value
  observers : List.Forall₂ (Registration.Mirrors view area) channel.observers other.observers
  nextToken : channel.nextToken = other.nextToken
  pending : channel.pending = other.pending
  delivering : channel.delivering = other.delivering

/-- Whether two banks differ, in an area, at most in what the calls keep. -/
structure Bank.Mirrors (view : σ → τ) (area : κ → Prop) (bank : Bank κ ν ε σ)
    (other : Bank κ ν ε τ) : Prop where
  channels : ∀ name, area name → (bank.channels name).Mirrors view area (other.channels name)
  kept : view bank.kept = other.kept
  log : bank.log = other.log

/-- Whether two parts of runs end alike and leave mirrored banks. -/
structure Outcome.Mirrors (view : σ → τ) (area : κ → Prop) (result : Outcome ε × Bank κ ν ε σ)
    (other : Outcome ε × Bank κ ν ε τ) : Prop where
  outcome : result.1 = other.1
  bank : result.2.Mirrors view area other.2

/-! ### Steps -/

section
variable {view : σ → τ} {area : κ → Prop} {channel : Channel ν (Callback κ ν ε σ)}
  {other : Channel ν (Callback κ ν ε τ)}

theorem Channel.Mirrors.enqueue (mirrors : channel.Mirrors view area other) (value : ν) :
    (channel.enqueue value).Mirrors view area (other.enqueue value) :=
  { mirrors with pending := congrArg (· ++ [value]) mirrors.pending }

theorem Channel.Mirrors.mark (mirrors : channel.Mirrors view area other) (delivering : Bool) :
    (channel.mark delivering).Mirrors view area (other.mark delivering) :=
  { mirrors with delivering := rfl }

theorem Channel.Mirrors.register (mirrors : channel.Mirrors view area other)
    {observer : Callback κ ν ε σ} {observer' : Callback κ ν ε τ}
    (calls : ∀ value, (observer value).Mirrors view area (observer' value)) :
    (channel.register observer).Mirrors view area (other.register observer') :=
  { mirrors with
    observers := List.rel_append mirrors.observers
      (.cons ⟨mirrors.nextToken, calls⟩ .nil)
    nextToken := congrArg (· + 1) mirrors.nextToken }

theorem Channel.Mirrors.detach (mirrors : channel.Mirrors view area other) (token : Nat) :
    (channel.detach token).Mirrors view area (other.detach token) := by
  refine { mirrors with observers := List.rel_filter ?_ mirrors.observers }
  intro registration registration' same
  exact iff_of_eq (congrArg (fun own => decide (own ≠ token) = true) same.1)

/-- Both channels have a value to take, or neither does. -/
theorem Channel.Mirrors.take? (mirrors : channel.Mirrors view area other) :
    channel.take? = none ∧ other.take? = none ∨
      ∃ value left left', channel.take? = some (value, left) ∧ other.take? = some (value, left') ∧
        left.Mirrors view area left' := by
  unfold Channel.take?
  rw [mirrors.pending]
  cases other.pending with
  | nil => exact Or.inl ⟨rfl, rfl⟩
  | cons next others =>
    exact Or.inr ⟨next, _, _, rfl, rfl, { mirrors with value := rfl, pending := rfl }⟩

end

section
variable [DecidableEq κ] {view : σ → τ} {area : κ → Prop} {bank : Bank κ ν ε σ}
  {other : Bank κ ν ε τ}

theorem Bank.Mirrors.modify (mirrors : bank.Mirrors view area other) (name : κ)
    (change : Channel ν (Callback κ ν ε σ) → Channel ν (Callback κ ν ε σ))
    (change' : Channel ν (Callback κ ν ε τ) → Channel ν (Callback κ ν ε τ))
    (here : (bank.channels name).Mirrors view area (other.channels name) →
      (change (bank.channels name)).Mirrors view area (change' (other.channels name))) :
    (bank.modify name change).Mirrors view area (other.modify name change') := by
  refine { mirrors with channels := fun name' inside => ?_ }
  rw [Bank.modify, Bank.modify]
  dsimp only
  by_cases same : name' = name
  · subst same
    rw [if_pos rfl, if_pos rfl]
    exact here (mirrors.channels name' inside)
  · rw [if_neg same, if_neg same]
    exact mirrors.channels name' inside

omit [DecidableEq κ] in
theorem Bank.Mirrors.note (mirrors : bank.Mirrors view area other) (first : Option ε) (error : ε) :
    (bank.note first error).1 = (other.note first error).1 ∧
      (bank.note first error).2.Mirrors view area (other.note first error).2 := by
  cases first with
  | none => exact ⟨rfl, mirrors⟩
  | some => exact ⟨rfl, { mirrors with log := congrArg (· ++ [error]) mirrors.log }⟩

end

/-! ### Runs -/

variable [DecidableEq κ] {view : σ → τ} {area : κ → Prop}

/-- Every part of a run with some fuel mirrors the same part of a mirrored run. -/
structure Reflects (ν ε : Type) (view : σ → τ) (area : κ → Prop) (fuel : Nat) : Prop where
  script : ∀ {script : Script κ ν ε σ} {script' : Script κ ν ε τ} {bank : Bank κ ν ε σ}
      {other : Bank κ ν ε τ}, script.Mirrors view area script' → bank.Mirrors view area other →
    Outcome.Mirrors view area (Bank.run fuel script bank) (Bank.run fuel script' other)
  drain : ∀ {name : κ} (first : Option ε) {bank : Bank κ ν ε σ} {other : Bank κ ν ε τ}, area name →
      bank.Mirrors view area other →
    Outcome.Mirrors view area (Bank.drain fuel name first bank) (Bank.drain fuel name first other)
  deliver : ∀ (value : ν) {registrations : List (Registration κ ν ε σ)}
      {registrations' : List (Registration κ ν ε τ)} (first : Option ε) {bank : Bank κ ν ε σ}
      {other : Bank κ ν ε τ},
      List.Forall₂ (Registration.Mirrors view area) registrations registrations' →
      bank.Mirrors view area other →
    Outcome.Mirrors view area (Bank.deliver fuel value (registrations.map (·.2)) first bank)
      (Bank.deliver fuel value (registrations'.map (·.2)) first other)

theorem Reflects.zero : Reflects ν ε view area 0 where
  script _ mirrors := ⟨rfl, mirrors⟩
  drain _ _ _ _ mirrors := ⟨rfl, mirrors⟩
  deliver _ _ _ _ _ _ _ mirrors := ⟨rfl, mirrors⟩

variable {fuel : Nat}

theorem Reflects.script_push (inner : Reflects ν ε view area fuel) {name : κ}
    (inside : area name) (value : ν) {next : Option (Raised ε) → Script κ ν ε σ}
    {next' : Option (Raised ε) → Script κ ν ε τ}
    (rest : ∀ raised, (next raised).Mirrors view area (next' raised)) {bank : Bank κ ν ε σ}
    {other : Bank κ ν ε τ} (mirrors : bank.Mirrors view area other) :
    Outcome.Mirrors view area (Bank.run (fuel + 1) (.push name value next) bank)
      (Bank.run (fuel + 1) (.push name value next') other) := by
  have waiting : (bank.modify name (·.enqueue value)).Mirrors view area
      (other.modify name (·.enqueue value)) :=
    mirrors.modify name (·.enqueue value) (·.enqueue value) fun same => same.enqueue value
  rw [Bank.run, Bank.run, (mirrors.channels name inside).delivering]
  by_cases busy : (other.channels name).delivering
  · rw [if_pos busy, if_pos busy]
    exact inner.script (rest none) waiting
  · rw [if_neg busy, if_neg busy]
    obtain ⟨ending, left⟩ := inner.drain none inside
      (waiting.modify name (·.mark true) (·.mark true) fun same => same.mark true)
    generalize Bank.drain fuel name none
      ((bank.modify name (·.enqueue value)).modify name (·.mark true)) = result at ending left ⊢
    generalize Bank.drain fuel name none
      ((other.modify name (·.enqueue value)).modify name (·.mark true)) = result' at ending left ⊢
    have idle := left.modify name (·.mark false) (·.mark false) fun same => same.mark false
    dsimp only
    rw [ending]
    cases result'.1.raised? with
    | none => exact ⟨rfl, idle⟩
    | some raised => exact inner.script (rest raised) idle

theorem Reflects.script_subscribe (inner : Reflects ν ε view area fuel) {name : κ}
    (inside : area name) {observer : Callback κ ν ε σ} {observer' : Callback κ ν ε τ}
    (calls : ∀ value, (observer value).Mirrors view area (observer' value))
    {next : Except (Raised ε) Nat → Script κ ν ε σ}
    {next' : Except (Raised ε) Nat → Script κ ν ε τ}
    (rest : ∀ token, (next token).Mirrors view area (next' token)) {bank : Bank κ ν ε σ}
    {other : Bank κ ν ε τ} (mirrors : bank.Mirrors view area other) :
    Outcome.Mirrors view area (Bank.run (fuel + 1) (.subscribe name observer next) bank)
      (Bank.run (fuel + 1) (.subscribe name observer' next') other) := by
  rw [Bank.run, Bank.run, (mirrors.channels name inside).value]
  obtain ⟨ending, left⟩ := inner.script (calls (other.channels name).value) mirrors
  generalize Bank.run fuel (observer (other.channels name).value) bank = result at ending left ⊢
  generalize Bank.run fuel (observer' (other.channels name).value) other = result' at ending left ⊢
  dsimp only
  rw [ending]
  cases result'.1.raised? with
  | none => exact ⟨rfl, left⟩
  | some raised =>
    cases raised with
    | none =>
      dsimp only
      rw [(left.channels name inside).nextToken]
      exact inner.script (rest _)
        (left.modify name (·.register observer) (·.register observer') fun same =>
          same.register calls)
    | some raised => exact inner.script (rest _) left

theorem Reflects.script_succ (inner : Reflects ν ε view area fuel) {script : Script κ ν ε σ}
    {script' : Script κ ν ε τ} {bank : Bank κ ν ε σ} {other : Bank κ ν ε τ}
    (same : script.Mirrors view area script') (mirrors : bank.Mirrors view area other) :
    Outcome.Mirrors view area (Bank.run (fuel + 1) script bank)
      (Bank.run (fuel + 1) script' other) := by
  cases same with
  | finish => exact ⟨rfl, mirrors⟩
  | fail error => exact ⟨rfl, mirrors⟩
  | interrupt error => exact ⟨rfl, mirrors⟩
  | push inside value rest => exact inner.script_push inside value rest mirrors
  | subscribe inside calls rest => exact inner.script_subscribe inside calls rest mirrors
  | dispose name token rest =>
    exact inner.script rest
      (mirrors.modify name (·.detach token) (·.detach token) fun same => same.detach token)
  | @read name inside next next' rest =>
    rw [Bank.run, Bank.run, (mirrors.channels name inside).value]
    exact inner.script (rest _) mirrors
  | @consult next next' rest =>
    rw [Bank.run, Bank.run, ← mirrors.kept]
    exact inner.script (rest bank.kept) mirrors
  | @update change change' same next next' rest =>
    refine inner.script rest { mirrors with kept := ?_ }
    exact (same bank.kept).trans (congrArg change' mirrors.kept)

theorem Reflects.drain_succ (inner : Reflects ν ε view area fuel) {name : κ} (first : Option ε)
    {bank : Bank κ ν ε σ} {other : Bank κ ν ε τ} (inside : area name)
    (mirrors : bank.Mirrors view area other) :
    Outcome.Mirrors view area (Bank.drain (fuel + 1) name first bank)
      (Bank.drain (fuel + 1) name first other) := by
  rw [Bank.drain, Bank.drain]
  have here := mirrors.channels name inside
  rcases here.take? with ⟨nothing, nothing'⟩ | ⟨value, left, left', taken, taken', leaves⟩
  · rw [nothing, nothing']
    exact ⟨rfl, mirrors⟩
  · rw [taken, taken']
    dsimp only
    obtain ⟨ending, after⟩ := inner.deliver value first here.observers
      (mirrors.modify name (fun _ => left) (fun _ => left') fun _ => leaves)
    generalize Bank.deliver fuel value ((bank.channels name).observers.map (·.2)) first
      (bank.modify name fun _ => left) = result at ending after ⊢
    generalize Bank.deliver fuel value ((other.channels name).observers.map (·.2)) first
      (other.modify name fun _ => left') = result' at ending after ⊢
    obtain ⟨outcome, bank⟩ := result
    obtain ⟨outcome', other⟩ := result'
    obtain rfl : outcome = outcome' := ending
    cases outcome with
    | finished => exact inner.drain none inside after
    | failed error => exact inner.drain (some error) inside after
    | interrupted error => exact ⟨rfl, after⟩
    | exhausted => exact ⟨rfl, after⟩

theorem Reflects.deliver_succ (inner : Reflects ν ε view area fuel) (value : ν)
    {registrations : List (Registration κ ν ε σ)} {registrations' : List (Registration κ ν ε τ)}
    (first : Option ε) {bank : Bank κ ν ε σ} {other : Bank κ ν ε τ}
    (same : List.Forall₂ (Registration.Mirrors view area) registrations registrations')
    (mirrors : bank.Mirrors view area other) :
    Outcome.Mirrors view area
      (Bank.deliver (fuel + 1) value (registrations.map (·.2)) first bank)
      (Bank.deliver (fuel + 1) value (registrations'.map (·.2)) first other) := by
  cases same with
  | nil => exact ⟨rfl, mirrors⟩
  | @cons registration registration' others others' head rest =>
    rw [List.map_cons, List.map_cons, Bank.deliver, Bank.deliver]
    obtain ⟨ending, after⟩ := inner.script (head.2 value) mirrors
    generalize Bank.run fuel (registration.2 value) bank = result at ending after ⊢
    generalize Bank.run fuel (registration'.2 value) other = result' at ending after ⊢
    obtain ⟨outcome, bank⟩ := result
    obtain ⟨outcome', other⟩ := result'
    obtain rfl : outcome = outcome' := ending
    cases outcome with
    | finished => exact inner.deliver value first rest after
    | failed error =>
      obtain ⟨noted, after⟩ := after.note first error
      dsimp only
      rw [noted]
      exact inner.deliver value _ rest after
    | interrupted error => exact ⟨rfl, after⟩
    | exhausted => exact ⟨rfl, after⟩

theorem reflects (ν ε : Type) (view : σ → τ) (area : κ → Prop) (fuel : Nat) :
    Reflects ν ε view area fuel := by
  induction fuel with
  | zero => exact .zero
  | succ fuel inner => exact ⟨inner.script_succ, inner.drain_succ, inner.deliver_succ⟩

/-- Mirrored scripts that are run one after the other on mirrored banks end alike and leave mirrored
banks. -/
theorem mirrors_runAll (fuel : Nat) {scripts : List (Script κ ν ε σ)}
    {scripts' : List (Script κ ν ε τ)} {bank : Bank κ ν ε σ} {other : Bank κ ν ε τ}
    (same : List.Forall₂ (Script.Mirrors view area) scripts scripts')
    (mirrors : bank.Mirrors view area other) :
    Outcome.Mirrors view area (Bank.runAll fuel scripts bank) (Bank.runAll fuel scripts' other) := by
  induction same generalizing bank other with
  | nil => exact ⟨rfl, mirrors⟩
  | @cons script script' others others' head rest inductionHypothesis =>
    rw [Bank.runAll, Bank.runAll]
    obtain ⟨ending, after⟩ := (reflects ν ε view area fuel).script head mirrors
    generalize Bank.run fuel script bank = result at ending after ⊢
    generalize Bank.run fuel script' other = result' at ending after ⊢
    obtain ⟨outcome, bank⟩ := result
    obtain ⟨outcome', other⟩ := result'
    obtain rfl : outcome = outcome' := ending
    cases outcome with
    | exhausted => exact ⟨rfl, after⟩
    | finished => exact inductionHypothesis after
    | failed error => exact inductionHypothesis after
    | interrupted error => exact inductionHypothesis after

end StateContainer
