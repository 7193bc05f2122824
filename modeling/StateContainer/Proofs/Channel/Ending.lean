/-
This file says that the number of steps that a run is given matters only as long as it does not
suffice.

A run that has ended with some steps ends in the same way with more of them, and leaves the same
bank. So two numbers of steps with which a run ends tell the same about it, and a statement about
runs that have ended is one about the calls alone.
-/

import StateContainer.Channel.Run

namespace StateContainer

variable {κ ν ε σ : Type} [DecidableEq κ]

/-- Every part of a run that has ended with some fuel is the same with one more step. -/
structure Lasts (κ ν ε σ : Type) [DecidableEq κ] (fuel : Nat) : Prop where
  script : ∀ {script : Script κ ν ε σ} {bank : Bank κ ν ε σ},
    (Bank.run fuel script bank).1.raised? ≠ none →
      Bank.run (fuel + 1) script bank = Bank.run fuel script bank
  drain : ∀ {name : κ} {first : Option ε} {bank : Bank κ ν ε σ},
    (Bank.drain fuel name first bank).1.raised? ≠ none →
      Bank.drain (fuel + 1) name first bank = Bank.drain fuel name first bank
  deliver : ∀ {value : ν} {observers : List (ν → Script κ ν ε σ)} {first : Option ε}
      {bank : Bank κ ν ε σ},
    (Bank.deliver fuel value observers first bank).1.raised? ≠ none →
      Bank.deliver (fuel + 1) value observers first bank =
        Bank.deliver fuel value observers first bank

theorem Lasts.zero : Lasts κ ν ε σ 0 where
  script ended := absurd rfl ended
  drain ended := absurd rfl ended
  deliver ended := absurd rfl ended

variable {fuel : Nat}

theorem Lasts.script_push (inner : Lasts κ ν ε σ fuel) {name : κ} {value : ν}
    {next : Option (Raised ε) → Script κ ν ε σ} {bank : Bank κ ν ε σ}
    (ended : (Bank.run (fuel + 1) (.push name value next) bank).1.raised? ≠ none) :
    Bank.run (fuel + 1 + 1) (.push name value next) bank =
      Bank.run (fuel + 1) (.push name value next) bank := by
  rw [Bank.run] at ended
  rw [Bank.run, Bank.run]
  by_cases busy : (bank.channels name).delivering
  · rw [if_pos busy] at ended
    rw [if_pos busy, if_pos busy]
    exact inner.script ended
  · rw [if_neg busy] at ended
    rw [if_neg busy, if_neg busy]
    have drained := @inner.drain name none
      ((bank.modify name (·.enqueue value)).modify name (·.mark true))
    generalize Bank.drain fuel name none
      ((bank.modify name (·.enqueue value)).modify name (·.mark true)) = result at drained ended ⊢
    dsimp only at ended
    cases raised : result.1.raised? with
    | none =>
      rw [raised] at ended
      exact absurd rfl ended
    | some what =>
      rw [raised] at ended
      rw [drained (by rw [raised]; exact Option.some_ne_none what)]
      dsimp only
      rw [raised]
      exact inner.script ended

theorem Lasts.script_subscribe (inner : Lasts κ ν ε σ fuel) {name : κ}
    {observer : ν → Script κ ν ε σ} {next : Except (Raised ε) Nat → Script κ ν ε σ}
    {bank : Bank κ ν ε σ}
    (ended : (Bank.run (fuel + 1) (.subscribe name observer next) bank).1.raised? ≠ none) :
    Bank.run (fuel + 1 + 1) (.subscribe name observer next) bank =
      Bank.run (fuel + 1) (.subscribe name observer next) bank := by
  rw [Bank.run] at ended
  rw [Bank.run, Bank.run]
  have replayed := @inner.script (observer (bank.channels name).value) bank
  generalize Bank.run fuel (observer (bank.channels name).value) bank = result at replayed ended ⊢
  dsimp only at ended
  cases raised : result.1.raised? with
  | none =>
    rw [raised] at ended
    exact absurd rfl ended
  | some what =>
    rw [raised] at ended
    rw [replayed (by rw [raised]; exact Option.some_ne_none what)]
    dsimp only
    rw [raised]
    cases what with
    | none => exact inner.script ended
    | some what => exact inner.script ended

theorem Lasts.script_succ (inner : Lasts κ ν ε σ fuel) {script : Script κ ν ε σ}
    {bank : Bank κ ν ε σ} (ended : (Bank.run (fuel + 1) script bank).1.raised? ≠ none) :
    Bank.run (fuel + 1 + 1) script bank = Bank.run (fuel + 1) script bank := by
  cases script with
  | finish => rfl
  | fail error => rfl
  | interrupt error => rfl
  | push name value next => exact inner.script_push ended
  | subscribe name observer next => exact inner.script_subscribe ended
  | dispose name token next => exact inner.script ended
  | read name next => exact inner.script ended
  | consult next => exact inner.script ended
  | update change next => exact inner.script ended

theorem Lasts.drain_succ (inner : Lasts κ ν ε σ fuel) {name : κ} {first : Option ε}
    {bank : Bank κ ν ε σ} (ended : (Bank.drain (fuel + 1) name first bank).1.raised? ≠ none) :
    Bank.drain (fuel + 1 + 1) name first bank = Bank.drain (fuel + 1) name first bank := by
  rw [Bank.drain] at ended
  rw [Bank.drain, Bank.drain]
  cases found : (bank.channels name).take? with
  | none => rfl
  | some next =>
    obtain ⟨value, left⟩ := next
    rw [found] at ended
    have delivered := @inner.deliver value ((bank.channels name).observers.map (·.2)) first
      (bank.modify name fun _ => left)
    dsimp only at ended ⊢
    generalize Bank.deliver fuel value ((bank.channels name).observers.map (·.2)) first
      (bank.modify name fun _ => left) = result at delivered ended ⊢
    obtain ⟨outcome, after⟩ := result
    cases outcome with
    | finished =>
      rw [delivered nofun]
      exact inner.drain ended
    | failed error =>
      rw [delivered nofun]
      exact inner.drain ended
    | interrupted error => rw [delivered nofun]
    | exhausted => exact absurd rfl ended

theorem Lasts.deliver_succ (inner : Lasts κ ν ε σ fuel) {value : ν}
    {observers : List (ν → Script κ ν ε σ)} {first : Option ε} {bank : Bank κ ν ε σ}
    (ended : (Bank.deliver (fuel + 1) value observers first bank).1.raised? ≠ none) :
    Bank.deliver (fuel + 1 + 1) value observers first bank =
      Bank.deliver (fuel + 1) value observers first bank := by
  cases observers with
  | nil => rfl
  | cons observer others =>
    rw [Bank.deliver] at ended
    rw [Bank.deliver, Bank.deliver]
    have called := @inner.script (observer value) bank
    generalize Bank.run fuel (observer value) bank = result at called ended ⊢
    obtain ⟨outcome, after⟩ := result
    cases outcome with
    | finished =>
      rw [called nofun]
      exact inner.deliver ended
    | failed error =>
      rw [called nofun]
      exact inner.deliver ended
    | interrupted error => rw [called nofun]
    | exhausted => exact absurd rfl ended

theorem lasts (fuel : Nat) : Lasts κ ν ε σ fuel := by
  induction fuel with
  | zero => exact .zero
  | succ fuel inner => exact ⟨inner.script_succ, inner.drain_succ, inner.deliver_succ⟩

/-- A script that has ended does the same with more steps. -/
theorem Bank.run_of_le {more : Nat} (enough : fuel ≤ more) {script : Script κ ν ε σ}
    {bank : Bank κ ν ε σ} (ended : (run fuel script bank).1.raised? ≠ none) :
    run more script bank = run fuel script bank := by
  induction enough with
  | refl => rfl
  | @step more enough inductionHypothesis =>
    rw [← inductionHypothesis] at ended ⊢
    exact (lasts more).script ended

/-! ### What a run comes to -/

/-- Whether a part of a run comes to a result when it is given enough steps. -/
def ComesTo (part : Nat → Outcome ε × Bank κ ν ε σ) (result : Outcome ε × Bank κ ν ε σ) : Prop :=
  ∃ least, ∀ steps, least ≤ steps → part steps = result

/-- A script comes to what it has ended with. -/
theorem comesTo_of_ended {script : Script κ ν ε σ} {bank : Bank κ ν ε σ}
    (ended : (Bank.run fuel script bank).1.raised? ≠ none) :
    ComesTo (Bank.run · script bank) (Bank.run fuel script bank) :=
  ⟨fuel, fun _ enough => Bank.run_of_le enough ended⟩

omit [DecidableEq κ] in
/-- A step is made before the rest. -/
theorem ComesTo.step {part rest : Nat → Outcome ε × Bank κ ν ε σ}
    {result : Outcome ε × Bank κ ν ε σ} (comes : ComesTo rest result)
    (first : ∀ steps, part (steps + 1) = rest steps) : ComesTo part result := by
  obtain ⟨least, same⟩ := comes
  refine ⟨least + 1, fun steps enough => ?_⟩
  obtain ⟨steps, rfl⟩ := Nat.exists_eq_add_of_le' (Nat.le_trans (Nat.le_add_left 1 least) enough)
  rw [first, same steps (Nat.le_of_add_le_add_right enough)]

omit [DecidableEq κ] in
/-- A step is made, in which something else comes to a result, before the rest. -/
theorem ComesTo.step_of {part inner rest : Nat → Outcome ε × Bank κ ν ε σ}
    {between result : Outcome ε × Bank κ ν ε σ} (comes : ComesTo inner between)
    (comes' : ComesTo rest result)
    (first : ∀ steps, inner steps = between → part (steps + 1) = rest steps) :
    ComesTo part result := by
  obtain ⟨least, same⟩ := comes
  obtain ⟨least', same'⟩ := comes'
  refine ⟨max least least' + 1, fun steps enough => ?_⟩
  obtain ⟨steps, rfl⟩ :=
    Nat.exists_eq_add_of_le' (Nat.le_trans (Nat.le_add_left 1 (max least least')) enough)
  have enough := Nat.le_of_add_le_add_right enough
  rw [first steps (same steps (Nat.le_trans (Nat.le_max_left least least') enough)),
    same' steps (Nat.le_trans (Nat.le_max_right least least') enough)]

omit [DecidableEq κ] in
/-- What does not depend on the number of steps comes to what it is. -/
theorem comesTo_const (result : Outcome ε × Bank κ ν ε σ) : ComesTo (fun _ => result) result :=
  ⟨0, fun _ _ => rfl⟩

end StateContainer
