/-
This file keeps the accounts of the registrations of a channel.

A history says which registrations were made and which of them were disposed. Every registration has a
token of its own, since tokens are given away in order; those that were made and not disposed are present,
in the order in which they were made; and disposing one of them removes it and nothing else. This is so at
every moment of every run, whoever subscribes and disposes, and also inside of replays and deliveries.
-/

import Mathlib.Data.List.Basic
import StateContainer.Proofs.Channel.Stepping

namespace StateContainer

variable {κ ν ε σ : Type}

/-! ### Registrations and disposals in histories -/

/-- The registration that is made. -/
def Happening.registration? : Happening κ ν ε σ → Option (Registration κ ν ε σ)
  | .registered _ token observer _ _ => some (token, observer)
  | _ => none

section
variable [DecidableEq κ]

/-- The registrations that were made in a channel, in order. -/
def registrationsIn (name : κ) (history : History κ ν ε σ) : List (Registration κ ν ε σ) :=
  found name Happening.registration? history

/-- Whether a token is disposed in a channel. -/
def Happening.disposes (name : κ) (token : Nat) : Happening κ ν ε σ → Bool
  | .detached other disposed => other = name && disposed = token
  | _ => false

/-- Whether the registration of a token was disposed after it had been made. -/
def isDisposed (name : κ) (token : Nat) : History κ ν ε σ → Bool
  | [] => false
  | happening :: later =>
    ((registrationsIn name [happening]).any (·.1 = token) && later.any (·.disposes name token)) ||
      isDisposed name token later

/-- The registrations of a channel that were not disposed. -/
def undisposed (name : κ) (history : History κ ν ε σ) : List (Registration κ ν ε σ) :=
  (registrationsIn name history).filter fun registration => !isDisposed name registration.1 history

/-- Whether something has to do with the registrations of a channel. -/
def Happening.touches (name : κ) : Happening κ ν ε σ → Bool
  | .registered other _ _ _ _ => other = name
  | .detached other _ => other = name
  | .taken other _ _ => other = name
  | _ => false

variable {name : κ} {token : Nat} {history added : History κ ν ε σ} {happening : Happening κ ν ε σ}

theorem registrationsIn_concat (history : History κ ν ε σ) (happening : Happening κ ν ε σ) :
    registrationsIn name (history ++ [happening]) =
      registrationsIn name history ++ registrationsIn name [happening] :=
  found_append history [happening]

/-- What is no registration adds none. -/
theorem registrationsIn_concat_of_none (history : History κ ν ε σ)
    (other : happening.registration? = none) :
    registrationsIn name (history ++ [happening]) = registrationsIn name history := by
  have nothing : registrationsIn name [happening] = [] := by
    rw [registrationsIn, found_singleton, other]
    exact ite_self _
  rw [registrationsIn_concat, nothing, List.append_nil]

/-- A registration is disposed when its token is disposed after it has been made. -/
theorem isDisposed_concat (history : History κ ν ε σ) (happening : Happening κ ν ε σ) :
    isDisposed name token (history ++ [happening]) = (isDisposed name token history ||
      (happening.disposes name token && (registrationsIn name history).any (·.1 = token))) := by
  induction history with
  | nil => simp [isDisposed, registrationsIn]
  | cons first others inductionHypothesis =>
    have split : registrationsIn name (first :: others) =
      registrationsIn name [first] ++ registrationsIn name others := found_cons
    rw [List.cons_append, isDisposed, isDisposed, inductionHypothesis, split, List.any_append,
      List.any_append, List.any_cons, List.any_nil, Bool.or_false]
    generalize (registrationsIn name [first]).any _ = made
    generalize (registrationsIn name others).any _ = madeLater
    cases made <;> cases happening.disposes name token <;> cases madeLater <;> simp

/-- Only a token that was given away can be disposed. -/
theorem any_of_isDisposed (disposed : isDisposed name token history = true) :
    (registrationsIn name history).any (·.1 = token) = true := by
  induction history with
  | nil => cases disposed
  | cons first others inductionHypothesis =>
    have split : registrationsIn name (first :: others) =
      registrationsIn name [first] ++ registrationsIn name others := found_cons
    rw [isDisposed, Bool.or_eq_true, Bool.and_eq_true] at disposed
    rw [split, List.any_append, Bool.or_eq_true]
    exact disposed.imp And.left inductionHypothesis

theorem registrationsIn_of_quiet (quiet : happening.touches name = false) :
    registrationsIn name [happening] = [] := by
  rw [registrationsIn, found_singleton]
  cases happening with
  | registered => exact if_neg (of_decide_eq_false quiet)
  | _ => exact ite_self _

theorem disposes_of_quiet (quiet : happening.touches name = false) :
    happening.disposes name token = false := by
  cases happening with
  | detached other disposed => exact (congrArg (· && _) quiet).trans (Bool.false_and _)
  | _ => rfl

/-- What has nothing to do with registrations leaves the accounts. -/
theorem accounts_append (name : κ) (history : History κ ν ε σ)
    (quiet : ∀ happening ∈ added, happening.touches name = false) :
    registrationsIn name (history ++ added) = registrationsIn name history ∧
      ∀ token, isDisposed name token (history ++ added) = isDisposed name token history := by
  induction added generalizing history with
  | nil => exact ⟨by rw [List.append_nil], fun _ => by rw [List.append_nil]⟩
  | cons happening others inductionHypothesis =>
    obtain ⟨here, later⟩ := List.forall_mem_cons.mp quiet
    obtain ⟨registrations, disposed⟩ := inductionHypothesis (history ++ [happening]) later
    rw [List.append_cons]
    refine ⟨?_, fun token => ?_⟩
    · rw [registrations, registrationsIn_concat, registrationsIn_of_quiet here, List.append_nil]
    · rw [disposed, isDisposed_concat, disposes_of_quiet here, Bool.false_and, Bool.or_false]

end

/-! ### What holds each time that something happens -/

/-- Whether something holds whenever anything happens in a history, of what happened before. -/
def Each (holds : History κ ν ε σ → Happening κ ν ε σ → Prop) (history : History κ ν ε σ) : Prop :=
  ∀ earlier happening later, history = earlier ++ happening :: later → holds earlier happening

section
variable {holds : History κ ν ε σ → Happening κ ν ε σ → Prop} {history added : History κ ν ε σ}

theorem each_nil (holds : History κ ν ε σ → Happening κ ν ε σ → Prop) : Each holds [] :=
  fun _ _ _ split => absurd split.symm (List.append_ne_nil_of_right_ne_nil _ (List.cons_ne_nil _ _))

theorem Each.concat {happening : Happening κ ν ε σ} (each : Each holds history)
    (new : holds history happening) : Each holds (history ++ [happening]) := by
  intro earlier other later split
  rcases List.eq_nil_or_concat later with rfl | ⟨before, final, rfl⟩
  · obtain ⟨rfl, same⟩ := List.append_inj' split rfl
    exact List.singleton_inj.mp same ▸ new
  · rw [List.concat_eq_append, ← List.cons_append, ← List.append_assoc] at split
    obtain ⟨rfl, -⟩ := List.append_inj' split rfl
    exact each earlier other before rfl

theorem Each.of_append (each : Each holds (history ++ added)) : Each holds history := by
  rintro earlier happening later rfl
  exact each earlier happening (later ++ added) (by simp)

theorem Each.append (each : Each holds history)
    (new : ∀ happening ∈ added, ∀ earlier, holds earlier happening) : Each holds (history ++ added) := by
  induction added generalizing history with
  | nil => exact (List.append_nil history).symm ▸ each
  | cons happening others inductionHypothesis =>
    obtain ⟨here, later⟩ := List.forall_mem_cons.mp new
    rw [List.append_cons]
    exact inductionHypothesis (each.concat (here history)) later

end

/-! ### The accounts of a channel -/

namespace Chronicle

variable [DecidableEq κ] {name other : κ} {c next : Chronicle κ ν ε σ}

/-- Whether the accounts of a channel are in order: tokens are given away in order, those who are present
were registered and not disposed, and so it was whenever a value was taken. -/
structure Accounts (name : κ) (c : Chronicle κ ν ε σ) : Prop where
  tokens : (registrationsIn name c.history).map (·.1) = List.range (c.channel name).nextToken
  observers : (c.channel name).observers = undisposed name c.history
  takings : Each (fun earlier happening => ∀ value present, happening = .taken name value present →
    present = undisposed name earlier) c.history

/-- What has nothing to do with the registrations of a channel leaves its accounts in order. -/
theorem Accounts.of_quiet (accounts : Accounts name c) {added : History κ ν ε σ}
    (written : next.history = c.history ++ added)
    (quiet : ∀ happening ∈ added, happening.touches name = false)
    (observers : (next.channel name).observers = (c.channel name).observers)
    (tokens : (next.channel name).nextToken = (c.channel name).nextToken) : Accounts name next := by
  obtain ⟨registrations, disposed⟩ := accounts_append name c.history quiet
  refine ⟨?_, ?_, ?_⟩
  · rw [written, registrations, tokens, accounts.tokens]
  · rw [written, observers, accounts.observers, undisposed, undisposed, registrations]
    simp only [disposed]
  · rw [written]
    refine accounts.takings.append fun happening member earlier value present same => ?_
    subst same
    exact absurd (decide_eq_true rfl) (Bool.eq_false_iff.mp (quiet _ member))

/-- So does a change of another channel, and one that leaves observers and tokens. -/
theorem Accounts.change (accounts : Accounts name c)
    {change : Channel ν (Callback κ ν ε σ) → Channel ν (Callback κ ν ε σ)} {added : History κ ν ε σ}
    (kept : other = name → ∀ channel, (change channel).observers = channel.observers ∧
      (change channel).nextToken = channel.nextToken)
    (quiet : ∀ happening ∈ added, happening.touches name = false) :
    Accounts name (c.change other change added) := by
  have unmoved : ((c.change other change added).channel name).observers =
        (c.channel name).observers ∧
      ((c.change other change added).channel name).nextToken = (c.channel name).nextToken := by
    rw [channel_change]
    split
    · next same => exact kept same.symm _
    · exact ⟨rfl, rfl⟩
  exact accounts.of_quiet rfl quiet unmoved.1 unmoved.2

theorem Accounts.write (accounts : Accounts name c) {added : History κ ν ε σ}
    (quiet : ∀ happening ∈ added, happening.touches name = false) : Accounts name (c.write added) :=
  accounts.of_quiet rfl quiet rfl rfl

/-- The next token has not been given away, so its registration was not disposed. -/
theorem Accounts.isDisposed_nextToken (accounts : Accounts name c) :
    isDisposed name (c.channel name).nextToken c.history = false := by
  refine Bool.eq_false_iff.mpr fun disposed => ?_
  obtain ⟨registration, member, same⟩ := List.any_eq_true.mp (any_of_isDisposed disposed)
  have given : registration.1 ∈ (registrationsIn name c.history).map (·.1) := List.mem_map_of_mem member
  rw [accounts.tokens, of_decide_eq_true same, List.mem_range] at given
  exact Nat.lt_irrefl _ given

/-- A new registration takes the next token. -/
theorem Accounts.register (accounts : Accounts name c) (observer : Callback κ ν ε σ) (replayed : ν) :
    Accounts name (c.register name observer replayed) := by
  have channel : (c.register name observer replayed).channel name = (c.channel name).register observer :=
    channel_change_self c name _ _
  have registrations : registrationsIn name (c.register name observer replayed).history =
      registrationsIn name c.history ++ [((c.channel name).nextToken, observer)] := by
    refine (registrationsIn_concat _ _).trans (congrArg _ ?_)
    rw [registrationsIn, found_singleton]
    exact if_pos rfl
  have disposed (token : Nat) : isDisposed name token (c.register name observer replayed).history =
      isDisposed name token c.history :=
    (isDisposed_concat _ _).trans (Bool.or_false _)
  refine ⟨?_, ?_, ?_⟩
  · rw [registrations, List.map_append, accounts.tokens, channel]
    exact List.range_succ.symm
  · have own : [((c.channel name).nextToken, observer)].filter
        (fun registration => !isDisposed name registration.1 c.history) =
          [((c.channel name).nextToken, observer)] :=
      List.filter_cons_of_pos (by rw [accounts.isDisposed_nextToken]; rfl)
    rw [undisposed, registrations]
    simp only [disposed]
    rw [List.filter_append, own, channel, Channel.register, accounts.observers]
    rfl
  · refine accounts.takings.concat fun value present same => ?_
    cases same

/-- A disposal removes the registration of its token. -/
theorem Accounts.detach (accounts : Accounts name c) (token : Nat) :
    Accounts name (c.detach name token) := by
  have channel : (c.detach name token).channel name = (c.channel name).detach token :=
    channel_change_self c name _ _
  have registrations : registrationsIn name (c.detach name token).history =
      registrationsIn name c.history := registrationsIn_concat_of_none _ rfl
  have disposed : ∀ registration ∈ registrationsIn name c.history,
      isDisposed name registration.1 (c.detach name token).history =
        (isDisposed name registration.1 c.history || token = registration.1) := by
    intro registration member
    refine (isDisposed_concat _ _).trans (congrArg _ ?_)
    have given : (registrationsIn name c.history).any (·.1 = registration.1) = true :=
      List.any_eq_true.mpr ⟨registration, member, decide_eq_true rfl⟩
    rw [given, Bool.and_true, Happening.disposes, decide_eq_true rfl, Bool.true_and]
  refine ⟨?_, ?_, ?_⟩
  · rw [registrations, accounts.tokens, channel]
    rfl
  · rw [undisposed, registrations, channel, Channel.detach, accounts.observers, undisposed,
      List.filter_filter]
    refine List.filter_congr fun registration member => ?_
    rw [disposed registration member, Bool.not_or, Bool.and_comm, ← decide_not]
    exact congrArg _ (decide_eq_decide.mpr ne_comm)
  · refine accounts.takings.concat fun value present same => ?_
    cases same

/-- Those who are present when a value is taken were registered and not disposed. -/
theorem Accounts.take (accounts : Accounts name c) {value : ν} {left : Channel ν (Callback κ ν ε σ)}
    (waiting : (c.channel name).take? = some (value, left)) :
    Accounts name (c.take name value left) := by
  obtain ⟨others, -, rfl⟩ := Channel.take?_eq_some_iff.mp waiting
  have channel : (c.take name value { c.channel name with value, pending := others }).channel name =
      { c.channel name with value, pending := others } :=
    channel_change_self c name _ _
  have registrations : registrationsIn name
      (c.take name value { c.channel name with value, pending := others }).history =
        registrationsIn name c.history := registrationsIn_concat_of_none _ rfl
  have disposed (token : Nat) : isDisposed name token
      (c.take name value { c.channel name with value, pending := others }).history =
        isDisposed name token c.history :=
    (isDisposed_concat _ _).trans (Bool.or_false _)
  refine ⟨?_, ?_, ?_⟩
  · rw [registrations, accounts.tokens, channel]
  · rw [channel, undisposed, registrations]
    simp only [disposed]
    exact accounts.observers
  · refine accounts.takings.concat fun value present same => ?_
    cases same
    exact accounts.observers

variable {site last : Site}

/-- Every step leaves the accounts of a channel in order. -/
theorem Step.accounts (step : Step name site c last next) (accounts : Accounts name c) :
    Accounts name next := by
  cases step with
  | push other value => exact accounts.change (fun _ _ => ⟨rfl, rfl⟩) (by simp [Happening.touches])
  | detach other token =>
    by_cases same : other = name
    · subst same
      exact accounts.detach token
    · exact accounts.change (fun here => absurd here same) (by simp [Happening.touches, same])
  | beginReplay other observer value => exact accounts.write (by simp [Happening.touches])
  | endReplay other outcome => exact accounts.write (by simp [Happening.touches])
  | register other observer replayed =>
    by_cases same : other = name
    · subst same
      exact accounts.register observer replayed
    · exact accounts.change (fun here => absurd here same) (by simp [Happening.touches, same])
  | keep change => exact accounts.of_quiet (List.append_nil _).symm nofun rfl rfl
  | note first error =>
    have unmoved := channel_note c first error name
    exact accounts.of_quiet (List.append_nil _).symm nofun (congrArg Channel.observers unmoved)
      (congrArg Channel.nextToken unmoved)
  | begin idle => exact accounts.change (fun _ _ => ⟨rfl, rfl⟩) nofun
  | cease => exact accounts.change (fun _ _ => ⟨rfl, rfl⟩) nofun
  | take waiting => exact accounts.take waiting
  | finish => exact accounts
  | call registration value => exact accounts.write (by simp [Happening.touches])
  | answer token outcome busy => exact accounts.write (by simp [Happening.touches])
  | markElsewhere differ delivering => exact accounts.change (fun _ _ => ⟨rfl, rfl⟩) nofun
  | takeElsewhere differ value left =>
    exact accounts.change (fun here => absurd here differ) (by simp [Happening.touches, differ])
  | callElsewhere differ registration value => exact accounts.write (by simp [Happening.touches])
  | answerElsewhere differ token outcome => exact accounts.write (by simp [Happening.touches])
  | stop => exact accounts
  | giveUp other => exact accounts.change (fun _ _ => ⟨rfl, rfl⟩) nofun

/-- The accounts of a new channel are in order. -/
theorem accounts_opened (bank : Bank κ ν ε σ) (name : κ) (initial : ν) :
    Accounts name (opened bank name initial) := by
  refine ⟨?_, ?_, each_nil _⟩ <;> rw [channel_opened] <;> rfl

/-! ### What follows from the accounts -/

/-- As many observers are present as were registered, less those that were disposed. -/
theorem Accounts.count (accounts : Accounts name c) : (c.channel name).observerCount +
    ((registrationsIn name c.history).filter fun registration =>
      isDisposed name registration.1 c.history).length = (registrationsIn name c.history).length := by
  rw [Channel.observerCount, accounts.observers, undisposed, Nat.add_comm]
  exact (List.length_eq_length_filter_add _).symm

theorem Accounts.nodup_tokens (accounts : Accounts name c) :
    ((registrationsIn name c.history).map (·.1)).Nodup := by
  rw [accounts.tokens]
  exact List.nodup_range

/-- Disposing one who is present removes this registration and nothing else. -/
theorem Accounts.detach_of_present (accounts : Accounts name c)
    {before after : List (Registration κ ν ε σ)} {registration : Registration κ ν ε σ}
    (present : (c.channel name).observers = before ++ registration :: after) :
    (c.channel name).detach registration.1 =
      { c.channel name with observers := before ++ after } := by
  have distinct : ((before ++ registration :: after).map (·.1)).Nodup := by
    rw [← present, accounts.observers]
    exact (List.filter_sublist.map _).nodup accounts.nodup_tokens
  rw [List.map_append, List.map_cons, List.nodup_append, List.nodup_cons] at distinct
  obtain ⟨-, ⟨notAfter, -⟩, apart⟩ := distinct
  have others : ∀ other ∈ before ++ after, other.1 ≠ registration.1 := by
    intro other member same
    rcases List.mem_append.mp member with earlier | later
    · exact apart _ (List.mem_map_of_mem earlier) _ List.mem_cons_self same
    · exact notAfter (same ▸ List.mem_map_of_mem later)
  have left : (before ++ registration :: after).filter (·.1 ≠ registration.1) = before ++ after := by
    rw [List.filter_append, List.filter_cons_of_neg (by simp), ← List.filter_append]
    exact List.filter_eq_self.mpr fun other member => decide_eq_true (others other member)
  rw [Channel.detach, present, left]

/-- Disposing a registration again does nothing. -/
theorem Accounts.detach_of_isDisposed (accounts : Accounts name c) {token : Nat}
    (disposed : isDisposed name token c.history = true) :
    (c.channel name).detach token = c.channel name := by
  have left : (c.channel name).observers.filter (·.1 ≠ token) = (c.channel name).observers := by
    refine List.filter_eq_self.mpr fun registration member => decide_eq_true ?_
    rintro rfl
    rw [accounts.observers] at member
    have open' := (List.mem_filter.mp member).2
    rw [disposed] at open'
    cases open'
  rw [Channel.detach, left]

end Chronicle

end StateContainer
