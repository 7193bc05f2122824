/-
This file says what containers that share a store have to do with each other.

Every definition has a session of its own, in which its delegates live, and all of them save to and
restore from one store. They keep apart by the key that each of them uses. The key is made from the
name of the class of a definition, in capital letters, and from nothing else. So what a definition
restores depends on nothing but what its own delegates did, if no other definition has a name with
the same capital letters. Two definitions of the same name in different modules read each other's
snapshots.
-/

import StateContainer.Proofs.Container.Loading
import StateContainer.Proofs.Container.Locality

namespace StateContainer

open ContainerSession StateContainer.Class

/-! ### Moves -/

/-- Something that is done with the delegates of a definition. -/
inductive Move where
  /-- Builds a delegate, from the store or from none. -/
  | construct (name : String) (restoring : Bool) (input : Option (Option Container.Input))
  /-- Builds a delegate by a factory that keeps the store. -/
  | create (name : String) (kept : Option Container.Input) (input : Option (Option Container.Input))
  | push (name field : String) (value : Value)
  | observe (name field : String) (observer : Observer)
  | dispose (name : String)
  | read (name field : String) (reading : Reading)
  | state (name : String)
  /-- Saves a delegate to the store. -/
  | save (name : String)

/-- What a move answers. -/
inductive Reply where
  | done
  | ended (outcome : Outcome Failure)
  | seen (sight : Sight)
  | record (state : Instance)

namespace Move

/-- A move as an operation of a session whose only store is the shared one. -/
def operation : Move → Operation Reply
  | construct name restoring input => do
    newDelegate name { source := if restoring then some (some (.store 0)) else none, input }
    return .done
  | create name kept input => do
    ContainerSession.create { source := some (.store 0), input := kept } name { input }
    return .done
  | push name field value => return .ended (← ContainerSession.push name field value)
  | observe name field observer => return .ended (← ContainerSession.observe name field observer)
  | dispose name => return .ended (← ContainerSession.dispose name)
  | read name field reading => return .seen (← ContainerSession.read name field reading)
  | state name => return .record (← currentState name)
  | save name => do
    saveDelegate (← delegateNamed name saveMember) (some (.store 0))
    return .done

/-- A move depends on what the store keeps under the key of the container, and changes nothing under
other keys. -/
theorem minds_operation {c : Container} (move : Move) : Minds c move.operation := by
  have answers {α : Type} {operation : Operation α} (minds : Minds c operation) (reply : α → Reply) :
      Minds c (operation >>= fun result => pure (reply result)) :=
    minds.bind fun _ => (isBlind_pure _).minds
  cases move with
  | construct name restoring input =>
    refine answers (minds_newDelegate name ?_) _
    cases restoring with
    | false => exact .inl rfl
    | true => exact .inr rfl
  | create name kept input => exact answers (minds_create name rfl (.inl rfl)) _
  | push name field value => exact answers (isBlind_push value).minds _
  | observe name field observer => exact answers (isBlind_observe observer).minds _
  | dispose name => exact answers isBlind_dispose.minds _
  | read name field reading => exact answers (isBlind_read reading).minds _
  | state name => exact answers isBlind_currentState.minds _
  | save name =>
    exact (isBlind_delegateNamed _).minds.bind fun delegate => answers (minds_saveDelegate delegate) _

end Move

/-! ### Containers with one store -/

/-- The sessions of some definitions, and the store that they share. -/
structure Sharing (ι : Type) where
  sessions : ι → ContainerSession
  store : SnapshotStore

namespace Sharing

variable {ι : Type} [DecidableEq ι]

/-- A move in the session of a definition. -/
def act (sharing : Sharing ι) (i : ι) (move : Move) : Except Failure Reply × Sharing ι :=
  let (reply, after) := ((sharing.sessions i).withStore sharing.store).run move.operation
  (reply, {
    sessions := Function.update sharing.sessions i { after with stores := [] }
    store := after.storeAt 0 })

/-- Moves in the sessions of the definitions, one after the other. -/
def play (sharing : Sharing ι) : List (ι × Move) → List (ι × Except Failure Reply) × Sharing ι
  | [] => ([], sharing)
  | (i, move) :: moves =>
    let (reply, after) := sharing.act i move
    let (replies, last) := after.play moves
    ((i, reply) :: replies, last)

/-- What concerns one definition. -/
def ofOwn {α : Type} (i : ι) (entries : List (ι × α)) : List (ι × α) :=
  entries.filter (·.1 = i)

/-- Before the first move, with a store. -/
def start (containers : ι → Container) (store : SnapshotStore) : Sharing ι where
  sessions i := ContainerSession.start (containers i)
  store

/-- Whether each session is one with the container of its definition. -/
def Serves (sharing : Sharing ι) (containers : ι → Container) : Prop :=
  ∀ j, (sharing.sessions j).container = containers j

/-- Whether two situations are the same for a definition: its session is, and so is what is kept
under its key. -/
structure Alike (containers : ι → Container) (i : ι) (first second : Sharing ι) : Prop where
  session : first.sessions i = second.sessions i
  stores : Agree (containers i).artifacts.snapshotKey first.store second.store

variable {containers : ι → Container} {sharing first second : Sharing ι} {i j : ι}

/-! ### One move -/

/-- The answer of a move and the session that it leaves, which is not told the store. -/
def settled (c : Container) :
    Except (Failure × ContainerSession) (Reply × ContainerSession) →
      Except Failure Reply × ContainerSession
  | .ok (reply, after) => (.ok reply, { after with stores := [], container := c })
  | .error (failure, after) => (.error failure, { after with stores := [], container := c })

theorem container_settled (c : Container)
    (outcome : Except (Failure × ContainerSession) (Reply × ContainerSession)) :
    (settled c outcome).2.container = c := by
  cases outcome <;> rfl

theorem act_eq_of_operation {move : Move} {c : Container} {store : SnapshotStore}
    {outcome : Except (Failure × ContainerSession) (Reply × ContainerSession)}
    (gives : move.operation ((sharing.sessions i).withStore sharing.store) =
      reseated [store] c outcome) :
    sharing.act i move = ((settled c outcome).1, {
      sessions := Function.update sharing.sessions i (settled c outcome).2
      store }) := by
  rw [act, ContainerSession.run, gives]
  cases outcome <;> rfl

/-- What a move does to the store and to the sessions. -/
theorem exists_act (serves : sharing.Serves containers) (move : Move) :
    ∃ reply after store, sharing.act i move = (reply, {
        sessions := Function.update sharing.sessions i after
        store }) ∧
      after.container = containers i ∧
      AgreeApart (containers i).artifacts.snapshotKey sharing.store store := by
  obtain ⟨outcome, store, _, gives, -, -, apart, -⟩ :=
    move.minds_operation (sharing.sessions i) sharing.store sharing.store (serves i) fun _ _ => rfl
  exact ⟨_, _, store, act_eq_of_operation gives, container_settled _ _, apart⟩

theorem Serves.act (serves : sharing.Serves containers) (i : ι) (move : Move) :
    (sharing.act i move).2.Serves containers := by
  obtain ⟨reply, after, store, acts, own, -⟩ := exists_act (i := i) serves move
  intro j
  rw [acts]
  show (Function.update sharing.sessions i after j).container = containers j
  by_cases same : j = i
  · rw [same, Function.update_self, own]
  · rw [Function.update_of_ne same]
    exact serves j

/-- Where two situations are the same for a definition, its moves have the same answers and leave
situations that are the same for it. -/
theorem Alike.act (alike : Alike containers i first second) (serves : first.Serves containers)
    (move : Move) :
    (first.act i move).1 = (second.act i move).1 ∧
      Alike containers i (first.act i move).2 (second.act i move).2 := by
  obtain ⟨outcome, left, right, one, other, agree, -, -⟩ :=
    move.minds_operation (first.sessions i) first.store second.store (serves i) alike.stores
  have gives : move.operation ((second.sessions i).withStore second.store) =
      reseated [right] (containers i) outcome := by
    rw [← alike.session]
    exact other
  rw [act_eq_of_operation one, act_eq_of_operation gives]
  refine ⟨rfl, ?_, agree⟩
  show Function.update first.sessions i _ i = Function.update second.sessions i _ i
  rw [Function.update_self, Function.update_self]

/-- A move of another definition, which has another key, changes nothing for a definition. -/
theorem Alike.act_of_ne (alike : Alike containers i first second) (serves : first.Serves containers)
    (other : j ≠ i)
    (apart : ∀ key, (containers i).artifacts.snapshotKey = some key →
      (containers j).artifacts.snapshotKey ≠ some key) (move : Move) :
    Alike containers i (first.act j move).2 second := by
  obtain ⟨reply, after, store, acts, -, same⟩ := exists_act (i := j) serves move
  rw [acts]
  refine ⟨?_, fun key own => ?_⟩
  · rw [← alike.session]
    exact Function.update_of_ne other.symm _ _
  · rw [← alike.stores key own]
    exact (same key (apart key own)).symm

/-! ### All moves -/

theorem play_cons (sharing : Sharing ι) (i : ι) (move : Move) (moves : List (ι × Move)) :
    sharing.play ((i, move) :: moves) =
      ((i, (sharing.act i move).1) :: ((sharing.act i move).2.play moves).1,
        ((sharing.act i move).2.play moves).2) := rfl

theorem ofOwn_cons_self {α : Type} (entry : α) (entries : List (ι × α)) :
    ofOwn i ((i, entry) :: entries) = (i, entry) :: ofOwn i entries :=
  List.filter_cons_of_pos (decide_eq_true rfl)

theorem ofOwn_cons_of_ne {α : Type} (other : j ≠ i) (entry : α) (entries : List (ι × α)) :
    ofOwn i ((j, entry) :: entries) = ofOwn i entries :=
  List.filter_cons_of_neg (decide_eq_true_iff.not.mpr other)

/-- Where two situations are the same for a definition, whose key is no other's, what it sees of all
moves from the first one is what it sees of its own moves from the second one. -/
theorem Alike.play (alike : Alike containers i first second) (serves : first.Serves containers)
    (apart : ∀ j, j ≠ i → ∀ key, (containers i).artifacts.snapshotKey = some key →
      (containers j).artifacts.snapshotKey ≠ some key) (moves : List (ι × Move)) :
    ofOwn i (first.play moves).1 = (second.play (ofOwn i moves)).1 ∧
      Alike containers i (first.play moves).2 (second.play (ofOwn i moves)).2 := by
  induction moves generalizing first second with
  | nil => exact ⟨rfl, alike⟩
  | cons head moves inductionHypothesis =>
    obtain ⟨j, move⟩ := head
    by_cases own : j = i
    · subst own
      obtain ⟨replies, after⟩ := alike.act serves move
      obtain ⟨later, last⟩ := inductionHypothesis after (serves.act j move)
      rw [ofOwn_cons_self, play_cons, play_cons, ofOwn_cons_self, replies, later]
      exact ⟨rfl, last⟩
    · obtain ⟨later, last⟩ :=
        inductionHypothesis (alike.act_of_ne serves own (apart j own) move) (serves.act j move)
      rw [ofOwn_cons_of_ne own, play_cons, ofOwn_cons_of_ne own]
      exact ⟨later, last⟩

/-! ### Definitions of different names -/

/-- Where the keys of two names are the same, so are the names in capital letters. -/
theorem upper_eq_of_snapshotKey_eq {name other : String} (same : snapshotKey name = snapshotKey other) :
    Text.upper name.toList = Text.upper other.toList := by
  unfold snapshotKey at same
  exact String.ofList_inj.mp (String.append_left_inj _ |>.mp same)

section
variable {modules : ι → ClassModule} {definitions : ι → ClassInfo} {schemas : ι → Schema}

/-- Where no other definition has the same name in capital letters, the delegates of a definition
answer whatever is done in any order with those of all definitions as they do without the others,
and the store keeps the same for them. -/
theorem play_of_names_differ
    (loaded : ∀ j, Container.load (modules j) (definitions j) (schemas j).synthesize =
      .ok (containers j))
    (differ : ∀ j, j ≠ i →
      Text.upper (schemas j).name.toList ≠ Text.upper (schemas i).name.toList)
    (store : SnapshotStore) (moves : List (ι × Move)) :
    ofOwn i ((start containers store).play moves).1 = ((start containers store).play (ofOwn i moves)).1 ∧
      Alike containers i ((start containers store).play moves).2
        ((start containers store).play (ofOwn i moves)).2 := by
  refine Alike.play ⟨rfl, fun _ _ => rfl⟩ (fun _ => rfl) (fun j other key own taken => ?_) moves
  have keyOf (j : ι) {key : String} (used : (containers j).artifacts.snapshotKey = some key) :
      snapshotKey (schemas j).name = key := by
    rw [(Container.load_eq_ok (loaded j)).1, Schema.synthesize] at used
    dsimp only at used
    split at used
    · exact Option.some.inj used
    · cases used
  exact differ j other (upper_eq_of_snapshotKey_eq ((keyOf j taken).trans (keyOf i own).symm))

end

/-! ### Counters -/

/-- A definition that keeps a number. -/
def counter (moduleName name : String) (first : Int) : Keeper :=
  { moduleName, name, type := "int", default := some (.int first) }

/-- The second one of two counters is saved, before the first one is built and looked at. -/
def savingFirst : List (Bool × Move) := [
  (false, .construct "e" true none),
  (false, .save "e"),
  (true, .construct "d" true none),
  (true, .state "d")]

/-- Counters of two names in one module have nothing to do with each other. -/
theorem play_counters_of_two_names : ∃ containers : Bool → Container,
    (∀ j, (counter "app.state" (cond j "S" "T") (cond j 0 7)).load = .ok (containers j)) ∧
    (∀ j, j ≠ true →
      Text.upper (counter "app.state" (cond j "S" "T") (cond j 0 7)).schema.name.toList ≠
        Text.upper (counter "app.state" "S" 0).schema.name.toList) ∧
    ofOwn true ((start containers {}).play savingFirst).1 =
      ((start containers {}).play (ofOwn true savingFirst)).1 ∧
    Alike containers true ((start containers {}).play savingFirst).2
      ((start containers {}).play (ofOwn true savingFirst)).2 := by
  have loads : ∀ j, (counter "app.state" (cond j "S" "T") (cond j 0 7)).load.toOption.isSome = true := by
    decide +kernel
  have differ : ∀ j, j ≠ true →
      Text.upper (counter "app.state" (cond j "S" "T") (cond j 0 7)).schema.name.toList ≠
        Text.upper (counter "app.state" "S" 0).schema.name.toList := by
    decide +kernel
  choose containers found using fun j => Option.isSome_iff_exists.mp (loads j)
  have loaded (j : Bool) := toOption_eq_some_iff.mp (found j)
  exact ⟨containers, loaded, differ, play_of_names_differ loaded differ {} savingFirst⟩

/-- The number of the state that was answered last. -/
def lastNumber? (replies : List (Bool × Except Failure Reply)) : Option Int :=
  match replies.getLast? with
  | some (_, .ok (.record state)) =>
    match state.get "x" with
    | .ok (.int number) => some number
    | _ => none
  | _ => none

/-- Counters of one name in two modules read each other's snapshots. -/
theorem exists_restores_other : ∃ containers : Bool → Container,
    (∀ j, (counter (cond j "app.a" "app.b") "S" (cond j 0 7)).load = .ok (containers j)) ∧
    (counter "app.a" "S" 0).schema.definition.qualifiedName ≠
      (counter "app.b" "S" 7).schema.definition.qualifiedName ∧
    (∀ j, (counter (cond j "app.a" "app.b") "S" (cond j 0 7)).schema.hasPersisted = true) ∧
    ofOwn true ((start containers {}).play savingFirst).1 ≠
      ((start containers {}).play (ofOwn true savingFirst)).1 := by
  have ends : ((counter "app.a" "S" 0).load.toOption.bind fun first =>
      (counter "app.b" "S" 7).load.toOption.map fun second =>
        (lastNumber? (ofOwn true ((start (cond · first second) {}).play savingFirst).1),
          lastNumber? ((start (cond · first second) {}).play (ofOwn true savingFirst)).1)) =
      some (some 7, some 0) := by
    decide +kernel
  obtain ⟨first, one, ends⟩ := Option.bind_eq_some_iff.mp ends
  obtain ⟨second, other, ends⟩ := Option.map_eq_some_iff.mp ends
  obtain ⟨together, alone⟩ := Prod.mk.inj ends
  refine ⟨(cond · first second), ?_, by decide +kernel, by decide +kernel, fun same => ?_⟩
  · rintro (_ | _)
    · exact toOption_eq_some_iff.mp other
    · exact toOption_eq_some_iff.mp one
  · rw [same, alone] at together
    cases together

end Sharing

end StateContainer
