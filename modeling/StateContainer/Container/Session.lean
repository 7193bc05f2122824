/-
This file lets a user work with the delegates, factories and stores of a
container.

A delegate has a channel for each property of its definition, whose values are
wrapped in events. Everything in a session is told apart by its number, so that a
factory sees what is put into its store later, and names are given to whatever is
made. All names are of one kind: a name may be given anew to something else, and
an operation on something that does not have it fails.
-/

import StateContainer.Channel.Session
import StateContainer.Container
import StateContainer.Hint.Call

namespace StateContainer

/-- The channel of a property of a delegate. -/
structure ChannelName where
  delegate : Nat
  property : String
deriving DecidableEq, Repr

/-- What a name of a session is given to. -/
inductive Holding where
  | delegate (number : Nat)
  | factory (number : Nat)
  | store (number : Nat)
  /-- What a view model has for its delegate. -/
  | value (value : Value)
deriving Repr, Inhabited

/-- The arguments for building a delegate: what snapshots are restored from, and the input. What is
not given is left out of the call. -/
structure BuildArguments where
  source : Option (Option Holding) := none
  input : Option (Option Container.Input) := none
deriving Inhabited

/-- A factory keeps the arguments for the delegates that it builds. -/
structure Factory where
  source : Option Holding
  input : Option Container.Input
deriving Inhabited

/-- A session with a container. -/
structure ContainerSession where
  container : Container
  channels : Session ChannelName
  /-- How many delegates have been built. -/
  built : Nat := 0
  factories : List Factory := []
  stores : List SnapshotStore := []
  holdings : OrderedMap String Holding := {}
  /-- What reading snapshots has logged. -/
  log : List String := []

namespace ContainerSession

/-- The result of an operation and the session after it. An operation that fails leaves what it
has done. -/
abbrev Operation (α : Type) := StateT ContainerSession (Except (Failure × ContainerSession)) α

/-- Fails. -/
def fail {α : Type} (failure : Failure) : Operation α := fun session => .error (failure, session)

/-- Takes a result, or fails as it does. -/
def lift {α : Type} : Except Failure α → Operation α
  | .ok result => pure result
  | .error failure => fail failure

/-! ### Names -/

/-- What a name is given to. -/
def named (name : String) : Operation Holding := do
  match (← get).holdings.get? name with
  | some found => return found
  | none => fail (.unknown name)

/-- Gives a name to something. -/
def giveName (name : String) (holding : Holding) : Operation Unit :=
  modify fun session => { session with holdings := session.holdings.insert name holding }

/-- The name of the class of something. -/
def classNameOf (c : Container) : Holding → String
  | .delegate _ => c.artifacts.delegate.name
  | .factory _ => c.artifacts.factory.name
  | .store _ => "MemorySnapshotStore"
  | .value value => value.className

/-- Fails since something has no such member. -/
def lacks {α : Type} (holding : Holding) (member : String) : Operation α := do
  fail (.missing (classNameOf (← get).container holding) member)

/-- The number of a named delegate, which has a member. -/
def delegateNamed (name member : String) : Operation Nat := do
  match ← named name with
  | .delegate number => return number
  | other => lacks other member

/-- A named factory, which has a member. -/
def factoryNamed (name member : String) : Operation Factory := do
  match ← named name with
  | .factory number => return (← get).factories.getD number default
  | other => lacks other member

/-- The store of a number. -/
def storeAt (session : ContainerSession) (number : Nat) : SnapshotStore :=
  session.stores.getD number {}

/-- The number of a named store. -/
def storeNumber (name : String) : Operation Nat := do
  match ← named name with
  | .store number => return number
  | other => lacks other "blobs"

/-! ### Stores -/

/-- Makes a store under a name. -/
def newStore (name : String) (store : SnapshotStore) : Operation Unit := do
  let session ← get
  modify fun session => { session with stores := session.stores ++ [store] }
  giveName name (.store session.stores.length)

/-- Keeps something in a store. -/
def saveTo (number : Nat) (key : String) (blob : Blob) : Operation Unit :=
  modify fun session => { session with stores := session.stores.modify number (·.save key blob) }

/-- Puts a text into a named store. -/
def put (name key : String) (blob : Blob) : Operation Unit := do
  saveTo (← storeNumber name) key blob

/-- A named store. -/
def storeNamed (name : String) : Operation SnapshotStore := do
  return (← get).storeAt (← storeNumber name)

/-- Whether something is kept under a key of a named store. -/
def holdsKey (name key : String) : Operation Bool := do
  match ← named name with
  | .store number => return ((← get).storeAt number).contains key
  | other =>
    let session ← get
    fail (.failed (.misuse (.notIterable (classNameOf session.container other))))

/-! ### Channels -/

/-- What surrounds the channels of the delegates. -/
def surroundings (c : Container) : Surroundings ChannelName where
  beside channel name :=
    match c.property? name with
    | some _ => .ok { channel with property := name }
    | none => .error (.missing c.artifacts.delegate.name ("observe_" ++ name))
  wrapping channel := (c.property? channel.property).map (·.eventKind)

/-- The channel of a property of a named delegate, which is reached by a member of the delegate. -/
def channelOf (name property member : String) : Operation ChannelName := do
  let delegate ← delegateNamed name member
  let session ← get
  match session.container.property? property with
  | some _ => return { delegate, property }
  | none => lacks (.delegate delegate) member

/-- Runs an operation on channels to its end. -/
def perform (operation : Observer.Call ChannelName) : Operation (Outcome Failure) := do
  let session ← get
  let (outcome, channels) := session.channels.perform operation
  set { session with channels }
  return outcome

/-- Pushes a value. -/
def push (name property : String) (value : Value) : Operation (Outcome Failure) := do
  let channel ← channelOf name property ("push_" ++ property)
  let session ← get
  perform (Observer.pushThen (surroundings session.container) channel value .finish)

/-- Subscribes an observer. -/
def observe (name property : String) (observer : Observer) : Operation (Outcome Failure) := do
  let channel ← channelOf name property ("observe_" ++ property)
  let session ← get
  perform (observer.subscription (surroundings session.container) channel)

/-- Disposes a subscription. -/
def dispose (name : String) : Operation (Outcome Failure) :=
  perform (Observer.disposeThen name .finish)

/-- Reads the event of a property. -/
def read (name property : String) (reading : Reading) : Operation Sight := do
  let channel ← channelOf name property ("observe_" ++ property)
  let session ← get
  let (sight, channels) ← lift (session.channels.read channel reading)
  set { session with channels }
  return sight

/-- How many observers the channel of a property has. A channel whose name is changed inside of the
delegate is not found. -/
def observerCount (name property : String) : Operation Nat := do
  let member := "_" ++ property ++ "_channel"
  let channel ← channelOf name property member
  let session ← get
  if session.container.insideName member ≠ member then
    fail (.missing session.container.artifacts.delegate.name member)
  else return (session.channels.channels channel).observerCount

/-! ### State -/

/-- The values of some properties of a delegate, which no reading consumes. -/
def valuesOf (session : ContainerSession) (delegate : Nat) (properties : List String) :
    List (String × Value) :=
  properties.map fun property =>
    match session.channels.sight { delegate, property } with
    | .event seen => (property, seen.peek)
    | .plain value => (property, value)

/-- The state of a delegate as a record. -/
def currentState (name : String) : Operation Instance := do
  let delegate ← delegateNamed name "current_state"
  let session ← get
  let properties := session.container.properties.map (·.name)
  lift (session.container.makeRecord (session.valuesOf delegate properties))

/-- The member that saves a snapshot: a delegate has it for a store, and a store for a key and a
snapshot. -/
def saveMember : String := "save_snapshot"

/-- Saves the persisted properties of a delegate to something that should be a store, or to
none. -/
def saveDelegate (delegate : Nat) (target : Option Holding) : Operation Unit := do
  let session ← get
  let artifacts := session.container.artifacts
  match session.container.snapshotClass, artifacts.snapshotKey with
  | some snapshotClass, some key =>
    let values := session.valuesOf delegate artifacts.plan.restoredFields
    let snapshot ← lift ((Instance.make snapshotClass.info [] values).mapError .state)
    match target with
    | none => return
    | some (.store number) =>
      saveTo number key (.text (← lift ((Snapshot.encodeInstance snapshot).mapError .encoding)))
    | some (.delegate _) =>
      fail (.binding (.tooMany (artifacts.delegate.name ++ "." ++ saveMember) 2 0 3 0))
    | some other => lacks other saveMember
  | _, _ => lacks (.delegate delegate) saveMember

/-- Whether delegates can be saved. -/
def canSave (c : Container) : Bool :=
  c.snapshotClass.isSome && c.artifacts.snapshotKey.isSome

/-- Saves the persisted properties of a named delegate to a named store, or to none. -/
def save (name : String) (store : Option String) : Operation Unit := do
  let saved ← named name
  match saved with
  | .delegate delegate =>
    if canSave (← get).container then saveDelegate delegate (← store.mapM named)
    else lacks saved saveMember
  | .store _ =>
    let _ ← store.mapM named
    let title := classNameOf (← get).container saved ++ "." ++ saveMember
    fail (.binding (.missing title false ["snapshot"]))
  | other => lacks other saveMember

/-! ### Building delegates -/

/-- Refuses arguments that a function does not take. -/
def requireParameters (functionName : String) (arguments : BuildArguments) : Operation Unit := do
  let parameters := (← get).container.artifacts.plan.parameters
  if arguments.source.isSome && !parameters.contains snapshotSourceName then
    fail (.unexpected functionName snapshotSourceName)
  if arguments.input.isSome && !parameters.contains stateInputName then
    fail (.unexpected functionName stateInputName)

/-- Something as what snapshots are restored from. -/
def sourceOf (session : ContainerSession) : Holding → Container.Source
  | .store number => .store (session.storeAt number)
  | other => .other (classNameOf session.container other)

/-- The initial state that arguments lead to. -/
def initialState (functionName : String) (arguments : BuildArguments) : Operation Instance := do
  requireParameters functionName arguments
  let session ← get
  let source := (arguments.source.getD none).map session.sourceOf
  let (state, log) ← lift (session.container.initialState source (arguments.input.getD none))
  set { session with log := session.log ++ log }
  return state

/-- Starts the channel of a property of a new delegate. -/
def startChannel (state : Instance) (delegate : Nat) (property : Property) : Operation Unit := do
  let session ← get
  let container := session.container
  let value ← lift ((state.get (container.insideName property.name)).mapError .state)
  lift (container.callStandIn property.eventKind.className 1)
  lift (container.callStandIn "StateChannel" 1)
  let around := surroundings session.container
  set { session with
    channels := Session.begin around session.channels { delegate, property := property.name } value }

/-- Builds a delegate and gives its number. -/
def buildDelegate (arguments : BuildArguments) : Operation Nat := do
  let session ← get
  let state ← initialState (session.container.artifacts.delegate.name ++ ".__init__") arguments
  session.container.properties.forM (startChannel state session.built)
  modify fun after => { after with built := session.built + 1 }
  return session.built

/-- Builds a delegate under a name. -/
def newDelegate (name : String) (arguments : BuildArguments) : Operation Unit := do
  giveName name (.delegate (← buildDelegate arguments))

/-! ### Factories -/

/-- Makes a factory under a name. -/
def newFactory (name : String) (arguments : BuildArguments) : Operation Unit := do
  let session ← get
  let factory : Factory :=
    { source := arguments.source.getD none, input := arguments.input.getD none }
  modify fun session => { session with factories := session.factories ++ [factory] }
  giveName name (.factory session.factories.length)

/-- Builds a delegate by a factory. What the call does not give is taken from the factory. -/
def createBy (factory : Factory) (arguments : BuildArguments) : Operation Nat := do
  let parameters := (← get).container.artifacts.plan.parameters
  let source := (arguments.source.getD none).or factory.source
  let input := (arguments.input.getD none).or factory.input
  buildDelegate {
    source := if parameters.contains snapshotSourceName then some source else none
    input := if parameters.contains stateInputName then some input else none }

/-- Builds a delegate under a name by a factory. -/
def create (factory : Factory) (name : String) (arguments : BuildArguments) : Operation Unit := do
  giveName name (.delegate (← createBy factory arguments))

/-! ### View models -/

/-- A delegate as an argument. -/
def delegateValue (c : Container) : Value :=
  let className := c.artifacts.delegate.name
  .object className ("<" ++ className ++ " object>")

/-- Constructs a view model of a class of the module, and tells what it has for its delegate. -/
def construct (model : ClassInfo) (arguments : List Value) : Except Failure (Option Value) := do
  let made ← (Instance.make model arguments []).mapError .state
  match made.get Instance.delegateName with
  | .ok .null => return none
  | .ok found => return some found
  | .error _ => return none

/-- Whether a view model is of a class or of one that inherits it. -/
def isOfClass (c : Container) (model declared : Hint) : Except Failure Bool :=
  match c.classIn? model, c.classIn? declared with
  | some model, some declared => .ok (model.inherits declared.id)
  | _, _ => ((Hint.isSubclassOf model declared).value c.surroundings.memory).mapError .failed

/-- Constructs what is a view model, and tells the name of its class and what it has for its
delegate. -/
def constructModel (c : Container) (model : Hint) (arguments : List Value) :
    Except Failure (String × Option Value) :=
  match c.classIn? model with
  | some found => (construct found arguments).map ((found.name, ·))
  | none => do
    let call := Hint.callKnown Hint.commonScope c.surroundings.name (fun _ _ => return .null) model
      { positional := arguments.map Hint.ofValue }
    let made ← (call.value c.surroundings.memory).mapError .failed
    return ((Hint.classIdOf made).simpleName, none)

/-- Gives a name to what a view model has for its delegate: the delegate of the given number, or
another value. -/
def nameDelegateOf (c : Container) (name : String) (delegate : Nat) (kept : Value) :
    Operation Unit :=
  giveName name
    (if kept.className = c.artifacts.delegate.name then .delegate delegate else .value kept)

/-- Makes a view model by a factory: of the given class, or of the declared one. The declared
class and those that inherit it receive a new delegate. The name of the class is told, and whether
the view model has something for its delegate, to which the name is given. -/
def createViewModel (factory : Factory) (name : String) (given : Option Hint) :
    Operation (String × Bool) := do
  let container := (← get).container
  match given.or container.viewModel with
  | none => fail (.noViewModel container.artifacts.factory.name)
  | some model =>
    let receives ←
      match container.viewModel with
      | some declared => lift (isOfClass container model declared)
      | none => pure false
    let arguments ← if receives then (fun n => [n]) <$> createBy factory {} else pure []
    let (className, kept) ←
      lift (constructModel container model (arguments.map fun _ => delegateValue container))
    match kept with
    | some found => nameDelegateOf container name (arguments.headD 0) found
    | none => pure ()
    return (className, kept.isSome)

/-! ### Runs -/

/-- A session with a container, before the first operation. -/
def start (container : Container) : ContainerSession :=
  { container, channels := { channels := fun _ => default, kept := {} } }

/-- Runs an operation. -/
def run {α : Type} (session : ContainerSession) (operation : Operation α) :
    Except Failure α × ContainerSession :=
  match operation session with
  | .ok (result, after) => (.ok result, after)
  | .error (failure, after) => (.error failure, after)

/-- The session with its notes and its logs cleared, before another operation. -/
def cleared (session : ContainerSession) : ContainerSession :=
  { session with channels := session.channels.cleared, log := [] }

end ContainerSession

/-- A factory that nobody has specialised for a definition. -/
structure BareFactory where
  name : String
deriving Repr, Inhabited

namespace BareFactory

/-- What the factory answers when it is asked for a delegate. -/
def create (_factory : BareFactory) : Failure :=
  .abstract "create() must be implemented by generated code"

/-- What the factory answers when it is asked for a view model. -/
def createViewModel (factory : BareFactory) : Failure :=
  .noViewModel factory.name

end BareFactory

end StateContainer
