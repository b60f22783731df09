import LiveSpeech.Engine
import LiveSpeech.Log
import LiveSpeech.Message

/-!
# Actions and what they leave behind

An action works on a state.  It answers or fails, and either way it leaves a state and a
record of what happened on the way: the calls to collaborators with their answers, the
notices for the log, and the messages for the client, all in their order.

The record is the library's own.  Whatever the collaborators do, what was asked of them and
what was sent can be read off it.
-/

namespace LiveSpeech

set_option autoImplicit false

/-- A call to a collaborator, with its answer. -/
inductive Call where
  | load (config : Config) (answer : Except EngineError Models)
  | releaseModels (models : Models)
  | createEngine (models : Models) (answer : Except EngineError Engine)
  | releaseEngine (engine : Engine)
  | acceptWaveform (engine : Engine) (rate : Float32) (samples : List Float32)
      (answer : Except EngineError Unit)
  | advanceDecoding (engine : Engine) (answer : Except EngineError Unit)
  | endpointDetected (engine : Engine) (policy : EndpointPolicy) (answer : Bool)
  | finalRelativeCost (engine : Engine) (answer : Float32)
  | bestPath (engine : Engine) (answer : Option BestPath)
  | framesDecoded (engine : Engine) (answer : Nat)
  | silenceWeighting (engine : Engine) (answer : Bool)
  | adaptiveFeatures (engine : Engine) (answer : Bool)
  | computeTraceback (engine : Engine)
  | deltaWeights (engine : Engine) (answer : List WeightChange)
  | updateFrameWeights (engine : Engine) (weights : List WeightChange)
  | restartClock
  | elapsedSeconds (answer : Float)
  | waitUntil (seconds : Float)
  | readFile (path : String)
  | makeConverter (input output : Nat) (answer : Except Audio.ConverterFault Audio.Transducer)
  | reserve (samples : Nat) (answer : Except Breakdown Unit)

/-- Something that happens. -/
inductive Event where
  | call (call : Call)
  | note (notice : Notice)
  | send (message : ServerMessage)

/-- What an action leaves. -/
structure Outcome (State Failure Answer : Type) where
  answer : Except Failure Answer
  state : State
  record : List Event

/-- Work on a state. -/
def Action (State Failure Answer : Type) : Type := State → Outcome State Failure Answer

namespace Action

variable {State Failure Answer : Type}

def done (answer : Answer) : Action State Failure Answer := fun state => ⟨.ok answer, state, []⟩

def fail (failure : Failure) : Action State Failure Answer := fun state =>
  ⟨.error failure, state, []⟩

/-- One action after the other; a failure ends both. -/
def andThen {Next : Type} (first : Action State Failure Answer)
    (next : Answer → Action State Failure Next) : Action State Failure Next := fun state =>
  let before := first state
  match before.answer with
  | .error failure => ⟨.error failure, before.state, before.record⟩
  | .ok answer =>
    let after := next answer before.state
    ⟨after.answer, after.state, before.record ++ after.record⟩

instance : Monad (Action State Failure) where
  pure := done
  bind := andThen

@[simp] theorem pure_run (answer : Answer) (state : State) :
    (pure answer : Action State Failure Answer) state = ⟨.ok answer, state, []⟩ := rfl

theorem bind_run_ok {Next : Type} (first : Action State Failure Answer)
    (next : Answer → Action State Failure Next) (state : State) (answer : Answer)
    (succeeds : (first state).answer = .ok answer) :
    (first >>= next) state =
      ⟨(next answer (first state).state).answer, (next answer (first state).state).state,
        (first state).record ++ (next answer (first state).state).record⟩ := by
  show andThen first next state = _
  simp [andThen, succeeds]

theorem bind_run_error {Next : Type} (first : Action State Failure Answer)
    (next : Answer → Action State Failure Next) (state : State) (failure : Failure)
    (fails : (first state).answer = .error failure) :
    (first >>= next) state = ⟨.error failure, (first state).state, (first state).record⟩ := by
  show andThen first next state = _
  simp [andThen, fails]

def state : Action State Failure State := fun state => ⟨.ok state, state, []⟩

def change (how : State → State) : Action State Failure Unit := fun state => ⟨.ok (), how state, []⟩

/-- Something happens. -/
def happen (event : Event) : Action State Failure Unit := fun state => ⟨.ok (), state, [event]⟩

/-- Notes something in the log. -/
def note (notice : Notice) : Action State Failure Unit := happen (.note notice)

/-- Sends a message to the client. -/
def send (message : ServerMessage) : Action State Failure Unit := happen (.send message)

/-- Answers with a value or fails with an error. -/
def ofExcept {Cause : Type} (wrap : Cause → Failure) :
    Except Cause Answer → Action State Failure Answer
  | .ok answer => done answer
  | .error cause => fail (wrap cause)

/-- Asks a collaborator. -/
def ask (read : State → Answer × State) (call : Answer → Call) : Action State Failure Answer :=
  fun state => ⟨.ok (read state).1, (read state).2, [.call (call (read state).1)]⟩

/-- Tells a collaborator. -/
def tell (work : State → State) (call : Call) : Action State Failure Unit := fun state =>
  ⟨.ok (), work state, [.call call]⟩

/-- Works on a part of a state. -/
def onPart {Part : Type} (get : State → Part) (set : State → Part → State)
    (action : Action Part Failure Answer) : Action State Failure Answer := fun state =>
  let inner := action (get state)
  ⟨inner.answer, set state inner.state, inner.record⟩

/-- Fails in other words. -/
def wrapFailure {Wrapped : Type} (wrap : Failure → Wrapped)
    (action : Action State Failure Answer) : Action State Wrapped Answer := fun state =>
  let inner := action state
  match inner.answer with
  | .ok answer => ⟨.ok answer, inner.state, inner.record⟩
  | .error failure => ⟨.error (wrap failure), inner.state, inner.record⟩

/-- The failure of an action becomes an answer. -/
def attempt {Never : Type} (action : Action State Failure Answer) :
    Action State Never (Except Failure Answer) := fun state =>
  let inner := action state
  ⟨.ok inner.answer, inner.state, inner.record⟩

end Action

/-! ## Views of a record -/

def messagesOf (record : List Event) : List ServerMessage :=
  record.filterMap fun
    | .send message => some message
    | _ => none

def noticesOf (record : List Event) : List Notice :=
  record.filterMap fun
    | .note notice => some notice
    | _ => none

def callsOf (record : List Event) : List Call :=
  record.filterMap fun
    | .call call => some call
    | _ => none

end LiveSpeech
