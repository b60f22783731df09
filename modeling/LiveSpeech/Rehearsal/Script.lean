import LiveSpeech.Audio.OverlapAdd
import LiveSpeech.Engine
import LiveSpeech.Timing
import LiveSpeech.Rehearsal.Directory

/-!
# Rehearsing a session

A rehearsal runs a session without models.  A script says how the collaborators answer: which
models load, which calls fail, what the engine has understood after how many frames and when
the utterance ends.  The clock moves only when somebody waits.

Engines are told apart by the number of the call that made them, and calls are counted over
all engines.
-/

namespace LiveSpeech.Rehearsal

set_option autoImplicit false

/-- What a scripted engine has understood from some frame on. -/
structure Hypothesis where
  frames : Nat
  words : Option (List Nat)
  cost : Float32
  final : Float32

/-- How scripted engines answer. -/
structure EngineScript where
  nativeRate : Float32
  /-- The samples of a frame; none count as one. -/
  frameShift : Nat
  endpointAt : Option Nat
  /-- At which looks the utterance has ended; this goes before the frames. -/
  endpointCalls : Option (List Nat)
  hypotheses : List Hypothesis
  silenceWeighting : Bool
  adaptive : Bool
  failCreate : List Nat
  failAccept : List Nat
  failAdvance : List Nat

/-- The samples of a frame if nothing else is said: a hundredth of a second. -/
def standardFrameShift (nativeRate : Float32) : Nat := (nativeRate / 100.0).toUInt64.toNat

/-- What engines have understood if nothing else is said. -/
def standardHypotheses : List Hypothesis := [⟨0, some [1, 2], 1.0, 1.0⟩]

/-- How the scripted loader answers. -/
structure LoaderScript where
  badModels : List String
  badGraphs : List String
  badOptions : List String

/-- The clock of a rehearsal. -/
inductive ClockScript where
  /-- A clock that shows the latest time waited for, and so much more. -/
  | scripted (drift : Float)
  | wall

/-- How the collaborators of a rehearsal answer. -/
structure Script where
  engine : EngineScript
  loader : LoaderScript
  clock : ClockScript
  files : Directory
  /-- Whether the log takes what only helps to find faults. -/
  debugging : Bool

/-- What an engine has heard. -/
structure Hearing where
  id : Nat
  seen : Nat
  frames : Nat

/-- What lies outside the session in a rehearsal. -/
structure World where
  now : Float
  loads : Nat
  creations : Nat
  acceptances : Nat
  advances : Nat
  looks : Nat
  engines : List Hearing

/-- Before anything has happened. -/
def World.initial : World := ⟨0.0, 0, 0, 0, 0, 0, []⟩

/-- What an engine has heard. -/
def World.hearing (world : World) (engine : Engine) : Hearing :=
  (world.engines.find? (·.id = engine.id)).getD ⟨engine.id, 0, 0⟩

/-- An engine hears more. -/
def World.hears (world : World) (hearing : Hearing) : World :=
  { world with engines := hearing :: world.engines.filter (·.id ≠ hearing.id) }

/-- The whole frames in a number of samples.  A frame has at least one sample. -/
def EngineScript.framesIn (script : EngineScript) (samples : Nat) : Nat :=
  samples / max 1 script.frameShift

/-- What has been understood after some frames: the last entry that is not ahead of them. -/
def EngineScript.understood (script : EngineScript) (frames : Nat) : Option Hypothesis :=
  (script.hypotheses.filter (·.frames ≤ frames)).getLast?

/-- Whether the utterance has ended at a look, after some frames. -/
def EngineScript.ends (script : EngineScript) (look frames : Nat) : Bool :=
  match script.endpointCalls, script.endpointAt with
  | some calls, _ => look ∈ calls
  | none, some limit => limit ≤ frames
  | none, none => false

/-- A failure of a numbered call. -/
def numbered (what : String) (number : Nat) : EngineError :=
  .decode (what ++ " " ++ toString number ++ " failed")

/-- Why everything that cannot be opened cannot be opened. -/
def cannotOpen : String := "cannot open"

/-- What the scripted loader says about a configuration. -/
def LoaderScript.verdict (script : LoaderScript) (config : Config) : Except EngineError Unit :=
  if config.model ∈ script.badModels then .error (.modelLoad config.model cannotOpen)
  else if config.graph ∈ script.badGraphs then .error (.graphLoad config.graph cannotOpen)
  else
    match config.engineOptions.find? (· ∈ script.badOptions) with
    | some option => .error (.invalidOption option)
    | none => .ok ()

/-- The collaborators that a script describes. -/
def Script.collaborators (script : Script) : Collaborators World where
  load config world :=
    let next := { world with loads := world.loads + 1 }
    ((script.loader.verdict config).map fun () => ⟨next.loads, script.engine.nativeRate⟩, next)
  releaseModels _ world := world
  createEngine _ world :=
    let number := world.creations + 1
    let next := { world with creations := number }
    if number ∈ script.engine.failCreate then (.error (numbered "create" number), next)
    else (.ok ⟨number⟩, next.hears ⟨number, 0, 0⟩)
  releaseEngine engine world :=
    { world with engines := world.engines.filter (·.id ≠ engine.id) }
  acceptWaveform engine _ samples world :=
    let number := world.acceptances + 1
    let next := { world with acceptances := number }
    if number ∈ script.engine.failAccept then (.error (numbered "accept" number), next)
    else
      let hearing := world.hearing engine
      (.ok (), next.hears { hearing with seen := hearing.seen + samples.length })
  advanceDecoding engine world :=
    let number := world.advances + 1
    let next := { world with advances := number }
    if number ∈ script.engine.failAdvance then (.error (numbered "advance" number), next)
    else
      let hearing := world.hearing engine
      (.ok (), next.hears { hearing with frames := script.engine.framesIn hearing.seen })
  endpointDetected engine _ world :=
    let number := world.looks + 1
    (script.engine.ends number (world.hearing engine).frames, { world with looks := number })
  finalRelativeCost engine world :=
    match script.engine.understood (world.hearing engine).frames with
    | some hypothesis => (hypothesis.final, world)
    | none => (unbounded, world)
  bestPath engine world :=
    let path := (script.engine.understood (world.hearing engine).frames).bind fun hypothesis =>
      hypothesis.words.map fun words => ⟨words, hypothesis.cost⟩
    (path, world)
  framesDecoded engine world := ((world.hearing engine).frames, world)
  silenceWeighting _ world := (script.engine.silenceWeighting, world)
  adaptiveFeatures _ world := (script.engine.adaptive, world)
  computeTraceback _ world := world
  deltaWeights engine world :=
    let frames := (world.hearing engine).frames
    ([(frames, 0.25), (frames + 1, -0.5)], world)
  updateFrameWeights _ _ world := world
  restartClock world := { world with now := 0.0 }
  elapsedSeconds world :=
    match script.clock with
    | .scripted drift => (world.now + drift, world)
    | .wall => (world.now, world)
  waitUntil seconds world :=
    match script.clock with
    | .scripted _ => { world with now := if world.now < seconds then seconds else world.now }
    | .wall => { world with now := waitOnWall world.now seconds }
  readFile path world := (script.files.read path, world)
  makeConverter inputRate outputRate world := (Audio.makeTransducer inputRate outputRate, world)
  reserve samples world := (countBytes samples, world)
  debugging := script.debugging

end LiveSpeech.Rehearsal
