import LiveSpeech.Action
import LiveSpeech.Session.Basic

/-!
# Building a session and letting it go

A session is built from loaded models: an engine is made first, and what feeds it afterwards.
If something cannot be made the engine is let go again, so that a failed attempt holds
nothing.  A session that ends lets go of its models and then of its engine.
-/

namespace LiveSpeech

set_option autoImplicit false

open LiveSpeech.Audio

variable {World : Type}

/-- Makes a converter between two rates in hertz, if they are different. -/
def makeConverter (outside : Collaborators World) (inputRate outputRate : Nat) :
    Action World ResamplerFailure (Option Converter) :=
  if inputRate = outputRate then .done none
  else do
    let made ← .ask (outside.makeConverter inputRate outputRate)
      (.makeConverter inputRate outputRate)
    let kind ← .ofExcept .ofConverterFault made
    return some (.ofKind kind)

/-- Makes a resampler and notes between which rates it works.  The rate of the input is looked at
first. -/
def makeResampler (outside : Collaborators World) (inputRate outputRate : Float32) :
    Action World ResamplerFailure Resampler := do
  let input ← .ofExcept .error (wholeHertz inputRate)
  let output ← .ofExcept .error (wholeHertz outputRate)
  let converter ← makeConverter outside input output
  .note (.resampling input output)
  return .start input output converter

/-- Makes an accumulator for chunks of the requested size. -/
def makeAccumulator (outside : Collaborators World) (request : Nat) :
    Action World Failure Accumulator := do
  let accumulator := Accumulator.ofRequest request
  let given ← .ask (outside.reserve accumulator.capacity) (.reserve accumulator.capacity)
  .ofExcept .broken given
  return accumulator

/-- Makes what feeds an engine. -/
def makeFeed (outside : Collaborators World) (models : Models) (config : Config) :
    Action World Failure (Resampler × Accumulator) := do
  let resampler ← (makeResampler outside config.rate models.nativeRate).wrapFailure .ofResampler
  let accumulator ← makeAccumulator outside (config.chunkCapacity models.nativeRate)
  return (resampler, accumulator)

/-- Makes an engine and what feeds it.  If what feeds it cannot be made the engine is let
go. -/
def buildResources (outside : Collaborators World) (models : Models) (config : Config) :
    Action World Failure Resources := do
  let created ← .ask (outside.createEngine models) (.createEngine models)
  let engine ← .ofExcept (.error ∘ .engine) created
  let made ← (makeFeed outside models config).attempt
  match made with
  | .error failure =>
    .tell (outside.releaseEngine engine) (.releaseEngine engine)
    .fail failure
  | .ok (resampler, accumulator) => return {
      engine := engine
      resampler := resampler
      accumulator := accumulator
      timing := .start models.nativeRate
        (Int64.ofInt (config.samplesPerTick models.nativeRate)) }

/-- A session that works with the given resources and drops audio. -/
def Session.fresh (config : Config) (symbols : SymbolTable) (models : Models)
    (resources : Option Resources) : Session where
  config := config
  symbols := symbols
  models := models
  resources := resources
  state := .ready
  enabled := false
  endpointDetected := false

/-- Builds a session. -/
def Session.create (outside : Collaborators World) (models : Models) (symbols : SymbolTable)
    (config : Config) : Action World Failure Session := do
  .tell outside.restartClock .restartClock
  let resources ← buildResources outside models config
  .note (.sessionReady config.rate models.nativeRate resources.accumulator.capacity)
  return .fresh config symbols models (some resources)

/-- Lets go of the engine among the resources, if there are any. -/
def releaseResources (outside : Collaborators World) : Option Resources →
    Action World Failure Unit
  | none => .done ()
  | some resources =>
    .tell (outside.releaseEngine resources.engine) (.releaseEngine resources.engine)

/-- Lets go of everything that a session holds. -/
def Session.release (outside : Collaborators World) (session : Session) :
    Action World Failure Unit := do
  .tell (outside.releaseModels session.models) (.releaseModels session.models)
  releaseResources outside session.resources

end LiveSpeech
