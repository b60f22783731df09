import LiveSpeech.Action
import LiveSpeech.Session.Basic

/-!
# Decoding cycles

A cycle passes one chunk on to the engine and lets it decode.  The clock holds it back to the
speed of the audio.  At most one output is looked at in a cycle, even if several are due.

Chunks are decoded in order.  The utterance ends with the first chunk at which the engine says
so; its transcript is sent, and the chunks behind it are left.
-/

namespace LiveSpeech

set_option autoImplicit false

variable {World : Type}

/-- What stays the same during a decoding cycle. -/
structure Decoder where
  config : Config
  symbols : SymbolTable
  nativeRate : Float32
  engine : Engine

/-- What a decoding cycle changes. -/
structure Cycle (World : Type) where
  world : World
  timing : TimingGate
  endpointDetected : Bool

/-- Works on what lies outside during a cycle. -/
def Cycle.outside {Answer : Type} (action : Action World SessionError Answer) :
    Action (Cycle World) SessionError Answer :=
  action.onPart Cycle.world fun cycle world => { cycle with world := world }

/-- The words of the best path so far; none if nothing was decoded or there is no path. -/
def bestTranscript (outside : Collaborators World) (decoder : Decoder) :
    Action World SessionError String := do
  let frames ← .ask (outside.framesDecoded decoder.engine) (.framesDecoded decoder.engine)
  if frames = 0 then
    .note .noFrames
    return ""
  else
    let best ← .ask (outside.bestPath decoder.engine) (.bestPath decoder.engine)
    match best with
    | none =>
      .note .emptyLattice
      return ""
    | some path =>
      .note (.bestPath path.words.length path.cost)
      .ofExcept .unknownSymbol (decoder.symbols.render path.words)

/-- Gives silence its own weight, if the engine does that and its features adapt. -/
def reweighSilence (outside : Collaborators World) (engine : Engine) :
    Action World SessionError Unit := do
  let weighting ← .ask (outside.silenceWeighting engine) (.silenceWeighting engine)
  if weighting then
    let adaptive ← .ask (outside.adaptiveFeatures engine) (.adaptiveFeatures engine)
    if adaptive then
      .tell (outside.computeTraceback engine) (.computeTraceback engine)
      let weights ← .ask (outside.deltaWeights engine) (.deltaWeights engine)
      .tell (outside.updateFrameWeights engine weights) (.updateFrameWeights engine weights)

/-- Passes a chunk on to the engine. -/
def passChunk (outside : Collaborators World) (decoder : Decoder) (chunk : List Float32) :
    Action World SessionError Unit := do
  let accepted ← .ask (outside.acceptWaveform decoder.engine decoder.nativeRate chunk)
    (.acceptWaveform decoder.engine decoder.nativeRate chunk)
  .ofExcept .engine accepted

/-- Waits until the clock has caught up with the audio. -/
def pace {Failed : Type} (outside : Collaborators World) (gate : TimingGate) :
    Action World Failed Unit :=
  .tell (outside.waitUntil gate.audioSeconds) (.waitUntil gate.audioSeconds)

/-- Lets the engine decode what has been passed on. -/
def advanceDecoding (outside : Collaborators World) (engine : Engine) :
    Action World SessionError Unit := do
  let advanced ← .ask (outside.advanceDecoding engine) (.advanceDecoding engine)
  .ofExcept .engine advanced

/-- Notes what has been understood so far, with its cost, if the log takes it. -/
def noteWords (outside : Collaborators World) (decoder : Decoder) (words : String) :
    Action World SessionError Unit :=
  if outside.debugging then do
    let cost ← .ask (outside.finalRelativeCost decoder.engine) (.finalRelativeCost decoder.engine)
    .note (.partialResult cost words)
  else .done ()

/-- Looks whether the utterance has ended, if that is wanted, and notes what has been
understood so far. -/
def lookAtOutput (outside : Collaborators World) (decoder : Decoder) :
    Action (Cycle World) SessionError Unit := do
  if decoder.config.doEndpointing then
    let ended ← Cycle.outside <| .ask
      (outside.endpointDetected decoder.engine decoder.config.endpoint)
      (.endpointDetected decoder.engine decoder.config.endpoint)
    .change fun cycle => { cycle with endpointDetected := ended }
  let words ← Cycle.outside (bestTranscript outside decoder)
  Cycle.outside (noteWords outside decoder words)
  .change fun cycle => { cycle with timing := cycle.timing.advanceOutput }

/-- One decoding cycle: the chunk is passed on and counted, the clock catches up with the
audio, the engine decodes, and if an output is due it is looked at. -/
def decodeChunk (outside : Collaborators World) (decoder : Decoder) (chunk : List Float32) :
    Action (Cycle World) SessionError Unit := do
  Cycle.outside (passChunk outside decoder chunk)
  .change fun cycle => { cycle with timing := cycle.timing.consume chunk.length }
  let counted ← .state
  Cycle.outside (pace outside counted.timing)
  Cycle.outside (reweighSilence outside decoder.engine)
  Cycle.outside (advanceDecoding outside decoder.engine)
  if counted.timing.outputDue then lookAtOutput outside decoder

/-- The transcript of an utterance that has ended; none if it is too uncertain. -/
def finalTranscript (outside : Collaborators World) (decoder : Decoder) :
    Action World SessionError String := do
  let cost ← .ask (outside.finalRelativeCost decoder.engine) (.finalRelativeCost decoder.engine)
  if cost ≤ decoder.config.maxFinalCost then bestTranscript outside decoder
  else
    .note (.uncertain cost decoder.config.maxFinalCost)
    return ""

/-- Sends the transcript of an utterance that has ended. -/
def finalize (outside : Collaborators World) (decoder : Decoder) :
    Action World SessionError Unit := do
  let transcript ← finalTranscript outside decoder
  .note (.endpoint transcript)
  .send (.transcript transcript)

/-- How the decoding of a row of chunks ends. -/
inductive Delivery where
  | complete (cycles : Nat)
  /-- The utterance ended with the last of so many chunks; the others were not decoded. -/
  | ended (cycles : Nat) (left : List (List Float32))

/-- One more cycle before the others. -/
def Delivery.succ : Delivery → Delivery
  | .complete cycles => .complete (cycles + 1)
  | .ended cycles left => .ended (cycles + 1) left

/-- Decodes chunks in order until the utterance ends. -/
def decodeChunks (outside : Collaborators World) (decoder : Decoder) :
    List (List Float32) → Action (Cycle World) SessionError Delivery
  | [] => .done (.complete 0)
  | chunk :: others => do
    decodeChunk outside decoder chunk
    let cycle ← .state
    if cycle.endpointDetected then
      Cycle.outside (finalize outside decoder)
      return .ended 1 others
    else
      let delivery ← decodeChunks outside decoder others
      return delivery.succ

end LiveSpeech
