import LiveSpeech.Audio.Converter
import LiveSpeech.Config
import LiveSpeech.Files

/-!
# The engine and the other collaborators of a session

A session decodes nothing itself.  It loads models, has an engine made from them, passes audio
on and asks for results; it keeps to a clock, reads a symbol table from a file, and needs a
converter between rates and memory for its chunks.  All of these lie outside, and each may answer
as it likes.

So they are given as one record of functions on a world of any kind: a call changes the world
and answers from it.  What holds for every such record holds for every engine, every loader,
every clock, every file system and every memory.
-/

namespace LiveSpeech

set_option autoImplicit false

/-- Loaded models, from which engines are made. -/
structure Models where
  id : Nat
  nativeRate : Float32

/-- An engine that decodes one stretch of audio. -/
structure Engine where
  id : Nat
  deriving DecidableEq, Repr

/-- The best path through what an engine has decoded. -/
structure BestPath where
  words : List Nat
  cost : Float32

/-- Why an engine or a loader fails. -/
inductive EngineError where
  | modelLoad (path reason : String)
  | graphLoad (path reason : String)
  | invalidOption (option : String)
  | decode (reason : String)
  deriving DecidableEq, Repr

def EngineError.message : EngineError → String
  | .modelLoad path reason => "Failed to load acoustic model " ++ path ++ ": " ++ reason
  | .graphLoad path reason => "Failed to load decoding graph " ++ path ++ ": " ++ reason
  | .invalidOption option => "Invalid engine option: " ++ option
  | .decode reason => "Decoding error: " ++ reason

/-- The change in the weight of a frame. -/
abbrev WeightChange := Nat × Float32

/-- What lies outside a session, as functions on a world. -/
structure Collaborators (World : Type) where
  load : Config → World → Except EngineError Models × World
  releaseModels : Models → World → World
  createEngine : Models → World → Except EngineError Engine × World
  releaseEngine : Engine → World → World
  acceptWaveform : Engine → Float32 → List Float32 → World → Except EngineError Unit × World
  advanceDecoding : Engine → World → Except EngineError Unit × World
  endpointDetected : Engine → EndpointPolicy → World → Bool × World
  finalRelativeCost : Engine → World → Float32 × World
  bestPath : Engine → World → Option BestPath × World
  framesDecoded : Engine → World → Nat × World
  silenceWeighting : Engine → World → Bool × World
  adaptiveFeatures : Engine → World → Bool × World
  computeTraceback : Engine → World → World
  /-- The changes in the weights of frames since they were last asked for. -/
  deltaWeights : Engine → World → List WeightChange × World
  updateFrameWeights : Engine → List WeightChange → World → World
  restartClock : World → World
  elapsedSeconds : World → Float × World
  waitUntil : Float → World → World
  readFile : String → World → Except FileFault (List UInt8) × World
  makeConverter : Nat → Nat → World → Except Audio.ConverterFault Audio.Transducer × World
  /-- Has memory ready for so many samples. -/
  reserve : Nat → World → Except Breakdown Unit × World
  /-- Whether the log takes what only helps to find faults.  That does not change while a program
  runs. -/
  debugging : Bool

end LiveSpeech
