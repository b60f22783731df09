import LiveSpeech.Audio.Accumulator
import LiveSpeech.Audio.Resampler
import LiveSpeech.Engine
import LiveSpeech.Symbols
import LiveSpeech.Timing

/-!
# A session of streaming recognition

A session owns an engine and what feeds it.  Audio is resampled to the rate of the engine and
cut into chunks; each chunk is one decoding cycle, held back to the speed of the audio.  Once
per tick of audio the session looks whether the utterance has ended.  When it has, the
transcript is sent, and audio is dropped until the session is started again.

Starting over lets go of the engine before a new one is made, so that a session never holds
two.  If that fails the session goes on without resources, and says so when audio arrives.
-/

namespace LiveSpeech

set_option autoImplicit false

open LiveSpeech.Audio

/-! ## States and errors -/

/-- What a session does with audio. -/
inductive ControlState where
  | uninitialized
  | ready
  | listening
  | finalized
  deriving DecidableEq, Repr

def ControlState.name : ControlState → String
  | .uninitialized => "Uninitialized"
  | .ready => "Ready"
  | .listening => "Listening"
  | .finalized => "Finalized"

/-- Why a session cannot go on with what it was asked for. -/
inductive SessionError where
  | engine (cause : EngineError)
  | resample (cause : RateError)
  | unknownSymbol (number : Nat)
  | released

def SessionError.message : SessionError → String
  | .engine cause => "Decoding engine error: " ++ cause.message
  | .resample cause => "Resampler error: " ++ cause.message
  | .unknownSymbol number => unknownSymbolMessage number
  | .released => "Session resources were released and not rebuilt"

/-- Why an action on a session ends early: with an error that its caller is told, or because it
breaks off, which ends the program that runs it. -/
inductive Failure where
  | error (cause : SessionError)
  | broken (why : Breakdown)

def Failure.message : Failure → String
  | .error cause => cause.message
  | .broken why => why.text

/-- A resampler that cannot be made, as a failure of the session that needs it. -/
def Failure.ofResampler : ResamplerFailure → Failure
  | .error cause => .error (.resample cause)
  | .broken why => .broken why

/-- Samples between `-1` and `1` are scaled by this for the engine. -/
def sampleScale : Float32 := 32768.0

/-! ## A session -/

/-- What is made anew whenever a session starts over. -/
structure Resources where
  engine : Engine
  resampler : Resampler
  accumulator : Accumulator
  timing : TimingGate

structure Session where
  config : Config
  symbols : SymbolTable
  models : Models
  /-- What it works with, unless that was let go and could not be made anew. -/
  resources : Option Resources
  state : ControlState
  enabled : Bool
  endpointDetected : Bool

end LiveSpeech
