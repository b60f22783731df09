import LiveSpeech.Audio.Converter
import LiveSpeech.Number.Text

/-!
# Resampling a stream

Audio arrives in fragments of any length; a converter takes blocks of one length and answers
late.  The resampler stands between them.  It keeps what does not fill a block for the next
fragment, and it leaves out the first frames that come from the converter, so that the frame
`n` of its output belongs to the time `n / outputRate` of its input.

A flush ends a stream: zeros are fed until as many frames have come out as the input calls
for, and the next fragment starts a stream of its own.  Between equal rates nothing is
converted, and frames pass through as they are.
-/

namespace LiveSpeech.Audio

set_option autoImplicit false

open LiveSpeech.Number

/-! ## Rates -/

/-- Why audio cannot be resampled. -/
inductive RateError where
  | invalid (rate : Float32)
  | construction (reason : String)

def RateError.message : RateError → String
  | .invalid rate => "Invalid sample rate: " ++ plain rate
  | .construction reason => "Failed to create resampler: " ++ reason

/-- Why there is no resampler between two rates. -/
inductive ResamplerFailure where
  | error (cause : RateError)
  | broken (why : Breakdown)

/-- A converter that cannot be made, as a failure of the resampler that needs it. -/
def ResamplerFailure.ofConverterFault : ConverterFault → ResamplerFailure
  | .refused reason => .error (.construction reason)
  | .broken why => .broken why

/-- The largest rate that is told apart. -/
def hertzLimit : Int := Nat.pow 2 64 - 1

/-- A rate in whole hertz, a half going up. -/
def wholeHertz (rate : Float32) : Except RateError Nat :=
  if rate.isFinite && 1.0 ≤ rate then .ok ((reading rate).saturatingWhole 0 hertzLimit).toNat
  else .error (.invalid rate)

/-! ## Blocks and frames -/

/-- The first blocks of a stretch of samples. -/
def firstBlocks : Nat → List Float32 → List (List Float32)
  | 0, _ => []
  | count + 1, samples => samples.take blockSize :: firstBlocks count (samples.drop blockSize)

/-- The complete blocks of a stretch of samples. -/
def completeBlocks (samples : List Float32) : List (List Float32) :=
  firstBlocks (samples.length / blockSize) samples

/-- What is left of a stretch of samples after its complete blocks. -/
def incompleteBlock (samples : List Float32) : List Float32 :=
  samples.drop (samples.length / blockSize * blockSize)

/-- The frames of a group that lie from frame `delay` of the stream on and before frame
`limit`, if there is one; `produced` frames came before the group. -/
def emit (delay : Nat) (limit : Option Nat) (produced : Nat) (frames : List Float32) :
    List Float32 :=
  let ended := match limit with
    | some last => frames.take (last - produced)
    | none => frames
  ended.drop (delay - produced)

/-- The output frames that `inputFrames` call for, to the nearest frame, a half going up.  They
are counted in words of 64 bits. -/
def expectedOutput (inputFrames inputRate outputRate : Nat) : Except Breakdown Nat := do
  let product ← inWordOf "multiply" (inputFrames * outputRate)
  let rounded ← inWordOf "add" (product + inputRate / 2)
  return rounded / inputRate

/-! ## The resampler -/

/-- A resampler in the middle of a stream. -/
structure Resampler where
  inputRate : Nat
  outputRate : Nat
  converter : Option Converter
  pending : List Float32
  framesIn : Nat
  /-- The frames that the converter has answered with. -/
  framesOut : Nat

namespace Resampler

/-- A resampler between two rates in hertz before any input. -/
def start (inputRate outputRate : Nat) (converter : Option Converter) : Resampler where
  inputRate := inputRate
  outputRate := outputRate
  converter := converter
  pending := []
  framesIn := 0
  framesOut := 0

/-- Runs blocks through a converter that has answered with `produced` frames so far: the
frames to pass on, the count of answered frames and the converter after them. -/
def runBlocks (limit : Option Nat) : Converter → Nat → List (List Float32) →
    List Float32 × Nat × Converter
  | converter, produced, [] => ([], produced, converter)
  | converter, produced, block :: others =>
    let (frames, next) := converter.process block
    let (more, total, last) := runBlocks limit next (produced + frames.length) others
    (emit converter.delay limit produced frames ++ more, total, last)

/-- Takes in a fragment and answers with the frames that are ready. -/
def feed (resampler : Resampler) (samples : List Float32) : List Float32 × Resampler :=
  match resampler.converter with
  | none => (samples, resampler)
  | some converter =>
    let waiting := resampler.pending ++ samples
    let (frames, produced, last) :=
      runBlocks none converter resampler.framesOut (completeBlocks waiting)
    (frames, { resampler with
      converter := some last
      pending := incompleteBlock waiting
      framesIn := resampler.framesIn + samples.length
      framesOut := produced })

/-- How many blocks a converter has to take in until it has answered with `missing` more
frames. -/
def blocksFor (converter : Converter) (missing : Nat) : Nat :=
  let span := converter.kind.span
  let groups := (missing + span.output - 1) / span.output
  (groups * span.input - converter.waiting + blockSize - 1) / blockSize

/-- As many blocks as asked for: the first starts with the given frames, and the rest is
zero. -/
def paddedBlocks (frames : List Float32) : Nat → List (List Float32)
  | 0 => []
  | count + 1 =>
    (frames ++ List.replicate (blockSize - frames.length) 0.0) ::
      List.replicate count (List.replicate blockSize 0.0)

/-- The frame of a stream that the flush ends at. -/
def target (resampler : Resampler) (converter : Converter) : Except Breakdown Nat := do
  let due ← expectedOutput resampler.framesIn resampler.inputRate resampler.outputRate
  inWordOf "add" (converter.delay + due)

/-- Ends the stream: the frames that are still due, and the resampler before a new stream. -/
def flush (resampler : Resampler) : Except Breakdown (List Float32 × Resampler) :=
  match resampler.converter with
  | none => .ok ([], resampler)
  | some converter => do
    let target ← resampler.target converter
    let count := blocksFor converter (target - resampler.framesOut)
    let (frames, _, _) := runBlocks (some target) converter resampler.framesOut
      (paddedBlocks resampler.pending count)
    return (frames, { resampler with
      converter := some converter.reset
      pending := []
      framesIn := 0
      framesOut := 0 })

/-- Takes in a fragment, ends the stream after it if asked to, and answers with the frames
that are ready. -/
def resample (resampler : Resampler) (samples : List Float32) (last : Bool) :
    Except Breakdown (List Float32 × Resampler) :=
  let (frames, next) := resampler.feed samples
  if last then next.flush.map fun (others, fresh) => (frames ++ others, fresh)
  else .ok (frames, next)

end Resampler

end LiveSpeech.Audio
