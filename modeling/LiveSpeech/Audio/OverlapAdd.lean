import LiveSpeech.Audio.Converter
import LiveSpeech.Audio.Fourier

/-!
# A converter by overlapping transforms

Frames are converted a stretch at a time: they are extended by as many zeros, filtered in the
frequency domain, and transformed back with the other length.  The second half of each result
overlaps the first half of the next one.

The two lengths of a stretch are to each other as the two rates, and the input length is the
smallest such that is no shorter than a block.  What goes in and comes out is counted exactly
(`length_groups`); only the values of the frames are computed in floating point.
-/

namespace LiveSpeech.Audio

set_option autoImplicit false

/-! ## Lengths -/

/-- How many stretches in lowest terms there are in one that is no shorter than a block. -/
def Span.times (inputRate outputRate : Nat) : Nat :=
  let unit := inputRate / Nat.gcd inputRate outputRate
  (blockSize + unit - 1) / unit

/-- The lengths for a pair of rates: in the ratio of the rates, in lowest terms, multiplied so
that the input is no shorter than a block. -/
def Span.ofRates (inputRate outputRate : Nat) : Span :=
  let common := Nat.gcd inputRate outputRate
  let times := times inputRate outputRate
  ⟨times * (inputRate / common), times * (outputRate / common)⟩

/-! ## The filter -/

/-- The part of the band that a filter of a length lets pass. -/
def cutoff (length : Nat) : Float :=
  let size := length.toFloat
  1.0 / (1.0 + 13.745202940783823 / size + 121.73532586374934 / (size * size) +
    5964.163279612051 / (size * size * size))

/-- The cutoff of the filter between two lengths, relative to the input. -/
def Span.cutoff (span : Span) : Float :=
  let own := Audio.cutoff (min span.input span.output)
  if span.output < span.input then own * span.output.toFloat / span.input.toFloat else own

/-- The window that fades the filter out towards its ends. -/
def window (length index : Nat) : Float :=
  let phase := 2.0 * circleRatio * index.toFloat / length.toFloat
  let fading := 0.35875 - 0.48829 * phase.cos + 0.14128 * (2.0 * phase).cos -
    0.01168 * (3.0 * phase).cos
  fading * fading

/-- The normalised cardinal sine. -/
def cardinalSine (argument : Float) : Float :=
  if argument == 0.0 then 1.0 else (circleRatio * argument).sin / (circleRatio * argument)

/-- The filter in the time domain, of the input length; its sum is `1 / (2 * input)`. -/
def Span.impulseResponse (span : Span) : FloatArray :=
  let centre := (span.input / 2).toFloat
  let shape := tabulate span.input fun index =>
    window span.input index * cardinalSine ((index.toFloat - centre) * span.cutoff)
  let total := shape.foldl (· + ·) 0.0
  tabulate span.input fun index => element shape index / total / (2.0 * span.input.toFloat)

/-! ## Conversion -/

/-- What the conversion between two lengths needs at hand. -/
structure Plan where
  span : Span
  forward : Transform
  backward : Transform
  response : Spectrum

/-- The plan for two lengths. -/
def Plan.ofSpan (span : Span) : Plan :=
  let forward := Transform.ofOrder (-1.0) (2 * span.input)
  { span := span
    forward := forward
    backward := Transform.ofOrder 1.0 (2 * span.output)
    response := forward.apply (.ofReal span.impulseResponse) }

/-- The spectrum of the output at a place of its lower half: what both bands share is
filtered, the rest is empty. -/
def Plan.lowerHalf (plan : Plan) (input : Spectrum) (index : Nat) : Float × Float :=
  let shared := if plan.span.input < plan.span.output then plan.span.input + 1
    else plan.span.output
  if index < shared then product (input.at index) (plan.response.at index) else (0.0, 0.0)

/-- The whole spectrum of a real output: its upper half is the conjugate of the lower one. -/
def Plan.outputSpectrum (plan : Plan) (input : Spectrum) : Spectrum :=
  let length := 2 * plan.span.output
  let re (index : Nat) : Float :=
    (plan.lowerHalf input (if index ≤ plan.span.output then index else length - index)).1
  let im (index : Nat) : Float :=
    if index = 0 ∨ index = plan.span.output then 0.0
    else if index < plan.span.output then (plan.lowerHalf input index).2
    else -(plan.lowerHalf input (length - index)).2
  ⟨tabulate length re, tabulate length im⟩

/-- The frames that a stretch of input becomes, twice as many as come out at once. -/
def Plan.convert (plan : Plan) (frames : List Float32) : FloatArray :=
  let row := frames.foldl (fun (row : FloatArray) frame => row.push frame.toFloat) .empty
  (plan.backward.apply (plan.outputSpectrum (plan.forward.apply (.ofReal row)))).re

/-- What the result of a stretch leaves for the frames of the next one. -/
def Plan.overlap (plan : Plan) (result : FloatArray) : FloatArray :=
  tabulate plan.span.output fun index => element result (plan.span.output + index)

/-- The frames that come out of a result and of what the one before has left. -/
def Plan.mixed (plan : Plan) (result overlap : FloatArray) : List Float32 :=
  (List.range plan.span.output).map fun index =>
    (element result index + element overlap index).toFloat32

/-- The frames of several stretches one after the other, the first of which overlaps with what the
one before has left. -/
def Plan.groups (plan : Plan) : Nat → List Float32 → FloatArray → List Float32
  | 0, _, _ => []
  | count + 1, queue, overlap =>
    let result := plan.convert (queue.take plan.span.input)
    plan.mixed result overlap ++
      plan.groups count (queue.drop plan.span.input) (plan.overlap result)

theorem Plan.length_groups (plan : Plan) (count : Nat) (queue : List Float32)
    (overlap : FloatArray) :
    (plan.groups count queue overlap).length = count * plan.span.output := by
  induction count generalizing queue overlap with
  | zero => rw [groups, List.length_nil, Nat.zero_mul]
  | succ count ih =>
    rw [groups, List.length_append, ih, mixed, List.length_map, List.length_range, Nat.succ_mul,
      Nat.add_comm]

/-- What the last of the stretches that some input fills has left; nothing if it fills none. -/
def Plan.remainder (plan : Plan) (taken : List Float32) : FloatArray :=
  let count := taken.length / plan.span.input
  if count = 0 then .empty
  else
    plan.overlap (plan.convert ((taken.drop ((count - 1) * plan.span.input)).take plan.span.input))

/-- The frames that come out when a block is taken in behind others. -/
def Plan.answer (plan : Plan) (taken block : List Float32) : List Float32 :=
  let queue := taken.drop (taken.length / plan.span.input * plan.span.input) ++ block
  plan.groups (queue.length / plan.span.input) queue (plan.remainder taken)

/-- A converter that works by a plan, seen from outside. -/
def Plan.transducer (plan : Plan) : Transducer where
  span := plan.span
  delay := plan.span.output / 2
  answer := plan.answer
  length_answer taken block := by
    rw [answer, length_groups, List.length_append, List.length_drop, Nat.mod_eq_sub_div_mul]

/-! ## Making a converter -/

/-- Makes a converter between two rates.  The lengths of a stretch are computed in words, before
they are brought into lowest terms, and there has to be memory for a stretch. -/
def makeTransducer (inputRate outputRate : Nat) : Except ConverterFault Transducer :=
  let times := Span.times inputRate outputRate
  let span := Span.ofRates inputRate outputRate
  let possible : Except Breakdown Unit := do
    let _ ← inWordOf "multiply" (times * outputRate)
    let _ ← inWordOf "multiply" (times * inputRate)
    countBytes (max span.input span.output)
  match possible with
  | .ok () => .ok (Plan.ofSpan span).transducer
  | .error why => .error (.broken why)

end LiveSpeech.Audio
