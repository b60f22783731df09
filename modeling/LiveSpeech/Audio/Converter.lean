import LiveSpeech.Breakdown

/-!
# Converting between two rates block by block

A converter takes blocks of a fixed size and yields groups of frames at another rate.  It comes from
elsewhere, and all that is known about it is what can be seen from outside (`Transducer`): what it
answers a block with depends on the frames that it has taken in before, and whenever the input fills
a stretch, all frames of the stretch come out.

So the frames that were taken in are the state of a converter (`Converter`), and it is reset by
forgetting them.
-/

namespace LiveSpeech.Audio

set_option autoImplicit false

/-- The frames of an input block. -/
def blockSize : Nat := 1024

/-- The lengths between which a pair of rates is converted. -/
structure Span where
  input : Nat
  output : Nat
  deriving DecidableEq, Repr

/-- What converts frames from one rate to another, seen from outside. -/
structure Transducer where
  span : Span
  delay : Nat
  /-- The frames that come out when a block is taken in behind others. -/
  answer : List Float32 → List Float32 → List Float32
  length_answer : ∀ taken block, (answer taken block).length =
    (taken.length % span.input + block.length) / span.input * span.output

/-- Why there is nothing that converts between two rates. -/
inductive ConverterFault where
  | refused (reason : String)
  | broken (why : Breakdown)

/-- A converter in the middle of a stream. -/
structure Converter where
  kind : Transducer
  taken : List Float32

namespace Converter

/-- A converter before any input. -/
def ofKind (kind : Transducer) : Converter := ⟨kind, []⟩

/-- How many output frames a sample is late. -/
def delay (converter : Converter) : Nat := converter.kind.delay

/-- How many frames wait for their stretch to be filled. -/
def waiting (converter : Converter) : Nat := converter.taken.length % converter.kind.span.input

/-- Takes in a block: the frames that come out, and the converter after it. -/
def process (converter : Converter) (block : List Float32) : List Float32 × Converter :=
  (converter.kind.answer converter.taken block,
    { converter with taken := converter.taken ++ block })

/-- The converter as it was before any input. -/
def reset (converter : Converter) : Converter := ofKind converter.kind

end Converter

end LiveSpeech.Audio
