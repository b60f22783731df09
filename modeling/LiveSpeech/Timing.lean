import LiveSpeech.Number.Binary

/-!
# Keeping decoding in step with the audio

Decoding is held back to the speed of the audio, and partial results are looked at once per
tick of audio.  Both are governed by counts of samples at the native rate of the engine: how
many have been passed on, and at which count the last partial result was due.

The mark of the last output moves by exactly one tick at a time, so a long chunk may leave
several outputs due at once, and they are caught up with one per cycle.
-/

namespace LiveSpeech

set_option autoImplicit false

/-- Seconds of audio and seconds on the clock. -/
structure TimingStats where
  audioSeconds : Float
  wallSeconds : Float

/-- Seconds on the clock for each second of audio; `0` as long as there is no audio. -/
def TimingStats.realTimeFactor (stats : TimingStats) : Float :=
  if 0.0 < stats.audioSeconds then stats.wallSeconds / stats.audioSeconds else 0.0

/-- Counts of samples at the native rate, as words of 64 bits with a sign. -/
structure TimingGate where
  nativeRate : Float32
  tick : Int64
  consumed : Int64
  /-- The count of samples at which the last output was due. -/
  lastOutput : Int64
  positive : 0 < tick

namespace TimingGate

/-- A gate before any audio, with the requested tick, at least one sample. -/
def start (nativeRate : Float32) (tick : Int64) : TimingGate where
  nativeRate := nativeRate
  tick := if 0 < tick then tick else 1
  consumed := 0
  lastOutput := 0
  positive := by split <;> first | assumption | decide

/-- Counts samples that have been passed on.  The count is kept modulo `2 ^ 64`, like all that
is computed from it. -/
def consume (gate : TimingGate) (samples : Nat) : TimingGate :=
  { gate with consumed := gate.consumed + Int64.ofNat samples }

/-- The seconds of audio passed on, computed from the exact count. -/
def audioSeconds (gate : TimingGate) : Float :=
  Number.nearest Float (gate.consumed < 0) gate.consumed.toInt.natAbs 1 / gate.nativeRate.toFloat

/-- Whether more than a tick has passed since the last output. -/
def outputDue (gate : TimingGate) : Bool := gate.tick < gate.consumed - gate.lastOutput

/-- Moves the mark of the last output by one tick. -/
def advanceOutput (gate : TimingGate) : TimingGate :=
  { gate with lastOutput := gate.lastOutput + gate.tick }

/-- The audio passed on and the given time on the clock. -/
def stats (gate : TimingGate) (elapsed : Float) : TimingStats := ⟨gate.audioSeconds, elapsed⟩

end TimingGate

/-! ## A clock on the wall -/

/-- The seconds on a clock after a wait until `seconds`: it never goes back, and a time that is
no positive finite number is not waited for. -/
def waitOnWall (elapsed seconds : Float) : Float :=
  if seconds.isFinite && 0.0 < seconds && elapsed < seconds then seconds else elapsed

/-- Whether the seconds on a clock have come to `seconds`. -/
def hasReached (elapsed seconds : Float) : Bool := seconds ≤ elapsed

end LiveSpeech
