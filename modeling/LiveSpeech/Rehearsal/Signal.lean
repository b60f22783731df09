import LiveSpeech.Number.Binary

/-!
# Signals for rehearsals

Simple signals to feed a session or a resampler with, and a coarse reading of what comes out:
a sample to the nearest thousandth.
-/

namespace LiveSpeech.Rehearsal

set_option autoImplicit false

open LiveSpeech.Number

inductive Signal where
  | zeros
  | constant (value : Float)
  | impulse (value : Float) (place : Nat)
  | saw (step offset period : Nat)
  | triangle (offset period : Nat)

/-- A remainder as a part of its divisor. -/
def share (number period : Nat) : Float := (number % period).toFloat / period.toFloat

/-- The sample of a signal at a place. -/
def Signal.sample (signal : Signal) (index : Nat) : Float :=
  match signal with
  | .zeros => 0.0
  | .constant value => value
  | .impulse value place => if index = place then value else 0.0
  | .saw step offset period => share (step * index + offset) period - 0.5
  | .triangle offset period => 1.0 - 4.0 * (share (index + offset) period - 0.5).abs

/-- The first samples of a signal. -/
def Signal.samples (signal : Signal) (count : Nat) : List Float32 :=
  (List.range count).map fun index => (signal.sample index).toFloat32

/-- A number to the nearest thousandth, as a count of thousandths; a half goes away from
zero. -/
def thousandths (number : Float) : Int := ((reading (number * 1000.0)).nearestWhole?).getD 0

end LiveSpeech.Rehearsal
