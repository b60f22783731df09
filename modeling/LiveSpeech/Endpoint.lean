/-!
# When an utterance has ended

An utterance has ended when one of five rules says so.  A rule asks for a stretch of silence
at the end, for a bound on the cost of the best final state, for a length of the utterance,
and perhaps for something other than silence in it.  The engine applies the rules; this
module says what they are.
-/

namespace LiveSpeech

set_option autoImplicit false

/-- A rule that ends an utterance when all it asks for is met: at least so many seconds of silence
at the end and of audio, and at most such a relative cost. -/
structure EndpointRule where
  mustContainNonsilence : Bool
  minTrailingSilence : Float32
  maxRelativeCost : Float32
  minUtteranceLength : Float32

/-- The rules, and which phones count as silence. -/
structure EndpointPolicy where
  silencePhones : String
  rule : Fin 5 → EndpointRule

/-- An upper bound that nothing exceeds. -/
def unbounded : Float32 := 1.0 / 0.0

/-- The rules if nothing else is said. -/
def EndpointRule.standard : Fin 5 → EndpointRule
  -- A long silence in which nothing was decoded.
  | 0 => ⟨false, 5.0, unbounded, 0.0⟩
  -- A short silence after an utterance that is certain.
  | 1 => ⟨true, 0.5, 2.0, 0.0⟩
  | 2 => ⟨true, 1.0, 8.0, 0.0⟩
  | 3 => ⟨true, 2.0, unbounded, 0.0⟩
  -- An utterance that is too long.
  | 4 => ⟨false, 0.0, unbounded, 20.0⟩

/-- The policy if nothing else is said. -/
def EndpointPolicy.standard : EndpointPolicy := ⟨"", EndpointRule.standard⟩

end LiveSpeech
