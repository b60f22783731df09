import LiveSpeech.Action

/-!
# The calls of a rehearsal in words

A rehearsal is judged by what was asked of the collaborators.  The calls that matter for that
have a line each; questions without consequences have none.

A call for an engine is named by its number, whether an engine was made or not, so the lines
of a record depend on how many such calls came before.
-/

namespace LiveSpeech.Rehearsal

set_option autoImplicit false

open LiveSpeech.Number LiveSpeech.Json

/-- A policy as text, its fields in alphabetical order and its numbers as strings. -/
def policyText (policy : EndpointPolicy) : List Char :=
  let ruleText (rule : EndpointRule) : List Char :=
    listText [booleanText rule.mustContainNonsilence, stringText (plain rule.minTrailingSilence),
      stringText (plain rule.maxRelativeCost), stringText (plain rule.minUtteranceLength)]
  let rules := (List.finRange 5).map fun number => ruleText (policy.rule number)
  objectText [("rules", listText rules), ("silence_phones", stringText policy.silencePhones)]

/-- Changes of weights as text. -/
def weightsText (weights : List WeightChange) : List Char :=
  listText (weights.map fun (frame, change) => listText [naturalText frame, singleText change])

/-- What a loader is asked for, as text. -/
def loadText (config : Config) : List Char :=
  listText [stringText config.model, stringText config.graph,
    listText (config.engineOptions.map stringText)]

/-- A call to a numbered engine. -/
def engineLine (what : String) (engine : Engine) : String := what ++ " " ++ toString engine.id

/-- The lines of a call that came after so many calls for an engine; policies are shown if
`policies` says so. -/
def callLines (policies : Bool) (creations : Nat) : Call → List String
  | .load config _ => ["load " ++ String.ofList (loadText config)]
  | .createEngine _ _ => ["create " ++ toString (creations + 1)]
  | .releaseEngine engine => [engineLine "drop" engine]
  | .acceptWaveform engine rate samples _ =>
    [engineLine "accept" engine ++ " " ++ plain rate ++ " " ++ toString samples.length]
  | .advanceDecoding engine _ => [engineLine "advance" engine]
  | .endpointDetected engine policy answer =>
    (engineLine "endpoint?" engine ++ " " ++ String.ofList (booleanText answer)) ::
      (if policies then ["policy " ++ String.ofList (policyText policy)] else [])
  | .computeTraceback engine => [engineLine "traceback" engine]
  | .deltaWeights engine _ => [engineLine "deltas" engine]
  | .updateFrameWeights engine weights =>
    [engineLine "weights" engine ++ " " ++ String.ofList (weightsText weights)]
  | .restartClock => ["restart"]
  | .waitUntil seconds => ["wait " ++ plain seconds]
  | .releaseModels _ | .finalRelativeCost _ _ | .bestPath _ _ | .framesDecoded _ _
  | .silenceWeighting _ _ | .adaptiveFeatures _ _ | .elapsedSeconds _ | .readFile _
  | .makeConverter _ _ _ | .reserve _ _ => []

/-- How many calls for an engine there are among the calls. -/
def creationsIn (calls : List Call) : Nat :=
  calls.countP fun
    | .createEngine _ _ => true
    | _ => false

/-- The lines of calls that came after so many calls for an engine. -/
def lines (policies : Bool) : Nat → List Call → List String
  | _, [] => []
  | creations, call :: others =>
    callLines policies creations call ++ lines policies (creations + creationsIn [call]) others

/-- The samples that engines have accepted. -/
def acceptedSamples (calls : List Call) : List Float32 :=
  calls.flatMap fun
    | .acceptWaveform _ _ samples (.ok ()) => samples
    | _ => []

end LiveSpeech.Rehearsal
