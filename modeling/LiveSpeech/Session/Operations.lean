import LiveSpeech.Session.Build
import LiveSpeech.Session.Cycle

/-!
# What can be asked of a session

A session can be started, started over, and given audio.  Starting takes effect only on a
session that does not listen yet.  Starting over is the only way to a new engine; if none can
be made the session stays without resources until the next attempt.
-/

namespace LiveSpeech

set_option autoImplicit false

open LiveSpeech.Audio

variable {World : Type}

/-- A session and what lies outside it. -/
structure Stage (World : Type) where
  world : World
  session : Session

/-- Works on what lies outside a session. -/
def Stage.outside {Failed Answer : Type} (action : Action World Failed Answer) :
    Action (Stage World) Failed Answer :=
  action.onPart Stage.world fun stage world => { stage with world := world }

def Stage.changeSession {Failed : Type} (how : Session → Session) :
    Action (Stage World) Failed Unit :=
  .change fun stage => { stage with session := how stage.session }

/-- Notes how many samples are dropped, if any. -/
def noteIgnored {State Failed : Type} (count : Nat) : Action State Failed Unit :=
  if count = 0 then .done () else .note (.samplesIgnored count)

/-- Starts taking audio.  A session that takes audio already goes on as it is. -/
def Session.start {Failed : Type} : Action (Stage World) Failed Unit := do
  let stage ← .state
  if stage.session.state = .listening then return ()
  else
    Stage.changeSession fun session => { session with
      endpointDetected := false
      enabled := true
      state := .listening }
    .note .listening

/-- What is in the log about a session that starts over. -/
def noteReset (outside : Collaborators World) (session : Session) : Action World Failure Unit :=
  match session.resources with
  | none => .done ()
  | some resources => do
    let elapsed ← .ask outside.elapsedSeconds .elapsedSeconds
    .note (.sessionReset (resources.timing.stats elapsed))

/-- Lets go of the engine and makes everything anew. -/
def Session.reset (outside : Collaborators World) : Action (Stage World) Failure Unit := do
  let stage ← .state
  let session := stage.session
  Stage.outside (noteReset outside session)
  Stage.outside (releaseResources outside session.resources)
  Stage.changeSession fun session =>
    .fresh session.config session.symbols session.models none
  Stage.outside (.tell outside.restartClock .restartClock)
  let resources ← Stage.outside (buildResources outside session.models session.config)
  Stage.changeSession fun session => { session with resources := some resources }

/-- The decoder of a session with the given resources. -/
def Session.decoder (session : Session) (resources : Resources) : Decoder where
  config := session.config
  symbols := session.symbols
  nativeRate := session.models.nativeRate
  engine := resources.engine

/-- Decodes the complete chunks of a session that takes audio.  While chunks are decoded
nothing is collected; what is left over at the end is collected if all were decoded. -/
def Session.deliver (outside : Collaborators World) (resources : Resources)
    (chunks : List (List Float32)) (last : Accumulator) :
    Action (Stage World) SessionError Nat := fun stage =>
  let session := stage.session
  let run := decodeChunks outside (session.decoder resources) chunks
    ⟨stage.world, resources.timing, session.endpointDetected⟩
  let after (accumulator : Accumulator) (session : Session) : Stage World :=
    ⟨run.state.world, { session with
      resources := some { resources with
        accumulator := accumulator
        timing := run.state.timing }
      endpointDetected := run.state.endpointDetected }⟩
  match run.answer with
  | .error cause => ⟨.error cause, after last.drained session, run.record⟩
  | .ok (.complete cycles) => ⟨.ok cycles, after last session, run.record⟩
  | .ok (.ended cycles left) =>
    let ignored := left.flatten.length + last.held.length
    let noted := noteIgnored ignored (after last.drained { session with
      enabled := false
      state := .finalized })
    ⟨noted.answer.map fun () => cycles, noted.state, run.record ++ noted.record⟩

/-- Takes a fragment of audio and answers with the count of decoding cycles.  What arrives
after the end of an utterance is dropped, the rest of the fragment included. -/
def Session.acceptAudio (outside : Collaborators World) (samples : List Float32) :
    Action (Stage World) SessionError Nat := do
  let stage ← .state
  let session := stage.session
  if !session.enabled then return 0
  else
    match session.resources with
    | none => .fail .released
    | some resources =>
      let (frames, resampler) := resources.resampler.feed samples
      let resources := { resources with resampler := resampler }
      let scaled := frames.map (· * sampleScale)
      if session.endpointDetected then
        Stage.changeSession fun session => { session with resources := some resources }
        noteIgnored scaled.length
        return 0
      else
        let (chunks, last) := resources.accumulator.cut scaled
        Session.deliver outside resources chunks last

end LiveSpeech
