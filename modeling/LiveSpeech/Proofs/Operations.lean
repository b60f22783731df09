import LiveSpeech.Proofs.Build
import LiveSpeech.Proofs.Chunks
import LiveSpeech.Proofs.Rows
import LiveSpeech.Session.Operations

/-!
# What the operations on a session can do

Audio is dropped unless the session takes it (`Session.Takes`).  If it does the fragment is
resampled, scaled and cut, and the chunks are delivered.  `AudioCalls` lists what can become of a
fragment: how the answer and the session come out, and which calls the row of its chunks made.
`AudioStep` is the same list by the courses of the row.

Starting and starting over are described in the same way (`start_of_not_listening`, `reset_step`);
neither leaves a landmark.
-/

namespace LiveSpeech

set_option autoImplicit false

open LiveSpeech.Audio

variable {World : Type}

/-! ## A fragment on its way -/

/-- The scaled frames that a fragment comes to. -/
def Resources.frames (resources : Resources) (samples : List Float32) : List Float32 :=
  (resources.resampler.feed samples).1.map (· * sampleScale)

/-- The resources after the resampler has taken a fragment in. -/
def Resources.fed (resources : Resources) (samples : List Float32) : Resources :=
  { resources with resampler := (resources.resampler.feed samples).2 }

/-- The complete chunks that a fragment comes to. -/
def Resources.chunks (resources : Resources) (samples : List Float32) : List (List Float32) :=
  (resources.accumulator.cut (resources.frames samples)).1

/-- The accumulator with what a fragment leaves over. -/
def Resources.rest (resources : Resources) (samples : List Float32) : Accumulator :=
  (resources.accumulator.cut (resources.frames samples)).2

/-- The session takes audio, with these resources. -/
structure Session.Takes (session : Session) (resources : Resources) : Prop where
  enabled : session.enabled = true
  held : session.resources = some resources
  lowered : session.endpointDetected = false

/-- The session with what a row of chunks has left. -/
def Session.keep (session : Session) (resources : Resources) (accumulator : Accumulator)
    (timing : TimingGate) (flag : Bool) : Session :=
  { session with
    resources := some { resources with accumulator := accumulator, timing := timing }
    endpointDetected := flag }

/-- The session after its utterance. -/
def Session.close (session : Session) : Session :=
  { session with enabled := false, state := .finalized }

/-- The notices about dropped samples. -/
def ignoredNotices (count : Nat) : List Notice := if count = 0 then [] else [.samplesIgnored count]

theorem noteIgnored_run {State Failed : Type} (count : Nat) (state : State) :
    (noteIgnored count : Action State Failed Unit) state =
      ⟨.ok (), state, (ignoredNotices count).map .note⟩ := by
  unfold noteIgnored ignoredNotices
  split
  · rfl
  · rfl

/-! ## The courses of a fragment -/

section Audio

variable (outside : Collaborators World) {stage : Stage World}

theorem acceptAudio_of_disabled (disabled : stage.session.enabled = false)
    (samples : List Float32) :
    Session.acceptAudio outside samples stage = ⟨.ok 0, stage, []⟩ := by
  unfold Session.acceptAudio
  rw [Action.state_bind, disabled]
  rfl

theorem acceptAudio_of_released (enabled : stage.session.enabled = true)
    (released : stage.session.resources = none) (samples : List Float32) :
    Session.acceptAudio outside samples stage = ⟨.error .released, stage, []⟩ := by
  unfold Session.acceptAudio
  rw [Action.state_bind, enabled, released]
  rfl

/-- Once the end is reported audio goes no further than the resampler. -/
theorem acceptAudio_of_reported {resources : Resources} (enabled : stage.session.enabled = true)
    (held : stage.session.resources = some resources)
    (reported : stage.session.endpointDetected = true) (samples : List Float32) :
    Session.acceptAudio outside samples stage =
      ⟨.ok 0, { stage with session :=
          { stage.session with resources := some (resources.fed samples) } },
        (ignoredNotices (resources.frames samples).length).map .note⟩ := by
  unfold Session.acceptAudio
  rw [Action.state_bind, enabled, held, reported]
  show (noteIgnored _ >>= fun _ => pure 0) _ = _
  rw [Action.bind_pure_run, noteIgnored_run]
  rfl

theorem acceptAudio_of_takes {resources : Resources} (takes : stage.session.Takes resources)
    (samples : List Float32) :
    Session.acceptAudio outside samples stage =
      Session.deliver outside (resources.fed samples) (resources.chunks samples)
        (resources.rest samples) stage := by
  unfold Session.acceptAudio
  rw [Action.state_bind, takes.enabled, takes.held, takes.lowered]
  rfl

/-- A session that does not take audio does the same whatever lies outside, and leaves that alone.
It fails only if it has nothing to work with. -/
theorem acceptAudio_of_not_takes {session : Session}
    (idle : ∀ resources, ¬session.Takes resources) (samples : List Float32) :
    ∃ (answer : Except SessionError Nat) (session' : Session) (notices : List Notice),
      (∀ error, answer = .error error → error = .released) ∧
      ∀ {World : Type} (outside : Collaborators World) (world : World),
        Session.acceptAudio outside samples ⟨world, session⟩ =
          ⟨answer, ⟨world, session'⟩, notices.map .note⟩ := by
  cases enabled : session.enabled with
  | false =>
    exact ⟨.ok 0, session, [], nofun, fun outside _ =>
      acceptAudio_of_disabled outside enabled samples⟩
  | true =>
    cases held : session.resources with
    | none =>
      exact ⟨.error .released, session, [], fun _ failed => (Except.error.inj failed).symm,
        fun outside _ => acceptAudio_of_released outside enabled held samples⟩
    | some resources =>
      cases flag : session.endpointDetected with
      | true =>
        exact ⟨.ok 0, { session with resources := some (resources.fed samples) },
          ignoredNotices (resources.frames samples).length, nofun, fun outside _ =>
            acceptAudio_of_reported outside enabled held flag samples⟩
      | false => exact absurd ⟨enabled, held, flag⟩ (idle resources)

section Deliver

variable {outside : Collaborators World} {resources : Resources} {chunks : List (List Float32)}

/-- The row of chunks that a delivery runs through. -/
def Session.row (outside : Collaborators World) (resources : Resources)
    (chunks : List (List Float32)) (stage : Stage World) :
    Outcome (Cycle World) SessionError Delivery :=
  decodeChunks outside (stage.session.decoder resources) chunks
    ⟨stage.world, resources.timing, stage.session.endpointDetected⟩

theorem row_calls (outside : Collaborators World) (resources : Resources)
    (chunks : List (List Float32)) {stage : Stage World}
    (lowered : stage.session.endpointDetected = false) :
    let row := Session.row outside resources chunks stage
    RowCalls outside.debugging (stage.session.decoder resources) chunks resources.timing false
      row.answer row.state.timing row.state.endpointDetected (effectsOf row.record) := by
  intro row
  rw [← lowered]
  exact decodeChunks_calls outside (stage.session.decoder resources) chunks
    ⟨stage.world, resources.timing, stage.session.endpointDetected⟩

theorem row_step (outside : Collaborators World) (resources : Resources)
    (chunks : List (List Float32)) {stage : Stage World}
    (lowered : stage.session.endpointDetected = false) :
    let row := Session.row outside resources chunks stage
    RowStep (stage.session.decoder resources) chunks resources.timing false row.answer
      row.state.timing row.state.endpointDetected (landmarksOf row.record) := by
  intro row
  rw [← landmarksOf_effectsOf]
  exact (row_calls outside resources chunks lowered).step

theorem deliver_of_error {error : SessionError}
    (failed : (Session.row outside resources chunks stage).answer = .error error)
    (last : Accumulator) :
    let row := Session.row outside resources chunks stage
    Session.deliver outside resources chunks last stage =
      ⟨.error error, ⟨row.state.world, stage.session.keep resources last.drained row.state.timing
        row.state.endpointDetected⟩, row.record⟩ := by
  unfold Session.row at failed
  simp only [Session.deliver, failed]
  rfl

theorem deliver_of_complete {cycles : Nat}
    (complete : (Session.row outside resources chunks stage).answer = .ok (.complete cycles))
    (last : Accumulator) :
    let row := Session.row outside resources chunks stage
    Session.deliver outside resources chunks last stage =
      ⟨.ok cycles, ⟨row.state.world, stage.session.keep resources last row.state.timing
        row.state.endpointDetected⟩, row.record⟩ := by
  unfold Session.row at complete
  simp only [Session.deliver, complete]
  rfl

/-- What is left of the audio when the utterance ends is noted. -/
theorem deliver_run_of_ended {cycles : Nat} {left : List (List Float32)}
    (ended : (Session.row outside resources chunks stage).answer = .ok (.ended cycles left))
    (last : Accumulator) :
    let row := Session.row outside resources chunks stage
    Session.deliver outside resources chunks last stage =
      ⟨.ok cycles, ⟨row.state.world, (stage.session.keep resources last.drained row.state.timing
        row.state.endpointDetected).close⟩, row.record ++
          (ignoredNotices (left.flatten.length + last.held.length)).map .note⟩ := by
  unfold Session.row at ended
  simp only [Session.deliver, ended, noteIgnored_run]
  rfl

theorem deliver_of_ended {cycles : Nat} {left : List (List Float32)}
    (ended : (Session.row outside resources chunks stage).answer = .ok (.ended cycles left))
    (last : Accumulator) :
    let row := Session.row outside resources chunks stage
    ∃ notices : List Notice, Session.deliver outside resources chunks last stage =
      ⟨.ok cycles, ⟨row.state.world, (stage.session.keep resources last.drained row.state.timing
        row.state.endpointDetected).close⟩, row.record ++ notices.map .note⟩ :=
  ⟨_, deliver_run_of_ended ended last⟩

end Deliver

/-- What can become of a fragment: the answer, the session, and the calls and messages. -/
inductive AudioCalls (debugging : Bool) (session : Session) (samples : List Float32) :
    Except SessionError Nat → Session → List Event → Prop where
  /-- The session drops audio. -/
  | disabled (disabled : session.enabled = false) :
      AudioCalls debugging session samples (.ok 0) session []
  /-- The session has nothing to work with. -/
  | released (enabled : session.enabled = true) (released : session.resources = none) :
      AudioCalls debugging session samples (.error .released) session []
  /-- The end was reported before, and the session was not closed. -/
  | reported (resources : Resources) (enabled : session.enabled = true)
      (held : session.resources = some resources) (reported : session.endpointDetected = true) :
      AudioCalls debugging session samples (.ok 0)
        { session with resources := some (resources.fed samples) } []
  /-- The row of chunks fails. -/
  | failed (resources : Resources) (takes : session.Takes resources) {error : SessionError}
      {timing : TimingGate} {flag : Bool} {calls : List Event}
      (row : RowCalls debugging (session.decoder resources) (resources.chunks samples)
        resources.timing false (.error error) timing flag calls) :
      AudioCalls debugging session samples (.error error)
        (session.keep (resources.fed samples) (resources.rest samples).drained timing flag) calls
  /-- All chunks are decoded. -/
  | complete (resources : Resources) (takes : session.Takes resources) {cycles : Nat}
      {timing : TimingGate} {flag : Bool} {calls : List Event}
      (row : RowCalls debugging (session.decoder resources) (resources.chunks samples)
        resources.timing false (.ok (.complete cycles)) timing flag calls) :
      AudioCalls debugging session samples (.ok cycles)
        (session.keep (resources.fed samples) (resources.rest samples) timing flag) calls
  /-- The utterance ends. -/
  | ended (resources : Resources) (takes : session.Takes resources) {cycles : Nat}
      {left : List (List Float32)} {timing : TimingGate} {flag : Bool} {calls : List Event}
      (row : RowCalls debugging (session.decoder resources) (resources.chunks samples)
        resources.timing false (.ok (.ended cycles left)) timing flag calls) :
      AudioCalls debugging session samples (.ok cycles)
        (session.keep (resources.fed samples) (resources.rest samples).drained timing flag).close
        calls

/-- What can become of a fragment: the answer, the session, and the landmarks. -/
inductive AudioStep (session : Session) (samples : List Float32) :
    Except SessionError Nat → Session → List Event → Prop where
  /-- The session drops audio. -/
  | disabled (disabled : session.enabled = false) : AudioStep session samples (.ok 0) session []
  /-- The session has nothing to work with. -/
  | released (enabled : session.enabled = true) (released : session.resources = none) :
      AudioStep session samples (.error .released) session []
  /-- The end was reported before, and the session was not closed. -/
  | reported (resources : Resources) (enabled : session.enabled = true)
      (held : session.resources = some resources) (reported : session.endpointDetected = true) :
      AudioStep session samples (.ok 0)
        { session with resources := some (resources.fed samples) } []
  /-- The row of chunks fails. -/
  | failed (resources : Resources) (takes : session.Takes resources) {error : SessionError}
      {timing : TimingGate} {flag : Bool} {landmarks : List Event}
      (row : RowStep (session.decoder resources) (resources.chunks samples) resources.timing false
        (.error error) timing flag landmarks) :
      AudioStep session samples (.error error)
        (session.keep (resources.fed samples) (resources.rest samples).drained timing flag)
        landmarks
  /-- All chunks are decoded. -/
  | complete (resources : Resources) (takes : session.Takes resources) {cycles : Nat}
      {timing : TimingGate} {flag : Bool} {landmarks : List Event}
      (row : RowStep (session.decoder resources) (resources.chunks samples) resources.timing false
        (.ok (.complete cycles)) timing flag landmarks) :
      AudioStep session samples (.ok cycles)
        (session.keep (resources.fed samples) (resources.rest samples) timing flag) landmarks
  /-- The utterance ends. -/
  | ended (resources : Resources) (takes : session.Takes resources) {cycles : Nat}
      {left : List (List Float32)} {timing : TimingGate} {flag : Bool} {landmarks : List Event}
      (row : RowStep (session.decoder resources) (resources.chunks samples) resources.timing false
        (.ok (.ended cycles left)) timing flag landmarks) :
      AudioStep session samples (.ok cycles)
        (session.keep (resources.fed samples) (resources.rest samples).drained timing flag).close
        landmarks

/-- Audio changes nothing about the configuration. -/
theorem AudioStep.config_eq {session session' : Session} {samples : List Float32}
    {answer : Except SessionError Nat} {landmarks : List Event}
    (step : AudioStep session samples answer session' landmarks) :
    session'.config = session.config := by
  cases step <;> rfl

/-- Audio changes nothing about the symbols. -/
theorem AudioStep.symbols_eq {session session' : Session} {samples : List Float32}
    {answer : Except SessionError Nat} {landmarks : List Event}
    (step : AudioStep session samples answer session' landmarks) :
    session'.symbols = session.symbols := by
  cases step <;> rfl

/-- **The calls and messages of a fragment of audio.** -/
theorem acceptAudio_calls (outside : Collaborators World) (samples : List Float32)
    (stage : Stage World) :
    let run := Session.acceptAudio outside samples stage
    AudioCalls outside.debugging stage.session samples run.answer run.state.session
      (effectsOf run.record) := by
  intro run
  cases enabled : stage.session.enabled with
  | false =>
    have ran : run = _ := acceptAudio_of_disabled outside enabled samples
    rw [ran]
    exact .disabled enabled
  | true =>
    cases held : stage.session.resources with
    | none =>
      have ran : run = _ := acceptAudio_of_released outside enabled held samples
      rw [ran]
      exact .released enabled held
    | some resources =>
      cases flag : stage.session.endpointDetected with
      | true =>
        have ran : run = _ := acceptAudio_of_reported outside enabled held flag samples
        rw [ran, effectsOf_notices]
        exact .reported resources enabled held flag
      | false =>
        have takes : stage.session.Takes resources := ⟨enabled, held, flag⟩
        have ran : run = _ := acceptAudio_of_takes outside takes samples
        have row : RowCalls outside.debugging (stage.session.decoder resources)
            (resources.chunks samples) resources.timing false _ _ _ _ :=
          row_calls outside (resources.fed samples) _ flag
        cases answer : (Session.row outside (resources.fed samples) (resources.chunks samples)
            stage).answer with
        | error error =>
          rw [answer] at row
          rw [ran, deliver_of_error answer]
          exact .failed resources takes row
        | ok delivery =>
          rw [answer] at row
          cases delivery with
          | complete cycles =>
            rw [ran, deliver_of_complete answer]
            exact .complete resources takes row
          | ended cycles left =>
            obtain ⟨notices, delivered⟩ := deliver_of_ended answer (resources.rest samples)
            rw [ran, delivered, effectsOf_append, effectsOf_notices, List.append_nil]
            exact .ended resources takes row

/-- What is called and sent for a fragment is one of the things that can become of it. -/
theorem AudioCalls.step {debugging : Bool} {session session' : Session} {samples : List Float32}
    {answer : Except SessionError Nat} {calls : List Event}
    (audio : AudioCalls debugging session samples answer session' calls) :
    AudioStep session samples answer session' (landmarksOf calls) := by
  cases audio with
  | disabled disabled => exact .disabled disabled
  | released enabled released => exact .released enabled released
  | reported resources enabled held reported => exact .reported resources enabled held reported
  | failed resources takes row => exact .failed resources takes row.step
  | complete resources takes row => exact .complete resources takes row.step
  | ended resources takes row => exact .ended resources takes row.step

/-- **What can become of a fragment.** -/
theorem acceptAudio_step (outside : Collaborators World) (samples : List Float32)
    (stage : Stage World) :
    let run := Session.acceptAudio outside samples stage
    AudioStep stage.session samples run.answer run.state.session (landmarksOf run.record) := by
  intro run
  rw [← landmarksOf_effectsOf]
  exact (acceptAudio_calls outside samples stage).step

end Audio

/-! ## Starting -/

theorem start_of_listening {Failed : Type} {stage : Stage World}
    (listening : stage.session.state = .listening) :
    (Session.start : Action (Stage World) Failed Unit) stage = ⟨.ok (), stage, []⟩ := by
  unfold Session.start
  rw [Action.state_bind, if_pos listening]
  rfl

theorem start_of_not_listening {Failed : Type} {stage : Stage World}
    (quiet : stage.session.state ≠ .listening) :
    (Session.start : Action (Stage World) Failed Unit) stage =
      ⟨.ok (), { stage with session :=
          { stage.session with endpointDetected := false, enabled := true, state := .listening } },
        [.note .listening]⟩ := by
  unfold Session.start
  rw [Action.state_bind, if_neg quiet]
  rfl

/-- Starting notes something at most, and the session keeps what it has. -/
theorem start_run {Failed : Type} (stage : Stage World) :
    ∃ (session : Session) (notices : List Notice),
      session.resources = stage.session.resources ∧
      (Session.start : Action (Stage World) Failed Unit) stage =
        ⟨.ok (), ⟨stage.world, session⟩, notices.map .note⟩ := by
  by_cases listening : stage.session.state = .listening
  · exact ⟨stage.session, [], rfl, start_of_listening listening⟩
  · refine ⟨_, [.listening], ?_, start_of_not_listening listening⟩
    rfl

theorem landmarksOf_start {Failed : Type} (stage : Stage World) :
    landmarksOf ((Session.start : Action (Stage World) Failed Unit) stage).record = [] := by
  obtain ⟨_, notices, _, started⟩ := @start_run _ Failed stage
  rw [started]
  exact landmarksOf_eq_nil (List.forall_mem_map.mpr fun _ _ => rfl)

/-! ## Starting over -/

/-- A note, or one of the calls by which a session lets go of what it holds. -/
def Event.letsGo : Event → Bool
  | .note _ | .call (.elapsedSeconds _) | .call (.releaseEngine _) | .call .restartClock => true
  | _ => false

theorem Event.isQuiet_of_letsGo {event : Event} (letsGo : event.letsGo = true) :
    event.isQuiet = true := by
  cases event with
  | call call => cases call <;> first | rfl | cases letsGo
  | note notice => rfl
  | send message => cases letsGo

/-- The log about a session that starts over asks for nothing but the time. -/
theorem noteReset_within {events : Event → Prop} (noted : ∀ notice, events (.note notice))
    (timed : ∀ answer, events (.call (.elapsedSeconds answer)))
    (outside : Collaborators World) (session : Session) :
    (noteReset outside session).Within events fun _ => False := by
  unfold noteReset
  split
  · exact .done _
  · exact .bind (.ask timed) fun _ => .happen (noted _)

theorem releaseResources_within (outside : Collaborators World) (resources : Option Resources) :
    (releaseResources outside resources).Within (·.letsGo = true) fun _ => False := by
  cases resources with
  | none => exact .done _
  | some resources => exact .tell rfl

/-- Lets go of what a session holds, with a note on how it went. -/
def Session.letGo (outside : Collaborators World) (session : Session) :
    Action World Failure Unit := do
  noteReset outside session
  releaseResources outside session.resources
  .tell outside.restartClock .restartClock

theorem letGo_within (outside : Collaborators World) (session : Session) :
    (session.letGo outside).Within (·.letsGo = true) fun _ => False :=
  .bind (noteReset_within (fun _ => rfl) (fun _ => rfl) outside session) fun _ =>
    .bind (releaseResources_within outside session.resources) fun _ => .tell rfl

/-- Makes everything anew for a session without resources. -/
def Session.rebuild (outside : Collaborators World) (models : Models) (config : Config) :
    Action (Stage World) Failure Unit := do
  let resources ← Stage.outside (buildResources outside models config)
  Stage.changeSession fun session => { session with resources := some resources }

theorem rebuild_run (outside : Collaborators World) (models : Models) (config : Config)
    {stage : Stage World} (released : stage.session.resources = none) :
    let building := buildResources outside models config stage.world
    Session.rebuild outside models config stage =
      ⟨building.answer.map fun _ => (),
        ⟨building.state, { stage.session with resources := building.answer.toOption }⟩,
        building.record⟩ := by
  intro building
  cases built : building.answer with
  | error failure =>
    have failed : (Stage.outside (buildResources outside models config) stage).answer =
        .error failure := built
    refine (Action.bind_error failed _).trans ?_
    simp only [Except.toOption, ← released]
    rfl
  | ok resources =>
    have made : (Stage.outside (buildResources outside models config) stage).answer =
        .ok resources := built
    refine (Action.bind_ok made _).trans ?_
    simp only [Outcome.after, Stage.changeSession, Action.change, List.append_nil]
    rfl

/-- The clock is started again when everything is let go. -/
theorem letGo_run (outside : Collaborators World) (session : Session) (world : World) :
    let noting := noteReset outside session world
    let releasing := releaseResources outside session.resources noting.state
    noting.answer = .ok () ∧ releasing.answer = .ok () ∧
      session.letGo outside world = ⟨.ok (), outside.restartClock releasing.state,
        noting.record ++ (releasing.record ++ [.call .restartClock])⟩ := by
  intro noting releasing
  have within : (noteReset outside session).Within (·.letsGo = true) fun _ => False :=
    noteReset_within (fun _ => rfl) (fun _ => rfl) outside session
  obtain ⟨_, noted⟩ := within.answers world
  obtain ⟨_, released⟩ := (releaseResources_within outside session.resources).answers noting.state
  exact ⟨noted, released, (Action.bind_ok noted _).trans
    (congrArg (Outcome.after _) (Action.bind_ok released _))⟩

/-- Starting over lets go of what there is, and then makes resources or is left without. -/
theorem reset_run (outside : Collaborators World) (stage : Stage World) :
    let before := stage.session.letGo outside stage.world
    let fresh := Session.fresh stage.session.config stage.session.symbols stage.session.models none
    Session.reset outside stage =
      (Session.rebuild outside stage.session.models stage.session.config
        ⟨before.state, fresh⟩).after before.record := by
  intro before fresh
  obtain ⟨noted, released, cleared⟩ := letGo_run outside stage.session stage.world
  have noted' : (Stage.outside (noteReset outside stage.session) stage).answer = .ok () := noted
  have released' : (Stage.outside (releaseResources outside stage.session.resources)
      (Stage.outside (noteReset outside stage.session) stage).state).answer = .ok () := released
  rw [show before = _ from cleared, ← Outcome.after_after, ← Outcome.after_after]
  exact (Action.bind_ok noted' _).trans
    (congrArg (Outcome.after _) (Action.bind_ok released' _))

/-- Starting over lets go of what there is, and builds resources in a world in which the clock was
just started. -/
theorem reset_building (outside : Collaborators World) (stage : Stage World) :
    ∃ (cleared : World) (letting : List Event),
      let session := stage.session
      let building := buildResources outside session.models session.config
        (outside.restartClock cleared)
      (∀ event ∈ letting, event.letsGo = true) ∧
      Session.reset outside stage = ⟨building.answer.map fun _ => (),
        ⟨building.state, .fresh session.config session.symbols session.models
          building.answer.toOption⟩, letting ++ building.record⟩ := by
  obtain ⟨_, _, cleared⟩ := letGo_run outside stage.session stage.world
  have lets := (letGo_within outside stage.session).recorded stage.world
  have ran := reset_run outside stage
  dsimp only at ran
  rw [cleared] at lets ran
  exact ⟨_, _, lets, ran.trans (congrArg (Outcome.after _) (rebuild_run _ _ _ rfl))⟩

/-- **Starting over leaves a session as if it were built, without resources if they could not be
made.** -/
theorem reset_step (outside : Collaborators World) (stage : Stage World) :
    let run := Session.reset outside stage
    ∃ built building, BuildStep outside stage.session.models stage.session.config built building ∧
      run.answer = built.map (fun _ => ()) ∧
      run.state.session = .fresh stage.session.config stage.session.symbols stage.session.models
        built.toOption ∧
      landmarksOf run.record = [] := by
  intro run
  obtain ⟨cleared, letting, lets, ran⟩ := reset_building outside stage
  have step := buildResources_step outside stage.session.models stage.session.config
    (outside.restartClock cleared)
  rw [show run = _ from ran]
  refine ⟨_, _, step, rfl, rfl, ?_⟩
  rw [landmarksOf_append, landmarksOf_eq_nil step.quiet, List.append_nil]
  exact landmarksOf_eq_nil fun event member => Event.isQuiet_of_letsGo (lets event member)

end LiveSpeech
