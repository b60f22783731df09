import LiveSpeech.Proofs.Exchange
import LiveSpeech.Proofs.Requests
import LiveSpeech.Proofs.Service

/-!
# Starting over

A session may be started over at any time: in the middle of a chunk, after an utterance, after a
failure, or when an attempt to start it over has left it without an engine.  What was before does
not matter then.  A session that was started over and one that was built just now may live in worlds
that have nothing in common but that new engines are as good as each other there (`Renews`).  They
still do the same with whatever is asked of them, and starting over is among the requests that may
follow (`Stage.Exchanged.indistinguishable`).

The proof has two parts.  Both sessions are alike, because what is built depends on the models and
the configuration only (`built_alike`).  And every request leads from sessions that are alike to
such sessions (`respond_parallel`), which for audio is the subject of the module on engines.

If an engine cannot be made, the session is left without.  It can be started, but it works on
nothing until it was started over (`turns_starved`).
-/

namespace LiveSpeech

set_option autoImplicit false

open LiveSpeech.Audio

variable {World : Type}

section Reset

variable {outside : Collaborators World} {models : Models}
  {alike : Engine → Engine → World → World → Prop} {idle : World → World → Prop}

/-! ## Starting over -/

/-- The next engine can be made in both worlds, and is alike, or in neither. -/
def CreatesAlike (outside : Collaborators World) (models : Models)
    (alike : Engine → Engine → World → World → Prop) (idle : World → World → Prop)
    (world world' : World) : Prop :=
  MadeAlike alike idle (outside.createEngine models world) (outside.createEngine models world')

/-- An engine is let go alike, with what is noted about it, and the clock is started. -/
theorem letGo_of_held (renews : Renews outside models alike idle) {session : Session}
    {resources : Resources} (engine' : Engine) (held : session.resources = some resources) :
    (session.letGo outside).Mirrors (alike resources.engine engine')
      ((session.withEngine engine').letGo outside)
      (Agreeing (CreatesAlike outside models alike idle)) idle := by
  have held' : (session.withEngine engine').resources = some (resources.withEngine engine') := by
    rw [Session.withEngine, held]
    rfl
  have timed : (Action.ask outside.elapsedSeconds .elapsedSeconds :
      Action World Failure Float).Mirrors (alike resources.engine engine')
        (Action.ask outside.elapsedSeconds .elapsedSeconds)
        (fun _ _ => alike resources.engine engine') idle :=
    .ask (fun _ _ _ => rfl) (renews.elapsedSeconds _ _)
  unfold Session.letGo noteReset
  rw [held, held']
  refine .bind_agreeing (.bind timed fun _ _ => .note _ _) fun _ => ?_
  refine .bind_agreeing (.tell rfl (renews.releaseEngine _ _)) fun _ => ?_
  exact .tell rfl renews.again

/-- Without an engine there is nothing to let go, and the clock is started. -/
theorem letGo_of_released (renews : Renews outside models alike idle) {session : Session}
    (released : session.resources = none) :
    (session.letGo outside).Mirrors idle (session.letGo outside)
      (Agreeing (CreatesAlike outside models alike idle)) idle := by
  unfold Session.letGo noteReset
  rw [released]
  refine .bind_agreeing (.done fun _ _ worlds => ⟨rfl, worlds⟩) fun _ => ?_
  refine .bind_agreeing (.done fun _ _ worlds => ⟨rfl, worlds⟩) fun _ => ?_
  exact .tell rfl renews.again

/-- Two sessions are rebuilt alike if engines are made alike, and are left without one alike. -/
theorem rebuild_mirrored (renews : Renews outside models alike idle) (config : Config)
    (symbols : SymbolTable) {world world' : World}
    (worlds : CreatesAlike outside models alike idle world world') :
    let fresh := Session.fresh config symbols models none
    Mirrored (Agreeing (Stage.Exchanged models alike idle)) (Stage.Exchanged models alike idle)
      (Session.rebuild outside models config ⟨world, fresh⟩)
      (Session.rebuild outside models config ⟨world', fresh⟩) := by
  intro fresh
  have building := buildResources_mirrors config rfl (fun _ _ creates => creates)
    renews.releaseEngine renews.feeds world world' worlds
  rw [rebuild_run _ _ _ rfl, rebuild_run _ _ _ rfl]
  dsimp only
  generalize buildResources outside models config world = run at building ⊢
  generalize buildResources outside models config world' = run' at building ⊢
  cases building with
  | @answered shown _ resources' ran ran' holds =>
    obtain ⟨other, worlds⟩ := holds
    rw [ran, ran', other]
    exact .answered shown rfl rfl ⟨rfl, .held resources'.engine rfl rfl worlds⟩
  | failed shown ran ran' worlds =>
    rw [ran, ran']
    exact .failed shown rfl rfl (.released rfl rfl worlds)

/-- Letting go does not fail, and what is made then is made alike. -/
theorem rebuild_behind (renews : Renews outside models alike idle) {stage stage' : Stage World}
    (lets : Mirrored (Agreeing (CreatesAlike outside models alike idle)) idle
      (stage.session.letGo outside stage.world) (stage'.session.letGo outside stage'.world))
    (config : Config) (symbols : SymbolTable) :
    let before := stage.session.letGo outside stage.world
    let before' := stage'.session.letGo outside stage'.world
    let fresh := Session.fresh config symbols models none
    Mirrored (Agreeing (Stage.Exchanged models alike idle)) (Stage.Exchanged models alike idle)
      ((Session.rebuild outside models config ⟨before.state, fresh⟩).after before.record)
      ((Session.rebuild outside models config ⟨before'.state, fresh⟩).after before'.record) := by
  intro before before' fresh
  cases lets with
  | answered shown _ _ holds =>
    exact (rebuild_mirrored renews config symbols holds.2).behind shown
  | failed _ ran =>
    rw [(letGo_run outside stage.session stage.world).2.2] at ran
    cases ran

/-- **Starting over goes alike.** -/
theorem reset_parallel (renews : Renews outside models alike idle) :
    (Session.reset outside).Parallel (Stage.Exchanged models alike idle)
      (Session.reset outside) := by
  rintro stage stage' stages
  rw [reset_run, reset_run]
  cases stages with
  | held engine' made held worlds =>
    subst made
    exact rebuild_behind renews (letGo_of_held renews engine' held _ _ worlds) _ _
  | released made released worlds =>
    subst made
    exact rebuild_behind renews (letGo_of_released renews released _ _ worlds) _ _

end Reset

/-! ## Runs of requests -/

/-- Obeys a request and tells what it answers: the count of cycles for audio. -/
def Session.respond (outside : Collaborators World) :
    SessionRequest → Action (Stage World) Failure (Option Nat)
  | .start => do
    Session.start
    return none
  | .audio samples => do
    let cycles ← (Session.acceptAudio outside samples).wrapFailure .error
    return some cycles
  | .reset => do
    Session.reset outside
    return none

section Respond

variable (outside : Collaborators World) (stage : Stage World)

theorem respond_start :
    let run := (Session.start : Action (Stage World) Failure Unit) stage
    Session.respond outside .start stage = ⟨run.answer.map fun _ => none, run.state, run.record⟩ :=
  Action.bind_pure_run Session.start (fun _ => none) stage

theorem respond_audio (samples : List Float32) :
    let run := Session.acceptAudio outside samples stage
    Session.respond outside (.audio samples) stage =
      ⟨(run.answer.mapError .error).map some, run.state, run.record⟩ := by
  refine (Action.bind_pure_run _ some stage).trans ?_
  rw [Action.wrapFailure_run]

theorem respond_reset :
    let run := Session.reset outside stage
    Session.respond outside .reset stage = ⟨run.answer.map fun _ => none, run.state, run.record⟩ :=
  Action.bind_pure_run (Session.reset outside) (fun _ => none) stage

end Respond

/-- Two turns that are the same to everybody who does not know engines by their names. -/
structure Turn.Same (turn turn' : Turn SessionRequest (Stage World) Failure (Option Nat)) :
    Prop where
  request : turn.request = turn'.request
  answer : turn.outcome.answer = turn'.outcome.answer
  shown : shownOf turn.outcome.record = shownOf turn'.outcome.record
  session : turn.outcome.state.session.unnamed = turn'.outcome.state.session.unnamed

/-- The session was started over in the turn. -/
def Turn.StartsOver (turn : Turn SessionRequest (Stage World) Failure (Option Nat)) : Prop :=
  turn.request = .reset ∧ turn.outcome.answer = .ok none

/-- A turn that, unless it is to start over, turns to the engine of the session and to no other, and
leaves the session with it. -/
def Turn.KeepsToEngine (turn : Turn SessionRequest (Stage World) Failure (Option Nat)) : Prop :=
  turn.request ≠ .reset →
    turn.outcome.state.session.engine? = turn.before.session.engine? ∧
      ∀ event ∈ effectsOf turn.outcome.record,
        ∃ engine, turn.before.session.engine? = some engine ∧ event.Serves engine

/-- Sessions that are the same but for the names, and stay so whatever is asked of them: turn by
turn they answer the same, make the same calls and send the same messages. -/
structure Indistinguishable (outside : Collaborators World) (stage stage' : Stage World) :
    Prop where
  session : stage.session.unnamed = stage'.session.unnamed
  turns : ∀ requests, List.Forall₂ Turn.Same (turns (Session.respond outside) stage requests)
    (turns (Session.respond outside) stage' requests)

/-- A turn in which nobody is called and nothing is sent, and audio is refused if it is taken. -/
structure Starved (turn : Turn SessionRequest (Stage World) Failure (Option Nat)) : Prop where
  alone : callsOf turn.outcome.record = []
  silent : messagesOf turn.outcome.record = []
  start : turn.request = .start → turn.outcome.answer = .ok none
  audio : ∀ samples, turn.request = .audio samples → turn.outcome.answer =
    if turn.before.session.state = .listening then .error (.error .released) else .ok (some 0)

section Runs

variable {outside : Collaborators World} {models : Models}
  {alike : Engine → Engine → World → World → Prop} {idle : World → World → Prop}

theorem respond_parallel (renews : Renews outside models alike idle) (request : SessionRequest) :
    (Session.respond outside request).Parallel (Stage.Exchanged models alike idle)
      (Session.respond outside request) := by
  cases request with
  | start => exact .bind_agreeing start_parallel fun _ => .done fun _ _ stages => ⟨rfl, stages⟩
  | audio samples =>
    exact .bind_agreeing (.wrapFailure Failure.error (acceptAudio_parallel renews samples))
      fun _ => .done fun _ _ stages => ⟨rfl, stages⟩
  | reset =>
    exact .bind_agreeing (reset_parallel renews) fun _ => .done fun _ _ stages => ⟨rfl, stages⟩

/-- Sessions that are alike are the same but for the names. -/
theorem Stage.Exchanged.unnamed_eq {stage stage' : Stage World}
    (stages : Stage.Exchanged models alike idle stage stage') :
    stage.session.unnamed = stage'.session.unnamed := by
  cases stages with
  | held engine' _ held =>
    rw [Session.unnamed, Session.unnamed, Session.withEngine, held]
    rfl
  | released => rfl

/-- **Sessions that are alike cannot be told apart.** -/
theorem Stage.Exchanged.indistinguishable (renews : Renews outside models alike idle)
    {stage stage' : Stage World} (stages : Stage.Exchanged models alike idle stage stage') :
    Indistinguishable outside stage stage' where
  session := stages.unnamed_eq
  turns requests := by
    refine (turns_mirror (respond_parallel renews) stages requests).imp fun turn turn' mirrors => ?_
    have outcome := mirrors.outcome
    exact ⟨mirrors.request, outcome.answer_eq, outcome.shown, outcome.states.unnamed_eq⟩

/-- Without an engine nothing is built. -/
theorem buildResources_refused {config : Config} {world : World} {cause : EngineError}
    (refused : (outside.createEngine models world).1 = .error cause) :
    (buildResources outside models config world).answer = .error (.error (.engine cause)) := by
  rw [buildResources, Action.ask_bind, refused]
  rfl

/-- What is built from new engines is the same but for these, and they are alike. -/
theorem built_alike (renews : Renews outside models alike idle) (config : Config)
    {world world' : World} {resources resources' : Resources}
    (built : (buildResources outside models config (outside.restartClock world)).answer =
      .ok resources)
    (built' : (buildResources outside models config (outside.restartClock world')).answer =
      .ok resources') :
    resources' = resources.withEngine resources'.engine ∧
      alike resources.engine resources'.engine
        (buildResources outside models config (outside.restartClock world)).state
        (buildResources outside models config (outside.restartClock world')).state := by
  -- Something was built in both worlds, so an engine was made in both.
  have creates : CreatesAlike outside models alike idle (outside.restartClock world)
      (outside.restartClock world') := by
    have made := renews.made world world'
    have refused := @buildResources_refused _ outside models config (outside.restartClock world)
    have refused' := @buildResources_refused _ outside models config (outside.restartClock world')
    unfold CreatesAlike
    dsimp only at made
    generalize outside.createEngine models (outside.restartClock world) = reply at made refused ⊢
    generalize outside.createEngine models (outside.restartClock world') = reply'
      at made refused' ⊢
    obtain ⟨answer, world⟩ := reply
    obtain ⟨answer', world'⟩ := reply'
    cases answer with
    | error cause => exact nomatch built.symm.trans (refused rfl)
    | ok engine =>
      cases answer' with
      | error cause => exact nomatch built'.symm.trans (refused' rfl)
      | ok engine' => exact .ok (made _ _ rfl rfl)
  have building := buildResources_mirrors config rfl (fun _ _ creates => creates)
    renews.releaseEngine renews.feeds _ _ creates
  cases building with
  | failed _ ran => exact nomatch built.symm.trans ran
  | answered _ ran ran' holds =>
    obtain rfl := Except.ok.inj (built.symm.trans ran)
    obtain rfl := Except.ok.inj (built'.symm.trans ran')
    exact holds

/-- **A session that was started over cannot be told from one that was built.** -/
theorem reset_indistinguishable {stage : Stage World}
    (renews : Renews outside stage.session.models alike idle)
    (answered : (Session.reset outside stage).answer = .ok ()) {world : World} {session : Session}
    (created : (Session.create outside stage.session.models stage.session.symbols
      stage.session.config world).answer = .ok session) :
    Indistinguishable outside (Session.reset outside stage).state
      ⟨(Session.create outside stage.session.models stage.session.symbols stage.session.config
        world).state, session⟩ := by
  obtain ⟨cleared, letting, _, ran⟩ := reset_building outside stage
  obtain ⟨notices, creation⟩ := create_run outside stage.session.models stage.session.symbols
    stage.session.config world
  rw [ran] at answered ⊢
  rw [creation] at created ⊢
  cases built : (buildResources outside stage.session.models stage.session.config
      (outside.restartClock cleared)).answer with
  | error failure => exact nomatch (built ▸ answered :)
  | ok resources =>
    cases built' : (buildResources outside stage.session.models stage.session.config
        (outside.restartClock world)).answer with
    | error failure => exact nomatch (built' ▸ created :)
    | ok resources' =>
      rw [built'] at created
      obtain rfl := Except.ok.inj created
      obtain ⟨same, worlds⟩ := built_alike renews stage.session.config built built'
      rw [same]
      exact Stage.Exchanged.indistinguishable renews (.held resources'.engine rfl rfl worlds)

/-! ## Without an engine -/

/-- A session that has no engine, and is sound. -/
structure Session.Stranded (session : Session) : Prop where
  released : session.resources = none
  sound : session.Sound

/-- Without an engine, audio is refused if it is taken, and nothing else happens. -/
theorem acceptAudio_of_stranded (outside : Collaborators World) {stage : Stage World}
    (stranded : stage.session.Stranded) (samples : List Float32) :
    Session.acceptAudio outside samples stage =
      ⟨if stage.session.state = .listening then .error .released else .ok 0, stage, []⟩ := by
  cases enabled : stage.session.enabled with
  | false =>
    have quiet : stage.session.state ≠ .listening := fun listening =>
      Bool.false_ne_true (enabled.symm.trans (stranded.sound.enabled_iff.mpr listening))
    rw [acceptAudio_of_disabled outside enabled, if_neg quiet]
  | true =>
    rw [acceptAudio_of_released outside enabled stranded.released,
      if_pos (stranded.sound.enabled_iff.mp enabled)]

/-- A session without an engine has none until it was started over. -/
theorem respond_stranded (outside : Collaborators World) (request : SessionRequest)
    {stage : Stage World} (stranded : stage.session.Stranded)
    (other : ¬Turn.StartsOver ⟨request, stage, Session.respond outside request stage⟩) :
    (Session.respond outside request stage).state.session.Stranded := by
  cases request with
  | start =>
    obtain ⟨session, _, kept, started⟩ := @start_run _ Failure stage
    rw [respond_start]
    refine ⟨?_, start_sound stranded.sound⟩
    rw [started, kept]
    exact stranded.released
  | audio samples =>
    rw [respond_audio, acceptAudio_of_stranded outside stranded]
    exact stranded
  | reset =>
    obtain ⟨built, _, _, answer, session, _⟩ := reset_step outside stage
    rw [respond_reset] at other ⊢
    dsimp only at answer session ⊢
    rw [session]
    cases built with
    | error failure => exact ⟨rfl, sound_fresh ..⟩
    | ok resources =>
      refine absurd ⟨rfl, ?_⟩ other
      show Except.map _ (Session.reset outside stage).answer = _
      rw [answer]
      rfl

/-- A session without an engine starves. -/
theorem Session.Stranded.starved {stage : Stage World} (stranded : stage.session.Stranded)
    (outside : Collaborators World) {request : SessionRequest} (other : request ≠ .reset) :
    Starved ⟨request, stage, Session.respond outside request stage⟩ := by
  cases request with
  | start =>
    obtain ⟨_, notices, _, started⟩ := @start_run _ Failure stage
    rw [respond_start, started]
    exact ⟨callsOf_notices notices, messagesOf_notices notices, fun _ => rfl, nofun⟩
  | audio samples =>
    rw [respond_audio, acceptAudio_of_stranded outside stranded]
    refine ⟨rfl, rfl, nofun, fun _ _ => ?_⟩
    dsimp only
    split
    · rfl
    · rfl
  | reset => exact absurd rfl other

/-- **A session without an engine starves until it was started over.** -/
theorem turns_starved (outside : Collaborators World) {stage : Stage World}
    (stranded : stage.session.Stranded) {requests : List SessionRequest}
    {before after : List (Turn SessionRequest (Stage World) Failure (Option Nat))}
    {turn : Turn SessionRequest (Stage World) Failure (Option Nat)}
    (parts : turns (Session.respond outside) stage requests = before ++ turn :: after)
    (unsuccessful : ∀ earlier ∈ before, ¬earlier.StartsOver) (other : turn.request ≠ .reset) :
    Starved turn := by
  have met : turn.before.session.Stranded :=
    @turns_invariant_while _ _ _ _ _ (fun stage => stage.session.Stranded) _
      (fun request _ => respond_stranded outside request) _ stranded _ _ _ _ parts unsuccessful
  have member : turn ∈ turns (Session.respond outside) stage requests := by
    rw [parts]
    exact List.mem_append_right _ (List.mem_cons_self ..)
  have starved := met.starved outside other
  rwa [← outcome_of_mem_turns member] at starved

/-- A request that is not to start over keeps to the engine of the session. -/
theorem respond_keepsToEngine (outside : Collaborators World) (request : SessionRequest)
    (stage : Stage World) :
    Turn.KeepsToEngine ⟨request, stage, Session.respond outside request stage⟩ := by
  intro other
  cases request with
  | start =>
    obtain ⟨session, notices, kept, started⟩ := @start_run _ Failure stage
    rw [respond_start, started]
    refine ⟨congrArg (Option.map Resources.engine) kept, ?_⟩
    rw [effectsOf_notices]
    exact List.forall_mem_nil _
  | audio samples =>
    obtain ⟨_, kept, served⟩ := acceptAudio_serves outside samples stage
    rw [respond_audio]
    exact ⟨kept, served⟩
  | reset => exact absurd rfl other

/-- A session that was started over holds an engine that was made then. -/
theorem reset_engine {stage : Stage World}
    (answered : (Session.reset outside stage).answer = .ok ()) :
    ∃ engine, (Session.reset outside stage).state.session.engine? = some engine ∧
      .call (.createEngine stage.session.models (.ok engine)) ∈
        (Session.reset outside stage).record := by
  obtain ⟨cleared, letting, _, ran⟩ := reset_building outside stage
  have step := buildResources_step outside stage.session.models stage.session.config
    (outside.restartClock cleared)
  dsimp only at ran step
  generalize buildResources outside stage.session.models stage.session.config
    (outside.restartClock cleared) = building at ran step
  obtain ⟨built, world, record⟩ := building
  rw [ran] at answered ⊢
  cases step with
  | noEngine | noFeed => cases answered
  | made resources =>
    exact ⟨resources.engine, rfl, List.mem_append_right _ (List.mem_cons_self ..)⟩

/-- A session that could not be started over is ready and has no engine. -/
theorem reset_stranded {stage : Stage World} {failure : Failure}
    (failed : (Session.reset outside stage).answer = .error failure) :
    (Session.reset outside stage).state.session.state = .ready ∧
      (Session.reset outside stage).state.session.Stranded := by
  obtain ⟨built, _, _, answer, session, _⟩ := reset_step outside stage
  cases built with
  | ok resources => exact nomatch answer.symm.trans failed
  | error cause =>
    rw [session]
    exact ⟨rfl, rfl, sound_fresh ..⟩

end Runs

/-- **Starting over makes a session as good as new, or leaves it starving.**  If a session with any
past is started over, it holds an engine that was made then, and keeps to it until it is started
over again.  It cannot be told from a session that is built on the same models, with the same
symbols and configuration, in whatever world: whatever is asked of the two, they answer the same,
make the same calls with the same times to wait for, and send the same messages.  That new engines
cannot be told apart, and are fed alike, is all that is supposed.

If it fails, the session is ready and has no engine.  Until it is started over, nobody is called and
nothing is sent; audio is refused by a session that listens, and dropped otherwise. -/
theorem reset_renews (outside : Collaborators World) (stage : Stage World) :
    let run := Session.reset outside stage
    let later := turns (Session.respond outside) run.state
    (run.answer = .ok () →
      (∃ engine, run.state.session.engine? = some engine ∧
        .call (.createEngine stage.session.models (.ok engine)) ∈ run.record) ∧
      (∀ requests, ∀ turn ∈ later requests, turn.KeepsToEngine) ∧
      ∀ alike idle, Renews outside stage.session.models alike idle → ∀ world session,
        let creation := Session.create outside stage.session.models stage.session.symbols
          stage.session.config world
        creation.answer = .ok session →
          Indistinguishable outside run.state ⟨creation.state, session⟩) ∧
    ∀ failure, run.answer = .error failure →
      run.state.session.state = .ready ∧ run.state.session.resources = none ∧
        ∀ requests before turn after, later requests = before ++ turn :: after →
          (∀ earlier ∈ before, ¬earlier.StartsOver) → turn.request ≠ .reset → Starved turn := by
  intro run later
  refine ⟨fun answered => ⟨reset_engine answered, fun requests turn member => ?_, ?_⟩,
    fun failure failed => ?_⟩
  · have kept := respond_keepsToEngine outside turn.request turn.before
    rwa [← outcome_of_mem_turns member] at kept
  · exact fun alike idle renews world session created =>
      reset_indistinguishable renews answered created
  · obtain ⟨ready, stranded⟩ := reset_stranded failed
    exact ⟨ready, stranded.released, fun requests before turn after parts unsuccessful other =>
      turns_starved outside stranded parts unsuccessful other⟩

/-! ## A small rehearsal -/

/-- What is heard is heard by one engine. -/
theorem hearing_hears (world : Rehearsal.World) (hearing : Rehearsal.Hearing) :
    (world.hears hearing).hearing ⟨hearing.id⟩ = hearing := by
  simp [Rehearsal.World.hears, Rehearsal.World.hearing]

theorem hearing_id (world : Rehearsal.World) (engine : Engine) :
    (world.hearing engine).id = engine.id := by
  unfold Rehearsal.World.hearing
  cases found : world.engines.find? (·.id = engine.id) with
  | none => rfl
  | some hearing => simpa using List.find?_some found

/-- Two engines have heard as much as each other. -/
def HeardAlike (engine engine' : Engine) (world world' : Rehearsal.World) : Prop :=
  (world.hearing engine).seen = (world'.hearing engine').seen ∧
    (world.hearing engine).frames = (world'.hearing engine').frames

/-- Engines that are told that they have heard as much have done so. -/
theorem HeardAlike.hears {engine engine' : Engine} {world world' : Rehearsal.World}
    {hearing hearing' : Rehearsal.Hearing} (own : hearing.id = engine.id)
    (own' : hearing'.id = engine'.id) (seen : hearing.seen = hearing'.seen)
    (frames : hearing.frames = hearing'.frames) :
    HeardAlike engine engine' (world.hears hearing) (world'.hears hearing') := by
  obtain rfl : engine = ⟨hearing.id⟩ := congrArg Engine.mk own.symm
  obtain rfl : engine' = ⟨hearing'.id⟩ := congrArg Engine.mk own'.symm
  unfold HeardAlike
  rw [hearing_hears, hearing_hears]
  exact ⟨seen, frames⟩

/-- In a small rehearsal the best path is always the same. -/
theorem understood_small (endpointAt : Option Nat) (words : List Nat) (frames : Nat) :
    (Rehearsal.smallScript endpointAt words).engine.understood frames =
      some ⟨0, some words, 1.0, 1.0⟩ := by
  simp [Rehearsal.EngineScript.understood, Rehearsal.smallScript]

/-- In a small rehearsal an engine is what it has heard. -/
theorem renews_small (endpointAt : Option Nat) (words : List Nat) :
    Renews (Rehearsal.smallScript endpointAt words).collaborators Rehearsal.smallModels HeardAlike
      fun _ _ => True where
  made world world' engine engine' := by
    rintro _ _ ⟨⟩ ⟨⟩
    exact .hears rfl rfl rfl rfl
  again world world' _ := .ok (.hears rfl rfl rfl rfl)
  releaseEngine _ _ _ _ _ := trivial
  elapsedSeconds _ _ _ _ alike := alike
  waitUntil _ _ _ _ _ alike := alike
  acceptWaveform engine engine' rate chunk world world' alike :=
    ⟨rfl, .hears (hearing_id ..) (hearing_id ..) (congrArg (· + chunk.length) alike.1) alike.2⟩
  advanceDecoding engine engine' world world' alike :=
    ⟨rfl, .hears (hearing_id ..) (hearing_id ..) alike.1
      (congrArg (Rehearsal.EngineScript.framesIn _) alike.1)⟩
  endpointDetected engine engine' policy world world' alike := by
    refine ⟨?_, alike⟩
    cases endpointAt with
    | none => rfl
    | some limit => exact congrArg (fun frames => decide (limit ≤ frames)) alike.2
  finalRelativeCost engine engine' world world' alike := by
    simp only [Rehearsal.Script.collaborators, understood_small]
    exact ⟨trivial, alike⟩
  bestPath engine engine' world world' alike := by
    simp only [Rehearsal.Script.collaborators, understood_small]
    exact ⟨trivial, alike⟩
  framesDecoded engine engine' world world' alike := ⟨alike.2, alike⟩
  silenceWeighting _ _ _ _ alike := ⟨rfl, alike⟩
  adaptiveFeatures _ _ _ _ alike := ⟨rfl, alike⟩
  computeTraceback _ _ _ _ alike := alike
  deltaWeights _ _ _ _ alike :=
    ⟨congrArg (fun frames => [(frames, (0.25 : Float32)), (frames + 1, -0.5)]) alike.2, alike⟩
  updateFrameWeights _ _ _ _ _ alike := alike
  feeds _ _ := ⟨fun _ _ _ _ alike => ⟨rfl, alike⟩, fun _ _ _ alike => ⟨rfl, alike⟩⟩

/-- An utterance has ended, and the session is started over: it cannot be told from a new one.  If
no engine can be made for it, it is started all the same, and refuses audio. -/
theorem reset_renews_small :
    let script := Rehearsal.smallScript (some 2) [1]
    let outside := script.collaborators
    let stage := (Session.acceptAudio outside [0.0, 0.0] (Rehearsal.smallStage 1.0)).state
    let run := Session.reset outside stage
    let creation := Session.create outside Rehearsal.smallModels Rehearsal.smallSymbols
      (Rehearsal.smallConfig 1.0) .initial
    let broken := { script with engine := { script.engine with failCreate := [1] } }.collaborators
    let lost := Session.reset broken (Rehearsal.smallStage 1.0)
    let started := (Session.respond broken .start lost.state).state
    (stage.session.state = .finalized ∧ run.answer = .ok () ∧
        creation.answer = .ok (Rehearsal.smallSession 1.0) ∧
        Indistinguishable outside run.state ⟨creation.state, Rehearsal.smallSession 1.0⟩) ∧
      (∃ failure, lost.answer = .error failure) ∧
      Starved ⟨.audio [0.5], started, Session.respond broken (.audio [0.5]) started⟩ := by
  intro script outside stage run creation broken lost started
  constructor
  · have step : AudioStep _ _ _ stage.session _ :=
      acceptAudio_step outside [0.0, 0.0] (Rehearsal.smallStage 1.0)
    have models : stage.session.models = Rehearsal.smallModels :=
      (acceptAudio_serves outside [0.0, 0.0] (Rehearsal.smallStage 1.0)).1
    have finalized : stage.session.state = .finalized := by decide +kernel
    have answered : run.answer = .ok () := by
      obtain ⟨cleared, _, _, ran⟩ := reset_building outside stage
      rw [models, step.config_eq] at ran
      exact congrArg Outcome.answer ran
    have created : creation.answer = .ok (Rehearsal.smallSession 1.0) := rfl
    have renewed := (reset_renews outside stage).1 answered
    rw [models, step.symbols_eq, step.config_eq] at renewed
    exact ⟨finalized, answered, created,
      renewed.2.2 _ _ (renews_small (some 2) [1]) .initial _ created⟩
  · have failed : lost.answer = .error (.error (.engine (Rehearsal.numbered "create" 1))) := rfl
    obtain ⟨_, _, starved⟩ := (reset_renews broken (Rehearsal.smallStage 1.0)).2 _ failed
    refine ⟨⟨_, failed⟩, starved [.start, .audio [0.5]] [_] _ [] rfl ?_ nofun⟩
    exact List.forall_mem_singleton.mpr fun startsOver => nomatch startsOver.1

end LiveSpeech
