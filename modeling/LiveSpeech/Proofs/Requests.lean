import LiveSpeech.Proofs.Operations
import LiveSpeech.Proofs.Runs
import LiveSpeech.Rehearsal.Small

/-!
# A session and its requests

A session is asked to start, to take audio, and to start over.  Whatever the collaborators do,
it takes audio exactly if it listens, and an utterance has ended if it is finalized
(`Session.Sound`).

An utterance has ended for a session that still listens in one case: the end was reported in a
request for audio that then failed at a number without a word, and the session was not started
over since (`endFlag_iff`).  Starting such a session does nothing, and it drops audio.
-/

namespace LiveSpeech

set_option autoImplicit false

open LiveSpeech.Audio

variable {World : Type}

/-- What can be asked of a session. -/
inductive SessionRequest where
  | start
  | audio (samples : List Float32)
  | reset

/-- Obeys a request. -/
def Session.obey (outside : Collaborators World) :
    SessionRequest → Action (Stage World) Failure Unit
  | .start => Session.start
  | .audio samples =>
    ((Session.acceptAudio outside samples).wrapFailure .error).andThen fun _ => .done ()
  | .reset => Session.reset outside

theorem Action.wrapFailure_done {State Failure Wrapped Answer : Type}
    (wrap : Failure → Wrapped) (action : Action State Failure Answer) (state : State) :
    ((action.wrapFailure wrap).andThen fun _ => .done ()) state =
      ⟨((action state).answer.mapError wrap).map fun _ => (), (action state).state,
        (action state).record⟩ := by
  refine (bind_pure_run (action.wrapFailure wrap) (fun _ => ()) state).trans ?_
  rw [wrapFailure_run]

/-! ## Sound sessions -/

/-- What holds of a session between requests. -/
structure Session.Sound (session : Session) : Prop where
  initialized : session.state ≠ .uninitialized
  enabled_iff : session.enabled = true ↔ session.state = .listening
  ready : session.state = .ready → session.endpointDetected = false
  finalized : session.state = .finalized → session.endpointDetected = true

theorem sound_fresh (config : Config) (symbols : SymbolTable) (models : Models)
    (resources : Option Resources) : (Session.fresh config symbols models resources).Sound where
  initialized := nofun
  enabled_iff := by simp [Session.fresh]
  ready _ := rfl
  finalized := nofun

/-- A sound session that takes audio listens. -/
theorem Session.Sound.listening {session : Session} (sound : session.Sound)
    {resources : Resources} (takes : session.Takes resources) : session.state = .listening :=
  sound.enabled_iff.mp takes.enabled

theorem AudioStep.sound {session session' : Session} {samples : List Float32}
    {answer : Except SessionError Nat} {landmarks : List Event}
    (step : AudioStep session samples answer session' landmarks) (sound : session.Sound) :
    session'.Sound := by
  cases step with
  | disabled | released => exact sound
  | reported => exact ⟨sound.initialized, sound.enabled_iff, sound.ready, sound.finalized⟩
  | failed _ takes | complete _ takes =>
    have listening := sound.listening takes
    exact ⟨sound.initialized, sound.enabled_iff,
      fun ready => (nomatch listening.symm.trans ready),
      fun finalized => (nomatch listening.symm.trans finalized)⟩
  | ended _ _ row =>
    cases row.rowEnd rfl
    exact ⟨nofun, by simp [Session.close], nofun, fun _ => rfl⟩

theorem start_sound {Failed : Type} {stage : Stage World} (sound : stage.session.Sound) :
    ((Session.start : Action (Stage World) Failed Unit) stage).state.session.Sound := by
  by_cases listening : stage.session.state = .listening
  · rwa [start_of_listening listening]
  · rw [start_of_not_listening listening]
    exact ⟨nofun, by simp, nofun, nofun⟩

theorem obey_sound (outside : Collaborators World) (request : SessionRequest)
    {stage : Stage World} (sound : stage.session.Sound) :
    (Session.obey outside request stage).state.session.Sound := by
  cases request with
  | start => exact start_sound sound
  | audio samples =>
    rw [Session.obey, Action.wrapFailure_done]
    exact (acceptAudio_step outside samples stage).sound sound
  | reset =>
    obtain ⟨_, _, _, _, session, _⟩ := reset_step outside stage
    show (Session.reset outside stage).state.session.Sound
    rw [session]
    exact sound_fresh ..

/-! ## The flag of the end -/

/-- The utterance has ended, but the session listens. -/
def Session.Stuck (session : Session) : Prop :=
  session.endpointDetected = true ∧ session.state = .listening

/-- The end was reported in a turn that failed. -/
def FailsAtEnd (turn : Turn SessionRequest (Stage World) Failure Unit) : Prop :=
  EndReported turn.outcome.record ∧ ∃ failure, turn.outcome.answer = .error failure

/-- The end was reported in a turn that failed, and the session was not started over since. -/
def EndLost : List (Turn SessionRequest (Stage World) Failure Unit) → Prop :=
  Since FailsAtEnd fun later => later.request ≠ .reset

theorem AudioStep.stuck_iff {session session' : Session} {samples : List Float32}
    {answer : Except SessionError Nat} {landmarks : List Event}
    (step : AudioStep session samples answer session' landmarks) (sound : session.Sound) :
    session'.Stuck ↔
      (EndReported landmarks ∧ ∃ error, answer = .error error) ∨ session.Stuck := by
  have fresh {resources : Resources} (takes : session.Takes resources) : ¬session.Stuck :=
    fun stuck => absurd (takes.lowered.symm.trans stuck.1) Bool.false_ne_true
  have silent : ¬EndReported [] := by simp [EndReported]
  cases step with
  | disabled | released | reported =>
    constructor
    · exact .inr
    · rintro (lost | stuck)
      · exact absurd lost.1 silent
      · exact stuck
  | failed _ takes row =>
    rw [or_iff_left (fresh takes)]
    cases row.rowEnd rfl with
    | error _ _ raised =>
      exact (and_iff_left (sound.listening takes)).trans
        (raised.trans (and_iff_left ⟨_, rfl⟩).symm)
  | complete _ takes row =>
    rw [or_iff_left (fresh takes)]
    cases row.rowEnd rfl
    refine iff_of_false (fun stuck => Bool.false_ne_true stuck.1) ?_
    rintro ⟨_, _, ⟨⟩⟩
  | ended _ takes row =>
    rw [or_iff_left (fresh takes)]
    refine iff_of_false ?_ ?_
    · rintro ⟨_, ⟨⟩⟩
    · rintro ⟨_, _, ⟨⟩⟩

/-- A request for audio that fails although the end was reported fails at a number without a
word. -/
theorem AudioStep.isUnknownSymbol {session session' : Session} {samples : List Float32}
    {error : SessionError} {landmarks : List Event}
    (step : AudioStep session samples (.error error) session' landmarks)
    (reported : EndReported landmarks) : error.IsUnknownSymbol := by
  cases step with
  | released =>
    obtain ⟨_, member, _⟩ := reported
    cases member
  | failed _ _ row =>
    cases row.rowEnd rfl with
    | error _ _ raised unknown => exact unknown (raised.mpr reported)

/-- A record without landmarks reports no end. -/
theorem not_endReported {record : List Event} (quiet : landmarksOf record = []) :
    ¬EndReported record := by
  rw [← endReported_landmarksOf, quiet]
  simp [EndReported]

theorem not_failsAtEnd {turn : Turn SessionRequest (Stage World) Failure Unit}
    (quiet : landmarksOf turn.outcome.record = []) : ¬FailsAtEnd turn :=
  fun fails => not_endReported quiet fails.1

/-- A turn that fails at the end fails at a number without a word. -/
theorem FailsAtEnd.isUnknownSymbol {outside : Collaborators World} {request : SessionRequest}
    {stage : Stage World}
    (fails : FailsAtEnd ⟨request, stage, Session.obey outside request stage⟩) :
    ∃ number, (Session.obey outside request stage).answer =
      .error (.error (.unknownSymbol number)) := by
  cases request with
  | start => exact absurd fails (not_failsAtEnd (landmarksOf_start stage))
  | audio samples =>
    obtain ⟨reported, failure, failed⟩ := fails
    have step := acceptAudio_step outside samples stage
    rw [Session.obey, Action.wrapFailure_done] at reported failed ⊢
    dsimp only at step reported failed ⊢
    cases answer : (Session.acceptAudio outside samples stage).answer with
    | error error =>
      rw [answer] at step
      obtain ⟨number, rfl⟩ := step.isUnknownSymbol ((endReported_landmarksOf _).mpr reported)
      exact ⟨number, rfl⟩
    | ok cycles =>
      rw [answer] at failed
      cases failed
  | reset =>
    obtain ⟨_, _, _, _, _, quiet⟩ := reset_step outside stage
    exact absurd fails (not_failsAtEnd quiet)

/-- Starting changes nothing about whether a session is stuck. -/
theorem start_stuck_iff (Failed : Type) {stage : Stage World} :
    ((Session.start : Action (Stage World) Failed Unit) stage).state.session.Stuck ↔
      stage.session.Stuck := by
  by_cases listening : stage.session.state = .listening
  · rw [start_of_listening listening]
  · rw [start_of_not_listening listening]
    exact iff_of_false (fun stuck => Bool.false_ne_true stuck.1) fun stuck => listening stuck.2

/-- What one request does to a session that is or is not stuck. -/
theorem obey_stuck_iff (outside : Collaborators World) (request : SessionRequest)
    {stage : Stage World} (sound : stage.session.Sound) :
    (Session.obey outside request stage).state.session.Stuck ↔
      FailsAtEnd ⟨request, stage, Session.obey outside request stage⟩ ∨
        stage.session.Stuck ∧ request ≠ .reset := by
  cases request with
  | start =>
    rw [or_iff_right (not_failsAtEnd (landmarksOf_start stage)), and_iff_left nofun]
    exact start_stuck_iff Failure
  | audio samples =>
    have step := (acceptAudio_step outside samples stage).stuck_iff sound
    rw [endReported_landmarksOf] at step
    have other : SessionRequest.audio samples ≠ .reset := nofun
    rw [and_iff_left other, FailsAtEnd, Session.obey, Action.wrapFailure_done]
    refine step.trans (or_congr_left (and_congr_right fun _ => ?_))
    cases (Session.acceptAudio outside samples stage).answer <;> simp [Except.map, Except.mapError]
  | reset =>
    obtain ⟨_, _, _, _, session, none⟩ := reset_step outside stage
    show (Session.reset outside stage).state.session.Stuck ↔ _
    rw [session]
    refine iff_of_false (fun stuck => nomatch stuck.2) ?_
    rintro (fails | ⟨_, other⟩)
    · exact not_failsAtEnd none fails
    · exact other rfl

/-! ## All runs -/

/-- A run leaves a sound session, and it is stuck exactly if an end was lost. -/
theorem run_stuck_iff (outside : Collaborators World) {stage : Stage World}
    (sound : stage.session.Sound) (fresh : ¬stage.session.Stuck)
    (requests : List SessionRequest) :
    (stateAfter (Session.obey outside) stage requests).session.Sound ∧
      ((stateAfter (Session.obey outside) stage requests).session.Stuck ↔
        EndLost (turns (Session.obey outside) stage requests)) := by
  induction requests using List.reverseRecOn with
  | nil => exact ⟨sound, iff_of_false fresh not_since_nil⟩
  | append_singleton requests request ih =>
    obtain ⟨sound', stuck_iff⟩ := ih
    rw [stateAfter_concat, turns_concat, EndLost, since_concat]
    refine ⟨obey_sound outside request sound', ?_⟩
    exact (obey_stuck_iff outside request sound').trans (or_congr_right (and_congr_left' stuck_iff))

/-- For a sound session that is not stuck the flag says that it is finalized. -/
theorem Session.Sound.not_stuck_iff {session : Session} (sound : session.Sound) :
    (session.endpointDetected = true → session.enabled = false ∧ session.state = .finalized) ↔
      ¬session.Stuck := by
  constructor
  · intro closed stuck
    exact nomatch stuck.2.symm.trans (closed stuck.1).2
  · intro free flag
    have silent : session.state ≠ .listening := fun listening => free ⟨flag, listening⟩
    refine ⟨eq_false_of_ne_true (mt sound.enabled_iff.mp silent), ?_⟩
    cases state : session.state with
    | uninitialized => exact absurd state sound.initialized
    | ready => exact absurd ((sound.ready state).symm.trans flag) Bool.false_ne_true
    | listening => exact absurd state silent
    | finalized => rfl

/-- A sound session that is started listens, and lets audio through unless it is stuck. -/
theorem Session.Sound.started_iff {Failed : Type} {stage : Stage World}
    (sound : stage.session.Sound) :
    let started := ((Session.start : Action (Stage World) Failed Unit) stage).state.session
    (started.endpointDetected = false ∧ started.enabled = true ∧ started.state = .listening) ↔
      ¬stage.session.Stuck := by
  intro started
  have listens : started.state = .listening := by
    by_cases listening : stage.session.state = .listening
    · simp only [started, start_of_listening listening, listening]
    · simp only [started, start_of_not_listening listening]
  rw [← start_stuck_iff Failed]
  constructor
  · rintro ⟨lowered, _⟩ stuck
    exact Bool.false_ne_true (lowered.symm.trans stuck.1)
  · intro free
    exact ⟨eq_false_of_ne_true fun flag => free ⟨flag, listens⟩,
      (start_sound sound).enabled_iff.mpr listens, listens⟩

/-- **When the flag of the end says that an utterance is over.**  In every run of requests on a
new session, the flag means that the session is finalized and takes no audio, and a start lets
audio through again, exactly if no end was lost.  An end is lost in one way: it is reported, and
then a number has no word. -/
theorem endFlag_iff (outside : Collaborators World) (config : Config) (symbols : SymbolTable)
    (models : Models) (resources : Option Resources) (world : World)
    (requests : List SessionRequest) :
    let stage : Stage World := ⟨world, .fresh config symbols models resources⟩
    let history := turns (Session.obey outside) stage requests
    let last := stateAfter (Session.obey outside) stage requests
    let session := last.session
    let started := ((Session.start : Action (Stage World) Failure Unit) last).state.session
    ((session.endpointDetected = true → session.enabled = false ∧ session.state = .finalized) ↔
        ¬EndLost history) ∧
      ((started.endpointDetected = false ∧ started.enabled = true ∧
        started.state = .listening) ↔ ¬EndLost history) ∧
      ∀ turn ∈ history, FailsAtEnd turn →
        ∃ number, turn.outcome.answer = .error (.error (.unknownSymbol number)) := by
  intro stage history last session started
  obtain ⟨sound, stuck_iff⟩ := run_stuck_iff outside (sound_fresh config symbols models resources)
    (show ¬stage.session.Stuck from fun stuck => nomatch stuck.2) requests
  refine ⟨sound.not_stuck_iff.trans (not_congr stuck_iff),
    sound.started_iff.trans (not_congr stuck_iff), ?_⟩
  intro turn member fails
  have ran := outcome_of_mem_turns member
  rw [FailsAtEnd, ran] at fails
  rw [ran]
  exact FailsAtEnd.isUnknownSymbol fails

/-- Two samples end an utterance of one word that the symbol table does not have: the session
listens with the flag raised, and starting it changes nothing. -/
theorem endFlag_of_unknown_word :
    let outside := (Rehearsal.smallScript (some 2) [7]).collaborators
    let built := Session.create outside Rehearsal.smallModels Rehearsal.smallSymbols
      (Rehearsal.smallConfig 1.0) .initial
    let stage := stateAfter (Session.obey outside) ⟨built.state, Rehearsal.smallSession 1.0⟩
      [.start, .audio [0.0, 0.0]]
    let started := ((Session.start : Action (Stage Rehearsal.World) Failure Unit) stage).state
    built.answer = .ok (Rehearsal.smallSession 1.0) ∧
      ¬(stage.session.endpointDetected = true →
        stage.session.enabled = false ∧ stage.session.state = .finalized) ∧
      ¬(started.session.endpointDetected = false) :=
  ⟨rfl, by decide +kernel, by decide +kernel⟩

end LiveSpeech
