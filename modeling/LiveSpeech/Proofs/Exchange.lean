import LiveSpeech.Proofs.Reopening

/-!
# One engine for another

A session does not look into its engine.  If another one answers alike, and goes on to do so as both
are worked with, all that a session does with the one it does with the other: it makes the same
calls, waits until the same times, sends the same messages and answers the same
(`acceptAudio_parallel`).

Which engines answer alike is left open.  `Renews` asks of a relation between engines and the worlds
they live in that engines made after a start of the clock are related, that related engines are
given the same answers and stay related, and that once both are let go the next can be made for both
or for neither.  So it is supposed of engines and of the clock that they can be exchanged.  That
sessions can is what is proved.
-/

namespace LiveSpeech

set_option autoImplicit false

open LiveSpeech.Audio

variable {World : Type}

/-! ## Engines that are as good as new -/

/-- **Engines that are as good as new.**  Engines that were made for these models after the clock
was started are alike.  Engines that are alike answer alike, are fed alike, and stay alike.  When
they are let go, the next engine can be made for both or for neither. -/
structure Renews (outside : Collaborators World) (models : Models)
    (alike : Engine → Engine → World → World → Prop) (idle : World → World → Prop) : Prop where
  made : ∀ world world' engine engine',
    let reply := outside.createEngine models (outside.restartClock world)
    let reply' := outside.createEngine models (outside.restartClock world')
    reply.1 = .ok engine → reply'.1 = .ok engine' → alike engine engine' reply.2 reply'.2
  again : ∀ world world', idle world world' → MadeAlike alike idle
    (outside.createEngine models (outside.restartClock world))
    (outside.createEngine models (outside.restartClock world'))
  releaseEngine : ∀ engine engine' world world', alike engine engine' world world' →
    idle (outside.releaseEngine engine world) (outside.releaseEngine engine' world')
  elapsedSeconds : ∀ engine engine' world world', alike engine engine' world world' →
    alike engine engine' (outside.elapsedSeconds world).2 (outside.elapsedSeconds world').2
  waitUntil : ∀ engine engine' seconds, ToldAlike (alike engine engine')
    (outside.waitUntil seconds) (outside.waitUntil seconds)
  acceptWaveform : ∀ engine engine' rate chunk, AnsweredAlike (alike engine engine')
    (outside.acceptWaveform engine rate chunk) (outside.acceptWaveform engine' rate chunk)
  advanceDecoding : ∀ engine engine', AnsweredAlike (alike engine engine')
    (outside.advanceDecoding engine) (outside.advanceDecoding engine')
  endpointDetected : ∀ engine engine' policy, AnsweredAlike (alike engine engine')
    (outside.endpointDetected engine policy) (outside.endpointDetected engine' policy)
  finalRelativeCost : ∀ engine engine', AnsweredAlike (alike engine engine')
    (outside.finalRelativeCost engine) (outside.finalRelativeCost engine')
  bestPath : ∀ engine engine', AnsweredAlike (alike engine engine')
    (outside.bestPath engine) (outside.bestPath engine')
  framesDecoded : ∀ engine engine', AnsweredAlike (alike engine engine')
    (outside.framesDecoded engine) (outside.framesDecoded engine')
  silenceWeighting : ∀ engine engine', AnsweredAlike (alike engine engine')
    (outside.silenceWeighting engine) (outside.silenceWeighting engine')
  adaptiveFeatures : ∀ engine engine', AnsweredAlike (alike engine engine')
    (outside.adaptiveFeatures engine) (outside.adaptiveFeatures engine')
  computeTraceback : ∀ engine engine', ToldAlike (alike engine engine')
    (outside.computeTraceback engine) (outside.computeTraceback engine')
  deltaWeights : ∀ engine engine', AnsweredAlike (alike engine engine')
    (outside.deltaWeights engine) (outside.deltaWeights engine')
  updateFrameWeights : ∀ engine engine' weights, ToldAlike (alike engine engine')
    (outside.updateFrameWeights engine weights) (outside.updateFrameWeights engine' weights)
  feeds : ∀ engine engine', FeedsAlike outside outside (alike engine engine')

/-- A decoder with another engine. -/
def Decoder.withEngine (decoder : Decoder) (engine : Engine) : Decoder :=
  { decoder with engine := engine }

/-- Related states stay related, and the answers are the same. -/
abbrev Action.Parallel {State State' Failure Answer : Type} (related : State → State' → Prop)
    (action : Action State Failure Answer) (action' : Action State' Failure Answer) : Prop :=
  action.Mirrors related action' (Agreeing related) related

/-! ## Cycles -/

section Cycles

variable {outside : Collaborators World} {models : Models}
  {alike : Engine → Engine → World → World → Prop} {idle : World → World → Prop}
  (renews : Renews outside models alike idle) (decoder : Decoder) (engine' : Engine)
include renews

theorem passChunk_parallel (chunk : List Float32) :
    (passChunk outside decoder chunk).Parallel (alike decoder.engine engine')
      (passChunk outside (decoder.withEngine engine') chunk) :=
  .bind_agreeing (.ask_alike (renews.acceptWaveform _ _ _ _) fun _ => rfl) fun accepted =>
    .ofExcept _ accepted

theorem reweighSilence_parallel (engine : Engine) :
    (reweighSilence outside engine).Parallel (alike engine engine')
      (reweighSilence outside engine') := by
  refine .bind_agreeing (.ask_alike (renews.silenceWeighting _ _) fun _ => rfl) fun weighting => ?_
  cases weighting with
  | false => exact .done fun _ _ worlds => ⟨rfl, worlds⟩
  | true =>
    refine .bind_agreeing (.ask_alike (renews.adaptiveFeatures _ _) fun _ => rfl) fun adaptive => ?_
    cases adaptive with
    | false => exact .done fun _ _ worlds => ⟨rfl, worlds⟩
    | true =>
      exact .bind_agreeing (.tell rfl (renews.computeTraceback _ _)) fun _ =>
        .bind_agreeing (.ask_alike (renews.deltaWeights _ _) fun _ => rfl) fun weights =>
          .tell rfl (renews.updateFrameWeights _ _ weights)

theorem search_parallel (gate : TimingGate) :
    (search outside decoder gate).Parallel (alike decoder.engine engine')
      (search outside (decoder.withEngine engine') gate) :=
  .bind_agreeing (.tell rfl (renews.waitUntil _ _ gate.audioSeconds)) fun _ =>
    .bind_agreeing (reweighSilence_parallel renews engine' decoder.engine) fun _ =>
      .bind_agreeing (.ask_alike (renews.advanceDecoding _ _) fun _ => rfl) fun advanced =>
        .ofExcept _ advanced

theorem bestTranscript_parallel :
    (bestTranscript outside decoder).Parallel (alike decoder.engine engine')
      (bestTranscript outside (decoder.withEngine engine')) := by
  refine .bind_agreeing (.ask_alike (renews.framesDecoded _ _) fun _ => rfl) fun frames => ?_
  split
  · exact .bind_agreeing (.note _ _) fun _ => .done fun _ _ worlds => ⟨rfl, worlds⟩
  · refine .bind_agreeing (.ask_alike (renews.bestPath _ _) fun _ => rfl) fun best => ?_
    cases best with
    | none => exact .bind_agreeing (.note _ _) fun _ => .done fun _ _ worlds => ⟨rfl, worlds⟩
    | some path => exact .bind_agreeing (.note _ _) fun _ => .ofExcept _ _

theorem finalTranscript_parallel :
    (finalTranscript outside decoder).Parallel (alike decoder.engine engine')
      (finalTranscript outside (decoder.withEngine engine')) := by
  refine .bind_agreeing (.ask_alike (renews.finalRelativeCost _ _) fun _ => rfl) fun cost => ?_
  show Action.Parallel _ (if cost ≤ decoder.config.maxFinalCost then _ else _)
    (if cost ≤ decoder.config.maxFinalCost then _ else _)
  split
  · exact bestTranscript_parallel renews decoder engine'
  · exact .bind_agreeing (.note _ _) fun _ => .done fun _ _ worlds => ⟨rfl, worlds⟩

theorem finalize_parallel :
    (finalize outside decoder).Parallel (alike decoder.engine engine')
      (finalize outside (decoder.withEngine engine')) :=
  .bind_agreeing (finalTranscript_parallel renews decoder engine') fun transcript =>
    .bind_agreeing (.note _ _) fun _ => .send (.transcript transcript)

theorem noteWords_parallel (words : String) :
    (noteWords outside decoder words).Parallel (alike decoder.engine engine')
      (noteWords outside (decoder.withEngine engine') words) := by
  unfold noteWords
  split
  · exact .bind_agreeing (.ask_alike (renews.finalRelativeCost _ _) fun _ => rfl) fun _ =>
      .note _ _
  · exact .done fun _ _ worlds => ⟨rfl, worlds⟩

omit renews in
/-- What is done outside a cycle leaves its counts and its flag. -/
theorem Action.Mirrors.inCycle {Answer : Type} {related : World → World → Prop}
    {action action' : Action World SessionError Answer}
    (parallel : action.Parallel related action') :
    (Cycle.outside action).Parallel (Cycle.Alike related) (Cycle.outside action') := by
  intro cycle cycle' cycles
  have kept {world world' : World} (worlds : related world world') :
      Cycle.Alike related { cycle with world := world } { cycle' with world := world' } :=
    ⟨worlds, cycles.timing, cycles.endpointDetected⟩
  cases parallel _ _ cycles.world with
  | answered shown ran ran' holds =>
    exact .answered shown ran ran' ⟨holds.1, kept holds.2⟩
  | failed shown ran ran' holds => exact .failed shown ran ran' (kept holds)

theorem notePartial_parallel :
    (notePartial outside decoder).Parallel (Cycle.Alike (alike decoder.engine engine'))
      (notePartial outside (decoder.withEngine engine')) :=
  .bind_agreeing (bestTranscript_parallel renews decoder engine').inCycle fun _ =>
    .bind_agreeing (noteWords_parallel renews decoder engine' _).inCycle fun _ =>
      .change fun _ _ cycles =>
        ⟨cycles.world, congrArg TimingGate.advanceOutput cycles.timing, cycles.endpointDetected⟩

theorem lookAtOutput_parallel :
    (lookAtOutput outside decoder).Parallel (Cycle.Alike (alike decoder.engine engine'))
      (lookAtOutput outside (decoder.withEngine engine')) := by
  have notes := notePartial_parallel renews decoder engine'
  unfold lookAtOutput
  show Action.Parallel _ (if decoder.config.doEndpointing then _ else _)
    (if decoder.config.doEndpointing then _ else _)
  split
  · refine .bind_agreeing (Action.Mirrors.inCycle
      (.ask_alike (renews.endpointDetected _ _ _) fun _ => rfl)) fun ended => ?_
    exact .bind_agreeing (.change fun _ _ cycles => ⟨cycles.world, cycles.timing, rfl⟩)
      fun _ => notes
  · exact notes

/-- What follows when a chunk has been counted depends on the counts and not on the engine. -/
theorem searchAndLook_parallel (timing : TimingGate) :
    (searchAndLook outside decoder timing).Parallel (Cycle.Alike (alike decoder.engine engine'))
      (searchAndLook outside (decoder.withEngine engine') timing) := by
  refine .bind_agreeing (search_parallel renews decoder engine' timing).inCycle fun _ => ?_
  split
  · exact lookAtOutput_parallel renews decoder engine'
  · exact .done fun _ _ cycles => ⟨rfl, cycles⟩

/-- **A cycle goes alike with engines that are alike.** -/
theorem decodeChunk_parallel (chunk : List Float32) :
    (decodeChunk outside decoder chunk).Parallel (Cycle.Alike (alike decoder.engine engine'))
      (decodeChunk outside (decoder.withEngine engine') chunk) := by
  rw [decodeChunk_eq, decodeChunk_eq]
  refine .bind_agreeing (passChunk_parallel renews decoder engine' chunk).inCycle
    fun _ cycle cycle' cycles => ?_
  -- The rest of the cycle looks at the counts, so these have to be the same before it can be
  -- compared at all.
  have counted : Cycle.Alike (alike decoder.engine engine')
      { cycle with timing := cycle.timing.consume chunk.length }
      { cycle' with timing := cycle'.timing.consume chunk.length } :=
    ⟨cycles.world, congrArg (TimingGate.consume · chunk.length) cycles.timing,
      cycles.endpointDetected⟩
  rw [Action.change_bind, Action.change_bind, Action.state_bind, Action.state_bind,
    counted.timing]
  exact searchAndLook_parallel renews decoder engine' _ _ _ counted

theorem decodeChunks_parallel (chunks : List (List Float32)) :
    (decodeChunks outside decoder chunks).Parallel (Cycle.Alike (alike decoder.engine engine'))
      (decodeChunks outside (decoder.withEngine engine') chunks) := by
  induction chunks with
  | nil => exact .done fun _ _ cycles => ⟨rfl, cycles⟩
  | cons chunk others ih =>
    refine .bind_agreeing (decodeChunk_parallel renews decoder engine' chunk)
      fun _ cycle cycle' cycles => ?_
    rw [Action.state_bind, Action.state_bind, cycles.endpointDetected]
    -- The flag is the same in both: the utterance ends in both, or both go on with the next chunk.
    cases cycle'.endpointDetected with
    | true =>
      exact Action.Mirrors.bind_agreeing (finalize_parallel renews decoder engine').inCycle
        (fun _ => .done fun _ _ left => ⟨rfl, left⟩) cycle cycle' cycles
    | false =>
      exact Action.Mirrors.bind_agreeing ih
        (fun delivery => .done fun _ _ left => ⟨rfl, left⟩) cycle cycle' cycles

end Cycles

/-! ## Requests -/

/-- A session that works with another engine, if it has one at all. -/
def Session.withEngine (session : Session) (engine : Engine) : Session :=
  { session with resources := session.resources.map fun resources => resources.withEngine engine }

/-- Sessions on the same models that are the same but for their engines, in worlds in which these
are alike; or the same session without an engine, in worlds that are idle alike. -/
inductive Stage.Exchanged (models : Models) (alike : Engine → Engine → World → World → Prop)
    (idle : World → World → Prop) : Stage World → Stage World → Prop where
  | held {world world' : World} {session : Session} {resources : Resources} (engine' : Engine)
      (made : session.models = models) (held : session.resources = some resources)
      (worlds : alike resources.engine engine' world world') :
      Stage.Exchanged models alike idle ⟨world, session⟩ ⟨world', session.withEngine engine'⟩
  | released {world world' : World} {session : Session} (made : session.models = models)
      (released : session.resources = none) (worlds : idle world world') :
      Stage.Exchanged models alike idle ⟨world, session⟩ ⟨world', session⟩

section Requests

variable {outside : Collaborators World} {models : Models}
  {alike : Engine → Engine → World → World → Prop} {idle : World → World → Prop}

namespace Stage.Exchanged

section Control

variable {world world' : World} {session session' : Session}

theorem close (stages : Stage.Exchanged models alike idle ⟨world, session⟩ ⟨world', session'⟩) :
    Stage.Exchanged models alike idle ⟨world, session.close⟩ ⟨world', session'.close⟩ := by
  cases stages with
  | held engine' made held worlds => exact .held engine' made held worlds
  | released made released worlds => exact .released made released worlds

theorem listen (stages : Stage.Exchanged models alike idle ⟨world, session⟩ ⟨world', session'⟩) :
    let listening (session : Session) : Session :=
      { session with endpointDetected := false, enabled := true, state := .listening }
    Stage.Exchanged models alike idle ⟨world, listening session⟩ ⟨world', listening session'⟩ := by
  cases stages with
  | held engine' made held worlds => exact .held engine' made held worlds
  | released made released worlds => exact .released made released worlds

/-- Sessions that are alike listen alike. -/
theorem state_eq
    (stages : Stage.Exchanged models alike idle ⟨world, session⟩ ⟨world', session'⟩) :
    session.state = session'.state := by
  cases stages <;> rfl

end Control

/-- What a row of chunks has left is kept alike. -/
theorem keep {session : Session} {resources : Resources} {engine' : Engine}
    {cycle cycle' : Cycle World} (made : session.models = models)
    (cycles : Cycle.Alike (alike resources.engine engine') cycle cycle')
    (accumulator : Accumulator) :
    Stage.Exchanged models alike idle
      ⟨cycle.world, session.keep resources accumulator cycle.timing cycle.endpointDetected⟩
      ⟨cycle'.world, (session.withEngine engine').keep (resources.withEngine engine') accumulator
        cycle'.timing cycle'.endpointDetected⟩ := by
  rw [← cycles.timing, ← cycles.endpointDetected]
  exact .held engine' made rfl cycles.world

end Stage.Exchanged

/-- A row of chunks is delivered alike. -/
theorem deliver_mirrored (renews : Renews outside models alike idle) {session : Session}
    {resources : Resources} {engine' : Engine} {world world' : World}
    (made : session.models = models) (worlds : alike resources.engine engine' world world')
    (chunks : List (List Float32)) (last : Accumulator) :
    Mirrored (Agreeing (Stage.Exchanged models alike idle)) (Stage.Exchanged models alike idle)
      (Session.deliver outside resources chunks last ⟨world, session⟩)
      (Session.deliver outside (resources.withEngine engine') chunks last
        ⟨world', session.withEngine engine'⟩) := by
  have row : Mirrored (Agreeing (Cycle.Alike (alike resources.engine engine')))
      (Cycle.Alike (alike resources.engine engine'))
      (Session.row outside resources chunks ⟨world, session⟩)
      (Session.row outside (resources.withEngine engine') chunks
        ⟨world', session.withEngine engine'⟩) :=
    decodeChunks_parallel renews (session.decoder resources) engine' chunks _ _ ⟨worlds, rfl, rfl⟩
  cases row with
  | failed shown ran ran' cycles =>
    rw [deliver_of_error ran, deliver_of_error ran']
    exact .failed shown rfl rfl (.keep made cycles last.drained)
  | @answered shown delivery _ ran ran' holds =>
    obtain ⟨rfl, cycles⟩ := holds
    cases delivery with
    | complete =>
      rw [deliver_of_complete ran, deliver_of_complete ran']
      exact .answered shown rfl rfl ⟨rfl, .keep made cycles last⟩
    | ended =>
      obtain ⟨notices, delivered⟩ := deliver_of_ended ran last
      obtain ⟨notices', delivered'⟩ := deliver_of_ended ran' last
      rw [delivered, delivered']
      refine .answered ?_ rfl rfl ⟨rfl, (Stage.Exchanged.keep made cycles last.drained).close⟩
      rw [shownOf_append, shownOf_append, shownOf_notices, shownOf_notices, shown]

/-- **Audio goes alike.** -/
theorem acceptAudio_parallel (renews : Renews outside models alike idle) (samples : List Float32) :
    (Session.acceptAudio outside samples).Parallel (Stage.Exchanged models alike idle)
      (Session.acceptAudio outside samples) := by
  rintro _ _ (⟨engine', made, held, worlds⟩ | ⟨made, released, worlds⟩)
  case released world world' session =>
    cases enabled : session.enabled with
    | false =>
      rw [acceptAudio_of_disabled outside enabled, acceptAudio_of_disabled outside enabled]
      exact .answered rfl rfl rfl ⟨rfl, .released made released worlds⟩
    | true =>
      rw [acceptAudio_of_released outside enabled released,
        acceptAudio_of_released outside enabled released]
      exact .failed rfl rfl rfl (.released made released worlds)
  case held world world' session resources =>
    have held' : (session.withEngine engine').resources = some (resources.withEngine engine') := by
      rw [Session.withEngine, held]
      rfl
    cases enabled : session.enabled with
    | false =>
      have disabled : (session.withEngine engine').enabled = false := enabled
      rw [acceptAudio_of_disabled outside enabled, acceptAudio_of_disabled outside disabled]
      exact .answered rfl rfl rfl ⟨rfl, .held engine' made held worlds⟩
    | true =>
      cases flag : session.endpointDetected with
      | true =>
        have enabled' : (session.withEngine engine').enabled = true := enabled
        have flag' : (session.withEngine engine').endpointDetected = true := flag
        rw [acceptAudio_of_reported outside enabled held flag,
          acceptAudio_of_reported outside enabled' held' flag']
        refine .answered ?_ rfl rfl ⟨rfl, .held engine' made rfl worlds⟩
        rw [shownOf_notices, shownOf_notices]
      | false =>
        have takes : session.Takes resources := ⟨enabled, held, flag⟩
        have takes' : (session.withEngine engine').Takes (resources.withEngine engine') :=
          ⟨enabled, held', flag⟩
        rw [acceptAudio_of_takes outside takes, acceptAudio_of_takes outside takes']
        have fed : alike (resources.fed samples).engine engine' world world' := worlds
        exact deliver_mirrored renews made fed (resources.chunks samples) (resources.rest samples)

theorem start_parallel {Failed : Type} :
    (Session.start : Action (Stage World) Failed Unit).Parallel (Stage.Exchanged models alike idle)
      Session.start := by
  rintro ⟨world, session⟩ ⟨world', session'⟩ stages
  have same : (Stage.mk world session).session.state = (Stage.mk world' session').session.state :=
    stages.state_eq
  by_cases listening : (Stage.mk world session).session.state = .listening
  · rw [start_of_listening listening, start_of_listening (same ▸ listening)]
    exact .answered rfl rfl rfl ⟨rfl, stages⟩
  · rw [start_of_not_listening listening, start_of_not_listening (same ▸ listening)]
    exact .answered rfl rfl rfl ⟨rfl, stages.listen⟩

end Requests

end LiveSpeech
