import LiveSpeech.Proofs.Cycle
import Mathlib.Tactic.Set

/-!
# Two runs side by side

Two engines may differ in what they say about the best path and in nothing else (`Twins`).  Any
other question is answered alike by both, no matter how often they have been asked about their
best paths before; and about the best path they may say what they like, except where the
transcript of an utterance is made.

What is done against one of them and against the other agrees (`Action.Agrees`) as long as no
partial result comes in: the answers are the same, the worlds stay alike, and the same calls are
made and the same messages sent, questions about the best path apart.  So does the transcript
(`finalize_agree`), because a cycle that has found the end of the utterance leaves the world in
which the two must have understood the same (`decodeChunk_ends`).
-/

namespace LiveSpeech

set_option autoImplicit false

variable {World World' : Type}

/-! ## Engines that differ in partial results -/

section Twins

variable (alike : World → World' → Prop)

/-- Worlds that are alike answer alike, and are alike afterwards. -/
def AnsweredAlike {Answer : Type} (ask : World → Answer × World)
    (ask' : World' → Answer × World') : Prop :=
  ∀ world world', alike world world' →
    (ask world).1 = (ask' world').1 ∧ alike (ask world).2 (ask' world').2

/-- Worlds that are alike are alike after both are told. -/
def ToldAlike (tell : World → World) (tell' : World' → World') : Prop :=
  ∀ world world', alike world world' → alike (tell world) (tell' world')

/-- Worlds that are alike are alike after one of them is asked. -/
def AskedFreely {Answer Answer' : Type} (ask : World → Answer × World)
    (ask' : World' → Answer' × World') : Prop :=
  ∀ world world', alike world world' → alike (ask world).2 world' ∧ alike world (ask' world').2

end Twins

/-- The world after a partial result has been asked for. -/
def Collaborators.afterPartial (outside : Collaborators World) (engine : Engine) (world : World) :
    World :=
  let frames := outside.framesDecoded engine world
  if frames.1 = 0 then frames.2 else (outside.bestPath engine frames.2).2

/-- The world after a partial result has been noted, which asks for its cost if the log takes it. -/
def Collaborators.afterNote (outside : Collaborators World) (engine : Engine) (world : World) :
    World :=
  if outside.debugging then (outside.finalRelativeCost engine world).2 else world

/-- In this world a transcript is asked for that is going to be delivered: the end has been
reported, a partial result has been asked for and noted, and the final cost is low enough. -/
def Collaborators.Delivers (outside : Collaborators World) (config : Config) (engine : Engine)
    (world : World) : Prop :=
  ∃ before,
    let look := outside.endpointDetected engine config.endpoint before
    let noted := outside.afterNote engine (outside.afterPartial engine look.2)
    let final := outside.finalRelativeCost engine noted
    look.1 = true ∧ final.1 ≤ config.maxFinalCost ∧ final.2 = world

/-- **Engines that differ in partial results only**: worlds that are alike answer every question
alike, but for the frames decoded and the best path.  Those need to be the same only where a
transcript is delivered.  The log takes the same of both. -/
structure Twins (config : Config) (outside : Collaborators World)
    (outside' : Collaborators World') (alike : World → World' → Prop) : Prop where
  acceptWaveform : ∀ engine rate chunk, AnsweredAlike alike
    (outside.acceptWaveform engine rate chunk) (outside'.acceptWaveform engine rate chunk)
  advanceDecoding : ∀ engine, AnsweredAlike alike
    (outside.advanceDecoding engine) (outside'.advanceDecoding engine)
  endpointDetected : ∀ engine, AnsweredAlike alike
    (outside.endpointDetected engine config.endpoint)
    (outside'.endpointDetected engine config.endpoint)
  finalRelativeCost : ∀ engine, AnsweredAlike alike
    (outside.finalRelativeCost engine) (outside'.finalRelativeCost engine)
  silenceWeighting : ∀ engine, AnsweredAlike alike
    (outside.silenceWeighting engine) (outside'.silenceWeighting engine)
  adaptiveFeatures : ∀ engine, AnsweredAlike alike
    (outside.adaptiveFeatures engine) (outside'.adaptiveFeatures engine)
  computeTraceback : ∀ engine, ToldAlike alike
    (outside.computeTraceback engine) (outside'.computeTraceback engine)
  deltaWeights : ∀ engine, AnsweredAlike alike
    (outside.deltaWeights engine) (outside'.deltaWeights engine)
  updateFrameWeights : ∀ engine weights, ToldAlike alike
    (outside.updateFrameWeights engine weights) (outside'.updateFrameWeights engine weights)
  waitUntil : ∀ seconds, ToldAlike alike (outside.waitUntil seconds) (outside'.waitUntil seconds)
  framesDecoded : ∀ engine, AskedFreely alike
    (outside.framesDecoded engine) (outside'.framesDecoded engine)
  bestPath : ∀ engine, AskedFreely alike (outside.bestPath engine) (outside'.bestPath engine)
  delivered : ∀ engine world world', alike world world' → outside.Delivers config engine world →
    (outside.framesDecoded engine world).1 = (outside'.framesDecoded engine world').1 ∧
    (outside.bestPath engine (outside.framesDecoded engine world).2).1 =
      (outside'.bestPath engine (outside'.framesDecoded engine world').2).1
  debugging : outside.debugging = outside'.debugging

theorem AnsweredAlike.refl {Answer : Type} (ask : World → Answer × World) :
    AnsweredAlike Eq ask ask := by
  rintro world _ rfl
  exact ⟨rfl, rfl⟩

theorem ToldAlike.refl (tell : World → World) : ToldAlike Eq tell tell :=
  fun _ _ same => congrArg tell same

/-- Engines that look at the world but do not change it when they are asked for the best path are
twins, if they answer the same where a transcript is delivered. -/
theorem twins_of_bestPath {config : Config} {outside : Collaborators World}
    {best : Engine → World → Option BestPath}
    (frames : ∀ engine world, (outside.framesDecoded engine world).2 = world)
    (path : ∀ engine world, (outside.bestPath engine world).2 = world)
    (delivered : ∀ engine world, outside.Delivers config engine world →
      (outside.bestPath engine world).1 = best engine world) :
    Twins config outside
      { outside with bestPath := fun engine world => (best engine world, world) } Eq where
  acceptWaveform _ _ _ := .refl _
  advanceDecoding _ := .refl _
  endpointDetected _ := .refl _
  finalRelativeCost _ := .refl _
  silenceWeighting _ := .refl _
  adaptiveFeatures _ := .refl _
  computeTraceback _ := .refl _
  deltaWeights _ := .refl _
  updateFrameWeights _ _ := .refl _
  waitUntil _ := .refl _
  framesDecoded engine := by
    rintro world _ rfl
    exact ⟨frames engine world, (frames engine world).symm⟩
  bestPath engine := by
    rintro world _ rfl
    exact ⟨path engine world, rfl⟩
  delivered engine := by
    rintro world _ rfl delivers
    refine ⟨rfl, ?_⟩
    rw [frames]
    exact delivered engine world delivers
  debugging := rfl

/-! ## Outcomes that agree -/

/-- An event that is neither a note nor a question about the best path. -/
def Event.isVisible : Event → Bool
  | .note _ | .call (.framesDecoded ..) | .call (.bestPath ..) => false
  | .call _ | .send _ => true

/-- The calls and messages of a record, questions about the best path apart. -/
def visibleOf (record : List Event) : List Event := record.filter Event.isVisible

@[simp] theorem visibleOf_append (first second : List Event) :
    visibleOf (first ++ second) = visibleOf first ++ visibleOf second :=
  List.filter_append ..

section Agree

variable {State State' Failure Answer Next : Type}

/-- Outcomes with the same answer and the same calls and messages, in states that are related. -/
structure Agree (related : State → State' → Prop) (run : Outcome State Failure Answer)
    (run' : Outcome State' Failure Answer) : Prop where
  answer : run.answer = run'.answer
  state : related run.state run'.state
  visible : visibleOf run.record = visibleOf run'.record

variable {related : State → State' → Prop}

theorem Agree.after {run : Outcome State Failure Answer} {run' : Outcome State' Failure Answer}
    (agree : Agree related run run') {record record' : List Event}
    (same : visibleOf record = visibleOf record') :
    Agree related (run.after record) (run'.after record') where
  answer := agree.answer
  state := agree.state
  visible := by
    rw [Outcome.after_record, Outcome.after_record, visibleOf_append, visibleOf_append, same,
      agree.visible]

/-- One action after the other agrees if the first does, and the second in what that leaves. -/
theorem Agree.bind {first : Action State Failure Answer} {first' : Action State' Failure Answer}
    {next : Answer → Action State Failure Next} {next' : Answer → Action State' Failure Next}
    {state : State} {state' : State'} (before : Agree related (first state) (first' state'))
    (after : ∀ answer, (first state).answer = .ok answer →
      related (first state).state (first' state').state →
      Agree related (next answer (first state).state) (next' answer (first' state').state)) :
    Agree related ((first >>= next) state) ((first' >>= next') state') := by
  cases answered : (first state).answer with
  | error failure =>
    have answered' := before.answer.symm.trans answered
    rw [Action.bind_error answered, Action.bind_error answered']
    exact ⟨rfl, before.state, before.visible⟩
  | ok answer =>
    have answered' := before.answer.symm.trans answered
    rw [Action.bind_ok answered, Action.bind_ok answered']
    exact (after answer answered before.state).after before.visible

/-- Actions that agree from states that are related. -/
def Action.Agrees (related : State → State' → Prop) (action : Action State Failure Answer)
    (action' : Action State' Failure Answer) : Prop :=
  ∀ state state', related state state' → Agree related (action state) (action' state')

namespace Action.Agrees

theorem done (answer : Answer) : (Action.done answer : Action State Failure Answer).Agrees related
    (Action.done answer) :=
  fun _ _ states => ⟨rfl, states, rfl⟩

theorem fail (failure : Failure) : (Action.fail failure : Action State Failure Answer).Agrees
    related (Action.fail failure) :=
  fun _ _ states => ⟨rfl, states, rfl⟩

theorem ofExcept {Cause : Type} (wrap : Cause → Failure) (result : Except Cause Answer) :
    (Action.ofExcept wrap result : Action State Failure Answer).Agrees related
      (Action.ofExcept wrap result) := by
  cases result with
  | ok answer => exact done answer
  | error cause => exact fail (wrap cause)

theorem ask {read : State → Answer × State} {read' : State' → Answer × State'}
    (answered : AnsweredAlike related read read') (call : Answer → Call) :
    (Action.ask read call : Action State Failure Answer).Agrees related
      (Action.ask read' call) := by
  intro state state' states
  obtain ⟨same, states'⟩ := answered state state' states
  refine ⟨congrArg Except.ok same, states', ?_⟩
  show visibleOf [.call (call (read state).1)] = visibleOf [.call (call (read' state').1)]
  rw [same]

theorem tell {work : State → State} {work' : State' → State'}
    (told : ToldAlike related work work') (call : Call) :
    (Action.tell work call : Action State Failure Unit).Agrees related (Action.tell work' call) :=
  fun state state' states => ⟨rfl, told state state' states, rfl⟩

theorem bind {first : Action State Failure Answer} {first' : Action State' Failure Answer}
    {next : Answer → Action State Failure Next} {next' : Answer → Action State' Failure Next}
    (before : first.Agrees related first')
    (after : ∀ answer, (next answer).Agrees related (next' answer)) :
    (first >>= next).Agrees related (first' >>= next') :=
  fun state state' states =>
    (before state state' states).bind fun answer _ states' => after answer _ _ states'

end Action.Agrees

end Agree

/-! ## Up to the partial result -/

section Cycles

variable {config : Config} {outside : Collaborators World} {outside' : Collaborators World'}
  {alike : World → World' → Prop}

theorem passChunk_agrees (twins : Twins config outside outside' alike) (decoder : Decoder)
    (chunk : List Float32) :
    (passChunk outside decoder chunk).Agrees alike (passChunk outside' decoder chunk) :=
  .bind (.ask (twins.acceptWaveform _ _ _) _) fun accepted => .ofExcept SessionError.engine accepted

theorem reweighSilence_agrees (twins : Twins config outside outside' alike) (engine : Engine) :
    (reweighSilence outside engine).Agrees alike (reweighSilence outside' engine) := by
  refine .bind (.ask (twins.silenceWeighting engine) _) fun weighting => ?_
  cases weighting with
  | false => exact .done ()
  | true =>
    refine .bind (.ask (twins.adaptiveFeatures engine) _) fun adaptive => ?_
    cases adaptive with
    | false => exact .done ()
    | true =>
      exact .bind (.tell (twins.computeTraceback engine) _) fun _ =>
        .bind (.ask (twins.deltaWeights engine) _) fun weights =>
          .tell (twins.updateFrameWeights engine weights) _

theorem search_agrees (twins : Twins config outside outside' alike) (decoder : Decoder)
    (gate : TimingGate) :
    (search outside decoder gate).Agrees alike (search outside' decoder gate) :=
  .bind (.tell (twins.waitUntil gate.audioSeconds) _) fun _ =>
    .bind (reweighSilence_agrees twins decoder.engine) fun _ =>
      .bind (.ask (twins.advanceDecoding decoder.engine) _) fun advanced =>
        .ofExcept SessionError.engine advanced

/-- Cycles in worlds that are alike, with the same counts and the same flag. -/
structure Cycle.Alike (alike : World → World' → Prop) (cycle : Cycle World)
    (cycle' : Cycle World') : Prop where
  world : alike cycle.world cycle'.world
  timing : cycle.timing = cycle'.timing
  endpointDetected : cycle.endpointDetected = cycle'.endpointDetected

theorem Action.Agrees.inCycle {Answer : Type} {action : Action World SessionError Answer}
    {action' : Action World' SessionError Answer} (agrees : action.Agrees alike action') :
    (Cycle.outside action).Agrees (Cycle.Alike alike) (Cycle.outside action') := by
  intro cycle cycle' cycles
  obtain ⟨answer, world, visible⟩ := agrees _ _ cycles.world
  exact ⟨answer, ⟨world, cycles.timing, cycles.endpointDetected⟩, visible⟩

/-- Looks whether the utterance has ended, if that is wanted. -/
def lookForEnd (outside : Collaborators World) (decoder : Decoder) :
    Action (Cycle World) SessionError Unit := do
  if decoder.config.doEndpointing then
    let ended ← Cycle.outside <| .ask
      (outside.endpointDetected decoder.engine decoder.config.endpoint)
      (.endpointDetected decoder.engine decoder.config.endpoint)
    .change fun cycle => { cycle with endpointDetected := ended }

theorem lookForEnd_agrees {decoder : Decoder}
    (twins : Twins decoder.config outside outside' alike) :
    (lookForEnd outside decoder).Agrees (Cycle.Alike alike) (lookForEnd outside' decoder) := by
  unfold lookForEnd
  split
  · refine .bind (.inCycle (.ask (twins.endpointDetected decoder.engine) _)) fun ended => ?_
    exact fun _ _ cycles => ⟨rfl, ⟨cycles.world, cycles.timing, rfl⟩, rfl⟩
  · exact .done ()

/-- What a cycle does up to its partial result.  The answer is whether one is due. -/
def reachOutput (outside : Collaborators World) (decoder : Decoder) (chunk : List Float32) :
    Action (Cycle World) SessionError Bool := do
  Cycle.outside (passChunk outside decoder chunk)
  .change fun cycle => { cycle with timing := cycle.timing.consume chunk.length }
  let counted ← .state
  Cycle.outside (search outside decoder counted.timing)
  if counted.timing.outputDue then lookForEnd outside decoder
  return counted.timing.outputDue

theorem lookAtOutput_eq_lookForEnd (outside : Collaborators World) (decoder : Decoder) :
    lookAtOutput outside decoder = (do
      lookForEnd outside decoder
      notePartial outside decoder) := by
  unfold lookAtOutput lookForEnd
  split
  · simp only [bind_assoc]
    rfl
  · rfl

/-- A cycle is what it does up to its partial result, and then that, if it is due. -/
theorem decodeChunk_eq_reachOutput (outside : Collaborators World) (decoder : Decoder)
    (chunk : List Float32) :
    decodeChunk outside decoder chunk = (do
      let due ← reachOutput outside decoder chunk
      if due then notePartial outside decoder) := by
  rw [decodeChunk_eq]
  simp only [reachOutput, searchAndLook, bind_assoc, lookAtOutput_eq_lookForEnd]
  congr
  funext _
  congr
  funext _
  congr
  funext counted
  congr
  funext _
  cases counted.timing.outputDue with
  | false => rfl
  | true => simp only [if_true, bind_assoc, pure_bind]

theorem reachOutput_agrees {decoder : Decoder}
    (twins : Twins decoder.config outside outside' alike) (chunk : List Float32) :
    (reachOutput outside decoder chunk).Agrees (Cycle.Alike alike)
      (reachOutput outside' decoder chunk) := by
  refine .bind (passChunk_agrees twins decoder chunk).inCycle fun _ => .bind ?_ fun _ => ?_
  · exact fun _ _ cycles =>
      ⟨rfl, ⟨cycles.world, congrArg (·.consume chunk.length) cycles.timing,
        cycles.endpointDetected⟩, rfl⟩
  · intro cycle cycle' cycles
    -- The counts are the same in both.
    rw [Action.state_bind, Action.state_bind, cycles.timing]
    refine Action.Agrees.bind (search_agrees twins decoder _).inCycle (fun _ => ?_) _ _ cycles
    split
    · exact .bind (lookForEnd_agrees twins) fun _ => .done _
    · exact .done _

end Cycles

/-! ## The partial result -/

/-- Asking for the words of the best path leaves the world as any partial result does, and
nothing that is visible. -/
theorem bestTranscript_run (outside : Collaborators World) (decoder : Decoder) (world : World) :
    let run := bestTranscript outside decoder world
    run.state = outside.afterPartial decoder.engine world ∧ visibleOf run.record = [] := by
  simp only [bestTranscript, Action.ask_bind, Collaborators.afterPartial]
  by_cases nothing : (outside.framesDecoded decoder.engine world).1 = 0
  · simp only [if_pos nothing]
    exact ⟨rfl, rfl⟩
  · simp only [if_neg nothing, Action.ask_bind]
    cases (outside.bestPath decoder.engine
      (outside.framesDecoded decoder.engine world).2).1 with
    | none => exact ⟨rfl, rfl⟩
    | some path =>
      simp only [Outcome.after_state, Outcome.after_record]
      cases spelled : decoder.symbols.render path.words with
      | error number => exact ⟨rfl, rfl⟩
      | ok words => exact ⟨rfl, rfl⟩

/-- The calls for the cost of a partial result, which is asked for if the log takes it. -/
def Collaborators.noting (outside : Collaborators World) (engine : Engine) (world : World) :
    List Event :=
  if outside.debugging then
    [.call (.finalRelativeCost engine (outside.finalRelativeCost engine world).1)]
  else []

theorem noteWords_run (outside : Collaborators World) (decoder : Decoder) (words : String)
    (world : World) :
    let run := noteWords outside decoder words world
    run.answer = .ok () ∧ run.state = outside.afterNote decoder.engine world ∧
      visibleOf run.record = outside.noting decoder.engine world := by
  unfold noteWords Collaborators.afterNote Collaborators.noting
  split
  · exact ⟨rfl, rfl, rfl⟩
  · exact ⟨rfl, rfl, rfl⟩

/-- The partial result of a cycle: without words for it the cycle fails, and otherwise they are
noted. -/
theorem notePartial_run (outside : Collaborators World) (decoder : Decoder)
    (cycle : Cycle World) :
    let spelled := bestTranscript outside decoder cycle.world
    let world := outside.afterPartial decoder.engine cycle.world
    let run := notePartial outside decoder cycle
    (∃ number, run.answer = .error (.unknownSymbol number) ∧
      spelled.answer = .error (.unknownSymbol number) ∧
      run.state = { cycle with world := world } ∧ visibleOf run.record = []) ∨
    (∃ words, run.answer = .ok () ∧ spelled.answer = .ok words ∧
      run.state = { cycle with
        world := outside.afterNote decoder.engine world
        timing := cycle.timing.advanceOutput } ∧
      visibleOf run.record = outside.noting decoder.engine world) := by
  intro spelled world run
  obtain ⟨left, nothing⟩ := bestTranscript_run outside decoder cycle.world
  cases answer : spelled.answer with
  | error error =>
    obtain ⟨number, rfl⟩ :=
      (bestTranscript_within outside decoder).failing cycle.world error answer
    have failed : (Cycle.outside (bestTranscript outside decoder) cycle).answer =
        .error (.unknownSymbol number) := answer
    have ran : run = _ := Action.bind_error failed _
    rw [ran]
    exact .inl ⟨number, rfl, rfl, congrArg (Cycle.mk · _ _) left, nothing⟩
  | ok words =>
    have answered : (Cycle.outside (bestTranscript outside decoder) cycle).answer =
        .ok words := answer
    let reached := (Cycle.outside (bestTranscript outside decoder) cycle).state
    obtain ⟨noted, after, shown⟩ := noteWords_run outside decoder words reached.world
    have reached' : reached.world = world := left
    have goesOn : (Cycle.outside (noteWords outside decoder words) reached).answer = .ok () := noted
    have ran : run = _ := Action.bind_ok answered _
    rw [Action.bind_ok goesOn] at ran
    rw [ran]
    refine .inr ⟨words, rfl, rfl, ?_, ?_⟩
    · rw [← reached']
      exact congrArg (Cycle.mk · _ _) after
    · simp only [Outcome.after_record, visibleOf_append]
      rw [show visibleOf (Cycle.outside (bestTranscript outside decoder) cycle).record = [] from
        nothing, List.nil_append, ← reached']
      exact (List.append_nil _).trans shown

section Partial

variable {config : Config} {outside : Collaborators World} {outside' : Collaborators World'}
  {alike : World → World' → Prop}

theorem afterPartial_alike (twins : Twins config outside outside' alike) (engine : Engine)
    {world : World} {world' : World'} (worlds : alike world world') :
    alike (outside.afterPartial engine world) (outside'.afterPartial engine world') := by
  have first : alike (outside.afterPartial engine world) world' := by
    have frames := (twins.framesDecoded engine _ _ worlds).1
    unfold Collaborators.afterPartial
    dsimp only
    split
    · exact frames
    · exact (twins.bestPath engine _ _ frames).1
  have frames := (twins.framesDecoded engine _ _ first).2
  rw [Collaborators.afterPartial.eq_def outside']
  dsimp only
  split
  · exact frames
  · exact (twins.bestPath engine _ _ frames).2

theorem afterNote_alike (twins : Twins config outside outside' alike) (engine : Engine)
    {world : World} {world' : World'} (worlds : alike world world') :
    alike (outside.afterNote engine world) (outside'.afterNote engine world') ∧
      outside.noting engine world = outside'.noting engine world' := by
  obtain ⟨cost, costs⟩ := twins.finalRelativeCost engine _ _ worlds
  unfold Collaborators.afterNote Collaborators.noting
  rw [twins.debugging]
  split
  · exact ⟨costs, by rw [cost]⟩
  · exact ⟨worlds, rfl⟩

/-- Where a transcript is delivered, the words of the best path agree. -/
theorem bestTranscript_agree {decoder : Decoder}
    (twins : Twins decoder.config outside outside' alike) {world : World} {world' : World'}
    (worlds : alike world world')
    (delivers : outside.Delivers decoder.config decoder.engine world) :
    Agree alike (bestTranscript outside decoder world)
      (bestTranscript outside' decoder world') := by
  obtain ⟨left, nothing⟩ := bestTranscript_run outside decoder world
  obtain ⟨left', nothing'⟩ := bestTranscript_run outside' decoder world'
  obtain ⟨frames, path⟩ := twins.delivered decoder.engine world world' worlds delivers
  refine ⟨?_, ?_, nothing.trans nothing'.symm⟩
  · simp only [bestTranscript, Action.ask_bind, frames]
    split
    · rfl
    · simp only [Action.ask_bind, Outcome.after_answer, path]
      cases (outside'.bestPath decoder.engine
        (outside'.framesDecoded decoder.engine world').2).1 with
      | none => rfl
      | some path =>
        dsimp only
        cases decoder.symbols.render path.words <;> rfl
  · rw [left, left']
    exact afterPartial_alike twins decoder.engine worlds

end Partial

/-! ## The end of an utterance -/

section End

variable {outside : Collaborators World} {outside' : Collaborators World'}
  {alike : World → World' → Prop} {decoder : Decoder}

theorem lookForEnd_run (outside : Collaborators World) (decoder : Decoder) (cycle : Cycle World) :
    let look := outside.endpointDetected decoder.engine decoder.config.endpoint cycle.world
    lookForEnd outside decoder cycle =
      if decoder.config.doEndpointing then
        ⟨.ok (), { cycle with world := look.2, endpointDetected := look.1 },
          [decoder.looked look.1]⟩
      else ⟨.ok (), cycle, []⟩ := by
  unfold lookForEnd
  split <;> rfl

/-- Looking for the end does not fail. -/
theorem lookForEnd_answer (outside : Collaborators World) (decoder : Decoder)
    (cycle : Cycle World) : (lookForEnd outside decoder cycle).answer = .ok () := by
  rw [lookForEnd_run]
  split <;> rfl

/-- A cycle that has come to its partial result, if one is due, has looked for the end just
before. -/
theorem reachOutput_ok {chunk : List Float32} {cycle : Cycle World} {due : Bool}
    (answered : (reachOutput outside decoder chunk cycle).answer = .ok due) :
    ∃ searched : Cycle World, searched.endpointDetected = cycle.endpointDetected ∧
      (reachOutput outside decoder chunk cycle).state =
        if due then (lookForEnd outside decoder searched).state else searched := by
  unfold reachOutput at answered ⊢
  rcases Action.bind_cases (Cycle.outside (passChunk outside decoder chunk)) _ cycle with
    ⟨_, _, run⟩ | ⟨_, _, run⟩
  · rw [run] at answered
    cases answered
  rw [run, Outcome.after_answer, Action.change_bind, Action.state_bind] at answered
  rw [run, Outcome.after_state, Action.change_bind, Action.state_bind]
  -- The chunk is counted before the search, and neither touches the flag.
  set counted : Cycle World := { (Cycle.outside (passChunk outside decoder chunk) cycle).state with
    timing := (Cycle.outside (passChunk outside decoder chunk) cycle).state.timing.consume
      chunk.length }
  rcases Action.bind_cases (Cycle.outside (search outside decoder counted.timing)) _ counted with
    ⟨_, _, run⟩ | ⟨_, _, run⟩
  · rw [run] at answered
    cases answered
  rw [run, Outcome.after_answer] at answered
  rw [run, Outcome.after_state]
  refine ⟨(Cycle.outside (search outside decoder counted.timing) counted).state, rfl, ?_⟩
  cases isDue : counted.timing.outputDue with
  | false =>
    rw [isDue] at answered
    cases answered
    rfl
  | true =>
    rw [isDue, if_pos rfl, Action.bind_ok (lookForEnd_answer ..)] at answered
    cases answered
    rw [if_pos rfl, Action.bind_ok (lookForEnd_answer ..)]
    rfl

/-- The world in which an utterance ends: the end has been reported, and a partial result has been
asked for and noted. -/
def Collaborators.Ends (outside : Collaborators World) (config : Config) (engine : Engine)
    (world : World) : Prop :=
  ∃ before,
    let look := outside.endpointDetected engine config.endpoint before
    look.1 = true ∧
      outside.afterNote engine (outside.afterPartial engine look.2) = world

/-- A cycle that raises the flag has come to the end of the utterance. -/
theorem decodeChunk_ends {chunk : List Float32} {cycle : Cycle World}
    (lowered : cycle.endpointDetected = false)
    (answered : (decodeChunk outside decoder chunk cycle).answer = .ok ())
    (raised : (decodeChunk outside decoder chunk cycle).state.endpointDetected = true) :
    outside.Ends decoder.config decoder.engine
      (decodeChunk outside decoder chunk cycle).state.world := by
  rw [decodeChunk_eq_reachOutput] at answered raised ⊢
  cases reached : (reachOutput outside decoder chunk cycle).answer with
  | error error =>
    rw [Action.bind_error reached] at answered
    cases answered
  | ok due =>
    rw [Action.bind_ok reached] at answered raised ⊢
    obtain ⟨searched, kept, state⟩ := reachOutput_ok reached
    rw [lowered] at kept
    cases due with
    | false =>
      -- Without a partial result the flag is where it was, and that is lowered.
      have same : (reachOutput outside decoder chunk cycle).state.endpointDetected = true := raised
      rw [state] at same
      exact nomatch kept.symm.trans same
    | true =>
      rw [state, if_pos rfl, if_pos rfl] at answered raised ⊢
      rcases notePartial_run outside decoder (lookForEnd outside decoder searched).state with
        ⟨_, failed, _⟩ | ⟨_, _, _, left, _⟩
      · exact nomatch failed.symm.trans answered
      · have flag : (lookForEnd outside decoder searched).state.endpointDetected = true :=
          (congrArg Cycle.endpointDetected left).symm.trans raised
        rw [lookForEnd_run] at flag left
        by_cases wanted : decoder.config.doEndpointing = true
        · rw [if_pos wanted] at flag left
          refine ⟨searched.world, flag, ?_⟩
          rw [lookForEnd_run, if_pos wanted]
          exact (congrArg Cycle.world left).symm
        · rw [if_neg wanted] at flag
          exact nomatch kept.symm.trans flag

/-- **The transcript** agrees. -/
theorem finalize_agree (twins : Twins decoder.config outside outside' alike) {world : World}
    {world' : World'} (worlds : alike world world')
    (ends : outside.Ends decoder.config decoder.engine world) :
    Agree alike (finalize outside decoder world) (finalize outside' decoder world') := by
  obtain ⟨before, reported, rfl⟩ := ends
  refine Agree.bind (Agree.bind ?_ fun cost answered worlds' => ?_) fun transcript _ worlds' => ?_
  · exact Action.Agrees.ask (twins.finalRelativeCost decoder.engine) _ _ _ worlds
  · split
    case isTrue low =>
      cases answered
      exact bestTranscript_agree twins worlds' ⟨before, reported, low, rfl⟩
    case isFalse =>
      exact .bind ⟨rfl, worlds', rfl⟩ fun _ _ worlds'' => ⟨rfl, worlds'', rfl⟩
  · exact .bind ⟨rfl, worlds', rfl⟩ fun _ _ worlds'' => ⟨rfl, worlds'', rfl⟩

end End

end LiveSpeech
