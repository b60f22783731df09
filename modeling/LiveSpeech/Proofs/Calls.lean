import LiveSpeech.Proofs.Action
import LiveSpeech.Proofs.Landmarks
import LiveSpeech.Session.Cycle

/-!
# The calls of a cycle

A record without its notices is a row of calls and messages.  The rows that a decoding cycle can
leave are given here piece by piece: how the words of the best path are asked for (`Spelling`),
how silence is given its weight (`Reweighing`), the whole cycle (`CycleCalls`), the transcript
(`Finalizing`), and a row of cycles (`RowCalls`).

These are the only rows (`decodeChunk_calls`, `finalTranscript_calls`, `decodeChunks_calls`),
whatever the collaborators answer.  What is said about the order of calls is read off them.
-/

namespace LiveSpeech

set_option autoImplicit false

variable {World : Type}

/-! ## Pieces -/

/-- A chunk is passed on to the engine, which answers. -/
def Decoder.passed (decoder : Decoder) (chunk : List Float32) (answer : Except EngineError Unit) :
    Event :=
  .call (.acceptWaveform decoder.engine decoder.nativeRate chunk answer)

/-- The engine is asked whether the utterance has ended, and answers. -/
def Decoder.looked (decoder : Decoder) (answer : Bool) : Event :=
  .call (.endpointDetected decoder.engine decoder.config.endpoint answer)

/-- The engine is let decode, and answers. -/
def Decoder.searched (decoder : Decoder) (answer : Except EngineError Unit) : Event :=
  .call (.advanceDecoding decoder.engine answer)

/-- The engine is asked for the cost of its best final state, and answers. -/
def Decoder.costed (decoder : Decoder) (cost : Float32) : Event :=
  .call (.finalRelativeCost decoder.engine cost)

theorem passChunk_run (outside : Collaborators World) (decoder : Decoder) (chunk : List Float32)
    (world : World) :
    passChunk outside decoder chunk world =
      let reply := outside.acceptWaveform decoder.engine decoder.nativeRate chunk world
      ⟨reply.1.mapError .engine, reply.2, [decoder.passed chunk reply.1]⟩ := by
  rw [passChunk, Action.ask_bind, Action.ofExcept_run]
  rfl

/-- Waits for the clock and lets the engine decode what it was given. -/
def search (outside : Collaborators World) (decoder : Decoder) (gate : TimingGate) :
    Action World SessionError Unit := do
  pace outside gate
  reweighSilence outside decoder.engine
  advanceDecoding outside decoder.engine

/-- The calls for the words of the best path, and what comes of them. -/
inductive Spelling (decoder : Decoder) : Except SessionError String → List Event → Prop where
  /-- Nothing was decoded. -/
  | noFrames : Spelling decoder (.ok "") [.call (.framesDecoded decoder.engine 0)]
  /-- There is no path. -/
  | noPath {frames : Nat} (decoded : frames ≠ 0) :
      Spelling decoder (.ok "")
        [.call (.framesDecoded decoder.engine frames), .call (.bestPath decoder.engine none)]
  /-- All numbers on the path have words. -/
  | spelled {frames : Nat} (decoded : frames ≠ 0) (path : BestPath) {words : String}
      (renders : decoder.symbols.render path.words = .ok words) :
      Spelling decoder (.ok words)
        [.call (.framesDecoded decoder.engine frames),
          .call (.bestPath decoder.engine (some path))]
  /-- A number on the path has no word. -/
  | unknown {frames : Nat} (decoded : frames ≠ 0) (path : BestPath) {number : Nat}
      (missing : decoder.symbols.render path.words = .error number) :
      Spelling decoder (.error (.unknownSymbol number))
        [.call (.framesDecoded decoder.engine frames),
          .call (.bestPath decoder.engine (some path))]

theorem bestTranscript_calls (outside : Collaborators World) (decoder : Decoder)
    (world : World) :
    let run := bestTranscript outside decoder world
    Spelling decoder run.answer (effectsOf run.record) := by
  simp only [bestTranscript, Action.ask_bind]
  by_cases nothing : (outside.framesDecoded decoder.engine world).1 = 0
  · simp only [if_pos nothing]
    rw [nothing]
    exact .noFrames
  · simp only [if_neg nothing, Action.ask_bind]
    cases (outside.bestPath decoder.engine
      (outside.framesDecoded decoder.engine world).2).1 with
    | none => exact .noPath nothing
    | some path =>
      simp only [Outcome.after_answer, Outcome.after_record]
      cases renders : decoder.symbols.render path.words with
      | error number => exact .unknown nothing path renders
      | ok words => exact .spelled nothing path renders

/-- The calls by which silence is given a weight of its own: exactly if the engine does that and
its features adapt, and with the very weights that it has worked out. -/
inductive Reweighing (engine : Engine) : List Event → Prop where
  | inactive : Reweighing engine [.call (.silenceWeighting engine false)]
  | rigid :
      Reweighing engine
        [.call (.silenceWeighting engine true), .call (.adaptiveFeatures engine false)]
  | reweighed (weights : List WeightChange) :
      Reweighing engine
        [.call (.silenceWeighting engine true), .call (.adaptiveFeatures engine true),
          .call (.computeTraceback engine), .call (.deltaWeights engine weights),
          .call (.updateFrameWeights engine weights)]

theorem reweighSilence_calls (outside : Collaborators World) (engine : Engine) (world : World) :
    let run := reweighSilence outside engine world
    run.answer = .ok () ∧ Reweighing engine (effectsOf run.record) := by
  simp only [reweighSilence, Action.ask_bind]
  cases (outside.silenceWeighting engine world).1 with
  | false => exact ⟨rfl, .inactive⟩
  | true =>
    simp only [if_true, Action.ask_bind]
    cases (outside.adaptiveFeatures engine (outside.silenceWeighting engine world).2).1 with
    | false => exact ⟨rfl, .rigid⟩
    | true => exact ⟨rfl, .reweighed _⟩

/-- The clock is waited for, silence is given its weight, and the engine decodes. -/
theorem search_calls (outside : Collaborators World) (decoder : Decoder) (gate : TimingGate)
    (world : World) :
    let run := search outside decoder gate world
    ∃ weighing answer, Reweighing decoder.engine weighing ∧
      run.answer = answer.mapError .engine ∧
      effectsOf run.record =
        .call (.waitUntil gate.audioSeconds) :: weighing ++ [decoder.searched answer] := by
  intro run
  let waited := outside.waitUntil gate.audioSeconds world
  obtain ⟨answered, weighs⟩ := reweighSilence_calls outside decoder.engine waited
  let weighed := (reweighSilence outside decoder.engine waited).state
  have ran : run = ((advanceDecoding outside decoder.engine weighed).after
      (reweighSilence outside decoder.engine waited).record).after
        [.call (.waitUntil gate.audioSeconds)] :=
    congrArg (Outcome.after _) (Action.bind_ok answered _)
  have advanced : advanceDecoding outside decoder.engine weighed =
      let reply := outside.advanceDecoding decoder.engine weighed
      ⟨reply.1.mapError .engine, reply.2, [decoder.searched reply.1]⟩ := by
    rw [advanceDecoding, Action.ask_bind, Action.ofExcept_run]
    rfl
  rw [ran, advanced]
  refine ⟨_, _, weighs, rfl, ?_⟩
  simp only [Outcome.after_record, effectsOf_append]
  rfl

/-! ## One cycle -/

/-- What an engine answered when it was asked whether the utterance has ended: it is asked
exactly if the configuration says so. -/
def Decoder.Looks (decoder : Decoder) (look : Option Bool) : Prop :=
  look.isSome = decoder.config.doEndpointing

/-- Notes what has been understood so far, and moves the mark of the last output. -/
def notePartial (outside : Collaborators World) (decoder : Decoder) :
    Action (Cycle World) SessionError Unit := do
  let words ← Cycle.outside (bestTranscript outside decoder)
  Cycle.outside (noteWords outside decoder words)
  .change fun cycle => { cycle with timing := cycle.timing.advanceOutput }

theorem lookAtOutput_eq (outside : Collaborators World) (decoder : Decoder)
    (cycle : Cycle World) :
    lookAtOutput outside decoder cycle =
      if decoder.config.doEndpointing then
        let reply := outside.endpointDetected decoder.engine decoder.config.endpoint cycle.world
        (notePartial outside decoder
          { cycle with world := reply.2, endpointDetected := reply.1 }).after
            [decoder.looked reply.1]
      else notePartial outside decoder cycle := by
  unfold lookAtOutput
  split
  · rfl
  · rfl

theorem Cycle.outside_bind {Answer Next : Type} (first : Action World SessionError Answer)
    (next : Answer → Action World SessionError Next) :
    Cycle.outside (first >>= next) =
      Cycle.outside first >>= fun answer => Cycle.outside (next answer) := by
  unfold Cycle.outside
  exact Action.onPart_bind (by intros; rfl) (by intros; rfl) first next

/-- What follows when a chunk has been passed on and counted: the engine searches, and an output
that is due is looked at. -/
def searchAndLook (outside : Collaborators World) (decoder : Decoder) (timing : TimingGate) :
    Action (Cycle World) SessionError Unit := do
  Cycle.outside (search outside decoder timing)
  if timing.outputDue then lookAtOutput outside decoder

theorem decodeChunk_eq (outside : Collaborators World) (decoder : Decoder)
    (chunk : List Float32) :
    decodeChunk outside decoder chunk = (do
      Cycle.outside (passChunk outside decoder chunk)
      .change fun cycle => { cycle with timing := cycle.timing.consume chunk.length }
      let counted ← .state
      searchAndLook outside decoder counted.timing) := by
  simp only [searchAndLook, search, Cycle.outside_bind, bind_assoc]
  rfl

/-- The calls for a partial result, from the counts `timing`: how they end, and the counts they
leave. -/
inductive PartialCalls (debugging : Bool) (decoder : Decoder) (timing : TimingGate) :
    Except SessionError Unit → TimingGate → List Event → Prop where
  /-- What has been understood so far cannot be spelled. -/
  | unspelled {error : SessionError} {spelling : List Event}
      (spells : Spelling decoder (.error error) spelling) :
      PartialCalls debugging decoder timing (.error error) timing spelling
  /-- It is noted with its cost if the log takes it, and the mark of the last output moves. -/
  | noted {words : String} {spelling : List Event}
      (spells : Spelling decoder (.ok words) spelling) (cost : Option Float32)
      (taken : cost.isSome = debugging) :
      PartialCalls debugging decoder timing (.ok ()) timing.advanceOutput
        (spelling ++ cost.toList.map decoder.costed)

/-- The cost of what has been understood so far is asked for exactly if the log takes it. -/
theorem noteWords_calls (outside : Collaborators World) (decoder : Decoder) (words : String)
    (world : World) :
    let run := noteWords outside decoder words world
    run.answer = .ok () ∧ ∃ cost : Option Float32, cost.isSome = outside.debugging ∧
      effectsOf run.record = cost.toList.map decoder.costed := by
  intro run
  cases taken : outside.debugging with
  | false =>
    have ran : run = ⟨.ok (), world, []⟩ := by
      show noteWords outside decoder words world = _
      rw [noteWords, if_neg (by rw [taken]; exact Bool.false_ne_true)]
      rfl
    rw [ran]
    exact ⟨rfl, none, rfl, rfl⟩
  | true =>
    have ran : run = _ := congrFun (if_pos taken) world
    rw [ran, Action.ask_bind]
    exact ⟨rfl, some _, rfl, rfl⟩

theorem notePartial_calls (outside : Collaborators World) (decoder : Decoder)
    (cycle : Cycle World) :
    let run := notePartial outside decoder cycle
    run.state.endpointDetected = cycle.endpointDetected ∧
      PartialCalls outside.debugging decoder cycle.timing run.answer run.state.timing
        (effectsOf run.record) := by
  have spells : Spelling decoder (Cycle.outside (bestTranscript outside decoder) cycle).answer
      (effectsOf (Cycle.outside (bestTranscript outside decoder) cycle).record) :=
    bestTranscript_calls outside decoder cycle.world
  intro run
  cases spelled : (Cycle.outside (bestTranscript outside decoder) cycle).answer with
  | error error =>
    have stopped : run = _ := Action.bind_error spelled _
    rw [spelled] at spells
    rw [stopped]
    exact ⟨rfl, .unspelled spells⟩
  | ok words =>
    have went : run = _ := Action.bind_ok spelled _
    rw [spelled] at spells
    let reached := (Cycle.outside (bestTranscript outside decoder) cycle).state
    obtain ⟨answered, cost, taken, calls⟩ := noteWords_calls outside decoder words reached.world
    have noted : (Cycle.outside (noteWords outside decoder words) reached).answer = .ok () :=
      answered
    rw [Action.bind_ok noted] at went
    rw [went, Outcome.after_record, effectsOf_append, Outcome.after_record, effectsOf_append]
    rw [show effectsOf (Cycle.outside (noteWords outside decoder words) reached).record = _
      from calls]
    refine ⟨rfl, ?_⟩
    rw [show effectsOf (Action.change _ _ : Outcome (Cycle World) SessionError Unit).record = []
      from rfl, List.append_nil]
    exact .noted spells cost taken

/-- The calls when an output is looked at, from the counts `timing` and the flag `ended`: the end
of the utterance is asked for if that is wanted, and then the partial result. -/
inductive LookCalls (debugging : Bool) (decoder : Decoder) (timing : TimingGate) (ended : Bool) :
    Except SessionError Unit → TimingGate → Bool → List Event → Prop where
  | looked (look : Option Bool) (looks : decoder.Looks look) {answer : Except SessionError Unit}
      {timing' : TimingGate} {noting : List Event}
      (notes : PartialCalls debugging decoder timing answer timing' noting) :
      LookCalls debugging decoder timing ended answer timing' (look.getD ended)
        (look.toList.map decoder.looked ++ noting)

theorem lookAtOutput_calls (outside : Collaborators World) (decoder : Decoder)
    (cycle : Cycle World) :
    let run := lookAtOutput outside decoder cycle
    LookCalls outside.debugging decoder cycle.timing cycle.endpointDetected run.answer
      run.state.timing run.state.endpointDetected (effectsOf run.record) := by
  intro run
  have ran : run = _ := lookAtOutput_eq outside decoder cycle
  by_cases wanted : decoder.config.doEndpointing = true
  · rw [if_pos wanted] at ran
    rw [ran]
    let reply := outside.endpointDetected decoder.engine decoder.config.endpoint cycle.world
    obtain ⟨kept, notes⟩ := notePartial_calls outside decoder
      { cycle with world := reply.2, endpointDetected := reply.1 }
    simp only [Outcome.after_answer, Outcome.after_state, Outcome.after_record, effectsOf_append]
    rw [kept]
    exact .looked (some reply.1) wanted.symm notes
  · rw [if_neg wanted] at ran
    rw [ran]
    obtain ⟨kept, notes⟩ := notePartial_calls outside decoder cycle
    rw [kept]
    exact .looked none (eq_false_of_ne_true wanted).symm notes

/-- The calls of a cycle whose chunk is accepted, up to what the engine decodes: the chunk, the
wait for the audio that has been counted by then, the weight of silence, and the search. -/
def Decoder.heard (decoder : Decoder) (chunk : List Float32) (counted : TimingGate)
    (weighing : List Event) (answer : Except EngineError Unit) : List Event :=
  decoder.passed chunk (.ok ()) :: .call (.waitUntil counted.audioSeconds) ::
    weighing ++ [decoder.searched answer]

/-- The calls of a decoding cycle, from the counts `timing` and the flag `ended`: how it ends, and
the counts and the flag it leaves. -/
inductive CycleCalls (debugging : Bool) (decoder : Decoder) (chunk : List Float32)
    (timing : TimingGate) (ended : Bool) :
    Except SessionError Unit → TimingGate → Bool → List Event → Prop where
  /-- The chunk is refused.  It is not counted, and nothing is waited for. -/
  | refused (cause : EngineError) :
      CycleCalls debugging decoder chunk timing ended (.error (.engine cause)) timing ended
        [decoder.passed chunk (.error cause)]
  /-- The search fails. -/
  | stuck {weighing : List Event} (weighs : Reweighing decoder.engine weighing)
      (cause : EngineError) :
      CycleCalls debugging decoder chunk timing ended (.error (.engine cause))
        (timing.consume chunk.length) ended
        (decoder.heard chunk (timing.consume chunk.length) weighing (.error cause))
  /-- No output is due. -/
  | notDue {weighing : List Event} (weighs : Reweighing decoder.engine weighing)
      (early : (timing.consume chunk.length).outputDue = false) :
      CycleCalls debugging decoder chunk timing ended (.ok ()) (timing.consume chunk.length) ended
        (decoder.heard chunk (timing.consume chunk.length) weighing (.ok ()))
  /-- An output is due, and looked at. -/
  | due {weighing : List Event} (weighs : Reweighing decoder.engine weighing)
      (due : (timing.consume chunk.length).outputDue = true)
      {answer : Except SessionError Unit} {timing' : TimingGate} {after : Bool}
      {looking : List Event}
      (looks : LookCalls debugging decoder (timing.consume chunk.length) ended answer timing' after
        looking) :
      CycleCalls debugging decoder chunk timing ended answer timing' after
        (decoder.heard chunk (timing.consume chunk.length) weighing (.ok ()) ++ looking)

/-- A cycle that has passed its chunk on goes on in one of three ways. -/
theorem searchAndLook_calls (outside : Collaborators World) (decoder : Decoder)
    (chunk : List Float32) (timing : TimingGate) (cycle : Cycle World)
    (counted : cycle.timing = timing.consume chunk.length) :
    let run := searchAndLook outside decoder cycle.timing cycle
    CycleCalls outside.debugging decoder chunk timing cycle.endpointDetected run.answer
      run.state.timing run.state.endpointDetected
      (decoder.passed chunk (.ok ()) :: effectsOf run.record) := by
  obtain ⟨weighing, answer, weighs, answered, calls⟩ :=
    search_calls outside decoder cycle.timing cycle.world
  have heard : decoder.passed chunk (.ok ()) ::
      effectsOf (Cycle.outside (search outside decoder cycle.timing) cycle).record =
        decoder.heard chunk (timing.consume chunk.length) weighing answer := by
    rw [← counted]
    exact congrArg (List.cons _) calls
  intro run
  cases answer with
  | error cause =>
    have failed : (Cycle.outside (search outside decoder cycle.timing) cycle).answer =
        .error (.engine cause) := answered
    have stopped : run = _ := Action.bind_error failed _
    rw [stopped, heard]
    show CycleCalls _ _ _ _ _ _ cycle.timing _ _
    rw [counted]
    exact .stuck weighs cause
  | ok _ =>
    have searched : (Cycle.outside (search outside decoder cycle.timing) cycle).answer =
        .ok () := answered
    have went : run = _ := Action.bind_ok searched _
    rw [went, Outcome.after_record, effectsOf_append, ← List.cons_append, heard]
    cases due : cycle.timing.outputDue with
    | false =>
      show CycleCalls _ _ _ _ _ _ cycle.timing _ (_ ++ [])
      rw [counted] at due ⊢
      rw [List.append_nil]
      exact .notDue weighs due
    | true =>
      have looks := lookAtOutput_calls outside decoder
        (Cycle.outside (search outside decoder cycle.timing) cycle).state
      rw [show (Cycle.outside (search outside decoder cycle.timing) cycle).state.timing = _ from
        counted] at looks
      rw [counted] at due
      exact .due weighs due looks

/-- **The calls of a decoding cycle.** -/
theorem decodeChunk_calls (outside : Collaborators World) (decoder : Decoder)
    (chunk : List Float32) (cycle : Cycle World) :
    let run := decodeChunk outside decoder chunk cycle
    CycleCalls outside.debugging decoder chunk cycle.timing cycle.endpointDetected run.answer
      run.state.timing run.state.endpointDetected (effectsOf run.record) := by
  intro run
  have ran : run = _ := congrFun (decodeChunk_eq outside decoder chunk) cycle
  have passing := passChunk_run outside decoder chunk cycle.world
  cases reply : (outside.acceptWaveform decoder.engine decoder.nativeRate chunk cycle.world).1 with
  | error cause =>
    have refused : (Cycle.outside (passChunk outside decoder chunk) cycle).answer =
        .error (.engine cause) := by
      simp only [Cycle.outside, Action.onPart, passing, reply]
      rfl
    rw [ran, Action.bind_error refused]
    simp only [Cycle.outside, Action.onPart, passing, reply]
    exact .refused cause
  | ok _ =>
    have passed : (Cycle.outside (passChunk outside decoder chunk) cycle).answer = .ok () := by
      simp only [Cycle.outside, Action.onPart, passing, reply]
      rfl
    have passedOn : effectsOf (Cycle.outside (passChunk outside decoder chunk) cycle).record =
        [decoder.passed chunk (.ok ())] := by
      simp only [Cycle.outside, Action.onPart, passing, reply]
      rfl
    rw [Action.bind_ok passed, Action.change_bind, Action.state_bind] at ran
    rw [ran, Outcome.after_record, effectsOf_append, passedOn]
    exact searchAndLook_calls outside decoder chunk cycle.timing
      { cycle with
        world := (passChunk outside decoder chunk cycle.world).state
        timing := cycle.timing.consume chunk.length } rfl

/-! ## The transcript -/

/-- The calls for the transcript of an utterance that has ended, and what comes of them. -/
inductive Finalizing (decoder : Decoder) : Except SessionError String → List Event → Prop where
  /-- The best final state costs too much. -/
  | uncertain {cost : Float32} (above : ¬cost ≤ decoder.config.maxFinalCost) :
      Finalizing decoder (.ok "") [decoder.costed cost]
  /-- The words of the best path are asked for. -/
  | certain {cost : Float32} (within : cost ≤ decoder.config.maxFinalCost)
      {answer : Except SessionError String} {spelling : List Event}
      (spells : Spelling decoder answer spelling) :
      Finalizing decoder answer (decoder.costed cost :: spelling)

theorem finalTranscript_calls (outside : Collaborators World) (decoder : Decoder)
    (world : World) :
    let run := finalTranscript outside decoder world
    Finalizing decoder run.answer (effectsOf run.record) := by
  simp only [finalTranscript, Action.ask_bind]
  split
  case isTrue within =>
    exact .certain within (bestTranscript_calls outside decoder _)
  case isFalse above => exact .uncertain above

/-- The transcript is asked for and sent, or it cannot be spelled. -/
theorem finalize_calls (outside : Collaborators World) (decoder : Decoder) (world : World) :
    let run := finalize outside decoder world
    (∃ error, run.answer = .error error ∧
      Finalizing decoder (.error error) (effectsOf run.record)) ∨
    ∃ transcript finalizing, run.answer = .ok () ∧
      Finalizing decoder (.ok transcript) finalizing ∧
      effectsOf run.record = finalizing ++ [.send (.transcript transcript)] := by
  have finalizes := finalTranscript_calls outside decoder world
  intro run
  cases spelled : (finalTranscript outside decoder world).answer with
  | error error =>
    have stopped : run = _ := Action.bind_error spelled _
    rw [stopped]
    exact .inl ⟨error, rfl, spelled ▸ finalizes⟩
  | ok transcript =>
    have went : run = _ := Action.bind_ok spelled _
    rw [went]
    exact .inr ⟨transcript, _, rfl, spelled ▸ finalizes, effectsOf_append ..⟩

/-! ## A row of chunks -/

/-- The calls and messages of a row of chunks, from the counts `timing` and the flag `before`: how
it ends, and the counts and the flag it leaves. -/
inductive RowCalls (debugging : Bool) (decoder : Decoder) :
    List (List Float32) → TimingGate → Bool → Except SessionError Delivery → TimingGate → Bool →
    List Event → Prop where
  /-- There is no chunk. -/
  | nil (timing : TimingGate) (flag : Bool) :
      RowCalls debugging decoder [] timing flag (.ok (.complete 0)) timing flag []
  /-- The first cycle fails. -/
  | failed {chunk : List Float32} {others : List (List Float32)} {timing timing' : TimingGate}
      {before after : Bool} {error : SessionError} {calls : List Event}
      (cycle : CycleCalls debugging decoder chunk timing before (.error error) timing' after
        calls) :
      RowCalls debugging decoder (chunk :: others) timing before (.error error) timing' after calls
  /-- The utterance ends with the first cycle, but its transcript cannot be spelled. -/
  | unfinished {chunk : List Float32} {others : List (List Float32)}
      {timing timing' : TimingGate} {before : Bool} {calls finalizing : List Event}
      (cycle : CycleCalls debugging decoder chunk timing before (.ok ()) timing' true calls)
      {error : SessionError} (finalizes : Finalizing decoder (.error error) finalizing) :
      RowCalls debugging decoder (chunk :: others) timing before (.error error) timing' true
        (calls ++ finalizing)
  /-- The utterance ends with the first cycle, and its transcript is sent. -/
  | ended {chunk : List Float32} {others : List (List Float32)}
      {timing timing' : TimingGate} {before : Bool} {calls finalizing : List Event}
      (cycle : CycleCalls debugging decoder chunk timing before (.ok ()) timing' true calls)
      {transcript : String} (finalizes : Finalizing decoder (.ok transcript) finalizing) :
      RowCalls debugging decoder (chunk :: others) timing before (.ok (.ended 1 others)) timing'
        true (calls ++ (finalizing ++ [.send (.transcript transcript)]))
  /-- The row goes on behind the first cycle. -/
  | next {chunk : List Float32} {others : List (List Float32)}
      {timing timing' timing'' : TimingGate} {before after : Bool}
      {answer : Except SessionError Delivery} {calls more : List Event}
      (cycle : CycleCalls debugging decoder chunk timing before (.ok ()) timing' false calls)
      (row : RowCalls debugging decoder others timing' false answer timing'' after more) :
      RowCalls debugging decoder (chunk :: others) timing before (answer.map Delivery.succ)
        timing'' after (calls ++ more)

/-- **The calls and messages of a row of chunks.** -/
theorem decodeChunks_calls (outside : Collaborators World) (decoder : Decoder)
    (chunks : List (List Float32)) (cycle : Cycle World) :
    let run := decodeChunks outside decoder chunks cycle
    RowCalls outside.debugging decoder chunks cycle.timing cycle.endpointDetected run.answer
      run.state.timing run.state.endpointDetected (effectsOf run.record) := by
  induction chunks generalizing cycle with
  | nil => exact .nil cycle.timing cycle.endpointDetected
  | cons chunk others ih =>
    intro run
    have calls := decodeChunk_calls outside decoder chunk cycle
    dsimp only at calls
    cases decoded : (decodeChunk outside decoder chunk cycle).answer with
    | error error =>
      have stopped : run = _ := Action.bind_error decoded _
      rw [decoded] at calls
      rw [stopped]
      exact .failed calls
    | ok _ =>
      have went : run = _ := Action.bind_ok decoded _
      rw [decoded] at calls
      generalize decodeChunk outside decoder chunk cycle = first at went calls
      rw [Action.state_bind] at went
      cases flag : first.state.endpointDetected with
      | true =>
        rw [flag] at calls
        rw [if_pos flag, Action.bind_pure_run] at went
        rw [went, Outcome.after_record, effectsOf_append]
        show RowCalls _ _ _ _ _ _ first.state.timing first.state.endpointDetected _
        simp only [Outcome.after_answer, Cycle.outside, Action.onPart, flag]
        rcases finalize_calls outside decoder first.state.world with
          ⟨error, failed, finalizes⟩ | ⟨transcript, finalizing, sent, finalizes, whole⟩
        · rw [failed]
          exact .unfinished calls finalizes
        · rw [sent, whole]
          exact .ended calls finalizes
      | false =>
        rw [flag] at calls
        rw [if_neg (by simp [flag]), Action.bind_pure_run] at went
        have row := ih first.state
        dsimp only at row
        rw [flag] at row
        rw [went, Outcome.after_record, effectsOf_append]
        exact .next calls row

end LiveSpeech
