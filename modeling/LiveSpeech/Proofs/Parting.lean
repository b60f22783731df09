import LiveSpeech.Proofs.Rows
import LiveSpeech.Proofs.Twins

/-!
# Runs that part

At a partial result two runs that have agreed so far go on in agreement, or they part: one of
them cannot spell what it has understood, and the other can, or cannot spell something else
(`Part`).  What comes later changes nothing about that, and so whole cycles, and rows of chunks,
agree or part as well (`decodeChunks_agree_or_part`).

A run that has no word for a number has failed at a partial result, or at a transcript that was
going to be delivered (`decodeChunks_unknown`).
-/

namespace LiveSpeech

set_option autoImplicit false

variable {World World' : Type}

/-! ## Runs that part -/

/-- The last of the events is not about the cost. -/
def EndsBeforeCost (events : List Event) : Prop :=
  ∃ before last, events = before ++ [last] ∧ last.isCost = false

theorem EndsBeforeCost.append {events : List Event} (ends : EndsBeforeCost events)
    (earlier : List Event) : EndsBeforeCost (earlier ++ events) := by
  obtain ⟨before, last, rfl, other⟩ := ends
  exact ⟨earlier ++ before, last, (List.append_assoc ..).symm, other⟩

section Part

variable {State State' Answer Next : Type}

/-- A run fails at a partial result: it has no word for a number, and has not come to the cost. -/
structure FailsAtPartial (run : Outcome State SessionError Answer) (number : Nat) : Prop where
  failed : run.answer = .error (.unknownSymbol number)
  early : EndsBeforeCost (visibleOf run.record)

/-- A run goes on where another one has stopped: there is more to be seen of it, or it does not
fail. -/
def GoesOn (run : Outcome State SessionError Answer) (stopped : List Event) : Prop :=
  ∃ more, visibleOf run.record = stopped ++ more ∧ (more = [] → ∃ answer, run.answer = .ok answer)

/-- Two runs part at a partial result: one fails there and the other goes on, or both fail at
different numbers. -/
inductive Part (run : Outcome State SessionError Answer)
    (run' : Outcome State' SessionError Answer) : Prop where
  /-- The first run fails. -/
  | first (number : Nat) (fails : FailsAtPartial run number)
      (goesOn : GoesOn run' (visibleOf run.record))
  /-- The second run fails. -/
  | second (number : Nat) (fails : FailsAtPartial run' number)
      (goesOn : GoesOn run (visibleOf run'.record))
  | both (number number' : Nat) (differ : number ≠ number') (fails : FailsAtPartial run number)
      (fails' : FailsAtPartial run' number')
      (same : visibleOf run.record = visibleOf run'.record)

variable {run : Outcome State SessionError Answer} {run' : Outcome State' SessionError Answer}

theorem FailsAtPartial.of_nothing {number : Nat} {record : List Event}
    (failed : run.answer = .error (.unknownSymbol number)) (nothing : visibleOf run.record = [])
    (early : EndsBeforeCost (visibleOf record)) : FailsAtPartial (run.after record) number where
  failed := failed
  early := by
    rw [Outcome.after_record, visibleOf_append, nothing, List.append_nil]
    exact early

theorem FailsAtPartial.after {number : Nat} (fails : FailsAtPartial run number)
    (record : List Event) : FailsAtPartial (run.after record) number where
  failed := fails.failed
  early := by
    rw [Outcome.after_record, visibleOf_append]
    exact fails.early.append _

theorem GoesOn.of_ok {answer : Answer} (succeeds : run.answer = .ok answer) (record : List Event) :
    GoesOn (run.after record) (visibleOf record) :=
  ⟨visibleOf run.record, visibleOf_append .., fun _ => ⟨answer, succeeds⟩⟩

theorem GoesOn.after {stopped record record' : List Event} (goesOn : GoesOn run stopped)
    (same : visibleOf record = visibleOf record') :
    GoesOn (run.after record) (visibleOf record' ++ stopped) := by
  obtain ⟨more, visible, succeeds⟩ := goesOn
  refine ⟨more, ?_, succeeds⟩
  rw [Outcome.after_record, visibleOf_append, visible, same, List.append_assoc]

theorem Part.after (part : Part run run') {record record' : List Event}
    (same : visibleOf record = visibleOf record') :
    Part (run.after record) (run'.after record') := by
  have visible (outcome : List Event) :
      visibleOf (record ++ outcome) = visibleOf record' ++ visibleOf outcome := by
    rw [visibleOf_append, same]
  cases part with
  | first number fails goesOn =>
    refine .first number (fails.after record) ?_
    rw [Outcome.after_record, visibleOf_append]
    exact goesOn.after same.symm
  | second number fails goesOn =>
    refine .second number (fails.after record') ?_
    rw [Outcome.after_record, visibleOf_append]
    exact goesOn.after same
  | both number number' differ fails fails' both =>
    refine .both number number' differ (fails.after record) (fails'.after record') ?_
    rw [Outcome.after_record, Outcome.after_record, visible, both, visibleOf_append]

/-- What shows the same as a run that fails at a partial result fails there. -/
theorem FailsAtPartial.shown {Other : Type} {number : Nat} (fails : FailsAtPartial run number)
    {work : Answer → Next} {shown : Outcome Other SessionError Next}
    (answer : shown.answer = run.answer.map work)
    (visible : visibleOf shown.record = visibleOf run.record) : FailsAtPartial shown number where
  failed := answer.trans (congrArg (Except.map work) fails.failed)
  early := visible ▸ fails.early

theorem GoesOn.shown {Other : Type} {stopped : List Event} (goesOn : GoesOn run stopped)
    {work : Answer → Next} {shown : Outcome Other SessionError Next}
    (answer : shown.answer = run.answer.map work)
    (visible : visibleOf shown.record = visibleOf run.record) : GoesOn shown stopped := by
  obtain ⟨more, goesOn, succeeds⟩ := goesOn
  refine ⟨more, visible.trans goesOn, fun nothing => ?_⟩
  obtain ⟨result, succeeded⟩ := succeeds nothing
  exact ⟨work result, answer.trans (congrArg (Except.map work) succeeded)⟩

theorem Part.shown {Other Other' : Type} (part : Part run run') {work : Answer → Next}
    {shown : Outcome Other SessionError Next} {shown' : Outcome Other' SessionError Next}
    (answer : shown.answer = run.answer.map work)
    (visible : visibleOf shown.record = visibleOf run.record)
    (answer' : shown'.answer = run'.answer.map work)
    (visible' : visibleOf shown'.record = visibleOf run'.record) : Part shown shown' := by
  cases part with
  | first number fails goesOn =>
    exact .first number (fails.shown answer visible) (visible ▸ goesOn.shown answer' visible')
  | second number fails goesOn =>
    exact .second number (fails.shown answer' visible') (visible' ▸ goesOn.shown answer visible)
  | both number number' differ fails fails' same =>
    exact .both number number' differ (fails.shown answer visible)
      (fails'.shown answer' visible') (by rwa [visible, visible'])

/-- A run that has failed at a partial result fails there, whatever would have come next. -/
theorem FailsAtPartial.bind {first : Action State SessionError Answer} {state : State}
    {number : Nat} (fails : FailsAtPartial (first state) number)
    (next : Answer → Action State SessionError Next) :
    FailsAtPartial ((first >>= next) state) number ∧
      ((first >>= next) state).record = (first state).record := by
  rw [Action.bind_error fails.failed]
  exact ⟨⟨rfl, fails.early⟩, rfl⟩

/-- What is visible of an action comes before what is visible of the next one. -/
theorem visibleOf_bind (first : Action State SessionError Answer)
    (next : Answer → Action State SessionError Next) (state : State) :
    ∃ more, visibleOf ((first >>= next) state).record =
      visibleOf (first state).record ++ more := by
  rcases Action.bind_cases first next state with ⟨_, _, run⟩ | ⟨_, _, run⟩
  · exact ⟨[], by rw [run, List.append_nil]⟩
  · exact ⟨_, by rw [run, Outcome.after_record, visibleOf_append]⟩

/-- An action fails only behind something that is to be seen. -/
def FailsVisibly (action : Action State SessionError Answer) : Prop :=
  ∀ state error, (action state).answer = .error error → visibleOf (action state).record ≠ []

theorem FailsVisibly.done (answer : Answer) :
    FailsVisibly (pure answer : Action State SessionError Answer) := nofun

/-- If the first of two actions always shows something, both fail visibly. -/
theorem FailsVisibly.of_first {first : Action State SessionError Answer}
    (shows : ∀ state, visibleOf (first state).record ≠ [])
    (next : Answer → Action State SessionError Next) : FailsVisibly (first >>= next) := by
  intro state error _ nothing
  obtain ⟨more, visible⟩ := visibleOf_bind first next state
  exact shows state (List.append_eq_nil_iff.mp (visible.symm.trans nothing)).1

theorem FailsVisibly.bind {first : Action State SessionError Answer} (visibly : FailsVisibly first)
    {next : Answer → Action State SessionError Next}
    (visibly' : ∀ answer, FailsVisibly (next answer)) : FailsVisibly (first >>= next) := by
  intro state error failed
  rcases Action.bind_cases first next state with ⟨failure, fails, run⟩ | ⟨answer, _, run⟩
  · rw [run]
    exact visibly state failure fails
  · rw [run] at failed ⊢
    intro nothing
    rw [Outcome.after_record, visibleOf_append] at nothing
    exact visibly' answer _ error failed (List.append_eq_nil_iff.mp nothing).2

theorem GoesOn.bind {first : Action State SessionError Answer} {state : State}
    {stopped : List Event} (goesOn : GoesOn (first state) stopped)
    {next : Answer → Action State SessionError Next}
    (visibly : ∀ answer, FailsVisibly (next answer)) :
    GoesOn ((first >>= next) state) stopped := by
  obtain ⟨more, visible, succeeds⟩ := goesOn
  rcases Action.bind_cases first next state with ⟨failure, fails, run⟩ | ⟨answer, _, run⟩
  · refine ⟨more, by rw [run]; exact visible, fun nothing => ?_⟩
    obtain ⟨result, succeeded⟩ := succeeds nothing
    exact nomatch fails.symm.trans succeeded
  · let others := visibleOf (next answer (first state).state).record
    refine ⟨more ++ others, ?_, fun nothing => ?_⟩
    · rw [run, Outcome.after_record, visibleOf_append, visible, List.append_assoc]
    · have none : others = [] := (List.append_eq_nil_iff.mp nothing).2
      rw [run, Outcome.after_answer]
      cases result : (next answer (first state).state).answer with
      | ok answer' => exact ⟨answer', rfl⟩
      | error error => exact absurd none (visibly answer _ error result)

theorem Part.bind {first : Action State SessionError Answer} {state : State}
    {first' : Action State' SessionError Answer} {state' : State'}
    (part : Part (first state) (first' state')) {next : Answer → Action State SessionError Next}
    {next' : Answer → Action State' SessionError Next}
    (visibly : ∀ answer, FailsVisibly (next answer))
    (visibly' : ∀ answer, FailsVisibly (next' answer)) :
    Part ((first >>= next) state) ((first' >>= next') state') := by
  cases part with
  | first number fails goesOn =>
    obtain ⟨fails', record⟩ := fails.bind next
    refine .first number fails' ?_
    rw [record]
    exact goesOn.bind visibly'
  | second number fails goesOn =>
    obtain ⟨fails', record⟩ := fails.bind next'
    refine .second number fails' ?_
    rw [record]
    exact goesOn.bind visibly
  | both number number' differ fails fails' same =>
    obtain ⟨stops, record⟩ := fails.bind next
    obtain ⟨stops', record'⟩ := fails'.bind next'
    exact .both number number' differ stops stops' (by rw [record, record', same])

/-- Two runs go on in agreement, or they part at a partial result. -/
def AgreeOrPart (related : State → State' → Prop) (run : Outcome State SessionError Answer)
    (run' : Outcome State' SessionError Answer) : Prop :=
  Agree related run run' ∨ Part run run'

theorem AgreeOrPart.after {related : State → State' → Prop} (ends : AgreeOrPart related run run')
    {record record' : List Event} (same : visibleOf record = visibleOf record') :
    AgreeOrPart related (run.after record) (run'.after record') :=
  ends.imp (·.after same) (·.after same)

theorem AgreeOrPart.bind {related : State → State' → Prop}
    {first : Action State SessionError Answer} {state : State}
    {first' : Action State' SessionError Answer} {state' : State'}
    {next : Answer → Action State SessionError Next}
    {next' : Answer → Action State' SessionError Next}
    (before : AgreeOrPart related (first state) (first' state'))
    (after : ∀ answer, (first state).answer = .ok answer →
      related (first state).state (first' state').state →
      AgreeOrPart related (next answer (first state).state)
        (next' answer (first' state').state))
    (visibly : ∀ answer, FailsVisibly (next answer))
    (visibly' : ∀ answer, FailsVisibly (next' answer)) :
    AgreeOrPart related ((first >>= next) state) ((first' >>= next') state') := by
  rcases before with agree | part
  · cases answered : (first state).answer with
    | error failure =>
      have answered' := agree.answer.symm.trans answered
      rw [Action.bind_error answered, Action.bind_error answered']
      exact .inl ⟨rfl, agree.state, agree.visible⟩
    | ok answer =>
      have answered' := agree.answer.symm.trans answered
      rw [Action.bind_ok answered, Action.bind_ok answered']
      exact (after answer answered agree.state).after agree.visible
  · exact .inr (part.bind visibly visibly')

end Part

/-! ## Cycles and rows -/

section Whole

variable {outside : Collaborators World} {outside' : Collaborators World'}
  {alike : World → World' → Prop} {decoder : Decoder}

/-- At a partial result two runs that have agreed so far go on in agreement or part. -/
theorem notePartial_agree_or_part (twins : Twins decoder.config outside outside' alike)
    {cycle : Cycle World} {cycle' : Cycle World'} (cycles : cycle.Alike alike cycle')
    {record record' : List Event} (same : visibleOf record = visibleOf record')
    (early : EndsBeforeCost (visibleOf record)) :
    AgreeOrPart (Cycle.Alike alike) ((notePartial outside decoder cycle).after record)
      ((notePartial outside' decoder cycle').after record') := by
  have worlds := afterPartial_alike twins decoder.engine cycles.world
  obtain ⟨notes, noting⟩ := afterNote_alike twins decoder.engine worlds
  have early' : EndsBeforeCost (visibleOf record') := same ▸ early
  -- Both fail, the first fails, the second fails, or both have words.
  rcases notePartial_run outside decoder cycle with
    ⟨number, failed, _, left, nothing⟩ | ⟨words, answered, _, left, asked⟩ <;>
  rcases notePartial_run outside' decoder cycle' with
    ⟨number', failed', _, left', nothing'⟩ | ⟨words', answered', _, left', asked'⟩
  · by_cases differ : number = number'
    · subst differ
      refine .inl (Agree.after ⟨failed.trans failed'.symm, ?_, nothing.trans nothing'.symm⟩ same)
      rw [left, left']
      exact ⟨worlds, cycles.timing, cycles.endpointDetected⟩
    · refine .inr (.both number number' differ (.of_nothing failed nothing early)
        (.of_nothing failed' nothing' early') ?_)
      simp only [Outcome.after_record, visibleOf_append, nothing, nothing', same]
  · refine .inr (.first number (.of_nothing failed nothing early) ?_)
    rw [Outcome.after_record, visibleOf_append, nothing, List.append_nil, same]
    exact .of_ok answered' record'
  · refine .inr (.second number' (.of_nothing failed' nothing' early') ?_)
    rw [Outcome.after_record, visibleOf_append, nothing', List.append_nil, ← same]
    exact .of_ok answered record
  · refine .inl (Agree.after ⟨answered.trans answered'.symm, ?_, ?_⟩ same)
    · rw [left, left']
      exact ⟨notes, congrArg TimingGate.advanceOutput cycles.timing, cycles.endpointDetected⟩
    · rw [asked, asked', noting]

/-- What a cycle does up to its partial result does not ask for the cost, and fails only with the
engine. -/
theorem reachOutput_within (outside : Collaborators World) (decoder : Decoder)
    (chunk : List Float32) : (reachOutput outside decoder chunk).Within (·.isCost = false)
      fun error => ∃ cause, error = .engine cause := by
  have passing : (passChunk outside decoder chunk).Within (·.isCost = false)
      fun error => ∃ cause, error = .engine cause :=
    .bind (.ask fun _ => rfl) fun _ => .ofExcept (fun cause => ⟨cause, rfl⟩) _
  have looking : (lookForEnd outside decoder).Within (·.isCost = false)
      fun error => ∃ cause, error = .engine cause := by
    unfold lookForEnd
    split
    · exact .bind (.inCycle (.ask fun _ => rfl)) fun _ => .change _
    · exact .done _
  refine .bind passing.inCycle fun _ => .bind (.change _) fun _ => .bind .state fun counted => ?_
  refine .bind ((search_within outside decoder _).mono (fun _ kind => kind.2) fun _ => id).inCycle
    fun _ => ?_
  split
  · exact .bind looking fun _ => .done _
  · exact .done _

/-- What a cycle does up to its partial result begins with the chunk and does not come to the
cost. -/
theorem reachOutput_early (outside : Collaborators World) (decoder : Decoder)
    (chunk : List Float32) (cycle : Cycle World) :
    EndsBeforeCost (visibleOf (reachOutput outside decoder chunk cycle).record) := by
  have passing := congrArg Outcome.record (passChunk_run outside decoder chunk cycle.world)
  obtain ⟨more, visible⟩ := visibleOf_bind (Cycle.outside (passChunk outside decoder chunk)) _ cycle
  have begins : visibleOf (reachOutput outside decoder chunk cycle).record =
      decoder.passed chunk (outside.acceptWaveform decoder.engine decoder.nativeRate chunk
        cycle.world).1 :: more := by
    refine visible.trans ?_
    exact congrArg (visibleOf · ++ more) passing
  rcases List.eq_nil_or_concat' (visibleOf (reachOutput outside decoder chunk cycle).record) with
    empty | ⟨before, last, parts⟩
  · exact nomatch empty.symm.trans begins
  · refine ⟨before, last, parts, ?_⟩
    have member : last ∈ visibleOf (reachOutput outside decoder chunk cycle).record := by
      rw [parts]
      exact List.mem_concat_self
    exact (reachOutput_within outside decoder chunk).recorded cycle last
      (List.mem_filter.mp member).1

/-- **A cycle in two runs** agrees, or the runs part at its partial result. -/
theorem decodeChunk_agree_or_part (twins : Twins decoder.config outside outside' alike)
    (chunk : List Float32) {cycle : Cycle World} {cycle' : Cycle World'}
    (cycles : cycle.Alike alike cycle') :
    AgreeOrPart (Cycle.Alike alike) (decodeChunk outside decoder chunk cycle)
      (decodeChunk outside' decoder chunk cycle') := by
  rw [decodeChunk_eq_reachOutput, decodeChunk_eq_reachOutput]
  have agree := reachOutput_agrees twins chunk cycle cycle' cycles
  have early := reachOutput_early outside decoder chunk cycle
  cases answered : (reachOutput outside decoder chunk cycle).answer with
  | error error =>
    have answered' := agree.answer.symm.trans answered
    rw [Action.bind_error answered, Action.bind_error answered']
    exact .inl ⟨rfl, agree.state, agree.visible⟩
  | ok due =>
    have answered' := agree.answer.symm.trans answered
    rw [Action.bind_ok answered, Action.bind_ok answered']
    cases due with
    | false =>
      refine .inl (Agree.after ?_ agree.visible)
      exact ⟨rfl, agree.state, rfl⟩
    | true => exact notePartial_agree_or_part twins agree.state agree.visible early

/-- A transcript that has no word for a number is one that was going to be delivered. -/
theorem finalize_unknown {world : World} {error : SessionError}
    (failed : (finalize outside decoder world).answer = .error error) :
    ∃ cost, cost ≤ decoder.config.maxFinalCost ∧
      visibleOf (finalize outside decoder world).record =
        [.call (.finalRelativeCost decoder.engine cost)] := by
  unfold finalize at failed ⊢
  cases spelled : (finalTranscript outside decoder world).answer with
  | ok transcript =>
    rw [Action.bind_ok spelled] at failed
    cases failed
  | error error =>
    rw [Action.bind_error spelled]
    refine ⟨(outside.finalRelativeCost decoder.engine world).1, ?_⟩
    rw [finalTranscript, Action.ask_bind] at spelled ⊢
    split at spelled
    case isTrue low =>
      obtain ⟨_, nothing⟩ := bestTranscript_run outside decoder
        (outside.finalRelativeCost decoder.engine world).2
      refine ⟨low, ?_⟩
      rw [if_pos low, Outcome.after_record, visibleOf_append, nothing]
      rfl
    case isFalse => cases spelled

/-- Something of a cycle is always to be seen: the chunk at least. -/
theorem decodeChunk_shows (outside : Collaborators World) (decoder : Decoder)
    (chunk : List Float32) (cycle : Cycle World) :
    visibleOf (decodeChunk outside decoder chunk cycle).record ≠ [] := by
  rw [decodeChunk_eq_reachOutput]
  obtain ⟨more, visible⟩ := visibleOf_bind (reachOutput outside decoder chunk) _ cycle
  obtain ⟨before, last, parts, _⟩ := reachOutput_early outside decoder chunk cycle
  rw [visible, parts]
  simp

theorem decodeChunks_failsVisibly (outside : Collaborators World) (decoder : Decoder) :
    ∀ chunks, FailsVisibly (decodeChunks outside decoder chunks)
  | [] => nofun
  | chunk :: _ => .of_first (decodeChunk_shows outside decoder chunk) _

/-- What comes behind the first cycle of a row: the transcript, or the other chunks. -/
def behindChunk (outside : Collaborators World) (decoder : Decoder) (others : List (List Float32)) :
    Action (Cycle World) SessionError Delivery := do
  let cycle ← .state
  if cycle.endpointDetected then
    Cycle.outside (finalize outside decoder)
    return .ended 1 others
  else
    let delivery ← decodeChunks outside decoder others
    return delivery.succ

/-- It fails only behind something that is to be seen: the cost of a transcript, or a chunk. -/
theorem behindChunk_failsVisibly (outside : Collaborators World) (decoder : Decoder)
    (others : List (List Float32)) : FailsVisibly (behindChunk outside decoder others) := by
  refine .bind nofun fun cycle => ?_
  split
  · refine .bind (fun cycle error failed => ?_) fun _ => .done _
    have unfinished : (finalize outside decoder cycle.world).answer = .error error := failed
    obtain ⟨cost, _, asked⟩ := finalize_unknown unfinished
    exact fun nothing => List.cons_ne_nil _ _ (asked.symm.trans nothing)
  · exact .bind (decodeChunks_failsVisibly outside decoder others) fun _ => .done _

/-- **A row of chunks in two runs** agrees, or the runs part at a partial result. -/
theorem decodeChunks_agree_or_part (twins : Twins decoder.config outside outside' alike)
    (chunks : List (List Float32)) {cycle : Cycle World} {cycle' : Cycle World'}
    (cycles : cycle.Alike alike cycle') (lowered : cycle.endpointDetected = false) :
    AgreeOrPart (Cycle.Alike alike) (decodeChunks outside decoder chunks cycle)
      (decodeChunks outside' decoder chunks cycle') := by
  induction chunks generalizing cycle cycle' with
  | nil => exact .inl ⟨rfl, cycles, rfl⟩
  | cons chunk others ih =>
    refine AgreeOrPart.bind (decodeChunk_agree_or_part twins chunk cycles)
      (fun _ answered cycles' => ?_) (fun _ => behindChunk_failsVisibly outside decoder others)
      fun _ => behindChunk_failsVisibly outside' decoder others
    rw [Action.state_bind, Action.state_bind, ← cycles'.endpointDetected]
    cases flag : (decodeChunk outside decoder chunk cycle).state.endpointDetected with
    | false =>
      simp only [Bool.false_eq_true, if_false]
      refine AgreeOrPart.bind (ih cycles' flag) (fun delivery _ rows => .inl ?_)
        (fun _ => .done _) fun _ => .done _
      exact Action.Agrees.done delivery.succ _ _ rows
    | true =>
      simp only [if_true]
      have agree := finalize_agree twins cycles'.world (decodeChunk_ends lowered answered flag)
      refine AgreeOrPart.bind (.inl ?_) (fun _ _ ended => .inl ?_) (fun _ => .done _)
        fun _ => .done _
      · exact ⟨agree.answer, ⟨agree.state, cycles'.timing, cycles'.endpointDetected⟩,
          agree.visible⟩
      · exact Action.Agrees.done (Delivery.ended 1 others) _ _ ended

end Whole

/-! ## Numbers without a word -/

section Unknown

variable {outside : Collaborators World} {decoder : Decoder}

/-- A cycle that has no word for a number has failed at its partial result. -/
theorem decodeChunk_unknown {chunk : List Float32} {cycle : Cycle World} {number : Nat}
    (failed : (decodeChunk outside decoder chunk cycle).answer = .error (.unknownSymbol number)) :
    FailsAtPartial (decodeChunk outside decoder chunk cycle) number := by
  rw [decodeChunk_eq_reachOutput] at failed ⊢
  cases reached : (reachOutput outside decoder chunk cycle).answer with
  | error error =>
    obtain ⟨cause, rfl⟩ := (reachOutput_within outside decoder chunk).failing cycle error reached
    rw [Action.bind_error reached] at failed
    cases failed
  | ok due =>
    rw [Action.bind_ok reached] at failed ⊢
    cases due with
    | false => cases failed
    | true =>
      rcases notePartial_run outside decoder (reachOutput outside decoder chunk cycle).state with
        ⟨_, _, _, _, nothing⟩ | ⟨_, answered, _⟩
      · exact .of_nothing failed nothing (reachOutput_early outside decoder chunk cycle)
      · exact nomatch failed.symm.trans answered

/-- A transcript that is going to be delivered has been asked for: the engine has reported the
end, and the cost that was asked for last is low enough. -/
structure AsksTranscript (config : Config) (record : List Event) : Prop where
  reported : EndReported record
  asked : ∃ before engine cost, cost ≤ config.maxFinalCost ∧
    visibleOf record = before ++ [.call (.finalRelativeCost engine cost)]

theorem AsksTranscript.after {config : Config} {record : List Event}
    (asks : AsksTranscript config record) (earlier : List Event) :
    AsksTranscript config (earlier ++ record) where
  reported := (endReported_append ..).mpr (.inr asks.reported)
  asked := by
    obtain ⟨before, engine, cost, low, visible⟩ := asks.asked
    refine ⟨visibleOf earlier ++ before, engine, cost, low, ?_⟩
    rw [visibleOf_append, visible, List.append_assoc]

/-- A row of chunks that has no word for a number has failed at a partial result, or at a
transcript that was going to be delivered. -/
theorem decodeChunks_unknown (chunks : List (List Float32)) {cycle : Cycle World} {number : Nat}
    (lowered : cycle.endpointDetected = false)
    (failed : (decodeChunks outside decoder chunks cycle).answer =
      .error (.unknownSymbol number)) :
    FailsAtPartial (decodeChunks outside decoder chunks cycle) number ∨
      AsksTranscript decoder.config (decodeChunks outside decoder chunks cycle).record := by
  induction chunks generalizing cycle with
  | nil => cases failed
  | cons chunk others ih =>
    rw [decodeChunks] at failed ⊢
    cases decoded : (decodeChunk outside decoder chunk cycle).answer with
    | error error =>
      rw [Action.bind_error decoded] at failed
      cases failed
      exact .inl (FailsAtPartial.bind (decodeChunk_unknown decoded) _).1
    | ok _ =>
      rw [Action.bind_ok decoded, Action.state_bind] at failed ⊢
      cases flag : (decodeChunk outside decoder chunk cycle).state.endpointDetected with
      | true =>
        rw [flag, if_pos rfl, Action.bind_pure_run] at failed
        rw [if_pos rfl, Action.bind_pure_run]
        have unfinished : (finalize outside decoder
            (decodeChunk outside decoder chunk cycle).state.world).answer =
              .error (.unknownSymbol number) := eq_error_of_map failed
        obtain ⟨cost, low, asked⟩ := finalize_unknown unfinished
        have step := decodeChunk_step outside decoder chunk cycle
        dsimp only at step
        rw [lowered, flag] at step
        -- The flag was raised in this cycle, so the end was reported in it.
        refine .inr ⟨(endReported_append ..).mpr (.inl ?_), ?_⟩
        · exact (endReported_landmarksOf _).mp (step.flag_iff.mp rfl)
        · exact ⟨_, decoder.engine, cost, low, (visibleOf_append ..).trans (congrArg _ asked)⟩
      | false =>
        rw [flag, if_neg Bool.false_ne_true, Action.bind_pure_run] at failed
        rw [if_neg Bool.false_ne_true, Action.bind_pure_run]
        refine (ih flag (eq_error_of_map failed)).imp (fun fails => ⟨failed, ?_⟩) (·.after _)
        rw [Outcome.after_record, visibleOf_append]
        exact fails.early.append _

end Unknown

end LiveSpeech
