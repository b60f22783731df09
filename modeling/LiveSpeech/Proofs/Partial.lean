import LiveSpeech.Proofs.Operations
import LiveSpeech.Proofs.Parting
import LiveSpeech.Proofs.Runs
import LiveSpeech.Rehearsal.Small

/-!
# Partial results

Partial results are for the log.  But a partial result that has no word for a number fails the
fragment that came upon it, and so what the engine says about it matters after all.  It matters in
this way only (`partial_results_agree_iff`): sessions with twin engines come to the same, in
everything but the log, exactly if the same fragments fail at the same partial results.

They do in particular if the table has a word for every number that the engines come up with
(`Collaborators.Spells`).
-/

namespace LiveSpeech

set_option autoImplicit false

open LiveSpeech.Audio

variable {World World' : Type}

/-! ## Engines whose words are all known -/

/-- The table has words for all numbers that the engines put on their best paths. -/
def Collaborators.Spells (outside : Collaborators World) (symbols : SymbolTable) : Prop :=
  ∀ engine world path, (outside.bestPath engine world).1 = some path →
    ∃ words, symbols.render path.words = .ok words

section Spells

variable {outside : Collaborators World} {decoder : Decoder}

theorem bestTranscript_spelled (spells : outside.Spells decoder.symbols) :
    (bestTranscript outside decoder).Within (fun _ => True) (¬·.IsUnknownSymbol) where
  recorded _ _ _ := trivial
  failing world error failed := by
    exfalso
    simp only [bestTranscript, Action.ask_bind] at failed
    split at failed
    case isTrue => cases failed
    case isFalse =>
      simp only [Action.ask_bind, Outcome.after_answer] at failed
      cases best : (outside.bestPath decoder.engine
          (outside.framesDecoded decoder.engine world).2).1 with
      | none =>
        rw [best] at failed
        cases failed
      | some path =>
        obtain ⟨words, spelled⟩ := spells _ _ path best
        rw [best] at failed
        dsimp only at failed
        rw [spelled] at failed
        cases failed

theorem finalize_spelled (spells : outside.Spells decoder.symbols) :
    (finalize outside decoder).Within (fun _ => True) (¬·.IsUnknownSymbol) := by
  refine .bind (.bind (.ask fun _ => trivial) fun cost => ?_) fun _ =>
    .bind (.happen trivial) fun _ => .happen trivial
  split
  · exact bestTranscript_spelled spells
  · exact .bind (.happen trivial) fun _ => .done _

theorem noteWords_within (outside : Collaborators World) (decoder : Decoder) (words : String) :
    (noteWords outside decoder words).Within (fun _ => True) (¬·.IsUnknownSymbol) := by
  unfold noteWords
  split
  · exact .bind (.ask fun _ => trivial) fun _ => .happen trivial
  · exact .done ()

theorem decodeChunk_spelled (spells : outside.Spells decoder.symbols) (chunk : List Float32) :
    (decodeChunk outside decoder chunk).Within (fun _ => True) (¬·.IsUnknownSymbol) := by
  rw [decodeChunk_eq_reachOutput]
  refine .bind ((reachOutput_within outside decoder chunk).mono (fun _ _ => trivial) ?_)
    fun due => ?_
  · rintro _ ⟨cause, rfl⟩ ⟨_, other⟩
    cases other
  · split
    · exact .bind (bestTranscript_spelled spells).inCycle fun _ =>
        .bind (noteWords_within outside decoder _).inCycle fun _ => .change _
    · exact .done _

theorem decodeChunks_spelled (spells : outside.Spells decoder.symbols)
    (chunks : List (List Float32)) :
    (decodeChunks outside decoder chunks).Within (fun _ => True) (¬·.IsUnknownSymbol) := by
  induction chunks with
  | nil => exact .done _
  | cons chunk others ih =>
    refine .bind (decodeChunk_spelled spells chunk) fun _ => .bind .state fun cycle => ?_
    split
    · exact .bind (finalize_spelled spells).inCycle fun _ => .done _
    · exact .bind ih fun _ => .done _

end Spells

/-! ## Fragments -/

/-- How many chunks were decoded. -/
def Delivery.cycles : Delivery → Nat
  | .complete cycles | .ended cycles _ => cycles

/-- The session with what a delivery has left. -/
def Session.settle (session : Session) (resources : Resources) (last : Accumulator)
    (answer : Except SessionError Delivery) (timing : TimingGate) (flag : Bool) : Session :=
  match answer with
  | .error _ => session.keep resources last.drained timing flag
  | .ok (.complete _) => session.keep resources last timing flag
  | .ok (.ended ..) => (session.keep resources last.drained timing flag).close

/-- A delivery is its row of chunks, and notes what is dropped behind it. -/
theorem deliver_run (outside : Collaborators World) (resources : Resources)
    (chunks : List (List Float32)) (last : Accumulator) (stage : Stage World) :
    let row := Session.row outside resources chunks stage
    ∃ notices : List Notice, Session.deliver outside resources chunks last stage =
      ⟨row.answer.map Delivery.cycles,
        ⟨row.state.world, stage.session.settle resources last row.answer row.state.timing
          row.state.endpointDetected⟩, row.record ++ notices.map .note⟩ := by
  intro row
  cases answer : row.answer with
  | error error =>
    exact ⟨[], (deliver_of_error answer last).trans (by rw [List.map_nil, List.append_nil]; rfl)⟩
  | ok delivery =>
    cases delivery with
    | complete cycles =>
      exact ⟨[], (deliver_of_complete answer last).trans
        (by rw [List.map_nil, List.append_nil]; rfl)⟩
    | ended cycles left => exact deliver_of_ended answer last

theorem visibleOf_notices (notices : List Notice) : visibleOf (notices.map .note) = [] :=
  filter_notices (fun _ => rfl) notices

theorem visibleOf_deliver (outside : Collaborators World) (resources : Resources)
    (chunks : List (List Float32)) (last : Accumulator) (stage : Stage World) :
    visibleOf (Session.deliver outside resources chunks last stage).record =
      visibleOf (Session.row outside resources chunks stage).record := by
  obtain ⟨notices, ran⟩ := deliver_run outside resources chunks last stage
  rw [ran, visibleOf_append, visibleOf_notices, List.append_nil]

/-- Sessions that are the same, in worlds that are alike. -/
structure Stage.Alike (alike : World → World' → Prop) (stage : Stage World)
    (stage' : Stage World') : Prop where
  world : alike stage.world stage'.world
  session : stage.session = stage'.session

section Fragments

variable {outside : Collaborators World} {outside' : Collaborators World'}
  {alike : World → World' → Prop} {stage : Stage World} {stage' : Stage World'}

theorem deliver_agree_or_part (twins : Twins stage.session.config outside outside' alike)
    (stages : stage.Alike alike stage') (resources : Resources) (chunks : List (List Float32))
    (last : Accumulator) (lowered : stage.session.endpointDetected = false) :
    AgreeOrPart (Stage.Alike alike) (Session.deliver outside resources chunks last stage)
      (Session.deliver outside' resources chunks last stage') := by
  obtain ⟨world, session⟩ := stage
  obtain ⟨world', _⟩ := stage'
  obtain ⟨worlds, rfl⟩ := stages
  have rows : AgreeOrPart (Cycle.Alike alike)
      (Session.row outside resources chunks ⟨world, session⟩)
      (Session.row outside' resources chunks ⟨world', session⟩) :=
    decodeChunks_agree_or_part twins chunks ⟨worlds, rfl, rfl⟩ lowered
  have visible := visibleOf_deliver outside resources chunks last ⟨world, session⟩
  have visible' := visibleOf_deliver outside' resources chunks last ⟨world', session⟩
  obtain ⟨notices, ran⟩ := deliver_run outside resources chunks last ⟨world, session⟩
  obtain ⟨notices', ran'⟩ := deliver_run outside' resources chunks last ⟨world', session⟩
  refine rows.imp (fun agree => ⟨?_, ?_, ?_⟩) fun part => ?_
  · rw [ran, ran']
    exact congrArg (Except.map Delivery.cycles) agree.answer
  · rw [ran, ran']
    refine ⟨agree.state.world, ?_⟩
    rw [agree.answer, agree.state.timing, agree.state.endpointDetected]
  · exact (visible.trans agree.visible).trans visible'.symm
  · exact part.shown (congrArg Outcome.answer ran) visible (congrArg Outcome.answer ran') visible'

/-- **A fragment in two runs** comes to the same, or the runs part at a partial result. -/
theorem acceptAudio_agree_or_part (twins : Twins stage.session.config outside outside' alike)
    (stages : stage.Alike alike stage') (samples : List Float32) :
    AgreeOrPart (Stage.Alike alike) (Session.acceptAudio outside samples stage)
      (Session.acceptAudio outside' samples stage') := by
  by_cases takes : ∃ resources, stage.session.Takes resources
  · obtain ⟨resources, takes⟩ := takes
    rw [acceptAudio_of_takes outside takes, acceptAudio_of_takes outside' (stages.session ▸ takes)]
    exact deliver_agree_or_part twins stages _ _ _ takes.lowered
  · obtain ⟨world, session⟩ := stage
    obtain ⟨world', _⟩ := stage'
    obtain ⟨worlds, rfl⟩ := stages
    obtain ⟨answer, session', notices, _, ran⟩ :=
      acceptAudio_of_not_takes (not_exists.mp takes) samples
    rw [ran outside world, ran outside' world']
    exact .inl ⟨rfl, ⟨worlds, rfl⟩, rfl⟩

/-- A fragment that has no word for a number has failed in a row of chunks. -/
theorem row_of_unknown {samples : List Float32} {number : Nat}
    (failed : (Session.acceptAudio outside samples stage).answer =
      .error (.unknownSymbol number)) :
    ∃ resources, stage.session.Takes resources ∧
      (Session.row outside (resources.fed samples) (resources.chunks samples) stage).answer =
        .error (.unknownSymbol number) := by
  by_cases takes : ∃ resources, stage.session.Takes resources
  · obtain ⟨resources, takes⟩ := takes
    obtain ⟨notices, ran⟩ := deliver_run outside (resources.fed samples)
      (resources.chunks samples) (resources.rest samples) stage
    rw [acceptAudio_of_takes outside takes, ran] at failed
    exact ⟨resources, takes, eq_error_of_map failed⟩
  · obtain ⟨answer, session', notices, released, ran⟩ :=
      acceptAudio_of_not_takes (not_exists.mp takes) samples
    exact nomatch released _ ((congrArg Outcome.answer (ran outside stage.world)).symm.trans failed)

/-- A fragment that has no word for a number has failed at a partial result, or at a transcript
that was going to be delivered. -/
theorem acceptAudio_unknown {samples : List Float32} {number : Nat}
    (failed : (Session.acceptAudio outside samples stage).answer =
      .error (.unknownSymbol number)) :
    FailsAtPartial (Session.acceptAudio outside samples stage) number ∨
      AsksTranscript stage.session.config (Session.acceptAudio outside samples stage).record := by
  obtain ⟨resources, takes, row⟩ := row_of_unknown failed
  rw [acceptAudio_of_takes outside takes]
  obtain ⟨notices, ran⟩ := deliver_run outside (resources.fed samples)
    (resources.chunks samples) (resources.rest samples) stage
  have visible := visibleOf_deliver outside (resources.fed samples) (resources.chunks samples)
    (resources.rest samples) stage
  refine (decodeChunks_unknown (resources.chunks samples) takes.lowered row).imp
    (·.shown (congrArg Outcome.answer ran) visible) fun asks => ⟨?_, ?_⟩
  · rw [ran]
    exact (endReported_append ..).mpr (.inl asks.reported)
  · rw [visible]
    exact asks.asked

/-- A fragment that is spelled throughout has a word for every number. -/
theorem acceptAudio_spelled (spells : outside.Spells stage.session.symbols)
    (samples : List Float32) (number : Nat) :
    (Session.acceptAudio outside samples stage).answer ≠ .error (.unknownSymbol number) := by
  intro failed
  obtain ⟨resources, _, row⟩ := row_of_unknown failed
  exact (decodeChunks_spelled spells _).failing _ _ row ⟨number, rfl⟩

end Fragments

/-! ## Runs of fragments -/

/-- What is seen of a fragment, the log apart: the answer, the session that is left, and the
calls and messages. -/
structure AudioView where
  answer : Except SessionError Nat
  session : Session
  visible : List Event

def viewOf (outcome : Outcome (Stage World) SessionError Nat) : AudioView where
  answer := outcome.answer
  session := outcome.state.session
  visible := visibleOf outcome.record

/-- The partial result at which a fragment failed, if it did: how many calls and messages there
were before, and which number has no word.  A transcript comes behind the question for its cost; so
who has no word for a number, and has not just asked for the cost, has failed at a partial
result. -/
def AudioView.stop (view : AudioView) : Option (Nat × Nat) :=
  match view.answer, view.visible.getLast? with
  | .error (.unknownSymbol number), some event =>
    if event.isCost then none else some (view.visible.length, number)
  | _, _ => none

theorem AudioView.of_stop {view : AudioView} {length number : Nat}
    (stops : view.stop = some (length, number)) :
    view.answer = .error (.unknownSymbol number) ∧ length = view.visible.length := by
  unfold AudioView.stop at stops
  split at stops
  case h_1 failed _ =>
    split at stops
    · cases stops
    · cases stops
      exact ⟨failed, rfl⟩
  case h_2 => cases stops

theorem AudioView.stop_eq_none {view : AudioView}
    (known : ∀ number, view.answer ≠ .error (.unknownSymbol number)) : view.stop = none := by
  unfold AudioView.stop
  split
  · exact absurd ‹_› (known _)
  · rfl

theorem FailsAtPartial.stop_eq {run : Outcome (Stage World) SessionError Nat} {number : Nat}
    (fails : FailsAtPartial run number) :
    (viewOf run).stop = some ((viewOf run).visible.length, number) := by
  obtain ⟨before, last, visible, other⟩ := fails.early
  have final : (viewOf run).visible.getLast? = some last := by
    rw [viewOf, visible, List.getLast?_concat]
  have failed : (viewOf run).answer = .error (.unknownSymbol number) := fails.failed
  simp only [AudioView.stop, final, failed, other, Bool.false_eq_true, if_false]

/-- Who has just asked for the cost of a transcript has not failed at a partial result. -/
theorem AsksTranscript.stop_eq {config : Config} {run : Outcome (Stage World) SessionError Nat}
    (asks : AsksTranscript config run.record) : (viewOf run).stop = none := by
  obtain ⟨before, engine, cost, _, visible⟩ := asks.asked
  have final : (viewOf run).visible.getLast? = some (.call (.finalRelativeCost engine cost)) := by
    rw [viewOf, visible, List.getLast?_concat]
  unfold AudioView.stop
  rw [final]
  split
  case h_1 last =>
    cases last
    rfl
  case h_2 => rfl

/-- A run that goes on where another one has stopped does not fail there. -/
theorem GoesOn.stop_ne {run : Outcome (Stage World) SessionError Nat} {stopped : List Event}
    (goesOn : GoesOn run stopped) (number : Nat) :
    (viewOf run).stop ≠ some (stopped.length, number) := by
  intro stops
  obtain ⟨more, visible, succeeds⟩ := goesOn
  obtain ⟨failed, length⟩ := AudioView.of_stop stops
  have nothing : more = [] := by
    simpa [viewOf, visible] using length
  obtain ⟨cycles, succeeded⟩ := succeeds nothing
  exact nomatch failed.symm.trans succeeded

/-- Runs that part at a partial result do not fail at the same. -/
theorem Part.stop_ne {run : Outcome (Stage World) SessionError Nat}
    {run' : Outcome (Stage World') SessionError Nat} (part : Part run run') :
    (viewOf run).stop ≠ (viewOf run').stop := by
  intro same
  cases part with
  | first number fails goesOn => exact goesOn.stop_ne number (same.symm.trans fails.stop_eq)
  | second number fails goesOn => exact goesOn.stop_ne number (same.trans fails.stop_eq)
  | both number number' differ fails fails' _ =>
    rw [fails.stop_eq, fails'.stop_eq] at same
    exact differ (Prod.mk.inj (Option.some.inj same)).2

section Runs

variable {outside : Collaborators World} {outside' : Collaborators World'}
  {alike : World → World' → Prop}

/-- Runs that fail at the same partial results come to the same. -/
theorem views_eq_of_stops_eq (fragments : List (List Float32)) {stage : Stage World}
    {stage' : Stage World'} (twins : Twins stage.session.config outside outside' alike)
    (stages : stage.Alike alike stage')
    (stops : (turns (Session.acceptAudio outside) stage fragments).map
        (fun turn => (viewOf turn.outcome).stop) =
      (turns (Session.acceptAudio outside') stage' fragments).map
        fun turn => (viewOf turn.outcome).stop) :
    (turns (Session.acceptAudio outside) stage fragments).map (fun turn => viewOf turn.outcome) =
      (turns (Session.acceptAudio outside') stage' fragments).map
        fun turn => viewOf turn.outcome := by
  induction fragments generalizing stage stage' with
  | nil => rfl
  | cons samples others ih =>
    simp only [turns, List.map_cons, List.cons.injEq] at stops ⊢
    rcases acceptAudio_agree_or_part twins stages samples with agree | part
    · refine ⟨?_, ih ?_ agree.state stops.2⟩
      · simp only [viewOf, agree.answer, agree.state.session, agree.visible]
      · -- Twins stay twins, because audio leaves the configuration alone.
        rwa [(acceptAudio_step outside samples stage).config_eq]
    · exact absurd stops.1 part.stop_ne

/-- Engines whose words are all known fail at no partial result. -/
theorem stops_of_spells (fragments : List (List Float32)) {stage : Stage World}
    (spells : outside.Spells stage.session.symbols) :
    (turns (Session.acceptAudio outside) stage fragments).map
        (fun turn => (viewOf turn.outcome).stop) = fragments.map fun _ => none := by
  induction fragments generalizing stage with
  | nil => rfl
  | cons samples others ih =>
    simp only [turns, List.map_cons, List.cons.injEq]
    refine ⟨?_, ih ?_⟩
    · refine AudioView.stop_eq_none fun number => ?_
      exact acceptAudio_spelled spells samples number
    · rwa [(acceptAudio_step outside samples stage).symbols_eq]

end Runs

/-- Asking a scripted engine for the cost changes nothing. -/
theorem Rehearsal.Script.cost_world (script : Rehearsal.Script) (engine : Engine)
    (world : Rehearsal.World) :
    (script.collaborators.finalRelativeCost engine world).2 = world := by
  simp only [Rehearsal.Script.collaborators]
  split <;> rfl

/-- A transcript is delivered only after as many frames as the end of the utterance takes. -/
theorem le_frames_of_delivers {limit : Nat} {words : List Nat} {config : Config} {engine : Engine}
    {world : Rehearsal.World}
    (delivers : (Rehearsal.smallScript (some limit) words).collaborators.Delivers config engine
      world) : limit ≤ (world.hearing engine).frames := by
  obtain ⟨before, reported, _, rfl⟩ := delivers
  rw [Rehearsal.Script.cost_world, Collaborators.afterNote]
  have debugging : (Rehearsal.smallScript (some limit) words).collaborators.debugging = true := rfl
  rw [if_pos debugging, Rehearsal.Script.cost_world]
  have unmoved (after : Rehearsal.World) :
      (Rehearsal.smallScript (some limit) words).collaborators.afterPartial engine after =
        after := by
    unfold Collaborators.afterPartial
    dsimp only
    split <;> rfl
  rw [unmoved]
  exact of_decide_eq_true reported

/-- **Partial results matter only where they cannot be spelled.**  Sessions with twin engines come
to the same, in everything but the log, exactly if the same fragments fail at the same partial
results; they do if all words are known.  A fragment that has no word for a number has failed at
a partial result, unless a transcript was going to be delivered. -/
theorem partial_results_agree_iff (outside : Collaborators World)
    (outside' : Collaborators World') (alike : World → World' → Prop) (stage : Stage World)
    (stage' : Stage World') (twins : Twins stage.session.config outside outside' alike)
    (stages : stage.Alike alike stage') (fragments : List (List Float32)) :
    let run := turns (Session.acceptAudio outside) stage fragments
    let run' := turns (Session.acceptAudio outside') stage' fragments
    (run.map (fun turn => viewOf turn.outcome) = run'.map (fun turn => viewOf turn.outcome) ↔
        run.map (fun turn => (viewOf turn.outcome).stop) =
          run'.map fun turn => (viewOf turn.outcome).stop) ∧
      (outside.Spells stage.session.symbols → outside'.Spells stage.session.symbols →
        run.map (fun turn => viewOf turn.outcome) = run'.map fun turn => viewOf turn.outcome) ∧
      ∀ turn ∈ run, ∀ number, turn.outcome.answer = .error (.unknownSymbol number) →
        ((viewOf turn.outcome).stop.isSome = true ↔
          ¬AsksTranscript stage.session.config turn.outcome.record) := by
  intro run run'
  refine ⟨⟨fun views => ?_, views_eq_of_stops_eq fragments twins stages⟩,
    fun spells spells' => ?_, fun turn member number failed => ?_⟩
  · have stops := congrArg (List.map AudioView.stop) views
    rwa [List.map_map, List.map_map] at stops
  · rw [stages.session] at spells'
    refine views_eq_of_stops_eq fragments twins stages ?_
    exact (stops_of_spells fragments spells).trans (stops_of_spells fragments spells').symm
  · have kept (samples : List Float32) (earlier : Stage World)
        (same : earlier.session.config = stage.session.config) :
        (Session.acceptAudio outside samples earlier).state.session.config =
          stage.session.config :=
      (acceptAudio_step outside samples earlier).config_eq.trans same
    rw [outcome_of_mem_turns member] at failed ⊢
    rw [← turns_invariant kept rfl member]
    rcases acceptAudio_unknown failed with fails | asks
    · have stops := fails.stop_eq
      refine iff_of_true (by rw [stops]; rfl) fun asks => ?_
      exact Option.some_ne_none _ (stops.symm.trans asks.stop_eq)
    · exact iff_of_false (by rw [asks.stop_eq]; exact Bool.false_ne_true) (not_not_intro asks)

/-- An engine that has understood nothing until the utterance ends is a twin of one that has
understood `one` all along. -/
theorem partial_results_agree_small :
    let outside := (Rehearsal.smallScript (some 3) [1]).collaborators
    let outside' : Collaborators Rehearsal.World := { outside with
      bestPath := fun engine world =>
        (if (world.hearing engine).frames < 3 then none else some ⟨[1], 1.0⟩, world) }
    let stage := Rehearsal.smallStage 1.0
    let run := turns (Session.acceptAudio outside) stage [[0.0], [0.0, 0.0]]
    let run' := turns (Session.acceptAudio outside') stage [[0.0], [0.0, 0.0]]
    Twins stage.session.config outside outside' Eq ∧ stage.Alike Eq stage ∧
      run.map (fun turn => viewOf turn.outcome) = run'.map (fun turn => viewOf turn.outcome) ∧
      run.flatMap (fun turn => messagesOf turn.outcome.record) = [.transcript "one"] := by
  intro outside outside' stage run run'
  have twins : Twins stage.session.config outside outside' Eq := by
    refine twins_of_bestPath (fun _ _ => rfl) (fun _ _ => rfl) fun engine world delivers => ?_
    have heard := le_frames_of_delivers delivers
    rw [if_neg (Nat.not_lt.mpr heard)]
    rfl
  have stages : stage.Alike Eq stage := ⟨rfl, rfl⟩
  refine ⟨twins, stages, ?_, by decide +kernel⟩
  refine (partial_results_agree_iff outside outside' Eq stage stage twins stages _).1.mpr ?_
  decide +kernel

/-- A partial result that has no word for a number fails a fragment whose utterance has not ended,
and with another word the fragment is decoded. -/
theorem partial_result_fails :
    let outside := (Rehearsal.smallScript none [1]).collaborators
    let outside' : Collaborators Rehearsal.World := { outside with
      bestPath := fun _ world => (some ⟨[7], 1.0⟩, world) }
    let stage := Rehearsal.smallStage 1.0
    let run := Session.acceptAudio outside [0.0, 0.0] stage
    let run' := Session.acceptAudio outside' [0.0, 0.0] stage
    Twins stage.session.config outside outside' Eq ∧ run.answer = .ok 2 ∧
      run'.answer = .error (.unknownSymbol 7) ∧ ¬EndReported run'.record := by
  intro outside outside' stage run run'
  refine ⟨twins_of_bestPath (fun _ _ => rfl) (fun _ _ => rfl) ?_, ?_, ?_, ?_⟩
  · rintro engine world ⟨before, reported, _⟩
    cases reported
  · exact eq_ok_of_toOption (by decide +kernel)
  · have stops : (viewOf run').stop = some (9, 7) := by decide +kernel
    exact (AudioView.of_stop stops).1
  · show ¬∃ event ∈ run'.record, event.reportsEnd = true
    decide +kernel

end LiveSpeech
