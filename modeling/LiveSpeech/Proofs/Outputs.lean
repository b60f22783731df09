import LiveSpeech.Proofs.Beats
import LiveSpeech.Proofs.Representation

/-!
# The outputs of a session

A session that is not made to start over and fails at no request goes through prompt beats of its
gate, one for each cycle, each as long as a chunk (`Tells`).  Its record tells of them: there is an
accepted chunk for each beat, and for each output that a beat takes the words so far are asked for,
and the end of the utterance if the session is to look for it.  Words are asked for in one other
place, for a transcript that is certain enough.  Whether partial results are noted is up to the log.
Starts, the ends of utterances and what is dropped behind them are no beats.

So the number of outputs since a session was built depends on nothing but the number of its
cycles, the size of a chunk and the tick (`output_cadence`): it is the formula `outputsBy`.  The
same theorem says what a gate does along any fair beats.  That its mark stays within a tick of the
samples asks for prompt beats: a fair beat may pass an output over, and then the mark falls behind
(`fair_beats_fall_behind`).
-/

namespace LiveSpeech

set_option autoImplicit false

open LiveSpeech.Audio

variable {World : Type}

/-! ## What is counted in a record -/

/-- Whether a partial result is noted. -/
def Event.isPartial : Event → Bool
  | .note (.partialResult _ _) => true
  | _ => false

/-- Whether an engine is asked for the end of the utterance. -/
def Event.asksEnd : Event → Bool
  | .call (.endpointDetected _ _ _) => true
  | _ => false

/-- Whether an engine is asked for what it has understood, which starts with whether there is
anything. -/
def Event.asksWords : Event → Bool
  | .call (.framesDecoded _ _) => true
  | _ => false

/-- Whether a transcript is left empty for its cost. -/
def Event.isUncertain : Event → Bool
  | .note (.uncertain _ _) => true
  | _ => false

def Event.isTranscript : Event → Bool
  | .send (.transcript _) => true
  | _ => false

/-- How many partial results are noted. -/
def partialsIn (record : List Event) : Nat := record.countP Event.isPartial

/-- How often engines were asked for the end of the utterance. -/
def asksIn (record : List Event) : Nat := record.countP Event.asksEnd

/-- How often engines were asked for what they have understood. -/
def wordsIn (record : List Event) : Nat := record.countP Event.asksWords

def uncertainIn (record : List Event) : Nat := record.countP Event.isUncertain

def transcriptsIn (record : List Event) : Nat := record.countP Event.isTranscript

/-- How many transcripts are not left empty for their cost. -/
def certainIn (record : List Event) : Nat := transcriptsIn record - uncertainIn record

/-- An event that counts for nothing here. -/
structure Event.Uncounted (event : Event) : Prop where
  accepted : event.isAccepted = false := by rfl
  partials : event.isPartial = false := by rfl
  asks : event.asksEnd = false := by rfl
  words : event.asksWords = false := by rfl
  uncertain : event.isUncertain = false := by rfl
  transcript : event.isTranscript = false := by rfl

/-- A record tells of so many accepted chunks, so many outputs and so many questions for the end.
Every question for words is due to an output or to a transcript that is not left empty. -/
structure Reports (debugging : Bool) (accepted outputs asks : Nat) (record : List Event) :
    Prop where
  accepted : acceptedIn record = accepted
  partials : partialsIn record = if debugging then outputs else 0
  asks : asksIn record = asks
  words : wordsIn record + uncertainIn record = outputs + transcriptsIn record
  uncertain : uncertainIn record ≤ transcriptsIn record

theorem Reports.append {debugging : Bool} {accepted accepted' outputs outputs' asks asks' : Nat}
    {first second : List Event} (before : Reports debugging accepted outputs asks first)
    (after : Reports debugging accepted' outputs' asks' second) :
    Reports debugging (accepted + accepted') (outputs + outputs') (asks + asks')
      (first ++ second) := by
  obtain ⟨accepted₁, partials₁, asks₁, words₁, uncertain₁⟩ := before
  obtain ⟨accepted₂, partials₂, asks₂, words₂, uncertain₂⟩ := after
  unfold acceptedIn partialsIn asksIn wordsIn uncertainIn transcriptsIn at *
  constructor <;> simp only [acceptedIn, partialsIn, asksIn, wordsIn, uncertainIn, transcriptsIn,
    List.countP_append]
  · omega
  · rw [partials₁, partials₂]
    cases debugging <;> rfl
  · omega
  · omega
  · omega

/-- A record without outputs. -/
theorem reports_unnoted {debugging : Bool} {accepted asks : Nat} {record : List Event}
    (chunks : acceptedIn record = accepted) (partials : partialsIn record = 0)
    (questions : asksIn record = asks)
    (words : wordsIn record + uncertainIn record = transcriptsIn record)
    (uncertain : uncertainIn record ≤ transcriptsIn record) :
    Reports debugging accepted 0 asks record :=
  ⟨chunks, by rw [partials, ite_self], questions, words.trans (Nat.zero_add _).symm, uncertain⟩

/-- The words are asked for with every output, and with every transcript that is certain enough. -/
theorem Reports.wordsIn_eq {debugging : Bool} {accepted outputs asks : Nat} {record : List Event}
    (reports : Reports debugging accepted outputs asks record) :
    wordsIn record = outputs + certainIn record := by
  obtain ⟨_, _, _, words, uncertain⟩ := reports
  unfold certainIn
  omega

/-- A record of uncounted events. -/
theorem reports_uncounted {debugging : Bool} {record : List Event}
    (uncounted : ∀ event ∈ record, event.Uncounted) : Reports debugging 0 0 0 record := by
  have none {counts : Event → Bool} (apart : ∀ event : Event, event.Uncounted →
      counts event = false) : record.countP counts = 0 :=
    List.countP_eq_zero.mpr fun event member => by simp [apart event (uncounted event member)]
  have words : wordsIn record = 0 := none fun _ => (·.words)
  have uncertain : uncertainIn record = 0 := none fun _ => (·.uncertain)
  have transcripts : transcriptsIn record = 0 := none fun _ => (·.transcript)
  refine reports_unnoted (none fun _ => (·.accepted)) (none fun _ => (·.partials))
    (none fun _ => (·.asks)) ?_ ?_
  · rw [words, uncertain, transcripts]
  · rw [uncertain, transcripts]

/-- Uncounted events may stand anywhere. -/
theorem Reports.around {debugging : Bool} {accepted outputs asks : Nat}
    {first middle last : List Event} (uncounted : ∀ event ∈ middle, event.Uncounted)
    (reports : Reports debugging accepted outputs asks (first ++ last)) :
    Reports debugging accepted outputs asks (first ++ (middle ++ last)) := by
  obtain ⟨accepted₁, partials₁, asks₁, words₁, uncertain₁⟩ := reports
  obtain ⟨accepted₂, partials₂, asks₂, words₂, uncertain₂⟩ :=
    @reports_uncounted debugging middle uncounted
  unfold acceptedIn partialsIn asksIn wordsIn uncertainIn transcriptsIn at *
  rw [List.countP_append] at *
  constructor <;> simp only [acceptedIn, partialsIn, asksIn, wordsIn, uncertainIn, transcriptsIn,
    List.countP_append] at *
  · omega
  · rw [partials₂, ← partials₁]
    cases debugging <;> simp
  · omega
  · omega
  · omega

/-- Uncounted events may come before. -/
theorem Reports.behind {debugging : Bool} {accepted outputs asks : Nat}
    {first second : List Event} (uncounted : ∀ event ∈ first, event.Uncounted)
    (reports : Reports debugging accepted outputs asks second) :
    Reports debugging accepted outputs asks (first ++ second) :=
  @Reports.around _ _ _ _ [] first second uncounted reports

theorem ignoredNotices_uncounted (count : Nat) :
    ∀ event ∈ (ignoredNotices count).map Event.note, event.Uncounted := by
  unfold ignoredNotices
  split
  · exact List.forall_mem_nil _
  · exact List.forall_mem_singleton.mpr {}

/-! ## What counts for nothing -/

/-- What an action leaves counts for nothing, however it ends. -/
abbrev Action.Idle {State Failed Answer : Type} (action : Action State Failed Answer) : Prop :=
  action.Within Event.Uncounted fun _ => True

/-- To ask for words is to ask whether there are any, and what follows counts for nothing. -/
theorem bestTranscript_asks (outside : Collaborators World) (decoder : Decoder) (world : World) :
    ∃ frames rest, (bestTranscript outside decoder world).record =
        .call (.framesDecoded decoder.engine frames) :: rest ∧
      ∀ event ∈ rest, event.Uncounted := by
  refine ⟨_, _, congrArg Outcome.record (Action.ask_bind _ _ _ world), ?_⟩
  refine (?_ : Action.Idle _).recorded _
  split
  · exact .bind (.happen {}) fun _ => .done _
  · refine .bind (.ask fun _ => {}) fun best => ?_
    split
    · exact .bind (.happen {}) fun _ => .done _
    · exact .bind (.happen {}) fun _ => .ofExcept (fun _ => trivial) _

theorem reweighSilence_idle (outside : Collaborators World) (engine : Engine) :
    (reweighSilence outside engine).Idle := by
  refine .bind (.ask fun _ => {}) fun weighting => ?_
  split
  · refine .bind (.ask fun _ => {}) fun adaptive => ?_
    split
    · exact .bind (.tell {}) fun _ => .bind (.ask fun _ => {}) fun _ => .tell {}
    · exact .done _
  · exact .done _

theorem search_idle (outside : Collaborators World) (decoder : Decoder) (gate : TimingGate) :
    (search outside decoder gate).Idle :=
  .bind (.tell {}) fun _ =>
    .bind (reweighSilence_idle outside decoder.engine) fun _ =>
      .bind (.ask fun _ => {}) fun _ => .ofExcept (fun _ => trivial) _

/-- An action that answers did so in both of its parts. -/
theorem Action.bind_answered {State Failed Answer Next : Type}
    {first : Action State Failed Answer} {next : Answer → Action State Failed Next}
    {state : State} {answer : Next} (answered : ((first >>= next) state).answer = .ok answer) :
    ∃ middle, (first state).answer = .ok middle ∧
      (next middle (first state).state).answer = .ok answer ∧
      (first >>= next) state = (next middle (first state).state).after (first state).record := by
  rcases bind_cases first next state with ⟨failure, _, run⟩ | ⟨middle, went, run⟩
  · rw [run] at answered
    cases answered
  · rw [run] at answered
    exact ⟨middle, went, answered, run⟩

/-- When an utterance ends the words are asked for, or the transcript is left empty for its cost. -/
theorem finalize_reports {outside : Collaborators World} {decoder : Decoder} {world : World}
    (debugging : Bool) (answered : (finalize outside decoder world).answer = .ok ()) :
    Reports debugging 0 0 0 (finalize outside decoder world).record := by
  obtain ⟨transcript, spelled, -, ran⟩ := Action.bind_answered answered
  have cost : finalTranscript outside decoder world = _ := Action.ask_bind _ _ _ world
  rw [show finalize outside decoder world = _ from ran, cost]
  split
  case isTrue cheap =>
    obtain ⟨frames, rest, asked, uncounted⟩ := bestTranscript_asks outside decoder
      (outside.finalRelativeCost decoder.engine world).2
    rw [Outcome.after_record, Outcome.after_record, asked]
    refine @Reports.around _ _ _ _ [_, .call (.framesDecoded decoder.engine frames)] rest
      [.note (.endpoint transcript), .send (.transcript transcript)] uncounted ?_
    exact reports_unnoted rfl rfl rfl rfl (Nat.zero_le _)
  case isFalse => exact reports_unnoted rfl rfl rfl rfl (Nat.le_refl _)

/-! ## Cycles are prompt beats -/

/-- How often the end of the utterance is asked for, for so many outputs. -/
def Config.asksFor (config : Config) (outputs : Nat) : Nat :=
  if config.doEndpointing then outputs else 0

theorem Config.asksFor_add (config : Config) (first second : Nat) :
    config.asksFor (first + second) = config.asksFor first + config.asksFor second := by
  unfold Config.asksFor
  split <;> rfl

/-- From the counts `timing` to the counts `timing'` there were prompt beats of one size, and the
record tells of them. -/
structure Tells (debugging : Bool) (config : Config) (size : Nat) (timing timing' : TimingGate)
    (record : List Event) (beats : List Beat) : Prop where
  moved : timing' = timing.beats beats
  prompt : TimingGate.Keeps TimingGate.Prompt timing beats
  sizes : ∀ beat ∈ beats, beat.samples = size
  reports : Reports debugging beats.length (takenIn beats) (config.asksFor (takenIn beats)) record

namespace Tells

variable {debugging : Bool} {config : Config} {size : Nat} {timing timing' timing'' : TimingGate}
  {record more : List Event}

/-- Where nothing counts there is no beat. -/
theorem idle (config : Config) (size : Nat) (timing : TimingGate)
    (uncounted : ∀ event ∈ record, event.Uncounted) :
    Tells debugging config size timing timing record [] where
  moved := rfl
  prompt := trivial
  sizes := List.forall_mem_nil _
  reports := by
    have none : config.asksFor 0 = 0 := by simp [Config.asksFor]
    rw [show takenIn [] = 0 from rfl, none]
    exact reports_uncounted uncounted

theorem append {beats beats' : List Beat}
    (before : Tells debugging config size timing timing' record beats)
    (after : Tells debugging config size timing' timing'' more beats') :
    Tells debugging config size timing timing'' (record ++ more) (beats ++ beats') where
  moved := by rw [TimingGate.beats_append, ← before.moved, after.moved]
  prompt := (timing.keeps_append beats beats').mpr ⟨before.prompt, before.moved ▸ after.prompt⟩
  sizes := List.forall_mem_append.mpr ⟨before.sizes, after.sizes⟩
  reports := by
    rw [List.length_append, takenIn_append, Config.asksFor_add]
    exact before.reports.append after.reports

/-- An utterance may end behind the beats. -/
theorem ending {beats : List Beat}
    (before : Tells debugging config size timing timing' record beats)
    (after : Reports debugging 0 0 0 more) :
    Tells debugging config size timing timing' (record ++ more) beats where
  moved := before.moved
  prompt := before.prompt
  sizes := before.sizes
  reports := by simpa using before.reports.append after

end Tells

/-- A partial result is noted if the log takes it. -/
theorem noteWords_reports (outside : Collaborators World) (decoder : Decoder) (words : String)
    (world : World) (frames : Nat) :
    Reports outside.debugging 0 1 0 (.call (.framesDecoded decoder.engine frames) ::
      (noteWords outside decoder words world).record) := by
  unfold noteWords
  cases outside.debugging with
  | false => exact ⟨rfl, rfl, rfl, rfl, Nat.le_refl _⟩
  | true => exact ⟨rfl, rfl, rfl, rfl, Nat.le_refl _⟩

/-- An output for which there are words counts, and the mark of the last output moves. -/
theorem notePartial_reports {outside : Collaborators World} {decoder : Decoder}
    {cycle : Cycle World} (answered : (notePartial outside decoder cycle).answer = .ok ()) :
    let run := notePartial outside decoder cycle
    run.state.timing = cycle.timing.advanceOutput ∧
      Reports outside.debugging 0 1 0 run.record := by
  obtain ⟨words, _, noted, ran⟩ := Action.bind_answered answered
  obtain ⟨_, _, _, ran'⟩ := Action.bind_answered noted
  intro run
  obtain ⟨frames, rest, asked, uncounted⟩ := bestTranscript_asks outside decoder cycle.world
  let spelled := (bestTranscript outside decoder cycle.world).state
  have noting := noteWords_reports outside decoder words spelled frames
  have record : run.record = [.call (.framesDecoded decoder.engine frames)] ++
      (rest ++ (noteWords outside decoder words spelled).record) := by
    rw [show run = _ from ran, ran']
    simp only [Outcome.after_record, Cycle.outside, Action.onPart, asked, Action.change,
      List.append_nil, List.cons_append, List.nil_append, spelled]
  rw [record]
  refine ⟨?_, .around uncounted noting⟩
  rw [show run = _ from ran, ran']
  rfl

/-- An output that is looked at counts once, and so does the question for the end if it is
asked. -/
theorem lookAtOutput_reports {outside : Collaborators World} {decoder : Decoder}
    {cycle : Cycle World} (answered : (lookAtOutput outside decoder cycle).answer = .ok ()) :
    let run := lookAtOutput outside decoder cycle
    run.state.timing = cycle.timing.advanceOutput ∧
      Reports outside.debugging 0 1 (decoder.config.asksFor 1) run.record := by
  rw [lookAtOutput_eq] at answered ⊢
  unfold Config.asksFor
  split at answered
  case isTrue wanted =>
    rw [if_pos wanted, if_pos wanted]
    obtain ⟨moved, reports⟩ := notePartial_reports answered
    have asked (ended : Bool) : Reports outside.debugging 0 0 1 [decoder.looked ended] :=
      reports_unnoted rfl rfl rfl rfl (Nat.zero_le _)
    exact ⟨moved, (asked _).append reports⟩
  case isFalse unwanted =>
    rw [if_neg unwanted, if_neg unwanted]
    exact notePartial_reports answered

/-- When a chunk has been counted, an output is looked at exactly if one is due. -/
theorem searchAndLook_reports {outside : Collaborators World} {decoder : Decoder}
    {cycle : Cycle World}
    (answered : (searchAndLook outside decoder cycle.timing cycle).answer = .ok ()) :
    let run := searchAndLook outside decoder cycle.timing cycle
    let outputs := cycle.timing.outputDue.toNat
    run.state.timing =
        (if cycle.timing.outputDue then cycle.timing.advanceOutput else cycle.timing) ∧
      Reports outside.debugging 0 outputs (decoder.config.asksFor outputs) run.record := by
  obtain ⟨_, _, looked, ran⟩ := Action.bind_answered answered
  intro run outputs
  have searching := (search_idle outside decoder cycle.timing).inCycle.recorded cycle
  rw [show run = _ from ran]
  cases due : cycle.timing.outputDue with
  | false =>
    rw [due] at looked
    have none : decoder.config.asksFor 0 = 0 := by simp [Config.asksFor]
    simp only [outputs, due, Bool.toNat_false, none]
    exact ⟨rfl, .behind searching (reports_unnoted rfl rfl rfl rfl (Nat.zero_le _))⟩
  | true =>
    rw [due] at looked
    obtain ⟨moved, reports⟩ := lookAtOutput_reports looked
    simp only [outputs, due, Bool.toNat_true]
    exact ⟨moved, .behind searching reports⟩

/-- **A cycle that does not fail is a prompt beat of its gate.** -/
theorem decodeChunk_tells {outside : Collaborators World} {decoder : Decoder}
    {chunk : List Float32} {cycle : Cycle World}
    (answered : (decodeChunk outside decoder chunk cycle).answer = .ok ()) :
    let run := decodeChunk outside decoder chunk cycle
    ∃ beat, Tells outside.debugging decoder.config chunk.length cycle.timing run.state.timing
      run.record [beat] := by
  rw [decodeChunk_eq] at answered ⊢
  obtain ⟨_, passed, searched, ran⟩ := Action.bind_answered answered
  intro run
  rw [show run = _ from ran]
  -- The chunk was accepted, since the cycle does not fail.
  have accepted : Reports outside.debugging 1 0 0
      (Cycle.outside (passChunk outside decoder chunk) cycle).record := by
    simp only [Cycle.outside, Action.onPart, passChunk_run] at passed ⊢
    cases reply : (outside.acceptWaveform decoder.engine decoder.nativeRate chunk
        cycle.world).1 with
    | error cause =>
      rw [reply] at passed
      cases passed
    | ok _ => exact reports_unnoted rfl rfl rfl rfl (Nat.zero_le _)
  rw [Action.change_bind, Action.state_bind] at searched ⊢
  obtain ⟨moved, reports⟩ := searchAndLook_reports searched
  refine ⟨⟨chunk.length, (cycle.timing.consume chunk.length).outputDue⟩, moved, ⟨rfl, trivial⟩,
    List.forall_mem_singleton.mpr rfl, ?_⟩
  rw [takenIn_singleton]
  have whole := accepted.append reports
  rw [Nat.zero_add, Nat.zero_add] at whole
  exact whole

/-- **A row of chunks of one size that does not fail is a row of prompt beats.** -/
theorem decodeChunks_tells {outside : Collaborators World} {decoder : Decoder} {size : Nat}
    {chunks : List (List Float32)} (sizes : ∀ chunk ∈ chunks, chunk.length = size)
    {cycle : Cycle World} {delivery : Delivery}
    (answered : (decodeChunks outside decoder chunks cycle).answer = .ok delivery) :
    let run := decodeChunks outside decoder chunks cycle
    ∃ beats, Tells outside.debugging decoder.config size cycle.timing run.state.timing run.record
      beats := by
  induction chunks generalizing cycle delivery with
  | nil => exact ⟨[], .idle _ _ _ (List.forall_mem_nil _)⟩
  | cons chunk others ih =>
    obtain ⟨_, decoded, went, ran⟩ := Action.bind_answered answered
    intro run
    rw [show run = _ from ran]
    obtain ⟨beat, tells⟩ := decodeChunk_tells decoded
    rw [sizes chunk (List.mem_cons_self ..)] at tells
    generalize decodeChunk outside decoder chunk cycle = first at went tells
    rw [Action.state_bind] at went ⊢
    split
    case isTrue ended =>
      rw [Action.bind_pure_run]
      rw [if_pos ended] at went
      obtain ⟨_, finalized, _, _⟩ := Action.bind_answered went
      have ending : (finalize outside decoder first.state.world).answer = .ok () := finalized
      exact ⟨_, tells.ending (finalize_reports outside.debugging ending)⟩
    case isFalse goesOn =>
      rw [if_neg goesOn] at went
      rw [Action.bind_pure_run]
      obtain ⟨_, rest, _, _⟩ := Action.bind_answered went
      obtain ⟨beats, tells'⟩ :=
        ih (fun chunk member => sizes chunk (List.mem_cons_of_mem _ member)) rest
      exact ⟨_, tells.append tells'⟩

/-! ## Requests -/

/-- The session works with chunks of one size, and with these counts. -/
structure Session.Works (session : Session) (config : Config) (size : Nat) (timing : TimingGate) :
    Prop where
  config_eq : session.config = config
  held : ∃ resources, session.resources = some resources ∧
    resources.accumulator.capacity = size ∧ resources.timing = timing

section Requests

variable {outside : Collaborators World} {config : Config} {size : Nat} {timing : TimingGate}

/-- A fragment of audio that is taken without a failure is a row of prompt beats. -/
theorem acceptAudio_tells {stage : Stage World} (works : stage.session.Works config size timing)
    {samples : List Float32} {cycles : Nat}
    (answered : (Session.acceptAudio outside samples stage).answer = .ok cycles) :
    let run := Session.acceptAudio outside samples stage
    ∃ timing' beats, run.state.session.Works config size timing' ∧
      Tells outside.debugging config size timing timing' run.record beats := by
  obtain ⟨rfl, resources, held, rfl, rfl⟩ := works
  have capacity := Accumulator.cut_capacity resources.accumulator (resources.frames samples)
  cases enabled : stage.session.enabled with
  | false =>
    rw [acceptAudio_of_disabled outside enabled]
    exact ⟨_, [], ⟨rfl, resources, held, rfl, rfl⟩, .idle _ _ _ (List.forall_mem_nil _)⟩
  | true =>
    cases flag : stage.session.endpointDetected with
    | true =>
      rw [acceptAudio_of_reported outside enabled held flag]
      exact ⟨_, [], ⟨rfl, _, rfl, rfl, rfl⟩, .idle _ _ _ (ignoredNotices_uncounted _)⟩
    | false =>
      have takes : stage.session.Takes resources := ⟨enabled, held, flag⟩
      rw [acceptAudio_of_takes outside takes] at answered ⊢
      have sizes := Accumulator.length_of_mem_cut resources.accumulator (resources.frames samples)
      cases row : (Session.row outside (resources.fed samples) (resources.chunks samples)
          stage).answer with
      | error error =>
        rw [deliver_of_error row] at answered
        cases answered
      | ok delivery =>
        obtain ⟨beats, tells⟩ := decodeChunks_tells sizes row
        cases delivery with
        | complete cycles =>
          rw [deliver_of_complete row]
          exact ⟨_, beats, ⟨rfl, _, rfl, capacity, rfl⟩, tells⟩
        | ended cycles left =>
          rw [deliver_run_of_ended row]
          refine ⟨_, beats ++ [], ⟨rfl, _, rfl, capacity, rfl⟩, tells.append ?_⟩
          exact .idle _ _ _ (ignoredNotices_uncounted _)

/-- **A request that does not start over and does not fail is a row of prompt beats.** -/
theorem obey_tells {stage : Stage World} (works : stage.session.Works config size timing)
    {request : SessionRequest} (goesOn : request ≠ .reset)
    (answered : (Session.obey outside request stage).answer = .ok ()) :
    let run := Session.obey outside request stage
    ∃ timing' beats, run.state.session.Works config size timing' ∧
      Tells outside.debugging config size timing timing' run.record beats := by
  cases request with
  | start =>
    obtain ⟨config_eq, held⟩ := works
    show ∃ timing' beats, Session.Works
      ((Session.start : Action (Stage World) Failure Unit) stage).state.session _ _ _ ∧ _
    by_cases listening : stage.session.state = .listening
    · rw [Session.obey, start_of_listening listening]
      exact ⟨timing, [], ⟨config_eq, held⟩, .idle _ _ _ (List.forall_mem_nil _)⟩
    · rw [Session.obey, start_of_not_listening listening]
      exact ⟨timing, [], ⟨config_eq, held⟩,
        .idle _ _ _ (List.forall_mem_singleton.mpr {})⟩
  | audio samples =>
    rw [Session.obey, Action.wrapFailure_done] at answered ⊢
    cases taken : (Session.acceptAudio outside samples stage).answer with
    | error error =>
      rw [taken] at answered
      cases answered
    | ok cycles => exact acceptAudio_tells works taken
  | reset => exact absurd rfl goesOn

/-- **A run that does not start over and does not fail is a row of prompt beats.** -/
theorem turns_tell {stage : Stage World} (works : stage.session.Works config size timing)
    {requests : List SessionRequest} (goesOn : ∀ request ∈ requests, request ≠ .reset)
    (answered : ∀ turn ∈ turns (Session.obey outside) stage requests,
      turn.outcome.answer = .ok ()) :
    ∃ timing' beats,
      (stateAfter (Session.obey outside) stage requests).session.Works config size timing' ∧
      Tells outside.debugging config size timing timing'
        ((turns (Session.obey outside) stage requests).flatMap fun turn => turn.outcome.record)
        beats := by
  induction requests generalizing stage timing with
  | nil => exact ⟨timing, [], works, .idle _ _ _ (List.forall_mem_nil _)⟩
  | cons request others ih =>
    obtain ⟨first, rest⟩ := List.forall_mem_cons.mp answered
    obtain ⟨again, goesOn⟩ := List.forall_mem_cons.mp goesOn
    obtain ⟨timing₁, beats, works₁, tells⟩ := obey_tells works again first
    obtain ⟨timing₂, beats', works₂, tells'⟩ := ih works₁ goesOn rest
    exact ⟨timing₂, beats ++ beats', works₂, tells.append tells'⟩

end Requests

/-! ## From a building on -/

/-- A session that was just built, for the first time or by starting over, and what lies outside
it then. -/
inductive Stage.JustBuilt (outside : Collaborators World) : Stage World → Prop where
  | created (models : Models) (symbols : SymbolTable) (config : Config) (world : World)
      {session : Session}
      (built : (Session.create outside models symbols config world).answer = .ok session) :
      JustBuilt outside ⟨(Session.create outside models symbols config world).state, session⟩
  | startedOver (before : Stage World)
      (built : (Session.reset outside before).answer = .ok ()) :
      JustBuilt outside (Session.reset outside before).state

/-- A session that was just built has counted nothing. -/
theorem Stage.JustBuilt.works {outside : Collaborators World} {stage : Stage World}
    (built : stage.JustBuilt outside) :
    stage.session.Works stage.session.config
      (stage.session.config.chunkCapacity stage.session.models.nativeRate)
      (.start stage.session.models.nativeRate
        (Int64.ofInt (stage.session.config.samplesPerTick stage.session.models.nativeRate))) := by
  have made {models : Models} {config : Config} {resources : Resources} (symbols : SymbolTable)
      (anew : resources.MadeFor models config) :
      (Session.fresh config symbols models (some resources)).Works config
        (config.chunkCapacity models.nativeRate)
        (.start models.nativeRate (Int64.ofInt (config.samplesPerTick models.nativeRate))) := by
    refine ⟨rfl, resources, rfl, (anew.keeps symbols).capacity, ?_⟩
    rw [anew.made]
    rfl
  cases built with
  | created models symbols config world built =>
    obtain ⟨_, _, step, answer, _⟩ := create_step outside models symbols config world
    rw [show (Session.create outside models symbols config world).answer = _ from built] at answer
    cases step with
    | noEngine | noFeed => cases answer
    | made _ _ anew =>
      obtain rfl := Except.ok.inj answer
      exact made symbols anew
  | startedOver before built =>
    obtain ⟨_, _, step, answer, session, _⟩ := reset_step outside before
    rw [show (Session.reset outside before).answer = _ from built] at answer
    cases step with
    | noEngine | noFeed => cases answer
    | made _ _ anew =>
      rw [show (Session.reset outside before).state.session = _ from session]
      exact made before.session.symbols anew

/-- **The outputs of a session and the mark of its gate.**  Since a session was built, without a
request to start over and without a failure, its mark has moved by a tick for each output; the
outputs are counted by the cycles, the size of a chunk and the tick alone, whatever starts and
ends of utterances lie between them.  With each output the engine is asked for the words so far,
and otherwise only for a transcript that is certain enough; they are noted if the log takes partial
results.  The end is asked for once with each output, if the session is to look for it.

Along any fair beats of a gate the mark is a multiple of the tick that does not overtake the
samples, it moves by at most a tick in a beat, and no word overflows as long as the samples can be
counted in one.  If moreover the beats are prompt and none is longer than a tick, the mark stays
within a tick of the samples. -/
theorem output_cadence (outside : Collaborators World) :
    (∀ stage : Stage World, stage.JustBuilt outside → ∀ requests : List SessionRequest,
      (∀ request ∈ requests, request ≠ .reset) →
      let history := turns (Session.obey outside) stage requests
      (∀ turn ∈ history, turn.outcome.answer = .ok ()) →
      let record := history.flatMap fun turn => turn.outcome.record
      let cycles := acceptedIn record
      let size := stage.session.config.chunkCapacity stage.session.models.nativeRate
      let tick := stage.session.tick.toInt.toNat
      let outputs := min cycles ((cycles * size - 1) / tick)
      cycles * size < Nat.pow 2 63 →
      0 < tick ∧ wordsIn record = outputs + certainIn record ∧
        partialsIn record = (if outside.debugging then outputs else 0) ∧
        asksIn record = (if stage.session.config.doEndpointing then outputs else 0) ∧
        ∃ resources,
          (stateAfter (Session.obey outside) stage requests).session.resources = some resources ∧
          resources.accumulator.capacity = size ∧
          resources.timing.tick.toInt = tick ∧
          resources.timing.lastOutput.toInt = (tick * outputs : Nat)) ∧
    ∀ (nativeRate : Float32) (tick : Int64) (beats : List Beat) (beat : Beat),
      let start := TimingGate.start nativeRate tick
      let before := start.beats beats
      let counted := before.consume beat.samples
      let after := start.beats (beats ++ [beat])
      TimingGate.Keeps TimingGate.Fair start (beats ++ [beat]) →
      samplesIn (beats ++ [beat]) < Nat.pow 2 63 →
      (after.consumed.toInt = samplesIn (beats ++ [beat]) ∧
          after.lastOutput.toInt = takenIn (beats ++ [beat]) * after.tick.toInt ∧
          after.lastOutput.toInt ≤ after.consumed.toInt) ∧
        after.lastOutput.toInt = before.lastOutput.toInt +
          (if beat.taken then before.tick.toInt else 0) ∧
        (counted.consumed.toInt = before.consumed.toInt + (Int64.ofNat beat.samples).toInt ∧
          (Int64.ofNat beat.samples).toInt = beat.samples ∧
          (counted.consumed - counted.lastOutput).toInt =
            counted.consumed.toInt - counted.lastOutput.toInt) ∧
        (TimingGate.Keeps TimingGate.Prompt start (beats ++ [beat]) →
          (∀ other ∈ beats ++ [beat], other.samples ≤ start.tickSize) →
          after.consumed.toInt - after.lastOutput.toInt ≤ after.tick.toInt) := by
  constructor
  · intro stage built requests goesOn history answered record cycles size tick outputs fits
    obtain ⟨timing, beats, works, tells⟩ := turns_tell built.works goesOn answered
    obtain ⟨-, resources, held, capacity, rfl⟩ := works
    have length : cycles = beats.length := tells.reports.accepted
    have taken := TimingGate.takenIn_of_prompt _ _ tells.prompt tells.sizes (length ▸ fits)
    have counts := TimingGate.counts_beats _ _ (tells.prompt.mono fun _ _ => TimingGate.Prompt.fair)
    rw [← tells.moved, samplesIn_of_sizes tells.sizes, ← length] at counts
    rw [← length] at taken
    have outputs_eq : takenIn beats = outputs := taken
    have size' : resources.timing.tickSize = tick := by
      rw [tells.moved]
      exact TimingGate.tickSize_beats ..
    obtain ⟨-, lastOutput⟩ := counts.exact fits
    refine ⟨TimingGate.tickSize_pos _, outputs_eq ▸ tells.reports.wordsIn_eq,
      outputs_eq ▸ tells.reports.partials, outputs_eq ▸ tells.reports.asks, resources, held,
      capacity, ?_, ?_⟩
    · rw [TimingGate.toInt_tick, size']
    · rw [lastOutput, outputs_eq, size', Nat.mul_comm]
  · intro nativeRate tick beats beat start before counted after fair fits
    obtain ⟨exact, moves, words⟩ := TimingGate.beat_exact nativeRate tick fair fits
    refine ⟨exact, moves, words, fun prompt small => ?_⟩
    have behind : samplesIn (beats ++ [beat]) ≤ (takenIn (beats ++ [beat]) + 1) * start.tickSize :=
      TimingGate.behind_of_prompt nativeRate tick prompt fits small
    have size : after.tickSize = start.tickSize := TimingGate.tickSize_beats ..
    rw [exact.1, exact.2.1, after.toInt_tick, size]
    rw [Nat.add_mul, Nat.one_mul] at behind
    have behind' := Int.ofNat_le.mpr behind
    push_cast at behind'
    omega

/-- Three chunks of one sample each, with an end of the utterance behind the second and the third:
two outputs are taken, and two transcripts are sent.  And of two beats of one sample each, the
second takes the output that is due. -/
theorem output_cadence_small :
    let outside := (Rehearsal.smallScript (some 2) [1]).collaborators
    let creation := Session.create outside Rehearsal.smallModels Rehearsal.smallSymbols
      (Rehearsal.smallConfig 1.0) .initial
    let stage : Stage Rehearsal.World := ⟨creation.state, Rehearsal.smallSession 1.0⟩
    let history := turns (Session.obey outside) stage
      [.start, .audio [0.0, 0.0], .start, .audio [0.0]]
    let record := history.flatMap fun turn => turn.outcome.record
    let gate := (TimingGate.start 16000.0 1).beats [⟨1, false⟩, ⟨1, true⟩]
    (wordsIn record = 4 ∧ partialsIn record = 2 ∧ asksIn record = 2) ∧
      gate.consumed.toInt - gate.lastOutput.toInt ≤ gate.tick.toInt := by
  intro outside creation stage history record gate
  have built : stage.JustBuilt outside := .created _ _ _ _ rfl
  obtain ⟨session, beats⟩ := output_cadence outside
  have cycles : acceptedIn record = 3 := by decide +kernel
  have answered : ∀ turn ∈ history, turn.outcome.answer = .ok () := by
    have all : history.all (fun turn => turn.outcome.answer.isOk) = true := by decide +kernel
    intro turn member
    have fine := List.all_eq_true.mp all turn member
    cases answer : turn.outcome.answer with
    | error error =>
      rw [answer] at fine
      cases fine
    | ok _ => rfl
  constructor
  · have certain : certainIn record = 2 := by decide +kernel
    obtain ⟨_, words, outputs, asks, _⟩ := session stage built [.start, .audio [0.0, 0.0], .start,
      .audio [0.0]] (by simp) answered (by rw [cycles]; decide +kernel)
    rw [words, certain, outputs, asks, cycles]
    decide +kernel
  · obtain ⟨_, _, _, within⟩ := beats 16000.0 1 [⟨1, false⟩] ⟨1, true⟩
      ⟨nofun, fun _ => by decide, trivial⟩ (by decide)
    exact within ⟨by decide, by decide, trivial⟩ (by decide)

/-- A fair beat that passes an output over leaves the mark more than a tick behind. -/
theorem fair_beats_fall_behind :
    let start := TimingGate.start 16000.0 1
    let beats : List Beat := [⟨1, false⟩, ⟨1, false⟩]
    let after := start.beats beats
    TimingGate.Keeps TimingGate.Fair start beats ∧ samplesIn beats < Nat.pow 2 63 ∧
      (∀ beat ∈ beats, beat.samples ≤ start.tickSize) ∧
      ¬after.consumed.toInt - after.lastOutput.toInt ≤ after.tick.toInt := by
  refine ⟨⟨nofun, nofun, trivial⟩, by decide, by decide, by decide⟩

end LiveSpeech
