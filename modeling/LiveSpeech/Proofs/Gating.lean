import LiveSpeech.Proofs.Requests

/-!
# No audio behind the end of an utterance

Once the engine has reported the end of an utterance it is left alone until the session listens
anew: no more audio is passed on, nothing is decoded, no weights are changed, and the clock is not
waited for (`no_calls_behind_end`).

Two things keep audio away.  Within the fragment in which the end is reported, the row of chunks
stops (`RowCalls.gated`).  Behind it the session is closed (`Session.Closed`): it is disabled, as
it is when the transcript has been sent, or the flag of the end is raised, as it is also when the
transcript could not be spelled and the session still listens.  Every request keeps a closed
session closed, a start that enters listening apart (`obey_closed`), and no request to a closed
session drives the engine.
-/

namespace LiveSpeech

set_option autoImplicit false

variable {World : Type}

/-! ## Calls that drive an engine -/

/-- A call that drives the engine or waits for the clock: a chunk that is passed on, decoding, a
change of the weights, or a wait. -/
def Event.drives : Event → Bool
  | .call (.acceptWaveform ..) | .call (.advanceDecoding ..) | .call (.computeTraceback _)
  | .call (.deltaWeights ..) | .call (.updateFrameWeights ..) | .call (.waitUntil _) => true
  | _ => false

/-- Nothing drives the engine. -/
def Undriven (record : List Event) : Prop := ∀ event ∈ record, event.drives = false

/-- Once the end is reported nothing drives the engine. -/
def Gated (record : List Event) : Prop :=
  record.Pairwise fun earlier later => earlier.reportsEnd = true → later.drives = false

theorem Undriven.append {first second : List Event} (before : Undriven first)
    (after : Undriven second) : Undriven (first ++ second) :=
  List.forall_mem_append.mpr ⟨before, after⟩

theorem Undriven.gated {record : List Event} (undriven : Undriven record) : Gated record :=
  List.pairwise_of_forall_mem_list fun _ _ later member _ => undriven later member

/-- Two records in a row are gated if both are, and the second does not drive the engine when the
first has reported the end. -/
theorem Gated.append {first second : List Event} (before : Gated first) (after : Gated second)
    (quiet : EndReported first → Undriven second) : Gated (first ++ second) := by
  refine List.pairwise_append.mpr ⟨before, after, ?_⟩
  intro earlier member later among reports
  exact quiet ⟨earlier, member, reports⟩ later among

theorem Gated.of_unreported {record : List Event} (unreported : ¬EndReported record) :
    Gated record :=
  List.pairwise_of_forall_mem_list fun earlier member _ _ reports =>
    absurd ⟨earlier, member, reports⟩ unreported

/-- What comes behind a report of the end does not drive the engine. -/
theorem Gated.undriven {before after : List Event} {report : Event}
    (gated : Gated (before ++ report :: after)) (reports : report.reportsEnd = true) :
    Undriven after := by
  have behind := (List.pairwise_cons.mp (List.pairwise_append.mp gated).2.1).1
  exact fun later member => behind later member reports

/-- What is noted in the log drives nothing. -/
theorem undriven_effectsOf {record : List Event} :
    Undriven (effectsOf record) ↔ Undriven record :=
  forall_mem_effectsOf fun _ => rfl

/-! ## Cycles and rows -/

section Rows

variable {debugging : Bool} {decoder : Decoder}

theorem Spelling.undriven {answer : Except SessionError String} {spelling : List Event}
    (spells : Spelling decoder answer spelling) : Undriven spelling := by
  cases spells <;> simp [Undriven, Event.drives]

theorem Decoder.costed_undriven (decoder : Decoder) (cost : Float32) :
    Undriven [decoder.costed cost] :=
  List.forall_mem_singleton.mpr rfl

/-- A message drives nothing. -/
theorem undriven_send (message : ServerMessage) : Undriven [.send message] :=
  List.forall_mem_singleton.mpr rfl

theorem Finalizing.undriven {answer : Except SessionError String} {calls : List Event}
    (finalizes : Finalizing decoder answer calls) : Undriven calls := by
  cases finalizes with
  | uncertain => exact decoder.costed_undriven _
  | certain _ spells => exact (decoder.costed_undriven _).append spells.undriven

theorem PartialCalls.undriven {timing timing' : TimingGate} {answer : Except SessionError Unit}
    {noting : List Event} (notes : PartialCalls debugging decoder timing answer timing' noting) :
    Undriven noting := by
  cases notes with
  | unspelled spells => exact spells.undriven
  | noted spells cost =>
    refine spells.undriven.append ?_
    cases cost with
    | none => exact List.forall_mem_nil _
    | some cost => exact decoder.costed_undriven cost

theorem LookCalls.undriven {timing timing' : TimingGate} {before after : Bool}
    {answer : Except SessionError Unit} {looking : List Event}
    (looks : LookCalls debugging decoder timing before answer timing' after looking) :
    Undriven looking := by
  obtain ⟨look, _, notes⟩ := looks
  refine Undriven.append ?_ notes.undriven
  cases look <;> simp [Undriven, Decoder.looked, Event.drives]

/-- Up to what the engine decodes the end is not reported. -/
theorem Reweighing.heard_unreported {weighing : List Event}
    (weighs : Reweighing decoder.engine weighing) (chunk : List Float32) (counted : TimingGate)
    (answer : Except EngineError Unit) :
    ¬EndReported (decoder.heard chunk counted weighing answer) := by
  rw [← endReported_landmarksOf, weighs.landmarksOf_heard]
  simp [EndReported, Decoder.passed, Event.reportsEnd]

/-- In a cycle the engine is asked for the end when it has been driven. -/
theorem CycleCalls.gated {chunk : List Float32} {timing timing' : TimingGate}
    {before after : Bool} {answer : Except SessionError Unit} {calls : List Event}
    (cycle : CycleCalls debugging decoder chunk timing before answer timing' after calls) :
    Gated calls := by
  cases cycle with
  | refused => exact List.pairwise_singleton ..
  | stuck weighs => exact .of_unreported (weighs.heard_unreported _ _ _)
  | notDue weighs => exact .of_unreported (weighs.heard_unreported _ _ _)
  | due weighs _ looks =>
    exact Gated.append (.of_unreported (weighs.heard_unreported _ _ _)) looks.undriven.gated
      fun _ => looks.undriven

/-- **A row of chunks does not drive the engine once it has reported the end.** -/
theorem RowCalls.gated {chunks : List (List Float32)} {timing timing' : TimingGate}
    {before after : Bool} {answer : Except SessionError Delivery} {calls : List Event}
    (row : RowCalls debugging decoder chunks timing before answer timing' after calls)
    (lowered : before = false) : Gated calls := by
  induction row with
  | nil => exact .nil
  | failed cycle => exact cycle.gated
  | unfinished cycle finalizes =>
    exact cycle.gated.append finalizes.undriven.gated fun _ => finalizes.undriven
  | @ended _ _ _ _ _ _ _ cycle transcript finalizes =>
    have behind := finalizes.undriven.append (undriven_send (.transcript transcript))
    exact cycle.gated.append behind.gated fun _ => behind
  | next cycle _ ih =>
    subst lowered
    -- A cycle that leaves the flag lowered has reported nothing.
    refine cycle.gated.append (ih rfl) fun reported => absurd ?_ Bool.false_ne_true
    exact cycle.step.flag_iff.mpr ((endReported_landmarksOf _).mpr reported)

end Rows

/-! ## Closed sessions -/

/-- The session lets no audio through to the engine: it is disabled, or the end has been
reported. -/
def Session.Closed (session : Session) : Prop :=
  session.enabled = false ∨ session.endpointDetected = true

theorem Session.Closed.not_takes {session : Session} (closed : session.Closed)
    {resources : Resources} (takes : session.Takes resources) : False := by
  rcases closed with disabled | raised
  · exact Bool.false_ne_true (disabled.symm.trans takes.enabled)
  · exact Bool.false_ne_true (takes.lowered.symm.trans raised)

section Fragment

variable {debugging : Bool} {session session' : Session} {samples : List Float32}
  {answer : Except SessionError Nat} {calls : List Event}

/-- A closed session does nothing with audio, and stays closed. -/
theorem AudioCalls.of_closed (audio : AudioCalls debugging session samples answer session' calls)
    (closed : session.Closed) : calls = [] ∧ session'.Closed := by
  cases audio with
  | disabled | released | reported => exact ⟨rfl, closed⟩
  | failed _ takes | complete _ takes | ended _ takes => exact (closed.not_takes takes).elim

/-- A fragment does not drive the engine once it has reported the end. -/
theorem AudioCalls.gated (audio : AudioCalls debugging session samples answer session' calls) :
    Gated calls := by
  cases audio with
  | disabled | released | reported => exact .nil
  | failed _ _ row | complete _ _ row | ended _ _ row => exact row.gated rfl

/-- A session is closed by a report of the end, whether or not the transcript can be spelled. -/
theorem AudioCalls.closed_of_reported
    (audio : AudioCalls debugging session samples answer session' calls)
    (reported : EndReported calls) : session'.Closed := by
  have marked := (endReported_landmarksOf calls).mpr reported
  cases audio with
  | disabled | released | reported =>
    obtain ⟨_, member, _⟩ := reported
    cases member
  | failed _ _ row =>
    cases row.step.rowEnd rfl with
    | error _ _ raised => exact .inr (raised.mpr marked)
  | complete _ _ row =>
    cases row.step.rowEnd rfl with
    | complete _ _ unreported => exact absurd marked unreported
  | ended => exact .inl rfl

end Fragment

/-! ## Requests -/

/-- A start that enters listening. -/
def StartsListening (turn : Turn SessionRequest (Stage World) Failure Unit) : Prop :=
  turn.request = .start ∧ turn.before.session.state ≠ .listening

theorem Event.undriven_of_isFeeding {event : Event} (feeds : event.isFeeding = true) :
    event.drives = false := by
  cases event with
  | call call => cases call <;> first | rfl | cases feeds
  | note notice => rfl
  | send message => cases feeds

theorem BuildStep.undriven {outside : Collaborators World} {models : Models} {config : Config}
    {built : Except Failure Resources} {building : List Event}
    (builds : BuildStep outside models config built building) : Undriven building := by
  have fed {answer : Except Failure (Audio.Resampler × Audio.Accumulator)} {feeding : List Event}
      (step : FeedStep outside models config answer feeding) : Undriven feeding :=
    fun event member => Event.undriven_of_isFeeding (step.feeding event member)
  cases builds with
  | noEngine => exact List.forall_mem_singleton.mpr rfl
  | noFeed _ step =>
    exact List.forall_mem_cons.mpr ⟨rfl, (fed step).append (List.forall_mem_singleton.mpr rfl)⟩
  | made _ step => exact List.forall_mem_cons.mpr ⟨rfl, fed step⟩

theorem Event.undriven_of_letsGo {event : Event} (letsGo : event.letsGo = true) :
    event.drives = false := by
  cases event with
  | call call => cases call <;> first | rfl | cases letsGo
  | note notice => rfl
  | send message => cases letsGo

/-- Starting over closes a session, and drives no engine. -/
theorem reset_closed (outside : Collaborators World) (stage : Stage World) :
    let run := Session.reset outside stage
    Undriven run.record ∧ run.state.session.Closed := by
  intro run
  have ran : run = _ := reset_run outside stage
  rw [rebuild_run _ _ _ rfl] at ran
  rw [ran]
  have builds := buildResources_step outside stage.session.models stage.session.config
    (stage.session.letGo outside stage.world).state
  refine ⟨Undriven.append (fun event member => ?_) builds.undriven, .inl rfl⟩
  exact Event.undriven_of_letsGo
    ((letGo_within outside stage.session).recorded stage.world event member)

/-- **A closed session stays closed, and drives no engine, until it is started and enters
listening.** -/
theorem obey_closed (outside : Collaborators World) (request : SessionRequest)
    {stage : Stage World} (closed : stage.session.Closed)
    (kept : ¬StartsListening ⟨request, stage, Session.obey outside request stage⟩) :
    let run := Session.obey outside request stage
    Undriven run.record ∧ run.state.session.Closed := by
  intro run
  cases request with
  | start =>
    have listening : stage.session.state = .listening :=
      of_not_not fun quiet => kept ⟨rfl, quiet⟩
    have ran : run = _ := start_of_listening listening
    rw [ran]
    exact ⟨List.forall_mem_nil _, closed⟩
  | audio samples =>
    have ran : run = _ := Action.wrapFailure_done ..
    obtain ⟨silent, closed'⟩ := (acceptAudio_calls outside samples stage).of_closed closed
    rw [ran]
    refine ⟨undriven_effectsOf.mp ?_, closed'⟩
    rw [silent]
    exact List.forall_mem_nil _
  | reset => exact reset_closed outside stage

/-- A request does not drive the engine once that has reported the end, and closes the session if
it has. -/
theorem obey_gated (outside : Collaborators World) (request : SessionRequest)
    (stage : Stage World) {early late : List Event} {report : Event}
    (parts : (Session.obey outside request stage).record = early ++ report :: late)
    (reports : report.reportsEnd = true) :
    Undriven late ∧ (Session.obey outside request stage).state.session.Closed := by
  have reported : EndReported (Session.obey outside request stage).record :=
    ⟨report, by simp [parts], reports⟩
  cases request with
  | start => exact absurd reported (not_endReported (landmarksOf_start stage))
  | audio samples =>
    have calls := acceptAudio_calls outside samples stage
    rw [Session.obey, Action.wrapFailure_done] at parts reported ⊢
    dsimp only at calls parts reported
    have kept : effectsOf [report] = [report] := by
      cases report with
      | note notice => cases reports
      | call call => rfl
      | send message => rfl
    have gated := calls.gated
    rw [parts, ← List.singleton_append, effectsOf_append, effectsOf_append, kept] at gated
    refine ⟨undriven_effectsOf.mp (gated.undriven reports), calls.closed_of_reported ?_⟩
    rwa [← endReported_landmarksOf, landmarksOf_effectsOf, endReported_landmarksOf]
  | reset =>
    obtain ⟨_, _, _, _, _, quiet⟩ := reset_step outside stage
    exact absurd reported (not_endReported quiet)

/-! ## Runs -/

/-- What follows in a run from a closed session drives no engine until the session is started
and enters listening. -/
theorem undriven_of_closed (outside : Collaborators World) {stage : Stage World}
    (closed : stage.session.Closed) {requests : List SessionRequest}
    {between after : List (Turn SessionRequest (Stage World) Failure Unit)}
    (parts : turns (Session.obey outside) stage requests = between ++ after)
    (kept : ∀ turn ∈ between, ¬StartsListening turn) :
    ∀ turn ∈ between, Undriven turn.outcome.record := by
  induction between generalizing stage requests with
  | nil => exact List.forall_mem_nil _
  | cons first between ih =>
    cases requests with
    | nil => cases parts
    | cons request others =>
      obtain ⟨rfl, rest⟩ := List.cons_eq_cons.mp parts
      obtain ⟨undriven, closed'⟩ :=
        obey_closed outside request closed (kept _ (List.mem_cons_self ..))
      exact List.forall_mem_cons.mpr
        ⟨undriven, ih closed' rest fun turn member => kept turn (List.mem_cons_of_mem _ member)⟩

/-- A sound session is disabled exactly if it is ready or finalized. -/
theorem Session.Sound.disabled_iff {session : Session} (sound : session.Sound) :
    session.enabled = false ↔ session.state = .ready ∨ session.state = .finalized := by
  rw [← Bool.not_eq_true, sound.enabled_iff]
  have initialized := sound.initialized
  cases state : session.state with
  | uninitialized => exact absurd state initialized
  | ready | listening | finalized => simp

/-- **No audio behind the end of an utterance.**  In every run of requests on a new session, from
the moment the engine reports the end nothing drives it, and the clock is not waited for, until
the session is started and enters listening: neither in the rest of that request, whether or not
it fails, nor in any request behind it.  A session is disabled exactly if it is ready or
finalized, and a disabled session answers every fragment with no cycle, calls nobody, and stays as
it is. -/
theorem no_calls_behind_end (outside : Collaborators World) (config : Config)
    (symbols : SymbolTable) (models : Models) (resources : Option Resources) (world : World)
    (requests : List SessionRequest) :
    let stage : Stage World := ⟨world, .fresh config symbols models resources⟩
    let history := turns (Session.obey outside) stage requests
    let session := (stateAfter (Session.obey outside) stage requests).session
    (∀ before turn between after, history = before ++ turn :: (between ++ after) →
      (∀ later ∈ between, ¬StartsListening later) →
        ∀ early report late, turn.outcome.record = early ++ report :: late →
          report.reportsEnd = true →
            Undriven late ∧ ∀ later ∈ between, Undriven later.outcome.record) ∧
      (session.enabled = false ↔ session.state = .ready ∨ session.state = .finalized) ∧
      ∀ disabled : Stage World, disabled.session.enabled = false → ∀ samples,
        Session.acceptAudio outside samples disabled = ⟨.ok 0, disabled, []⟩ := by
  intro stage history session
  have sound := (run_stuck_iff outside (sound_fresh config symbols models resources)
    (show ¬stage.session.Stuck from fun stuck => nomatch stuck.2) requests).1
  refine ⟨?_, sound.disabled_iff, fun _ disabled samples =>
    acceptAudio_of_disabled outside disabled samples⟩
  intro before turn between after parts kept early report late record reports
  have member : turn ∈ history := by simp [parts]
  rw [outcome_of_mem_turns member] at record
  obtain ⟨others, rest⟩ := turns_behind parts
  obtain ⟨undriven, closed⟩ := obey_gated outside turn.request turn.before record reports
  exact ⟨undriven, undriven_of_closed outside closed rest kept⟩

/-- The second of three samples ends an utterance whose word the symbol table does not have.  The
third is not passed on, starting changes nothing, and the next fragment is dropped. -/
theorem no_calls_behind_end_small :
    let obey := Session.obey (Rehearsal.smallScript (some 2) [7]).collaborators
    let opened := obey .start ⟨.initial, Rehearsal.smallSession 1.0⟩
    let ended := obey (.audio [0.5, 0.25, 0.125]) opened.state
    let again := obey .start ended.state
    let dropped := obey (.audio [0.5, 0.25]) again.state
    (∃ early report late, ended.record = early ++ report :: late ∧ report.reportsEnd = true ∧
        Undriven late) ∧
      ended.answer.isOk = false ∧ Undriven again.record ∧ Undriven dropped.record := by
  intro obey opened ended again dropped
  have reported : ended.record.any Event.reportsEnd = true := by decide +kernel
  have listening : ended.state.session.state = .listening := by decide +kernel
  obtain ⟨report, member, reports⟩ := List.any_eq_true.mp reported
  obtain ⟨early, late, record⟩ := List.append_of_mem member
  have kept : ∀ later ∈ [(⟨.start, ended.state, again⟩ : Turn SessionRequest _ Failure Unit),
      ⟨.audio [0.5, 0.25], again.state, dropped⟩], ¬StartsListening later := by
    refine List.forall_mem_cons.mpr ⟨fun starts => starts.2 listening, ?_⟩
    exact List.forall_mem_singleton.mpr nofun
  obtain ⟨undriven, later⟩ := (no_calls_behind_end
    (Rehearsal.smallScript (some 2) [7]).collaborators (Rehearsal.smallConfig 1.0)
    Rehearsal.smallSymbols Rehearsal.smallModels (Rehearsal.smallSession 1.0).resources .initial
    [.start, .audio [0.5, 0.25, 0.125], .start, .audio [0.5, 0.25]]).1
      [⟨.start, ⟨.initial, Rehearsal.smallSession 1.0⟩, opened⟩]
      ⟨.audio [0.5, 0.25, 0.125], opened.state, ended⟩ _ [] rfl kept early report late record
      reports
  obtain ⟨first, second⟩ := List.forall_mem_cons.mp later
  exact ⟨⟨early, report, late, record, reports, undriven⟩, by decide +kernel, first,
    second _ (List.mem_singleton_self _)⟩

end LiveSpeech
