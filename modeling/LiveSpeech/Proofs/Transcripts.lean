import LiveSpeech.Proofs.Operations
import LiveSpeech.Proofs.Rendering
import LiveSpeech.Proofs.Words
import LiveSpeech.Rehearsal.Small

/-!
# The transcript of an utterance

An utterance ends in the world that the first cycle leaves which raises the flag (`ReachesEnd`).
What it comes to is read off that world (`Transcribes`).  It comes to the empty transcript in three
ways: the cost is not within its limit, nothing was decoded, or there is no path.  A number without
a word is not one of them, and an utterance whose best path has one comes to that number.

A fragment of audio with which an utterance ends is answered by what the utterance comes to
(`acceptAudio_transcript`).  No other fragment sends anything or closes the session.
-/

namespace LiveSpeech

set_option autoImplicit false

open LiveSpeech.Text

variable {World : Type}

/-! ## What an utterance comes to -/

namespace Collaborators

variable (outside : Collaborators World) (engine : Engine) (world : World)

/-- The final relative cost, if it is asked for in a world. -/
def costAt : Float32 := (outside.finalRelativeCost engine world).1

/-- The number of decoded frames, if it is asked for after the cost. -/
def framesAt : Nat := (outside.framesDecoded engine (outside.finalRelativeCost engine world).2).1

/-- The best path, if it is asked for after the cost and the number of frames. -/
def pathAt : Option BestPath :=
  (outside.bestPath engine
    (outside.framesDecoded engine (outside.finalRelativeCost engine world).2).2).1

end Collaborators

/-- What an utterance that ends in a world comes to: its transcript, or a number without a word. -/
inductive Transcribes (outside : Collaborators World) (decoder : Decoder) (world : World) :
    Except Nat String → Prop where
  /-- The cost is not within its limit. -/
  | uncertain (above : ¬outside.costAt decoder.engine world ≤ decoder.config.maxFinalCost) :
      Transcribes outside decoder world (.ok "")
  /-- Nothing was decoded. -/
  | noFrames (within : outside.costAt decoder.engine world ≤ decoder.config.maxFinalCost)
      (nothing : outside.framesAt decoder.engine world = 0) :
      Transcribes outside decoder world (.ok "")
  /-- There is no path. -/
  | noPath (within : outside.costAt decoder.engine world ≤ decoder.config.maxFinalCost)
      (something : outside.framesAt decoder.engine world ≠ 0)
      (none : outside.pathAt decoder.engine world = none) :
      Transcribes outside decoder world (.ok "")
  /-- Every number on the best path has a word. -/
  | spelled (within : outside.costAt decoder.engine world ≤ decoder.config.maxFinalCost)
      (something : outside.framesAt decoder.engine world ≠ 0) {path : BestPath}
      (best : outside.pathAt decoder.engine world = some path) {words : List String}
      (named : path.words.map decoder.symbols.find? = words.map some) :
      Transcribes outside decoder world (.ok (" ".intercalate words))
  /-- A number on the best path has no word, and all before it have one. -/
  | unknown (within : outside.costAt decoder.engine world ≤ decoder.config.maxFinalCost)
      (something : outside.framesAt decoder.engine world ≠ 0) {path : BestPath}
      (best : outside.pathAt decoder.engine world = some path) {before after : List Nat}
      {number : Nat} (parts : path.words = before ++ number :: after)
      (named : ∀ earlier ∈ before, ∃ word, decoder.symbols.find? earlier = some word)
      (missing : decoder.symbols.find? number = none) :
      Transcribes outside decoder world (.error number)

section Transcribes

variable (outside : Collaborators World) (decoder : Decoder) (world : World)

theorem bestTranscript_answer :
    (bestTranscript outside decoder world).answer =
      if (outside.framesDecoded decoder.engine world).1 = 0 then .ok ""
      else match (outside.bestPath decoder.engine
          (outside.framesDecoded decoder.engine world).2).1 with
        | none => .ok ""
        | some path => (decoder.symbols.render path.words).mapError .unknownSymbol := by
  simp only [bestTranscript, Action.ask_bind, Outcome.after_answer]
  split
  case isTrue => rfl
  case isFalse =>
    rw [Action.ask_bind, Outcome.after_answer]
    cases (outside.bestPath decoder.engine (outside.framesDecoded decoder.engine world).2).1 with
    | none => rfl
    | some path => exact congrArg Outcome.answer (Action.ofExcept_run ..)

theorem finalTranscript_answer :
    (finalTranscript outside decoder world).answer =
      if outside.costAt decoder.engine world ≤ decoder.config.maxFinalCost then
        if outside.framesAt decoder.engine world = 0 then .ok ""
        else match outside.pathAt decoder.engine world with
          | none => .ok ""
          | some path => (decoder.symbols.render path.words).mapError .unknownSymbol
      else .ok "" := by
  simp only [finalTranscript, Action.ask_bind, Outcome.after_answer, Collaborators.costAt]
  split
  case isTrue within => exact (bestTranscript_answer ..).trans (if_pos within).symm
  case isFalse above => exact (if_neg above).symm

variable {outside decoder world}

/-- The words for the transcript are what an utterance comes to. -/
theorem Transcribes.answer_eq {verdict : Except Nat String}
    (comes : Transcribes outside decoder world verdict) :
    (finalTranscript outside decoder world).answer = verdict.mapError .unknownSymbol := by
  rw [finalTranscript_answer]
  cases comes with
  | uncertain above => rw [if_neg above]; rfl
  | noFrames within nothing => rw [if_pos within, if_pos nothing]; rfl
  | noPath within something none => rw [if_pos within, if_neg something, none]; rfl
  | spelled within something best named =>
    have rendered := SymbolTable.render_eq_ok_iff.mpr ⟨_, named, rfl⟩
    simp only [if_pos within, if_neg something, best, rendered]
  | unknown within something best parts named missing =>
    have failed := SymbolTable.render_eq_error_iff.mpr ⟨_, _, parts, named, missing⟩
    simp only [if_pos within, if_neg something, best, failed]

variable (outside decoder world) in
/-- An utterance comes to one thing, wherever it ends. -/
theorem existsUnique_transcribes : ∃! verdict, Transcribes outside decoder world verdict := by
  refine existsUnique_of_exists_of_unique ?_ fun first second comes comes' => ?_
  · by_cases within : outside.costAt decoder.engine world ≤ decoder.config.maxFinalCost
    case neg => exact ⟨_, .uncertain within⟩
    by_cases nothing : outside.framesAt decoder.engine world = 0
    case pos => exact ⟨_, .noFrames within nothing⟩
    cases best : outside.pathAt decoder.engine world with
    | none => exact ⟨_, .noPath within nothing best⟩
    | some path =>
      cases rendered : decoder.symbols.render path.words with
      | ok sentence =>
        obtain ⟨words, named, _⟩ := SymbolTable.render_eq_ok_iff.mp rendered
        exact ⟨_, .spelled within nothing best named⟩
      | error number =>
        obtain ⟨before, after, parts, named, missing⟩ :=
          SymbolTable.render_eq_error_iff.mp rendered
        exact ⟨_, .unknown within nothing best parts named missing⟩
  · have same := comes.answer_eq.symm.trans comes'.answer_eq
    cases first <;> cases second <;> cases same <;> rfl

/-- Neither is a cost within a limit if one of the two is no number. -/
theorem not_le_of_isNaN {cost limit : Float32} (none : cost.isNaN = true ∨ limit.isNaN = true) :
    ¬cost ≤ limit := by
  have blank {parts : Float.Model.UnpackedFloat} (nan : parts.isNaN = true) :
      parts = .notANumber := by
    cases parts <;> first | rfl | cases nan
  rw [Number.le_iff_compare]
  rcases none with nan | nan
  · rw [show cost.toModel.unpack = _ from blank nan]
    exact Bool.false_ne_true
  · rw [show limit.toModel.unpack = _ from blank nan]
    cases cost.toModel.unpack <;> exact Bool.false_ne_true

end Transcribes

/-! ## Where an utterance ends -/

/-- An utterance ends in the world that the first cycle leaves after which the flag is raised, if
no cycle fails before that or in it. -/
inductive ReachesEnd (outside : Collaborators World) (decoder : Decoder) :
    List (List Float32) → Cycle World → World → Prop where
  | here {chunk : List Float32} {others : List (List Float32)} {cycle : Cycle World}
      (decoded : (decodeChunk outside decoder chunk cycle).answer = .ok ())
      (raised : (decodeChunk outside decoder chunk cycle).state.endpointDetected = true) :
      ReachesEnd outside decoder (chunk :: others) cycle
        (decodeChunk outside decoder chunk cycle).state.world
  | later {chunk : List Float32} {others : List (List Float32)} {cycle : Cycle World}
      {world : World} (decoded : (decodeChunk outside decoder chunk cycle).answer = .ok ())
      (lowered : (decodeChunk outside decoder chunk cycle).state.endpointDetected = false)
      (reaches : ReachesEnd outside decoder others
        (decodeChunk outside decoder chunk cycle).state world) :
      ReachesEnd outside decoder (chunk :: others) cycle world

/-- How a row of chunks is answered, and what is sent, if its utterance has come to a verdict. -/
inductive Concluded : Except Nat String → Except SessionError Delivery → List ServerMessage → Prop
    where
  | sent (transcript : String) (cycles : Nat) (left : List (List Float32)) :
      Concluded (.ok transcript) (.ok (.ended cycles left)) [.transcript transcript]
  | refused (number : Nat) : Concluded (.error number) (.error (.unknownSymbol number)) []

section Row

variable {outside : Collaborators World} {decoder : Decoder}

theorem messagesOf_decodeChunk (chunk : List Float32) (cycle : Cycle World) :
    messagesOf (decodeChunk outside decoder chunk cycle).record = [] := by
  rw [← messagesOf_landmarksOf]
  exact (decodeChunk_step outside decoder chunk cycle).messagesOf_eq

theorem messagesOf_finalTranscript (world : World) :
    messagesOf (finalTranscript outside decoder world).record = [] := by
  rw [← messagesOf_landmarksOf, ← landmarksOf_effectsOf,
    (finalTranscript_calls outside decoder world).quiet.1]
  rfl

theorem Concluded.succ {verdict : Except Nat String} {answer : Except SessionError Delivery}
    {messages : List ServerMessage} (concluded : Concluded verdict answer messages) :
    Concluded verdict (answer.map Delivery.succ) messages := by
  cases concluded with
  | sent transcript cycles left => exact .sent transcript (cycles + 1) left
  | refused number => exact .refused number

/-- The transcript is sent unless the utterance comes to a number without a word. -/
theorem finalize_concluded {world : World} {verdict : Except Nat String}
    (comes : Transcribes outside decoder world verdict) (others : List (List Float32)) :
    let run := finalize outside decoder world
    Concluded verdict (run.answer.map fun _ => .ended 1 others) (messagesOf run.record) := by
  intro run
  have silent : messagesOf (finalTranscript outside decoder world).record = [] :=
    messagesOf_finalTranscript world
  have answered := comes.answer_eq
  cases verdict with
  | ok transcript =>
    have went : run = _ := Action.bind_ok answered _
    rw [went, Outcome.after_record, messagesOf_append, silent]
    exact .sent transcript 1 others
  | error number =>
    have stopped : run = _ := Action.bind_error answered _
    rw [stopped, silent]
    exact .refused number

/-- **A row of chunks in which an utterance ends** is answered by what it comes to. -/
theorem ReachesEnd.concluded {chunks : List (List Float32)} {cycle : Cycle World} {world : World}
    {verdict : Except Nat String} (reaches : ReachesEnd outside decoder chunks cycle world)
    (comes : Transcribes outside decoder world verdict) :
    let row := decodeChunks outside decoder chunks cycle
    Concluded verdict row.answer (messagesOf row.record) := by
  induction reaches with
  | @here chunk others cycle decoded raised =>
    intro row
    have went : row = _ := Action.bind_ok decoded _
    rw [Action.state_bind, if_pos raised, Action.bind_pure_run] at went
    rw [went, Outcome.after_answer, Outcome.after_record, messagesOf_append,
      messagesOf_decodeChunk, List.nil_append]
    exact finalize_concluded comes others
  | @later chunk others cycle world decoded lowered _ ih =>
    intro row
    have went : row = _ := Action.bind_ok decoded _
    rw [Action.state_bind, if_neg (by simp [lowered]), Action.bind_pure_run] at went
    rw [went, Outcome.after_answer, Outcome.after_record, messagesOf_append,
      messagesOf_decodeChunk, List.nil_append]
    exact (ih comes).succ

/-- A row of chunks in which no utterance ends sends nothing and does not say that one has. -/
theorem decodeChunks_of_not_reachesEnd {chunks : List (List Float32)} {cycle : Cycle World}
    (never : ∀ world, ¬ReachesEnd outside decoder chunks cycle world) :
    let row := decodeChunks outside decoder chunks cycle
    messagesOf row.record = [] ∧ ∀ cycles left, row.answer ≠ .ok (.ended cycles left) := by
  induction chunks generalizing cycle with
  | nil => exact ⟨rfl, nofun⟩
  | cons chunk others ih =>
    intro row
    cases decoded : (decodeChunk outside decoder chunk cycle).answer with
    | error error =>
      have stopped : row = _ := Action.bind_error decoded _
      rw [stopped]
      exact ⟨messagesOf_decodeChunk chunk cycle, nofun⟩
    | ok _ =>
      have went : row = _ := Action.bind_ok decoded _
      cases flag : (decodeChunk outside decoder chunk cycle).state.endpointDetected with
      | true => exact absurd (.here decoded flag) (never _)
      | false =>
        obtain ⟨silent, open'⟩ := ih fun world reaches => never world (.later decoded flag reaches)
        rw [Action.state_bind, if_neg (by simp [flag]), Action.bind_pure_run] at went
        rw [went, Outcome.after_record, messagesOf_append, messagesOf_decodeChunk]
        refine ⟨silent, fun cycles left ended => ?_⟩
        rw [Outcome.after_answer] at ended
        cases answered : (decodeChunks outside decoder others _).answer with
        | error error =>
          rw [answered] at ended
          cases ended
        | ok delivery =>
          rw [answered] at ended
          cases delivery with
          | complete cycles => cases ended
          | ended cycles left => exact open' cycles left answered

end Row

/-! ## Fragments -/

/-- With this fragment of audio an utterance ends in a world. -/
structure Stage.EndsIn (outside : Collaborators World) (stage : Stage World)
    (samples : List Float32) (resources : Resources) (world : World) : Prop where
  takes : stage.session.Takes resources
  reaches : ReachesEnd outside (stage.session.decoder resources) (resources.chunks samples)
    ⟨stage.world, resources.timing, false⟩ world

section Fragment

variable {outside : Collaborators World} {stage : Stage World} {samples : List Float32}

theorem Stage.EndsIn.concluded {resources : Resources} {world : World}
    {verdict : Except Nat String} (ends : stage.EndsIn outside samples resources world)
    (comes : Transcribes outside (stage.session.decoder resources) world verdict) :
    let row := Session.row outside (resources.fed samples) (resources.chunks samples) stage
    Concluded verdict row.answer (messagesOf row.record) := by
  unfold Session.row
  rw [ends.takes.lowered]
  exact ends.reaches.concluded comes

/-- The transcript is sent, and the session is closed. -/
theorem Stage.EndsIn.sent {resources : Resources} {world : World} {transcript : String}
    (ends : stage.EndsIn outside samples resources world)
    (comes : Transcribes outside (stage.session.decoder resources) world (.ok transcript)) :
    let run := Session.acceptAudio outside samples stage
    (∃ cycles, run.answer = .ok cycles) ∧ messagesOf run.record = [.transcript transcript] ∧
      run.state.session.state = .finalized := by
  have concluded := ends.concluded comes
  dsimp only at concluded ⊢
  rw [acceptAudio_of_takes outside ends.takes samples]
  generalize answered : Outcome.answer _ = answer at concluded
  generalize sent : messagesOf _ = messages at concluded
  cases concluded with
  | sent _ cycles left =>
    obtain ⟨notices, delivered⟩ := deliver_of_ended answered (resources.rest samples)
    rw [delivered, messagesOf_append, sent, messagesOf_notices]
    exact ⟨⟨cycles, rfl⟩, rfl, rfl⟩

/-- The fragment fails at a number without a word, and the session stays open. -/
theorem Stage.EndsIn.refused {resources : Resources} {world : World} {number : Nat}
    (ends : stage.EndsIn outside samples resources world)
    (comes : Transcribes outside (stage.session.decoder resources) world (.error number)) :
    let run := Session.acceptAudio outside samples stage
    run.answer = .error (.unknownSymbol number) ∧ messagesOf run.record = [] ∧
      run.state.session.state = stage.session.state := by
  have concluded := ends.concluded comes
  dsimp only at concluded ⊢
  rw [acceptAudio_of_takes outside ends.takes samples]
  generalize answered : Outcome.answer _ = answer at concluded
  generalize sent : messagesOf _ = messages at concluded
  cases concluded with
  | refused _ =>
    rw [deliver_of_error answered]
    exact ⟨rfl, sent, rfl⟩

theorem row_of_not_endsIn {resources : Resources} (takes : stage.session.Takes resources)
    (never : ∀ world, ¬stage.EndsIn outside samples resources world) :
    let row := Session.row outside (resources.fed samples) (resources.chunks samples) stage
    messagesOf row.record = [] ∧ ∀ cycles left, row.answer ≠ .ok (.ended cycles left) := by
  unfold Session.row
  rw [takes.lowered]
  exact decodeChunks_of_not_reachesEnd fun world reaches => never world ⟨takes, reaches⟩

theorem acceptAudio_of_not_endsIn
    (never : ∀ resources world, ¬stage.EndsIn outside samples resources world) :
    let run := Session.acceptAudio outside samples stage
    messagesOf run.record = [] ∧ run.state.session.state = stage.session.state := by
  intro run
  by_cases idle : ∀ resources, ¬stage.session.Takes resources
  · have step := acceptAudio_step outside samples stage
    rw [← messagesOf_landmarksOf]
    dsimp only at step
    change AudioStep _ _ run.answer run.state.session (landmarksOf run.record) at step
    generalize run.answer = answer, run.state.session = session,
      landmarksOf run.record = landmarks at step
    cases step with
    | disabled | released | reported => exact ⟨rfl, rfl⟩
    | failed resources takes | complete resources takes | ended resources takes =>
      exact absurd takes (idle resources)
  · obtain ⟨resources, takes⟩ := not_forall_not.mp idle
    have ran : run = _ := acceptAudio_of_takes outside takes samples
    obtain ⟨silent, open'⟩ := row_of_not_endsIn takes fun world => never resources world
    cases answered : (Session.row outside (resources.fed samples) (resources.chunks samples)
        stage).answer with
    | error error =>
      rw [ran, deliver_of_error answered]
      exact ⟨silent, rfl⟩
    | ok delivery =>
      cases delivery with
      | complete cycles =>
        rw [ran, deliver_of_complete answered]
        exact ⟨silent, rfl⟩
      | ended cycles left => exact absurd answered (open' cycles left)

end Fragment

/-- **The transcript of an utterance.**  If an utterance ends with a fragment of audio, it comes to
one thing.  If that is a transcript, the transcript is sent, and the session is closed.  If it is a
number without a word, the fragment fails at it, nothing is sent, and the session stays open.  A
cost or a limit that is no number makes for the empty transcript.

If no utterance ends with the fragment nothing is sent and the session is not closed. -/
theorem acceptAudio_transcript (outside : Collaborators World) (stage : Stage World)
    (samples : List Float32) :
    let run := Session.acceptAudio outside samples stage
    (∀ resources world, stage.EndsIn outside samples resources world →
      (∃! verdict, Transcribes outside (stage.session.decoder resources) world verdict) ∧
      (∀ transcript,
        Transcribes outside (stage.session.decoder resources) world (.ok transcript) →
          (∃ cycles, run.answer = .ok cycles) ∧
          messagesOf run.record = [.transcript transcript] ∧
          run.state.session.state = .finalized) ∧
      (∀ number,
        Transcribes outside (stage.session.decoder resources) world (.error number) →
          run.answer = .error (.unknownSymbol number) ∧ messagesOf run.record = [] ∧
          run.state.session.state = stage.session.state) ∧
      ((outside.costAt resources.engine world).isNaN = true ∨
          stage.session.config.maxFinalCost.isNaN = true →
        Transcribes outside (stage.session.decoder resources) world (.ok ""))) ∧
    ((∀ resources world, ¬stage.EndsIn outside samples resources world) →
      messagesOf run.record = [] ∧ run.state.session.state = stage.session.state) := by
  exact ⟨fun resources world ends => ⟨existsUnique_transcribes .., fun _ => ends.sent,
    fun _ => ends.refused, fun none => .uncertain (not_le_of_isNaN none)⟩,
    acceptAudio_of_not_endsIn⟩

/-- A chunk of two samples ends an utterance of two words.  The partial result has one word only; if
the second one is unknown nothing is sent. -/
theorem acceptAudio_transcript_small :
    let stage := Rehearsal.smallStage 2.0
    let outside (words : List Nat) : Collaborators Rehearsal.World :=
      { (Rehearsal.smallScript (some 1) []).collaborators with
        bestPath _ world :=
          (some ⟨if world.advances = 1 then [1] else words, 1.0⟩, { world with advances := 2 }) }
    let known := Session.acceptAudio (outside [1, 1]) [0.0, 0.0] stage
    let unknown := Session.acceptAudio (outside [1, 2]) [0.0, 0.0] stage
    (messagesOf known.record = [.transcript "one one"] ∧
        known.state.session.state = .finalized) ∧
      unknown.answer = .error (.unknownSymbol 2) ∧ messagesOf unknown.record = [] := by
  intro stage outside known unknown
  have capacity : (Rehearsal.smallConfig 2.0).chunkCapacity 1.0 = 2 := by decide +kernel
  have tick : Int64.ofInt ((Rehearsal.smallConfig 2.0).samplesPerTick 1.0) = 1 := by decide +kernel
  let resources : Resources := ⟨⟨1⟩, .start 1 1 none, .ofRequest 2, .start 1.0 1⟩
  have held : stage.session.resources = some resources := by
    show some (Resources.mk _ _ (.ofRequest _) (.start _ (Int64.ofInt _))) = _
    rw [capacity, tick]
  let chunk : List Float32 := [0.0 * sampleScale, 0.0 * sampleScale]
  have cut : resources.chunks [0.0, 0.0] = [chunk] := by
    have full : resources.accumulator.cut chunk = _ :=
      Audio.Accumulator.cut_of_full (List.cons_ne_nil _ _) rfl
    exact (congrArg Prod.fst full).trans
      (congrArg (_ :: ·) (congrArg Prod.fst (Audio.Accumulator.cut_nil _)))
  let last (words : List Nat) : Rehearsal.World :=
    (decodeChunk (outside words) (stage.session.decoder resources) chunk
      ⟨stage.world, resources.timing, false⟩).state.world
  have ends (words : List Nat) (heard : words = [1, 1] ∨ words = [1, 2]) :
      stage.EndsIn (outside words) [0.0, 0.0] resources (last words) := by
    refine ⟨⟨rfl, held, rfl⟩, ?_⟩
    rw [cut]
    rcases heard with rfl | rfl
    · exact .here (eq_ok_of_toOption (by decide +kernel)) (by decide +kernel)
    · exact .here (eq_ok_of_toOption (by decide +kernel)) (by decide +kernel)
  have best (words : List Nat) (heard : words = [1, 1] ∨ words = [1, 2]) :
      ∃ path, (outside words).pathAt ⟨1⟩ (last words) = some path ∧ path.words = words := by
    refine Option.map_eq_some_iff.mp ?_
    rcases heard with rfl | rfl
    · decide +kernel
    · decide +kernel
  constructor
  · have heard : [1, 1] = [1, 1] ∨ [1, 1] = [1, 2] := .inl rfl
    obtain ⟨path, found, spelled⟩ := best _ heard
    have comes : Transcribes (outside [1, 1]) (stage.session.decoder resources) (last [1, 1])
        (.ok "one one") :=
      @Transcribes.spelled _ _ _ _ (by decide +kernel) (by decide +kernel) _ found ["one", "one"]
        (by rw [spelled]; rfl)
    exact (((acceptAudio_transcript _ stage _).1 resources _ (ends _ heard)).2.1 _ comes).2
  · have heard : [1, 2] = [1, 1] ∨ [1, 2] = [1, 2] := .inr rfl
    obtain ⟨path, found, spelled⟩ := best _ heard
    have comes : Transcribes (outside [1, 2]) (stage.session.decoder resources) (last [1, 2])
        (.error 2) :=
      @Transcribes.unknown _ _ _ _ (by decide +kernel) (by decide +kernel) _ found [1] [] 2 spelled
        (List.forall_mem_singleton.mpr ⟨"one", rfl⟩) rfl
    have refused := ((acceptAudio_transcript _ stage _).1 resources _ (ends _ heard)).2.2.1 _ comes
    exact ⟨refused.1, refused.2.1⟩

end LiveSpeech
