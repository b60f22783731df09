import LiveSpeech.Proofs.Fragments

/-!
# No sample is lost

What a newly made session hears is compared with a resampler of its own that is fed the same
fragments (`audio_conserved`).  As long as no end is reported, the chunks that were passed on
and what is still held are all samples of that resampler, in order.  If the end is reported,
the chunks before the report are the beginning of them, and everything else is dropped.

All fragments of a run come to the same as one (`acceptAll_alike_flatten`), so that one cutting
of the whole stretch has to be looked at, and no invariant between fragments is needed.
-/

namespace LiveSpeech

set_option autoImplicit false

open LiveSpeech.Audio

variable {World : Type}

/-! ## What is to be shown -/

/-- The session holds these samples for its next chunk. -/
def Session.Holds (session : Session) (samples : List Float32) : Prop :=
  ∃ resources, session.resources = some resources ∧ resources.accumulator.held = samples

/-- The samples that a record has passed on, and those still held, are the samples of `whole`:
all of them, or the beginning up to the cycle in which the end was reported. -/
structure Conserved (capacity : Nat) (rate : Float32) (whole : List Float32) (cycles : Nat)
    (record : List Event) (held : List Float32) : Prop where
  /-- Every chunk is complete, and at the rate of the engine. -/
  chunk : ∀ {engine nativeRate samples answer},
    .call (.acceptWaveform engine nativeRate samples answer) ∈ record →
      nativeRate = rate ∧ samples.length = capacity
  /-- Every chunk is a cycle. -/
  counted : (chunksOf record).length = cycles
  /-- Without an end, all samples were passed on in complete chunks or are held. -/
  unended : ¬EndReported record →
    (chunksOf record).flatten ++ held = whole ∧ cycles = whole.length / capacity ∧
      held.length = whole.length % capacity
  /-- With an end, the chunks up to it are the beginning, and the rest is dropped. -/
  ended : ∀ {before event after}, record = before ++ event :: after →
    event.reportsEnd = true →
      (chunksOf before).length = cycles ∧
        (chunksOf before).flatten = whole.take (cycles * capacity) ∧
        cycles * capacity ≤ whole.length ∧ chunksOf after = [] ∧ held = []

/-- What was conserved can be seen in the landmarks. -/
theorem Conserved.of_landmarks {capacity cycles : Nat} {rate : Float32}
    {whole held : List Float32} {record : List Event}
    (conserved : Conserved capacity rate whole cycles (landmarksOf record) held) :
    Conserved capacity rate whole cycles record held where
  chunk := fun member => conserved.chunk ((mem_landmarksOf rfl record).mpr member)
  counted := by rw [← conserved.counted, chunksOf_landmarksOf]
  unended := fun unended => by
    have all := conserved.unended (mt (endReported_landmarksOf record).mp unended)
    rwa [chunksOf_landmarksOf] at all
  ended := by
    intro before event after parts reports
    have loud : landmarksOf (event :: after) = event :: landmarksOf after :=
      List.filter_cons_of_pos (by simp [Event.isQuiet_of_reportsEnd reports])
    have ended := conserved.ended (by rw [parts, landmarksOf_append, loud]) reports
    rwa [chunksOf_landmarksOf, chunksOf_landmarksOf] at ended

/-! ## One stretch of audio -/

section Stretch

variable {session : Session} {resources : Resources} {samples : List Float32}

theorem conserved_of_complete (empty : resources.accumulator.held = []) {cycles : Nat}
    {timing : TimingGate} {flag : Bool} {landmarks : List Event}
    (row : RowStep (session.decoder resources) (resources.chunks samples) resources.timing false
      (.ok (.complete cycles)) timing flag landmarks) :
    Conserved resources.accumulator.capacity session.models.nativeRate (resources.frames samples)
      cycles landmarks (resources.rest samples).held where
  chunk := by
    intro engine nativeRate chunk answer member
    obtain ⟨_, rated, among⟩ := row.passed_of_mem member
    exact ⟨rated, Accumulator.length_of_mem_cut _ _ _ among⟩
  counted := by
    cases row.rowEnd rfl with
    | complete passed => rw [passed]
  unended := by
    intro _
    have all := Accumulator.cut_flatten resources.accumulator (resources.frames samples)
    have counts := Accumulator.cut_count empty (resources.frames samples)
    rw [empty, List.nil_append] at all
    cases row.rowEnd rfl with
    | complete passed =>
      rw [passed]
      exact ⟨all, counts⟩
  ended := by
    intro before event after parts reports
    cases row.rowEnd rfl with
    | complete _ _ unreported =>
      exact absurd ⟨event, by simp [parts], reports⟩ unreported

theorem conserved_of_ended (empty : resources.accumulator.held = []) {cycles : Nat}
    {left : List (List Float32)} {timing : TimingGate} {flag : Bool} {landmarks : List Event}
    (row : RowStep (session.decoder resources) (resources.chunks samples) resources.timing false
      (.ok (.ended cycles left)) timing flag landmarks) :
    Conserved resources.accumulator.capacity session.models.nativeRate (resources.frames samples)
      cycles landmarks [] where
  chunk := by
    intro engine nativeRate chunk answer member
    obtain ⟨_, rated, among⟩ := row.passed_of_mem member
    exact ⟨rated, Accumulator.length_of_mem_cut _ _ _ among⟩
  counted := by
    cases row.rowEnd rfl with
    | ended heard left parts passed => rw [passed]
  unended := by
    intro unended
    cases row.rowEnd rfl with
    | ended _ _ _ _ _ _ reported => exact absurd reported unended
  ended := by
    intro before event after parts reports
    have all := Accumulator.cut_flatten resources.accumulator (resources.frames samples)
    rw [empty, List.nil_append] at all
    have sizes := Accumulator.length_of_mem_cut resources.accumulator (resources.frames samples)
    cases row.rowEnd rfl with
    | ended heard left chunks passed _ _ _ last =>
      subst parts
      have nothing := last.chunksOf_eq_nil reports
      have early : chunksOf before = heard := by
        rwa [chunksOf_append, chunksOf_cons_of_reportsEnd reports, nothing, List.append_nil]
          at passed
      have length : heard.flatten.length = heard.length * resources.accumulator.capacity :=
        Accumulator.length_flatten_of_mem fun chunk member =>
          sizes chunk (by
            show chunk ∈ resources.chunks samples
            rw [chunks]
            exact List.mem_append_left _ member)
      have beginning : heard.flatten <+: resources.frames samples := by
        refine ⟨left.flatten ++ (resources.rest samples).held, ?_⟩
        rw [← List.append_assoc, ← List.flatten_append, ← chunks]
        exact all
      rw [early]
      refine ⟨rfl, ?_, ?_, nothing, rfl⟩
      · rw [← length]
        exact List.prefix_iff_eq_take.mp beginning
      · rw [← length]
        exact beginning.length_le

/-- One stretch of audio in a session that holds nothing is conserved. -/
theorem AudioStep.conserved {cycles : Nat} {session' : Session} {landmarks : List Event}
    (step : AudioStep session samples (.ok cycles) session' landmarks)
    (takes : session.Takes resources) (empty : resources.accumulator.held = []) :
    ∃ held, session'.Holds held ∧
      Conserved resources.accumulator.capacity session.models.nativeRate
        (resources.frames samples) cycles landmarks held ∧
      (EndReported landmarks → session'.enabled = false) := by
  cases step with
  | disabled disabled => exact absurd (disabled.symm.trans takes.enabled) Bool.false_ne_true
  | reported _ _ _ reported =>
    exact absurd (takes.lowered.symm.trans reported) Bool.false_ne_true
  | complete other takes' row =>
    obtain rfl : other = resources := Option.some.inj (takes'.held.symm.trans takes.held)
    refine ⟨_, ⟨_, rfl, rfl⟩, conserved_of_complete empty row, fun reported => ?_⟩
    cases row.rowEnd rfl with
    | complete _ _ unreported => exact absurd reported unreported
  | ended other takes' row =>
    obtain rfl : other = resources := Option.some.inj (takes'.held.symm.trans takes.held)
    exact ⟨_, ⟨_, rfl, rfl⟩, conserved_of_ended empty row, fun _ => rfl⟩

/-- A fragment passes no more chunks on than there are samples for. -/
theorem AudioStep.chunks_le {answer : Except SessionError Nat} {session' : Session}
    {landmarks : List Event} (step : AudioStep session samples answer session' landmarks)
    (held : session.resources = some resources) :
    (chunksOf landmarks).length * resources.accumulator.capacity ≤
      resources.accumulator.held.length + (resources.frames samples).length := by
  have bound {passed : List (List Float32)} (some : passed <+: resources.chunks samples) :
      passed.length * resources.accumulator.capacity ≤
        resources.accumulator.held.length + (resources.frames samples).length := by
    have total := Accumulator.cut_length resources.accumulator (resources.frames samples)
    have few := Nat.mul_le_mul_right resources.accumulator.capacity some.length_le
    rw [Resources.chunks] at few
    omega
  have same {other : Resources} (takes : session.Takes other) : other = resources :=
    Option.some.inj (takes.held.symm.trans held)
  cases step with
  | disabled | released | reported => exact bound List.nil_prefix
  | failed other takes row =>
    obtain rfl := same takes
    cases row.rowEnd rfl with
    | error passed => exact bound passed
  | complete other takes row =>
    obtain rfl := same takes
    cases row.rowEnd rfl with
    | complete passed => exact bound (passed ▸ List.prefix_rfl)
  | ended other takes row =>
    obtain rfl := same takes
    cases row.rowEnd rfl with
    | ended heard left parts passed => exact bound ⟨_, by rw [parts, passed]⟩

end Stretch

/-! ## A session from its beginning -/

/-- The session was built or started over, and then started, and has heard nothing since. -/
inductive NewlyListening (outside : Collaborators World) : Session → Prop where
  /-- It was built. -/
  | built (models : Models) (symbols : SymbolTable) (config : Config) {before after : World}
      {session : Session}
      (created : (Session.create outside models symbols config before).answer = .ok session) :
      NewlyListening outside
        ((Session.start : Action (Stage World) SessionError Unit) ⟨after, session⟩).state.session
  /-- It was started over. -/
  | startedOver (stage : Stage World) {after : World}
      (reset : (Session.reset outside stage).answer = .ok ()) :
      NewlyListening outside ((Session.start : Action (Stage World) SessionError Unit)
        ⟨after, (Session.reset outside stage).state.session⟩).state.session

/-- The same converters are made everywhere. -/
def Collaborators.ConvertsAlike (outside : Collaborators World) : Prop :=
  ∀ given wanted world other,
    (outside.makeConverter given wanted world).1 = (outside.makeConverter given wanted other).1

/-- Where the same converters are made everywhere there is one resampler between two rates. -/
theorem makes_unique {outside : Collaborators World}
    (alike : outside.ConvertsAlike) {inputRate outputRate : Float32} {one other : Resampler}
    (makes : outside.Makes inputRate outputRate one)
    (makes' : outside.Makes inputRate outputRate other) : one = other := by
  have converted (given wanted : Nat) (world world' : World) :
      (makeConverter outside given wanted world).answer =
        (makeConverter outside given wanted world').answer := by
    by_cases equal : given = wanted
    · rw [makeConverter, if_pos equal]
      rfl
    · rw [makeConverter_run outside equal, makeConverter_run outside equal,
        alike given wanted world world']
  have resampled (world world' : World) :
      (makeResampler outside inputRate outputRate world).answer =
        (makeResampler outside inputRate outputRate world').answer := by
    unfold makeResampler
    cases wholeHertz inputRate with
    | error => rfl
    | ok given =>
      cases wholeHertz outputRate with
      | error => rfl
      | ok wanted =>
        have made (world : World) : ((makeConverter outside given wanted >>= fun converter =>
            .note (.resampling given wanted) >>= fun _ => pure (.start given wanted converter) :
              Action World ResamplerFailure Resampler) world).answer =
            (makeConverter outside given wanted world).answer.map (.start given wanted) := by
          cases answered : (makeConverter outside given wanted world).answer with
          | error failure => rw [Action.bind_error answered]; rfl
          | ok converter => rw [Action.bind_ok answered]; rfl
        exact (made world).trans ((congrArg _ (converted given wanted world world')).trans
          (made world').symm)
  obtain ⟨world, made⟩ := makes
  obtain ⟨world', made'⟩ := makes'
  exact Except.ok.inj (made.symm.trans ((resampled world world').trans made'))

/-- A session that newly listens takes audio with what was made for it. -/
theorem NewlyListening.takes {outside : Collaborators World} {session : Session}
    (listens : NewlyListening outside session) :
    ∃ resources, session.Takes resources ∧
      resources.MadeFor session.models session.config ∧
      outside.Makes session.config.rate session.models.nativeRate resources.resampler := by
  cases listens with
  | built models symbols config created =>
    obtain ⟨built, record, step, answer, _⟩ := create_step outside models symbols config _
    rw [created] at answer
    cases step with
    | noEngine | noFeed => cases answer
    | made resources step anew =>
      cases answer
      exact ⟨resources, ⟨rfl, rfl, rfl⟩, anew, step.makes⟩
  | startedOver stage reset =>
    obtain ⟨built, record, step, answer, session, _⟩ := reset_step outside stage
    rw [reset] at answer
    rw [session]
    cases step with
    | noEngine | noFeed => cases answer
    | made resources step anew => exact ⟨resources, ⟨rfl, rfl, rfl⟩, anew, step.makes⟩

/-- Sessions that are alike hold the same samples. -/
theorem Session.Alike.holds {first second : Session} (alike : first.Alike second)
    {samples : List Float32} (holds : second.Holds samples) : first.Holds samples := by
  obtain ⟨resources, made, rfl⟩ := holds
  have same := alike.resources
  rw [made] at same
  obtain ⟨other, made', views⟩ := Option.map_eq_some_iff.mp same
  exact ⟨other, made', congrArg (fun view => view.2.1.held) views⟩

/-- A run of fragments without a failure conserves its samples. -/
theorem acceptAll_conserved {outside : Collaborators World} {stage : Stage World}
    {resources : Resources} (takes : stage.session.Takes resources)
    (empty : resources.accumulator.held = []) {fragments : List (List Float32)} {cycles : Nat}
    (accepted : (Session.acceptAll outside fragments stage).answer = .ok cycles) :
    let run := Session.acceptAll outside fragments stage
    ∃ held, run.state.session.Holds held ∧
      Conserved resources.accumulator.capacity stage.session.models.nativeRate
        ((resources.resampler.feedAll fragments).1.map (· * sampleScale)) cycles run.record held ∧
      (EndReported run.record → run.state.session.enabled = false) := by
  intro run
  cases fragments with
  | nil =>
    cases accepted
    refine ⟨[], ⟨resources, takes.held, empty⟩, ?_, fun reported => ?_⟩
    · have nothing {before after : List Event} {event : Event} :
          [] ≠ before ++ event :: after :=
        (List.append_ne_nil_of_right_ne_nil _ (List.cons_ne_nil _ _)).symm
      exact ⟨nofun, rfl, fun _ => ⟨rfl, (Nat.zero_div _).symm, (Nat.zero_mod _).symm⟩,
        fun parts _ => absurd parts nothing⟩
    · obtain ⟨_, member, _⟩ := reported
      cases member
  | cons fragment others =>
    have alike := acceptAll_alike_flatten outside fragment others stage
    have once := acceptAudio_step outside (fragment :: others).flatten stage
    dsimp only at once
    rw [← alike.answer, accepted, ← landmarksOf_effectsOf, ← alike.effects,
      landmarksOf_effectsOf] at once
    obtain ⟨held, holds, conserved, closed⟩ := once.conserved takes empty
    rw [Resampler.feedAll_eq_feed]
    refine ⟨held, alike.session.holds holds, conserved.of_landmarks, fun reported => ?_⟩
    exact alike.session.enabled.trans (closed ((endReported_landmarksOf _).mpr reported))

/-- **No sample is lost, and none is passed on twice.**  A fragment passes no more chunks on than
there are samples for.  A session that newly listens and does not fail passes on what a resampler
of its own yields for the same fragments: the chunks and the samples still held are all of them,
unless the end was reported, with which everything behind it is dropped.  Where the same converters
are made everywhere, any resampler that is made between the two rates will do. -/
theorem audio_conserved (outside : Collaborators World) :
    (∀ (stage : Stage World) (resources : Resources) (samples : List Float32),
      stage.session.resources = some resources →
        (chunksOf (Session.acceptAudio outside samples stage).record).length *
            resources.accumulator.capacity ≤
          resources.accumulator.held.length + (resources.resampler.feed samples).1.length) ∧
      ∀ (stage : Stage World) (fragments : List (List Float32)) (cycles : Nat),
        NewlyListening outside stage.session →
        (Session.acceptAll outside fragments stage).answer = .ok cycles →
          let config := stage.session.config
          let nativeRate := stage.session.models.nativeRate
          let run := Session.acceptAll outside fragments stage
          ∃ reference held, outside.Makes config.rate nativeRate reference ∧
            (outside.ConvertsAlike →
              ∀ other, outside.Makes config.rate nativeRate other → other = reference) ∧
            run.state.session.Holds held ∧
            Conserved (config.chunkCapacity nativeRate) nativeRate
              ((reference.feedAll fragments).1.map (· * sampleScale)) cycles run.record held ∧
            (EndReported run.record → ∀ later,
              Session.acceptAudio outside later run.state = ⟨.ok 0, run.state, []⟩) := by
  constructor
  · intro stage resources samples held
    have bound := (acceptAudio_step outside samples stage).chunks_le held
    rwa [chunksOf_landmarksOf, Resources.frames, List.length_map] at bound
  · intro stage fragments cycles listens accepted config nativeRate run
    obtain ⟨resources, takes, anew, makes⟩ := listens.takes
    have accumulator := congrArg Resources.accumulator anew.made
    have capacity : resources.accumulator.capacity = config.chunkCapacity nativeRate := by
      rw [accumulator]
      exact max_chunkCapacity config nativeRate
    obtain ⟨held, holds, conserved, closed⟩ :=
      acceptAll_conserved takes (by rw [accumulator]; rfl) accepted
    rw [capacity] at conserved
    exact ⟨resources.resampler, held, makes,
      fun alike _ other => makes_unique alike other makes, holds, conserved,
      fun reported later => acceptAudio_of_disabled outside (closed reported) later⟩

/-- Three samples in chunks of two: a chunk is passed on, and a sample is held. -/
theorem audio_conserved_small :
    let outside := (Rehearsal.smallScript none [1]).collaborators
    let stage := Rehearsal.smallStage 2.0
    let fragments := [[0.5], [], [0.25, 0.125]]
    let run := Session.acceptAll outside fragments stage
    NewlyListening outside stage.session ∧ run.answer = .ok 1 ∧
      (chunksOf (Session.acceptAudio outside [0.5, 0.25, 0.125] stage).record).length * 2 ≤ 3 ∧
      ∃ reference held, outside.Makes 1.0 1.0 reference ∧ run.state.session.Holds held ∧
        Conserved 2 1.0 ((reference.feedAll fragments).1.map (· * sampleScale)) 1 run.record
          held := by
  intro outside stage fragments run
  have listens : NewlyListening outside stage.session :=
    @NewlyListening.built _ outside Rehearsal.smallModels Rehearsal.smallSymbols
      (Rehearsal.smallConfig 2.0) .initial .initial (Rehearsal.smallSession 2.0) rfl
  have accepted : run.answer = .ok 1 := eq_ok_of_toOption (by decide +kernel)
  have capacity : (Rehearsal.smallConfig 2.0).chunkCapacity 1.0 = 2 := by decide +kernel
  have bound := (audio_conserved outside).1 stage _ [0.5, 0.25, 0.125] rfl
  rw [capacity] at bound
  obtain ⟨reference, held, makes, _, holds, conserved, _⟩ :=
    (audio_conserved outside).2 stage fragments 1 listens accepted
  exact ⟨listens, accepted, bound, reference, held, makes, holds, capacity ▸ conserved⟩

end LiveSpeech
