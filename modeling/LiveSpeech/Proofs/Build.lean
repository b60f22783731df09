import LiveSpeech.Proofs.Action
import LiveSpeech.Proofs.Landmarks
import LiveSpeech.Session.Build

/-!
# What building a session can do

What feeds an engine is made in steps, and each of them can come to nothing: a rate is refused,
there is no converter, or no memory for a chunk (`FeedStep`).  If it comes to nothing the engine
is let go, and else there is all that is needed (`BuildStep`).  What is built depends on nothing but
the models, the configuration and the converter, the engine apart (`Resources.MadeFor`).

Building breaks off if a collaborator does, and for no other reason (`BuildStep.breakdownsOf_eq`).
Nothing that is done on the way is a landmark.
-/

namespace LiveSpeech

set_option autoImplicit false

open LiveSpeech.Audio

variable {World : Type}

/-! ## Breaking off -/

/-- What a collaborator has broken off with. -/
def Event.breakdown? : Event → Option Breakdown
  | .call (.makeConverter _ _ (.error (.broken why))) => some why
  | .call (.reserve _ (.error why)) => some why
  | _ => none

/-- What collaborators have broken off with. -/
def breakdownsOf (record : List Event) : List Breakdown := record.filterMap Event.breakdown?

@[simp] theorem breakdownsOf_append (first second : List Event) :
    breakdownsOf (first ++ second) = breakdownsOf first ++ breakdownsOf second :=
  List.filterMap_append

theorem breakdownsOf_eq_nil {record : List Event}
    (sound : ∀ event ∈ record, event.breakdown? = none) : breakdownsOf record = [] :=
  List.filterMap_eq_nil_iff.mpr sound

/-- What an action has broken off with. -/
def breakdownOf {Answer : Type} : Except Failure Answer → Option Breakdown
  | .error (.broken why) => some why
  | _ => none

/-! ## What feeds an engine -/

/-- What is made anew for models and a configuration, with an engine. -/
def Resources.make (models : Models) (config : Config) (engine : Engine) (resampler : Resampler) :
    Resources where
  engine := engine
  resampler := resampler
  accumulator := .ofRequest (config.chunkCapacity models.nativeRate)
  timing := .start models.nativeRate (Int64.ofInt (config.samplesPerTick models.nativeRate))

theorem max_chunkCapacity (config : Config) (nativeRate : Float32) :
    max (config.chunkCapacity nativeRate) 1 = config.chunkCapacity nativeRate :=
  Nat.max_eq_left (Nat.le_max_left 1 _)

/-- The rates of the audio and of the models are accepted, and there is a converter between them
unless they are equal. -/
structure Rated (models : Models) (config : Config) (given wanted : Nat)
    (kind : Option Transducer) : Prop where
  accepts : wholeHertz config.rate = .ok given
  yields : wholeHertz models.nativeRate = .ok wanted
  different : kind.isSome = true ↔ given ≠ wanted

/-- The resampler is made somewhere between these rates. -/
def Collaborators.Makes (outside : Collaborators World) (inputRate outputRate : Float32)
    (resampler : Resampler) : Prop :=
  ∃ world, (makeResampler outside inputRate outputRate world).answer = .ok resampler

/-- What is recorded of a resampler that is made. -/
def resampling (given wanted : Nat) (kind : Option Transducer) : List Event :=
  kind.toList.map (fun kind => .call (.makeConverter given wanted (.ok kind))) ++
    [.note (.resampling given wanted)]

/-- Resources before any audio. -/
structure Resources.MadeFor (models : Models) (config : Config) (resources : Resources) : Prop where
  rated : ∃ given wanted kind, Rated models config given wanted kind ∧
    resources.resampler = .start given wanted (kind.map .ofKind)
  made : resources = .make models config resources.engine resources.resampler

/-- The ends of making what feeds an engine, and what is recorded on the way. -/
inductive FeedStep (outside : Collaborators World) (models : Models) (config : Config) :
    Except Failure (Resampler × Accumulator) → List Event → Prop where
  /-- One of the rates is refused, that of the audio first. -/
  | badRate (cause : RateError)
      (refused : wholeHertz config.rate = .error cause ∨
        (wholeHertz config.rate).isOk ∧ wholeHertz models.nativeRate = .error cause) :
      FeedStep outside models config (.error (.error (.resample cause))) []
  /-- There is no converter. -/
  | noConverter {given wanted : Nat} (fault : ConverterFault)
      (accepts : wholeHertz config.rate = .ok given)
      (yields : wholeHertz models.nativeRate = .ok wanted) (distinct : given ≠ wanted)
      (asked : ∃ world, (outside.makeConverter given wanted world).1 = .error fault) :
      FeedStep outside models config (.error (.ofResampler (.ofConverterFault fault)))
        [.call (.makeConverter given wanted (.error fault))]
  /-- There is no memory for a chunk. -/
  | noMemory {given wanted : Nat} {kind : Option Transducer} (why : Breakdown)
      (rated : Rated models config given wanted kind)
      (asked : ∃ world,
        (outside.reserve (config.chunkCapacity models.nativeRate) world).1 = .error why) :
      FeedStep outside models config (.error (.broken why))
        (resampling given wanted kind ++
          [.call (.reserve (config.chunkCapacity models.nativeRate) (.error why))])
  /-- Everything is made. -/
  | made {given wanted : Nat} {kind : Option Transducer}
      (rated : Rated models config given wanted kind)
      (makes : outside.Makes config.rate models.nativeRate
        (.start given wanted (kind.map .ofKind)))
      (asked : ∃ world,
        (outside.reserve (config.chunkCapacity models.nativeRate) world).1 = .ok ()) :
      FeedStep outside models config
        (.ok (.start given wanted (kind.map .ofKind),
          .ofRequest (config.chunkCapacity models.nativeRate)))
        (resampling given wanted kind ++
          [.call (.reserve (config.chunkCapacity models.nativeRate) (.ok ()))])

theorem makeConverter_run (outside : Collaborators World) {given wanted : Nat}
    (distinct : given ≠ wanted) (world : World) :
    let reply := outside.makeConverter given wanted world
    makeConverter outside given wanted world =
      ⟨(reply.1.mapError .ofConverterFault).map fun kind => some (.ofKind kind), reply.2,
        [.call (.makeConverter given wanted reply.1)]⟩ := by
  intro reply
  rw [makeConverter, if_neg distinct, Action.ask_bind]
  show Outcome.after [.call (.makeConverter given wanted reply.1)] _ = _
  cases reply.1 <;> rfl

theorem makeAccumulator_run (outside : Collaborators World) (config : Config)
    (nativeRate : Float32) (world : World) :
    let capacity := config.chunkCapacity nativeRate
    let given := outside.reserve capacity world
    makeAccumulator outside capacity world =
      ⟨(given.1.mapError .broken).map fun _ => .ofRequest capacity, given.2,
        [.call (.reserve capacity given.1)]⟩ := by
  intro capacity given
  have room : (Accumulator.ofRequest capacity).capacity = capacity :=
    max_chunkCapacity config nativeRate
  rw [makeAccumulator, room, Action.ask_bind]
  show Outcome.after [.call (.reserve capacity given.1)] _ = _
  cases given.1 <;> rfl

/-- The last step: memory is asked for once there is a resampler. -/
theorem makeFeed_of_ok {outside : Collaborators World} {models : Models} {config : Config}
    {world : World} {given wanted : Nat} {kind : Option Transducer}
    (rated : Rated models config given wanted kind)
    (made : (makeResampler outside config.rate models.nativeRate world).answer =
      .ok (.start given wanted (kind.map .ofKind)))
    (recorded : (makeResampler outside config.rate models.nativeRate world).record =
      resampling given wanted kind) :
    let run := makeFeed outside models config world
    FeedStep outside models config run.answer run.record := by
  intro run
  have wrapped := Action.wrapFailure_run Failure.ofResampler
    (makeResampler outside config.rate models.nativeRate) world
  rw [made, recorded] at wrapped
  have ran : run = _ := Action.bind_ok (congrArg Outcome.answer wrapped) _
  rw [Action.bind_pure_run, makeAccumulator_run, wrapped] at ran
  dsimp only at ran
  cases reply : (outside.reserve (config.chunkCapacity models.nativeRate)
      (makeResampler outside config.rate models.nativeRate world).state).1 with
  | error why =>
    rw [reply] at ran
    rw [ran]
    exact .noMemory why rated ⟨_, reply⟩
  | ok =>
    rw [reply] at ran
    rw [ran]
    exact .made rated ⟨world, made⟩ ⟨_, reply⟩

theorem makeFeed_of_error {outside : Collaborators World} {models : Models} {config : Config}
    {world : World} {failure : ResamplerFailure}
    (failed : (makeResampler outside config.rate models.nativeRate world).answer =
      .error failure) :
    let run := makeFeed outside models config world
    run.answer = .error (.ofResampler failure) ∧
      run.record = (makeResampler outside config.rate models.nativeRate world).record := by
  intro run
  have wrapped := Action.wrapFailure_run Failure.ofResampler
    (makeResampler outside config.rate models.nativeRate) world
  rw [failed] at wrapped
  have ran : run = _ := Action.bind_error (congrArg Outcome.answer wrapped) _
  rw [ran, wrapped]
  exact ⟨rfl, rfl⟩

/-- **Making what feeds an engine comes to one of these ends.** -/
theorem makeFeed_step (outside : Collaborators World) (models : Models) (config : Config)
    (world : World) :
    let run := makeFeed outside models config world
    FeedStep outside models config run.answer run.record := by
  intro run
  cases accepts : wholeHertz config.rate with
  | error cause =>
    have resampled : makeResampler outside config.rate models.nativeRate world =
        ⟨.error (.error cause), world, []⟩ := by
      unfold makeResampler
      rw [accepts]
      rfl
    obtain ⟨answered, recorded⟩ := makeFeed_of_error (congrArg Outcome.answer resampled)
    rw [show run.answer = _ from answered, show run.record = _ from recorded, resampled]
    exact .badRate cause (.inl accepts)
  | ok given =>
    cases yields : wholeHertz models.nativeRate with
    | error cause =>
      have resampled : makeResampler outside config.rate models.nativeRate world =
          ⟨.error (.error cause), world, []⟩ := by
        unfold makeResampler
        rw [accepts, yields]
        rfl
      obtain ⟨answered, recorded⟩ := makeFeed_of_error (congrArg Outcome.answer resampled)
      rw [show run.answer = _ from answered, show run.record = _ from recorded, resampled]
      exact .badRate cause (.inr ⟨by rw [accepts]; rfl, yields⟩)
    | ok wanted =>
      have resampled : makeResampler outside config.rate models.nativeRate world =
          (makeConverter outside given wanted >>= fun converter =>
            .note (.resampling given wanted) >>= fun _ =>
              pure (.start given wanted converter)) world := by
        unfold makeResampler
        rw [accepts, yields]
        rfl
      by_cases equal : given = wanted
      · rw [makeConverter, if_pos equal] at resampled
        have rated : Rated models config given wanted none :=
          ⟨accepts, yields, iff_of_false nofun (not_not_intro equal)⟩
        exact makeFeed_of_ok rated (congrArg Outcome.answer resampled)
          (congrArg Outcome.record resampled)
      · have converted := makeConverter_run outside equal world
        dsimp only at converted
        cases reply : (outside.makeConverter given wanted world).1 with
        | error fault =>
          rw [reply] at converted
          rw [Action.bind_error (congrArg Outcome.answer converted), converted] at resampled
          obtain ⟨answered, recorded⟩ := makeFeed_of_error (congrArg Outcome.answer resampled)
          rw [show run.answer = _ from answered, show run.record = _ from recorded, resampled]
          exact .noConverter fault accepts yields equal ⟨world, reply⟩
        | ok kind =>
          rw [reply] at converted
          rw [Action.bind_ok (congrArg Outcome.answer converted), converted] at resampled
          have rated : Rated models config given wanted (some kind) :=
            ⟨accepts, yields, iff_of_true rfl equal⟩
          exact makeFeed_of_ok rated (congrArg Outcome.answer resampled)
            (congrArg Outcome.record resampled)

/-- The events that are recorded on the way to what feeds an engine. -/
def Event.isFeeding : Event → Bool
  | .note _ | .call (.makeConverter ..) | .call (.reserve ..) => true
  | _ => false

section Feed

variable {outside : Collaborators World} {models : Models} {config : Config}

theorem resampling_feeding (given wanted : Nat) (kind : Option Transducer) :
    ∀ event ∈ resampling given wanted kind, event.isFeeding = true ∧ event.breakdown? = none := by
  cases kind <;> simp [resampling, Event.isFeeding, Event.breakdown?]

theorem FeedStep.feeding {answer : Except Failure (Resampler × Accumulator)} {record : List Event}
    (step : FeedStep outside models config answer record) :
    ∀ event ∈ record, event.isFeeding = true := by
  intro event member
  cases step with
  | badRate => cases member
  | noConverter => rw [List.mem_singleton.mp member]; rfl
  | noMemory | made =>
    rcases List.mem_append.mp member with early | last
    · exact (resampling_feeding _ _ _ event early).1
    · rw [List.mem_singleton.mp last]
      rfl

/-- It breaks off if a collaborator does, and for no other reason. -/
theorem FeedStep.breakdownsOf_eq {answer : Except Failure (Resampler × Accumulator)}
    {record : List Event} (step : FeedStep outside models config answer record) :
    breakdownsOf record = (breakdownOf answer).toList := by
  have resampled {given wanted : Nat} {kind : Option Transducer} :
      breakdownsOf (resampling given wanted kind) = [] :=
    breakdownsOf_eq_nil fun event member => (resampling_feeding _ _ _ event member).2
  cases step with
  | badRate => rfl
  | noConverter fault => cases fault <;> rfl
  | noMemory | made =>
    rw [breakdownsOf_append, resampled]
    rfl

end Feed

/-! ## Building -/

/-- The ends of building resources, and what is recorded on the way. -/
inductive BuildStep (outside : Collaborators World) (models : Models) (config : Config) :
    Except Failure Resources → List Event → Prop where
  /-- There is no engine. -/
  | noEngine (cause : EngineError) :
      BuildStep outside models config (.error (.error (.engine cause)))
        [.call (.createEngine models (.error cause))]
  /-- There is nothing to feed the engine, and it is let go. -/
  | noFeed (engine : Engine) {failure : Failure} {feeding : List Event}
      (step : FeedStep outside models config (.error failure) feeding) :
      BuildStep outside models config (.error failure)
        (.call (.createEngine models (.ok engine)) :: (feeding ++ [.call (.releaseEngine engine)]))
  /-- Everything is made. -/
  | made (resources : Resources) {feeding : List Event}
      (step : FeedStep outside models config (.ok (resources.resampler, resources.accumulator))
        feeding)
      (anew : resources.MadeFor models config) :
      BuildStep outside models config (.ok resources)
        (.call (.createEngine models (.ok resources.engine)) :: feeding)

/-- What feeds an engine, together with it, is resources before any audio. -/
theorem FeedStep.madeFor {outside : Collaborators World} {models : Models} {config : Config}
    {resampler : Resampler} {accumulator : Accumulator} {record : List Event}
    (step : FeedStep outside models config (.ok (resampler, accumulator)) record)
    (engine : Engine) :
    accumulator = .ofRequest (config.chunkCapacity models.nativeRate) ∧
      (Resources.make models config engine resampler).MadeFor models config := by
  cases step with
  | made rated => exact ⟨rfl, ⟨_, _, _, rated, rfl⟩, rfl⟩

theorem FeedStep.makes {outside : Collaborators World} {models : Models} {config : Config}
    {resampler : Resampler} {accumulator : Accumulator} {record : List Event}
    (step : FeedStep outside models config (.ok (resampler, accumulator)) record) :
    outside.Makes config.rate models.nativeRate resampler := by
  cases step with
  | made _ makes => exact makes

/-- Makes what feeds an engine, and lets the engine go if that comes to nothing. -/
def feedEngine (outside : Collaborators World) (models : Models) (config : Config)
    (engine : Engine) : Action World Failure Resources := do
  let made ← (makeFeed outside models config).attempt
  match made with
  | .error failure =>
    .tell (outside.releaseEngine engine) (.releaseEngine engine)
    .fail failure
  | .ok (resampler, accumulator) => return {
      engine := engine
      resampler := resampler
      accumulator := accumulator
      timing := .start models.nativeRate
        (Int64.ofInt (config.samplesPerTick models.nativeRate)) }

theorem feedEngine_step (outside : Collaborators World) (models : Models) (config : Config)
    (engine : Engine) (world : World) :
    let run := feedEngine outside models config engine world
    BuildStep outside models config run.answer
      (.call (.createEngine models (.ok engine)) :: run.record) := by
  intro run
  have step := makeFeed_step outside models config world
  dsimp only at step
  have attempted : ((makeFeed outside models config).attempt world :
      Outcome World Failure _).answer = .ok _ := rfl
  have ran : run = _ := Action.bind_ok attempted _
  cases fed : (makeFeed outside models config world).answer with
  | error failure =>
    rw [fed] at ran step
    rw [ran]
    exact .noFeed engine step
  | ok feed =>
    obtain ⟨resampler, accumulator⟩ := feed
    rw [fed] at ran step
    obtain ⟨rfl, anew⟩ := step.madeFor engine
    rw [ran, Outcome.after_record]
    simp only [Action.pure_run, List.append_nil]
    exact .made (.make models config engine resampler) step anew

/-- **Building resources comes to one of these ends.** -/
theorem buildResources_step (outside : Collaborators World) (models : Models) (config : Config)
    (world : World) :
    let run := buildResources outside models config world
    BuildStep outside models config run.answer run.record := by
  intro run
  have ran : run = _ := Action.ask_bind _ _ _ world
  cases created : (outside.createEngine models world).1 with
  | error cause =>
    rw [created] at ran
    rw [ran]
    exact .noEngine cause
  | ok engine =>
    rw [created] at ran
    rw [ran]
    exact feedEngine_step outside models config engine _

section Steps

variable {outside : Collaborators World} {models : Models} {config : Config}
  {answer : Except Failure Resources} {record : List Event}

theorem BuildStep.quiet (step : BuildStep outside models config answer record) :
    ∀ event ∈ record, event.isQuiet = true := by
  have quiet {event : Event} (feeds : event.isFeeding = true) : event.isQuiet = true := by
    cases event with
    | call call => cases call <;> first | rfl | cases feeds
    | note => rfl
    | send => cases feeds
  cases step with
  | noEngine => simp [Event.isQuiet]
  | noFeed engine step =>
    simp only [List.mem_cons, List.mem_append, List.not_mem_nil, or_false]
    rintro event (rfl | among | rfl)
    · rfl
    · exact quiet (step.feeding event among)
    · rfl
  | made resources step =>
    intro event member
    rcases List.mem_cons.mp member with rfl | among
    · rfl
    · exact quiet (step.feeding event among)

/-- **Building breaks off if a collaborator does**, and for no other reason. -/
theorem BuildStep.breakdownsOf_eq (step : BuildStep outside models config answer record) :
    breakdownsOf record = (breakdownOf answer).toList := by
  cases step with
  | noEngine => rfl
  | @noFeed engine failure feeding step =>
    have same := step.breakdownsOf_eq
    rw [← List.singleton_append, breakdownsOf_append, breakdownsOf_append, same]
    cases failure <;> rfl
  | made resources step =>
    rw [← List.singleton_append, breakdownsOf_append, step.breakdownsOf_eq]
    rfl

end Steps

/-- The clock is started, and a session is made of the resources that are built then. -/
theorem create_run (outside : Collaborators World) (models : Models) (symbols : SymbolTable)
    (config : Config) (world : World) :
    let building := buildResources outside models config (outside.restartClock world)
    ∃ notices : List Notice, Session.create outside models symbols config world =
      ⟨building.answer.map fun resources => .fresh config symbols models (some resources),
        building.state, .call .restartClock :: (building.record ++ notices.map .note)⟩ := by
  intro building
  cases built : building.answer with
  | error failure =>
    refine ⟨[], (congrArg (Outcome.after [.call .restartClock])
      (Action.bind_error built _)).trans ?_⟩
    rw [List.map_nil, List.append_nil]
    rfl
  | ok resources =>
    exact ⟨[.sessionReady config.rate models.nativeRate resources.accumulator.capacity],
      congrArg (Outcome.after [.call .restartClock]) (Action.bind_ok built _)⟩

/-- A session is built on the resources that are made for it, and drops audio. -/
theorem create_step (outside : Collaborators World) (models : Models) (symbols : SymbolTable)
    (config : Config) (world : World) :
    let run := Session.create outside models symbols config world
    ∃ built record, BuildStep outside models config built record ∧
      run.answer = built.map (fun resources => .fresh config symbols models (some resources)) ∧
      ∃ notices : List Notice,
        run.record = .call .restartClock :: (record ++ notices.map .note) := by
  intro run
  obtain ⟨notices, ran⟩ := create_run outside models symbols config world
  refine ⟨_, _, buildResources_step outside models config (outside.restartClock world), ?_⟩
  rw [show run = _ from ran]
  exact ⟨rfl, notices, rfl⟩

end LiveSpeech
