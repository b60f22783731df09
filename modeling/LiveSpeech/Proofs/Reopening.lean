import LiveSpeech.Proofs.Control
import LiveSpeech.Proofs.Mirror

/-!
# Opening anew

An opening message lets go of the session that is there before anything else is done.  What becomes
of it depends on the arguments and on what the loader, the files and new engines answer, and so it
goes as it would go for a protocol that has never had a session.

Two protocols are compared, which may have different collaborators.  Models and engines are numbered
as they come, so these numbers differ as soon as one of the protocols has a past; everything else is
the same (`Protocol.Alike`).  The worlds are such that both are answered alike and are let go alike
(`OpensAlike`), and each of the places at which building may fail is passed in both or in neither
(`buildSession_mirrors`).

Without a session, because opening has failed or has never been tried, whatever arrives is noted at
most (`turns_inert`).
-/

namespace LiveSpeech

set_option autoImplicit false

open LiveSpeech.Audio

variable {World World' : Type}

/-! ## Building -/

/-- Resources with another engine. -/
def Resources.withEngine (resources : Resources) (engine : Engine) : Resources :=
  { resources with engine := engine }

/-- A session without the names of its models and its engine. -/
def Session.unnamed (session : Session) : Session :=
  { session with
    models := session.models.unnamed
    resources := session.resources.map fun resources => resources.withEngine .unnamed }

/-- Two replies are both successes that go with each other, or both the same failure. -/
inductive MadeAlike {Cause Made Made' : Type} (made : Made → Made' → World → World' → Prop)
    (failed : World → World' → Prop) :
    Except Cause Made × World → Except Cause Made' × World' → Prop where
  | ok {value : Made} {value' : Made'} {world : World} {world' : World'}
      (holds : made value value' world world') :
      MadeAlike made failed (.ok value, world) (.ok value', world')
  | error (cause : Cause) {world : World} {world' : World'} (holds : failed world world') :
      MadeAlike made failed (.error cause, world) (.error cause, world')

/-- What can be asked for in vain is asked for in both. -/
theorem Action.Mirrors.make_bind {Failure Cause Made Made' Next Next' : Type}
    {before failed : World → World' → Prop} {made : Made → Made' → World → World' → Prop}
    {behind : Next → Next' → World → World' → Prop}
    {read : World → Except Cause Made × World} {read' : World' → Except Cause Made' × World'}
    {call : Except Cause Made → Call} {call' : Except Cause Made' → Call} {wrap : Cause → Failure}
    {next : Made → Action World Failure Next} {next' : Made' → Action World' Failure Next'}
    (asked : ∀ world world', before world world' →
      MadeAlike made failed (read world) (read' world'))
    (shown : ∀ value value' world world', made value value' world world' →
      (call (.ok value)).unnamed = (call' (.ok value')).unnamed)
    (refused : ∀ cause, (call (.error cause)).unnamed = (call' (.error cause)).unnamed)
    (late : ∀ value value', (next value).Mirrors (made value value') (next' value') behind failed) :
    Action.Mirrors before
      (do
        let reply ← Action.ask read call
        let value ← Action.ofExcept wrap reply
        next value)
      (do
        let reply ← Action.ask read' call'
        let value ← Action.ofExcept wrap reply
        next' value)
      behind failed := by
  intro world world' worlds
  rw [Action.ask_bind, Action.ask_bind]
  have answers := asked world world' worlds
  generalize read world = reply at answers ⊢
  generalize read' world' = reply' at answers ⊢
  cases answers with
  | ok holds =>
    exact (late _ _ _ _ holds).behind
      (congrArg (fun asked => [Event.call asked]) (shown _ _ _ _ holds))
  | error cause holds =>
    exact .failed (congrArg (fun asked => [Event.call asked]) (refused cause)) rfl rfl holds

/-- What feeds an engine is made alike: the same converters, and memory for as many samples. -/
structure FeedsAlike (outside : Collaborators World) (outside' : Collaborators World')
    (alike : World → World' → Prop) : Prop where
  makeConverter : ∀ given wanted, AnsweredAlike alike
    (outside.makeConverter given wanted) (outside'.makeConverter given wanted)
  reserve : ∀ samples, AnsweredAlike alike (outside.reserve samples) (outside'.reserve samples)

section Feeds

variable {outside : Collaborators World} {outside' : Collaborators World'}
  {alike : World → World' → Prop}

theorem makeResampler_mirrors (feeds : FeedsAlike outside outside' alike)
    (inputRate outputRate : Float32) :
    (makeResampler outside inputRate outputRate).Mirrors alike
      (makeResampler outside' inputRate outputRate) (Agreeing alike) alike := by
  refine .bind_agreeing (.ofExcept _ _) fun given => .bind_agreeing (.ofExcept _ _) fun wanted => ?_
  refine .bind_agreeing (?_ : Action.Mirrors alike _ _ (Agreeing alike) alike) fun _ =>
    .bind_agreeing (.note _ _) fun _ => .done fun _ _ worlds => ⟨rfl, worlds⟩
  unfold makeConverter
  split
  · exact .done fun _ _ worlds => ⟨rfl, worlds⟩
  · exact .bind_agreeing (.ask_alike (feeds.makeConverter given wanted) fun _ => rfl) fun _ =>
      .bind_agreeing (.ofExcept _ _) fun _ => .done fun _ _ worlds => ⟨rfl, worlds⟩

theorem makeFeed_mirrors (feeds : FeedsAlike outside outside' alike) {models models' : Models}
    (rate : models.nativeRate = models'.nativeRate) (config : Config) :
    (makeFeed outside models config).Mirrors alike (makeFeed outside' models' config)
      (Agreeing alike) alike := by
  unfold makeFeed
  rw [← rate]
  refine .bind_agreeing (.wrapFailure _ (makeResampler_mirrors feeds _ _)) fun _ => ?_
  refine .bind_agreeing (?_ : Action.Mirrors alike _ _ (Agreeing alike) alike) fun _ =>
    .done fun _ _ worlds => ⟨rfl, worlds⟩
  exact .bind_agreeing (.ask_alike (feeds.reserve _) fun _ => rfl) fun _ =>
    .bind_agreeing (.ofExcept _ _) fun _ => .done fun _ _ worlds => ⟨rfl, worlds⟩

end Feeds

/-- Building resources mirrors itself if making an engine, and what feeds it, does. -/
theorem buildResources_mirrors {outside : Collaborators World} {outside' : Collaborators World'}
    {models models' : Models} (config : Config) {before failed : World → World' → Prop}
    {made : Engine → Engine → World → World' → Prop}
    (rate : models.nativeRate = models'.nativeRate)
    (creates : ∀ world world', before world world' → MadeAlike made failed
      (outside.createEngine models world) (outside'.createEngine models' world'))
    (released : ∀ engine engine' world world', made engine engine' world world' →
      failed (outside.releaseEngine engine world) (outside'.releaseEngine engine' world'))
    (feeds : ∀ engine engine', FeedsAlike outside outside' (made engine engine')) :
    (buildResources outside models config).Mirrors before (buildResources outside' models' config)
      (fun resources resources' world world' =>
        resources' = resources.withEngine resources'.engine ∧
          made resources.engine resources'.engine world world') failed := by
  have same : models.unnamed = models'.unnamed := congrArg (Models.mk 0) rate
  refine .make_bind creates (fun _ _ _ _ _ => ?_) (fun _ => ?_) fun engine engine' => ?_
  · exact congrArg (Call.createEngine · _) same
  · exact congrArg (Call.createEngine · _) same
  have lets (failure : Failure) : Action.Mirrors (made engine engine')
      (Action.tell (outside.releaseEngine engine) (.releaseEngine engine) >>= fun _ =>
        .fail failure : Action World Failure Resources)
      (Action.tell (outside'.releaseEngine engine') (.releaseEngine engine') >>= fun _ =>
        .fail failure)
      (fun resources resources' world world' =>
        resources' = resources.withEngine resources'.engine ∧
          made resources.engine resources'.engine world world') failed :=
    .bind_agreeing (.tell rfl (released engine engine')) fun _ => .fail failure fun _ _ held => held
  refine .attempt_bind (makeFeed_mirrors (feeds engine engine') rate config) (fun feed feed' => ?_)
    fun failure => lets failure
  rintro world world' ⟨rfl, worlds⟩
  rw [← rate]
  exact .answered rfl rfl rfl ⟨rfl, worlds⟩

/-! ## Opening -/

/-- **Worlds in which opening messages go alike.**  In worlds that are alike the loader, the files,
and those who are asked for an engine and for what feeds it answer alike, names apart, and leave
worlds that are alike. -/
structure OpensAlike (outside : Collaborators World) (outside' : Collaborators World')
    (alike : World → World' → Prop) : Prop where
  load : ∀ config world world', alike world world' →
    MadeAlike (fun models models' world world' =>
        models.nativeRate = models'.nativeRate ∧ alike world world') alike
      (outside.load config world) (outside'.load config world')
  readFile : ∀ path, AnsweredAlike alike (outside.readFile path) (outside'.readFile path)
  restartClock : ToldAlike alike outside.restartClock outside'.restartClock
  createEngine : ∀ models models', models.nativeRate = models'.nativeRate →
    ∀ world world', alike world world' →
      MadeAlike (fun _ _ => alike) alike
        (outside.createEngine models world) (outside'.createEngine models' world')
  releaseEngine : ∀ engine engine',
    ToldAlike alike (outside.releaseEngine engine) (outside'.releaseEngine engine')
  releaseModels : ∀ models models',
    ToldAlike alike (outside.releaseModels models) (outside'.releaseModels models')
  feeds : FeedsAlike outside outside' alike

section Opening

variable {outside : Collaborators World} {outside' : Collaborators World'}
  {alike : World → World' → Prop}

theorem readSymbols_mirrors {Failed : Type} (opens : OpensAlike outside outside' alike)
    (path : String) :
    (readSymbols outside path : Action World Failed _).Mirrors alike (readSymbols outside' path)
      (Agreeing alike) alike := by
  refine .bind_agreeing (.ask_alike (opens.readFile path) fun _ => rfl) fun content => ?_
  split
  · exact .done fun _ _ worlds => ⟨rfl, worlds⟩
  · split
    · exact .bind_agreeing (.note _ _) fun _ => .bind_agreeing (.note _ _) fun _ =>
        .done fun _ _ worlds => ⟨rfl, worlds⟩
    · exact .bind_agreeing (.note _ _) fun _ => .done fun _ _ worlds => ⟨rfl, worlds⟩

/-- Sessions are the same but for the names, in worlds that are alike. -/
def SessionsAlike (alike : World → World' → Prop) (session session' : Session) (world : World)
    (world' : World') : Prop :=
  session.unnamed = session'.unnamed ∧ alike world world'

theorem create_mirrors (opens : OpensAlike outside outside' alike) {models models' : Models}
    (rate : models.nativeRate = models'.nativeRate) (symbols : SymbolTable) (config : Config) :
    (Session.create outside models symbols config).Mirrors alike
      (Session.create outside' models' symbols config) (SessionsAlike alike) alike := by
  have same : models.unnamed = models'.unnamed := congrArg (Models.mk 0) rate
  refine .bind_agreeing (.tell rfl opens.restartClock) fun _ => ?_
  refine .bind (buildResources_mirrors config rate (opens.createEngine models models' rate)
    (fun engine engine' => opens.releaseEngine engine engine') fun _ _ => opens.feeds)
    fun resources resources' => ?_
  rintro world world' ⟨made, worlds⟩
  refine .answered rfl rfl rfl ⟨?_, worlds⟩
  rw [made, Session.unnamed, Session.unnamed, Session.fresh, Session.fresh]
  simp only [same]
  rfl

/-- What is told of models that are let go does not depend on their names. -/
theorem dropModels_mirrors (opens : OpensAlike outside outside' alike) {models models' : Models}
    (rate : models.nativeRate = models'.nativeRate) :
    (dropModels outside models).Mirrors alike (dropModels outside' models') (Agreeing alike)
      alike :=
  .tell (congrArg (Call.releaseModels <| Models.mk 0 ·) rate) (opens.releaseModels models models')

theorem buildLoaded_mirrors (opens : OpensAlike outside outside' alike) (config : Config)
    {models models' : Models} (rate : models.nativeRate = models'.nativeRate) :
    (buildLoaded outside config models).Mirrors alike (buildLoaded outside' config models')
      (SessionsAlike alike) alike := by
  have refused (failure : InitFailure) : Action.Mirrors alike
      (dropModels outside models >>= fun _ => .fail failure)
      (dropModels outside' models' >>= fun _ => .fail failure) (SessionsAlike alike) alike :=
    .bind_agreeing (dropModels_mirrors opens rate) fun _ => .fail failure fun _ _ worlds => worlds
  refine .bind_agreeing (readSymbols_mirrors opens config.wordSymbolTable) fun table => ?_
  cases table with
  | error cause => exact refused _
  | ok symbols =>
    exact .attempt_bind (create_mirrors opens rate symbols config)
      (fun _ _ => .done fun _ _ sessions => sessions) fun failure => refused (.ofFailure failure)

/-- **Building a session from arguments goes alike in worlds that are alike.** -/
theorem buildSession_mirrors (opens : OpensAlike outside outside' alike) (arguments : List String)
    (rate : Float32) :
    (buildSession outside arguments rate).Mirrors alike (buildSession outside' arguments rate)
      (SessionsAlike alike) alike := by
  refine .bind_agreeing (.ofExcept _ _) fun config => ?_
  refine .make_bind (opens.load config) ?_ (fun _ => rfl) fun models models' => ?_
  · exact fun _ _ _ _ held => congrArg (Call.load config <| .ok <| Models.mk 0 ·) held.1
  · exact fun world world' held => buildLoaded_mirrors opens config held.1 world world' held.2

/-- Protocols whose sessions are the same but for the names, in worlds that are alike. -/
structure Protocol.Alike (alike : World → World' → Prop) (protocol : Protocol World)
    (protocol' : Protocol World') : Prop where
  world : alike protocol.world protocol'.world
  session : protocol.session.map Session.unnamed = protocol'.session.map Session.unnamed

theorem Protocol.Alike.state_eq {protocol : Protocol World} {protocol' : Protocol World'}
    (protocols : Protocol.Alike alike protocol protocol') : protocol.state = protocol'.state := by
  obtain ⟨_, session⟩ := protocol
  obtain ⟨_, session'⟩ := protocol'
  have same := protocols.session
  cases session with
  | none =>
    cases session' with
    | none => rfl
    | some => cases same
  | some session =>
    cases session' with
    | none => cases same
    | some session' =>
      have unnamed : some session.unnamed = some session'.unnamed := same
      have states : session.unnamed.state = session'.unnamed.state :=
        congrArg Session.state (Option.some.inj unnamed)
      exact states

/-- Whatever was built is announced alike. -/
theorem announce_mirrors {opening : Outcome World InitFailure Session}
    {opening' : Outcome World' InitFailure Session}
    (mirrored : Mirrored (SessionsAlike alike) alike opening opening') :
    Mirrored (Agreeing (Protocol.Alike alike)) (Protocol.Alike alike)
      (announce opening.answer ⟨opening.state, none⟩)
      (announce opening'.answer ⟨opening'.state, none⟩) := by
  cases mirrored with
  | answered _ ran ran' sessions =>
    rw [ran, ran']
    exact .answered rfl rfl rfl ⟨rfl, sessions.2, congrArg some sessions.1⟩
  | @failed _ failure ran ran' worlds =>
    rw [ran, ran']
    cases failure with
    | error cause => exact .answered rfl rfl rfl ⟨rfl, worlds, rfl⟩
    | broken => exact .failed rfl rfl rfl ⟨worlds, rfl⟩

/-- **An opening message does what it does to a new protocol**, once what was held is let go. -/
theorem init_mirrors (opens : OpensAlike outside outside' alike) {protocol : Protocol World}
    {world : World} {world' : World'} {released : List Event}
    (dropped : Protocol.drop outside protocol = ⟨.ok (), ⟨world, none⟩, released⟩)
    (worlds : alike world world') (arguments : List String) (rate : Float32) :
    ∃ run, Protocol.init outside arguments rate protocol = run.after released ∧
      Mirrored (Agreeing (Protocol.Alike alike)) (Protocol.Alike alike) run
        (Protocol.init outside' arguments rate (.initial world')) := by
  -- The new protocol has nothing to let go, and from then on both do the same.
  have built := buildSession_mirrors opens arguments rate world world' worlds
  have none : Protocol.drop outside' (.initial world') = ⟨.ok (), ⟨world', none⟩, []⟩ := rfl
  refine ⟨_, (init_run dropped arguments rate).trans (Outcome.after_after _ _ _).symm, ?_⟩
  rw [init_run none arguments rate]
  exact (announce_mirrors built).behind built.shown

end Opening

/-! ## Nothing opened -/

/-- What arrives at a protocol: a message, or a text that ought to be one. -/
inductive Arrival where
  | message (message : ClientMessage)
  | text (text : List UInt8)

/-- The message that arrives, if it can be read. -/
def Arrival.message? : Arrival → Option ClientMessage
  | .message sent => some sent
  | .text bytes => (ClientMessage.decode bytes).toOption

/-- A message to open a session arrives. -/
def Arrival.Opens (arrival : Arrival) : Prop :=
  ∃ arguments rate, arrival.message? = some (.init arguments rate)

/-- Takes what arrives. -/
def Protocol.take (outside : Collaborators World) :
    Arrival → Action (Protocol World) Failure Unit
  | .message message => Protocol.handle outside message
  | .text text => Protocol.handleText outside text

/-- Without a session, messages for one are noted at most. -/
theorem handle_of_none (outside : Collaborators World) {message : ClientMessage}
    {request : SessionRequest} (asks : message.request? = some request) (world : World) :
    ∃ notices : List Notice, Protocol.handle outside message ⟨world, none⟩ =
      ⟨.ok (), ⟨world, none⟩, notices.map .note⟩ := by
  cases message with
  | init => cases asks
  | start => exact ⟨[.startIgnored], rfl⟩
  | audio => exact ⟨[], rfl⟩
  | cancel => exact ⟨[.cancelIgnored], rfl⟩

/-- Without a session, what does not open one is noted at most. -/
theorem take_of_none (outside : Collaborators World) {arrival : Arrival} (other : ¬arrival.Opens)
    (world : World) :
    ∃ notices : List Notice,
      Protocol.take outside arrival ⟨world, none⟩ = ⟨.ok (), ⟨world, none⟩, notices.map .note⟩ := by
  have idle {message : ClientMessage} (arrives : arrival.message? = some message) :
      ∃ notices : List Notice, Protocol.handle outside message ⟨world, none⟩ =
        ⟨.ok (), ⟨world, none⟩, notices.map .note⟩ := by
    cases asks : message.request? with
    | none =>
      obtain ⟨arguments, rate, rfl⟩ := is_init_of_request? asks
      exact absurd ⟨arguments, rate, arrives⟩ other
    | some request => exact handle_of_none outside asks world
  cases arrival with
  | message sent => exact idle rfl
  | text text =>
    rw [Protocol.take, Protocol.handleText]
    cases decoded : ClientMessage.decode text with
    | ok message =>
      refine idle ?_
      rw [Arrival.message?, decoded]
      rfl
    | error fault => exact ⟨[_], rfl⟩

/-- A turn that does nothing but note something. -/
structure Inert {Request : Type} (protocol : Protocol World)
    (turn : Turn Request (Protocol World) Failure Unit) : Prop where
  answer : turn.outcome.answer = .ok ()
  silent : messagesOf turn.outcome.record = []
  alone : callsOf turn.outcome.record = []
  state : turn.outcome.state = protocol

/-- **A protocol without a session is inert** until one is opened. -/
theorem turns_inert (outside : Collaborators World) (world : World) {arrivals : List Arrival}
    (others : ∀ arrival ∈ arrivals, ¬arrival.Opens) :
    ∀ turn ∈ turns (Protocol.take outside) ⟨world, none⟩ arrivals,
      Inert ⟨world, none⟩ turn := by
  induction arrivals with
  | nil => exact List.forall_mem_nil _
  | cons arrival arrivals ih =>
    obtain ⟨other, rest⟩ := List.forall_mem_cons.mp others
    obtain ⟨notices, took⟩ := take_of_none outside other world
    rw [turns, took]
    exact List.forall_mem_cons.mpr
      ⟨⟨rfl, messagesOf_notices notices, callsOf_notices notices, rfl⟩, ih rest⟩

/-- **Opening forgets, and a protocol that has not been opened is inert.**  Whatever a protocol has
been through, an opening message is answered, and leaves a session, as if it were the first, in a
world like the one that is there once the old session has been let go: the client is told the same,
the same calls are made, and the sessions are the same but for the names of their models and
engines.  If it has left no session, or there was none so far, nothing that arrives later is
answered with a failure, sends anything, calls anybody or changes anything, until another opening
message does. -/
theorem init_forgets {outside : Collaborators World} {outside' : Collaborators World'}
    {alike : World → World' → Prop} (opens : OpensAlike outside outside' alike)
    (protocol : Protocol World) (arguments : List String) (rate : Float32) {world' : World'}
    (worlds : alike (Protocol.drop outside protocol).state.world world') :
    let run := Protocol.handle outside (.init arguments rate) protocol
    let run' := Protocol.handle outside' (.init arguments rate) (.initial world')
    (run.answer = run'.answer ∧ Protocol.Alike alike run.state run'.state ∧
        run.state.state = run'.state.state ∧
        messagesOf run.record = messagesOf run'.record ∧
        shownOf run.record =
          shownOf (Protocol.drop outside protocol).record ++ shownOf run'.record) ∧
      ∀ start, (∃ world, start = .initial world) ∨
          (start = run.state ∧ .ready ∉ messagesOf run.record) →
        start.state = .uninitialized ∧
          ∀ arrivals : List Arrival, (∀ arrival ∈ arrivals, ¬arrival.Opens) →
            ∀ turn ∈ turns (Protocol.take outside) start arrivals, Inert start turn := by
  intro run run'
  obtain ⟨world, released, dropped, minor⟩ := drop_run outside protocol
  rw [dropped] at worlds
  obtain ⟨opening, ran, mirrored⟩ := init_mirrors opens dropped worlds arguments rate
  have step : InitStep outside arguments rate run.answer run.state.session run.record :=
    init_step outside arguments rate protocol
  have quiet := messagesOf_quiet fun event member => (minor event member).1
  replace ran : run = opening.after released := ran
  have shown : shownOf opening.record = shownOf run'.record := mirrored.shown
  refine ⟨?_, fun start => ?_⟩
  · rw [ran, dropped, Outcome.after_record, messagesOf_append, quiet, shownOf_append, shown,
      ← messagesOf_shownOf opening.record, shown, messagesOf_shownOf]
    exact ⟨mirrored.answer_eq, mirrored.states, mirrored.states.state_eq, rfl, rfl⟩
  · have inert (world : World) : (Protocol.initial world).state = .uninitialized ∧
        ∀ arrivals : List Arrival, (∀ arrival ∈ arrivals, ¬arrival.Opens) →
          ∀ turn ∈ turns (Protocol.take outside) (.initial world) arrivals,
            Inert (.initial world) turn :=
      ⟨rfl, fun _ others => turns_inert outside world others⟩
    rintro (⟨world, rfl⟩ | ⟨rfl, untold⟩)
    · exact inert world
    · have none := step.eq_none_of_not_ready untold
      have left : run.state = .initial run.state.world := congrArg (Protocol.mk _) none
      rw [left]
      exact inert run.state.world

/-- In a small rehearsal all worlds are alike: engines are always made, and names do not matter. -/
theorem opensAlike_small (endpointAt : Option Nat) (words : List Nat) :
    OpensAlike (Rehearsal.smallScript endpointAt words).collaborators
      (Rehearsal.smallScript endpointAt words).collaborators fun _ _ => True where
  load config _ _ _ := by
    simp only [Rehearsal.Script.collaborators]
    cases Rehearsal.LoaderScript.verdict _ config with
    | error cause => exact .error cause trivial
    | ok => exact .ok ⟨rfl, trivial⟩
  readFile _ _ _ _ := ⟨rfl, trivial⟩
  restartClock _ _ _ := trivial
  createEngine _ _ _ _ _ _ := .ok trivial
  releaseEngine _ _ _ _ _ := trivial
  releaseModels _ _ _ _ _ := trivial
  feeds := ⟨fun _ _ _ _ _ => ⟨rfl, trivial⟩, fun _ _ _ _ => ⟨rfl, trivial⟩⟩

/-- A session that listens is lost to an opening message whose symbol table is not there.  It is
answered as by a new protocol, and what follows does nothing. -/
theorem init_forgets_small :
    let outside := (Rehearsal.smallScript none [1]).collaborators
    let before := stateAfter (Protocol.handle outside) (.initial .initial)
      [.init ["--word-symbol-table=w", "m", "g"] 1.0, .start, .audio [0.5]]
    let message : ClientMessage := .init ["--word-symbol-table=x", "m", "g"] 1.0
    let again := Protocol.handle outside message before
    let first := Protocol.handle outside message (.initial .initial)
    before.state = .listening ∧ messagesOf again.record = messagesOf first.record ∧
      again.state.state = .uninitialized ∧
      ∀ turn ∈ turns (Protocol.take outside) again.state
        [.message .start, .message (.audio [0.5]), .text [], .message .cancel],
        Inert again.state turn := by
  intro outside before message again first
  obtain ⟨⟨_, _, _, told, _⟩, inert⟩ := @init_forgets _ _ _ _ _ (opensAlike_small none [1]) before
    ["--word-symbol-table=x", "m", "g"] 1.0 .initial trivial
  have untold : .ready ∉ messagesOf again.record := by decide +kernel
  have others : [Arrival.message .start, .message (.audio [0.5]), .text [], .message .cancel].all
      (·.message?.all (·.request?.isSome)) = true := by
    decide +kernel
  obtain ⟨uninitialized, quiet⟩ := inert again.state (.inr ⟨rfl, untold⟩)
  refine ⟨by decide +kernel, told, uninitialized, quiet _ fun arrival member => ?_⟩
  rintro ⟨arguments, rate, opens⟩
  have other := List.all_eq_true.mp others arrival member
  rw [opens] at other
  cases other

end LiveSpeech
