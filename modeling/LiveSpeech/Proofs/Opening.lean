import LiveSpeech.Proofs.Build
import LiveSpeech.Protocol

/-!
# What an opening message can do

An opening message is refused before anything is built, or building fails, or there is a new
session (`OpeningStep`).  Of all that is recorded on the way only the building matters; the
rest is minor.

The client is told whether there is a session, and the one that there was is gone in any case
(`init_step`).  One failure is not told: building breaks off, which happens if a collaborator does
and for no other reason (`InitStep.breakdownsOf_eq`).
-/

namespace LiveSpeech

set_option autoImplicit false

open LiveSpeech.Audio

variable {World : Type}

/-- Whether an engine is asked for, or what feeds it. -/
def Event.isBuilding : Event → Bool
  | .call (.createEngine ..) | .call (.makeConverter ..) | .call (.reserve ..) => true
  | _ => false

/-- An event that is quiet and has no part in building. -/
def Event.IsMinor (event : Event) : Prop := event.isQuiet = true ∧ event.isBuilding = false

/-- What an opening message has broken off with. -/
def openingBreakdown : Except InitFailure Session → Option Breakdown
  | .error (.broken why) => some why
  | _ => none

theorem Event.breakdown?_of_not_isBuilding {event : Event} (apart : event.isBuilding = false) :
    event.breakdown? = none := by
  cases event with
  | call call => cases call <;> first | rfl | cases apart
  | note | send => rfl

/-- What becomes of an opening message, and what is recorded on the way to a session. -/
inductive OpeningStep (outside : Collaborators World) (arguments : List String) (rate : Float32) :
    Except InitFailure Session → List Event → Prop where
  /-- The arguments, the models or the symbol table are refused. -/
  | refused (cause : InitError) {record : List Event} (minor : ∀ event ∈ record, event.IsMinor) :
      OpeningStep outside arguments rate (.error (.error cause)) record
  /-- The session cannot be built. -/
  | failed {config : Config} {models : Models} {failure : Failure}
      {before building after : List Event}
      (read : Config.ofArguments arguments rate = .ok config)
      (step : BuildStep outside models config (.error failure) building)
      (minor : ∀ event ∈ before ++ after, event.IsMinor) :
      OpeningStep outside arguments rate (.error (.ofFailure failure)) (before ++ building ++ after)
  /-- There is a session. -/
  | built {config : Config} {models : Models} (symbols : SymbolTable) {resources : Resources}
      {before building after : List Event}
      (read : Config.ofArguments arguments rate = .ok config)
      (step : BuildStep outside models config (.ok resources) building)
      (minor : ∀ event ∈ before ++ after, event.IsMinor) :
      OpeningStep outside arguments rate (.ok (.fresh config symbols models (some resources)))
        (before ++ building ++ after)

theorem isMinor_note (notice : Notice) : (Event.note notice).IsMinor := ⟨rfl, rfl⟩

/-- Reading a symbol table leaves notices and the call for the file, and does not fail. -/
theorem readSymbols_within {Failed : Type} {events : Event → Prop}
    (noted : ∀ notice, events (.note notice)) (asked : ∀ path, events (.call (.readFile path)))
    (outside : Collaborators World) (path : String) :
    (readSymbols outside path : Action World Failed _).Within events fun _ => False := by
  refine .bind (.ask fun _ => asked path) fun content => ?_
  split
  · exact .done _
  · split
    · exact .bind (.happen (noted _)) fun _ => .bind (.happen (noted _)) fun _ => .done _
    · exact .bind (.happen (noted _)) fun _ => .done _

/-- Reads the symbol table and builds a session on models that have been loaded. -/
def buildLoaded (outside : Collaborators World) (config : Config) (models : Models) :
    Action World InitFailure Session := do
  let table ← readSymbols outside config.wordSymbolTable
  match table with
  | .error cause =>
    dropModels outside models
    .fail (.error (.symbolTable cause))
  | .ok symbols =>
    let built ← (Session.create outside models symbols config).attempt
    match built with
    | .ok session => return session
    | .error failure =>
      dropModels outside models
      .fail (.ofFailure failure)

theorem buildSession_run (outside : Collaborators World) {arguments : List String}
    {rate : Float32} {config : Config} (read : Config.ofArguments arguments rate = .ok config)
    (world : World) :
    let reply := outside.load config world
    buildSession outside arguments rate world =
      ((Action.ofExcept (.error ∘ .engine) reply.1 >>= buildLoaded outside config) reply.2).after
        [.call (.load config reply.1)] := by
  unfold buildSession
  rw [read]
  rfl

/-- What becomes of a session on models that have been loaded. -/
theorem buildLoaded_step (outside : Collaborators World) {arguments : List String}
    {rate : Float32} {config : Config} (read : Config.ofArguments arguments rate = .ok config)
    (models : Models) (world : World) {earlier : List Event}
    (minor : ∀ event ∈ earlier, event.IsMinor) :
    let run := buildLoaded outside config models world
    OpeningStep outside arguments rate run.answer (earlier ++ run.record) := by
  intro run
  have within : (readSymbols outside config.wordSymbolTable : Action World InitFailure _).Within
      Event.IsMinor fun _ => False :=
    readSymbols_within isMinor_note (fun _ => ⟨rfl, rfl⟩) outside _
  obtain ⟨table, answered⟩ := within.answers world
  have reading := within.recorded world
  have ran : run = _ := Action.bind_ok answered _
  generalize readSymbols outside config.wordSymbolTable world = before at answered reading ran
  have released : (Event.call (.releaseModels models)).IsMinor := ⟨rfl, rfl⟩
  cases table with
  | error cause =>
    rw [ran]
    refine .refused (.symbolTable cause) fun event member => ?_
    rcases List.mem_append.mp member with early | late
    · exact minor event early
    · rcases List.mem_append.mp late with read | last
      · exact reading event read
      · rwa [List.mem_singleton.mp last]
  | ok symbols =>
    obtain ⟨built, building, step, answer, notices, recorded⟩ :=
      create_step outside models symbols config before.state
    have restarted : (Event.call .restartClock).IsMinor := ⟨rfl, rfl⟩
    have around {more : List Event} (minor' : ∀ event ∈ more, event.IsMinor) :
        ∀ event ∈ (earlier ++ before.record ++ [.call .restartClock]) ++
          (notices.map .note ++ more), event.IsMinor := by
      simp only [List.mem_append, List.mem_singleton, List.mem_map]
      rintro event (((early | read) | rfl) | ⟨notice, _, rfl⟩ | late)
      · exact minor event early
      · exact reading event read
      · exact restarted
      · exact isMinor_note notice
      · exact minor' event late
    let creation := Session.create outside models symbols config before.state
    have attempted : ((Session.create outside models symbols config).attempt before.state :
        Outcome World InitFailure _).answer = .ok _ := rfl
    have went := ran.trans (congrArg (Outcome.after _) (Action.bind_ok attempted _))
    have record {more : List Event}
        (parts : run.record = before.record ++ (creation.record ++ more)) :
        earlier ++ run.record = (earlier ++ before.record ++ [.call .restartClock]) ++
          building ++ (notices.map .note ++ more) := by
      rw [parts, recorded]
      simp only [List.append_assoc, List.cons_append, List.nil_append]
    cases built with
    | error failure =>
      rw [answer] at went
      rw [@record [.call (.releaseModels models)] (congrArg Outcome.record went), went]
      exact .failed read step (around (by simpa using released))
    | ok resources =>
      rw [answer] at went
      rw [@record [] (congrArg Outcome.record went), went]
      exact .built symbols read step (around (List.forall_mem_nil _))

/-- **What becomes of an opening message.** -/
theorem buildSession_step (outside : Collaborators World) (arguments : List String)
    (rate : Float32) (world : World) :
    let run := buildSession outside arguments rate world
    OpeningStep outside arguments rate run.answer run.record := by
  intro run
  cases read : Config.ofArguments arguments rate with
  | error cause =>
    have ran : run = ⟨.error (.error (.config cause)), world, []⟩ := by
      show buildSession outside arguments rate world = _
      unfold buildSession
      rw [read]
      rfl
    rw [ran]
    exact .refused _ nofun
  | ok config =>
    have ran : run = _ := buildSession_run outside read world
    cases loaded : (outside.load config world).1 with
    | error cause =>
      rw [loaded] at ran
      rw [ran]
      refine .refused (.engine cause) fun event member => ?_
      cases List.mem_singleton.mp member
      exact ⟨rfl, rfl⟩
    | ok models =>
      rw [loaded] at ran
      rw [ran]
      refine buildLoaded_step outside read models _ fun event member => ?_
      cases List.mem_singleton.mp member
      exact ⟨rfl, rfl⟩

/-! ## What is read off it -/

namespace OpeningStep

variable {outside : Collaborators World} {arguments : List String} {rate : Float32}
  {answer : Except InitFailure Session} {record : List Event}

/-- Nothing on the way is a landmark. -/
theorem quiet (step : OpeningStep outside arguments rate answer record) :
    ∀ event ∈ record, event.isQuiet = true := by
  have all {before building after : List Event} (minor : ∀ event ∈ before ++ after, event.IsMinor)
      (built : ∀ event ∈ building, event.isQuiet = true) :
      ∀ event ∈ before ++ building ++ after, event.isQuiet = true := by
    intro event member
    rcases List.mem_append.mp member with member | late
    · rcases List.mem_append.mp member with early | among
      · exact (minor event (List.mem_append_left _ early)).1
      · exact built event among
    · exact (minor event (List.mem_append_right _ late)).1
  cases step with
  | refused _ minor => exact fun event member => (minor event member).1
  | failed _ step minor | built _ _ step minor => exact all minor step.quiet

/-- Building breaks off if a collaborator does, and for no other reason. -/
theorem breakdownsOf_eq (step : OpeningStep outside arguments rate answer record) :
    breakdownsOf record = (openingBreakdown answer).toList := by
  have around {before building after : List Event}
      (minor : ∀ event ∈ before ++ after, event.IsMinor) :
      breakdownsOf (before ++ building ++ after) = breakdownsOf building := by
    have sound (event : Event) (member : event ∈ before ++ after) : event.breakdown? = none :=
      event.breakdown?_of_not_isBuilding (minor event member).2
    rw [breakdownsOf_append, breakdownsOf_append,
      breakdownsOf_eq_nil fun event member => sound event (List.mem_append_left _ member),
      breakdownsOf_eq_nil fun event member => sound event (List.mem_append_right _ member),
      List.nil_append, List.append_nil]
  cases step with
  | refused cause minor =>
    exact breakdownsOf_eq_nil fun event member =>
      event.breakdown?_of_not_isBuilding (minor event member).2
  | @failed _ _ failure _ _ _ _ step minor =>
    rw [around minor, step.breakdownsOf_eq]
    cases failure <;> rfl
  | built _ _ step minor =>
    rw [around minor, step.breakdownsOf_eq]
    rfl

/-- What is recorded of building is recorded while the session is built that the arguments
describe. -/
theorem exists_building (step : OpeningStep outside arguments rate answer record) {event : Event}
    (builds : event.isBuilding = true) (member : event ∈ record) :
    ∃ config models built building, Config.ofArguments arguments rate = .ok config ∧
      BuildStep outside models config built building ∧ event ∈ building ∧ building ⊆ record := by
  have apart {others : List Event} (minor : ∀ event ∈ others, event.IsMinor) : event ∉ others :=
    fun among => Bool.false_ne_true ((minor event among).2.symm.trans builds)
  have inside {before building after : List Event}
      (minor : ∀ event ∈ before ++ after, event.IsMinor)
      (member : event ∈ before ++ building ++ after) : event ∈ building := by
    have absent := apart minor
    simp only [List.mem_append] at member absent
    tauto
  cases step with
  | refused _ minor => exact absurd member (apart minor)
  | failed read step minor | built _ read step minor =>
    exact ⟨_, _, _, _, read, step, inside minor member, by simp⟩

/-- The session is the one that the arguments describe. -/
theorem config_of_ok {session : Session}
    (step : OpeningStep outside arguments rate (.ok session) record) :
    Config.ofArguments arguments rate = .ok session.config ∧
      ∃ resources, session = .fresh session.config session.symbols session.models
        (some resources) := by
  cases step with
  | built symbols read => exact ⟨read, _, rfl⟩

end OpeningStep

/-! ## The protocol -/

/-- What an opening message does to the protocol: how it ends, the session that is left, and what
is recorded. -/
inductive InitStep (outside : Collaborators World) (arguments : List String) (rate : Float32) :
    Except Failure Unit → Option Session → List Event → Prop where
  /-- The client is told that the session is ready. -/
  | ready {session : Session} {before record : List Event}
      (step : OpeningStep outside arguments rate (.ok session) record)
      (minor : ∀ event ∈ before, event.IsMinor) :
      InitStep outside arguments rate (.ok ()) (some session)
        (before ++ record ++ [.note .started, .send .ready])
  /-- The client is told why there is none. -/
  | usage {cause : InitError} {before record : List Event}
      (step : OpeningStep outside arguments rate (.error (.error cause)) record)
      (minor : ∀ event ∈ before, event.IsMinor) :
      InitStep outside arguments rate (.ok ()) none
        (before ++ record ++
          [.note (.initFailed cause.message), .send (.usage cause.usageText)])
  /-- Building breaks off, and the client is told nothing. -/
  | broken {why : Breakdown} {before record : List Event}
      (step : OpeningStep outside arguments rate (.error (.broken why)) record)
      (minor : ∀ event ∈ before, event.IsMinor) :
      InitStep outside arguments rate (.error (.broken why)) none (before ++ record)

/-- The session that there was is gone. -/
theorem drop_run (outside : Collaborators World) (protocol : Protocol World) :
    ∃ world released, Protocol.drop outside protocol = ⟨.ok (), ⟨world, none⟩, released⟩ ∧
      ∀ event ∈ released, event.IsMinor := by
  obtain ⟨world, session⟩ := protocol
  cases session with
  | none => exact ⟨world, [], rfl, List.forall_mem_nil _⟩
  | some session =>
    have within : (session.release outside).Within Event.IsMinor fun _ => False := by
      refine .bind (.tell ⟨rfl, rfl⟩) fun _ => ?_
      unfold releaseResources
      split
      · exact .done _
      · exact .tell ⟨rfl, rfl⟩
    obtain ⟨_, answered⟩ := within.answers world
    refine ⟨(session.release outside world).state, _, ?_, within.recorded world⟩
    rw [Protocol.drop]
    simp only [answered]

/-- Keeps the session that was built, and tells the client. -/
def announce : Except InitFailure Session → Action (Protocol World) Failure Unit
  | .ok session => do
    .change fun protocol => { protocol with session := some session }
    .note .started
    .send .ready
  | .error (.error cause) => do
    .note (.initFailed cause.message)
    .send (.usage cause.usageText)
  | .error (.broken why) => .fail (.broken why)

/-- Once the session that there was is gone, one is built, and it is kept or not. -/
theorem init_run {outside : Collaborators World} {protocol : Protocol World} {world : World}
    {released : List Event}
    (dropped : Protocol.drop outside protocol = ⟨.ok (), ⟨world, none⟩, released⟩)
    (arguments : List String) (rate : Float32) :
    let opening := buildSession outside arguments rate world
    Protocol.init outside arguments rate protocol =
      (announce opening.answer ⟨opening.state, none⟩).after (released ++ opening.record) := by
  intro opening
  have ended : (Protocol.drop outside protocol).answer = .ok () := by rw [dropped]
  have built : ((Protocol.outside (buildSession outside arguments rate)).attempt
      ⟨world, none⟩ : Outcome (Protocol World) Failure _).answer =
        .ok (buildSession outside arguments rate world).answer := rfl
  have ran : Protocol.init outside arguments rate protocol = _ := Action.bind_ok ended _
  rw [dropped] at ran
  rw [ran, ← Outcome.after_after]
  exact congrArg (Outcome.after released) (Action.bind_ok built _)

/-- **What an opening message does to the protocol.** -/
theorem init_step (outside : Collaborators World) (arguments : List String) (rate : Float32)
    (protocol : Protocol World) :
    let run := Protocol.init outside arguments rate protocol
    InitStep outside arguments rate run.answer run.state.session run.record := by
  intro run
  obtain ⟨world, released, dropped, minor⟩ := drop_run outside protocol
  have step := buildSession_step outside arguments rate world
  dsimp only at step
  have ran : run = _ := init_run dropped arguments rate
  generalize buildSession outside arguments rate world = opening at step ran
  cases answer : opening.answer with
  | ok session =>
    rw [answer] at ran step
    rw [ran]
    exact .ready step minor
  | error failure =>
    rw [answer] at ran step
    rw [ran]
    cases failure with
    | error cause => exact .usage step minor
    | broken why =>
      rw [Outcome.after_record, announce, Action.fail, List.append_nil]
      exact .broken step minor

namespace InitStep

variable {outside : Collaborators World} {arguments : List String} {rate : Float32}
  {answer : Except Failure Unit} {session : Option Session} {record : List Event}

/-- A message breaks off if a collaborator does, and for no other reason. -/
theorem breakdownsOf_eq (step : InitStep outside arguments rate answer session record) :
    breakdownsOf record = (breakdownOf answer).toList := by
  have earlier {before : List Event} (minor : ∀ event ∈ before, event.IsMinor) :
      breakdownsOf before = [] :=
    breakdownsOf_eq_nil fun event member =>
      event.breakdown?_of_not_isBuilding (minor event member).2
  cases step with
  | ready step minor | usage step minor | broken step minor =>
    simp only [breakdownsOf_append, earlier minor, step.breakdownsOf_eq, List.nil_append]
    rfl

/-- What is recorded of building is recorded while the session is built that the arguments
describe. -/
theorem exists_building (step : InitStep outside arguments rate answer session record)
    {event : Event} (builds : event.isBuilding = true) (member : event ∈ record) :
    ∃ config models built building, Config.ofArguments arguments rate = .ok config ∧
      BuildStep outside models config built building ∧ event ∈ building ∧ building ⊆ record := by
  have found {early made last : List Event} {reply : Except InitFailure Session}
      (step : OpeningStep outside arguments rate reply made)
      (minor : ∀ event ∈ early, event.IsMinor) (told : ∀ event ∈ last, event.isBuilding = false)
      (member : event ∈ early ++ made ++ last) :
      ∃ config models built building, Config.ofArguments arguments rate = .ok config ∧
        BuildStep outside models config built building ∧ event ∈ building ∧
        building ⊆ early ++ made ++ last := by
    have among : event ∈ made := by
      rcases List.mem_append.mp member with member | late
      · rcases List.mem_append.mp member with early | among
        · exact nomatch (minor event early).2.symm.trans builds
        · exact among
      · exact nomatch (told event late).symm.trans builds
    obtain ⟨config, models, built, building, read, step, there, within⟩ :=
      step.exists_building builds among
    exact ⟨config, models, built, building, read, step, there, fun other member =>
      List.mem_append_left _ (List.mem_append_right _ (within member))⟩
  cases step with
  | ready step minor => exact found step minor (by simp [Event.isBuilding]) member
  | usage step minor => exact found step minor (by simp [Event.isBuilding]) member
  | @broken why before record step minor =>
    rw [← List.append_nil (before ++ record)] at member ⊢
    exact found step minor (List.forall_mem_nil _) member

/-- There is a session exactly if the client is told that it is ready.  If there is none the client
is told why, unless building breaks off. -/
theorem answered (step : InitStep outside arguments rate answer session record) :
    (answer = .ok () ∧ messagesOf record = [.ready] ∧ session.isSome = true) ∨
      (answer = .ok () ∧ (∃ text, messagesOf record = [.usage text]) ∧ session = none) ∨
      (∃ why, answer = .error (.broken why)) ∧ messagesOf record = [] ∧ session = none := by
  have messages {early made last : List Event} (minor : ∀ event ∈ early, event.IsMinor)
      (quiet : ∀ event ∈ made, event.isQuiet = true) :
      messagesOf (early ++ made ++ last) = messagesOf last := by
    rw [messagesOf_append, messagesOf_append, messagesOf_quiet quiet,
      messagesOf_quiet fun event member => (minor event member).1]
    rfl
  cases step with
  | ready step minor =>
    rw [messages minor step.quiet]
    exact .inl ⟨rfl, rfl, rfl⟩
  | @usage cause _ _ step minor =>
    rw [messages minor step.quiet]
    exact .inr (.inl ⟨rfl, ⟨cause.usageText, rfl⟩, rfl⟩)
  | @broken why early made step minor =>
    rw [← List.append_nil (early ++ made), messages minor step.quiet]
    exact .inr (.inr ⟨⟨why, rfl⟩, rfl, rfl⟩)

/-- Unless the client is told that a session is ready there is none. -/
theorem eq_none_of_not_ready (step : InitStep outside arguments rate answer session record)
    (untold : .ready ∉ messagesOf record) : session = none := by
  rcases step.answered with ⟨_, told, _⟩ | ⟨_, _, none⟩ | ⟨_, _, none⟩
  · exact absurd (told ▸ List.mem_singleton_self _) untold
  · exact none
  · exact none

/-- A session that is left is new, and is the one that the arguments describe. -/
theorem fresh {session : Session}
    (step : InitStep outside arguments rate answer (some session) record) :
    Config.ofArguments arguments rate = .ok session.config ∧
      ∃ resources, session = .fresh session.config session.symbols session.models
        (some resources) := by
  cases step with
  | ready step => exact step.config_of_ok

end InitStep

end LiveSpeech
