import LiveSpeech.Proofs.Cadence
import LiveSpeech.Proofs.Control

/-!
# What holds between messages

After every message of every run, also after one that failed, the session is in one of few
shapes (`Session.Represents`).  It takes audio exactly if it listens.  A session that is ready is
as it was made, or has lost its resources to a cancellation that failed.  A session that has
finalized its utterance holds no samples and has taken a tick.  Resources hold less than a chunk,
and their counts are those of the chunks that were accepted since they were made.

What the counts do in a row of chunks is said by `RowStep.counts`.  Here it is shown what every
request preserves (`obey_keeps`), and which messages make resources anew.
-/

namespace LiveSpeech

set_option autoImplicit false

open LiveSpeech.Audio

variable {World : Type}

/-! ## Resources -/

/-- Nothing has been heard: no samples wait anywhere, and nothing is counted. -/
structure Resources.Pristine (resources : Resources) : Prop where
  held : resources.accumulator.held = []
  pending : resources.resampler.pending = []
  consumed : resources.timing.consumed = 0
  lastOutput : resources.timing.lastOutput = 0

/-- The samples between two outputs of a session. -/
def Session.tick (session : Session) : Int64 :=
  (TimingGate.start session.models.nativeRate
    (Int64.ofInt (session.config.samplesPerTick session.models.nativeRate))).tick

/-- What holds of the resources of a session after so many accepted chunks and so many ticks. -/
structure Session.Keeps (session : Session) (resources : Resources) (accepted ticks : Nat) :
    Prop where
  capacity : resources.accumulator.capacity = session.config.chunkCapacity session.models.nativeRate
  tick : resources.timing.tick = session.tick
  /-- Less than a chunk is held. -/
  room : resources.accumulator.held.length < resources.accumulator.capacity
  counts : resources.timing.Counts (accepted * resources.accumulator.capacity) ticks
  ready : session.state = .ready → resources.Pristine
  finalized : session.state = .finalized → resources.accumulator.held = [] ∧ 0 < ticks

theorem Resources.MadeFor.pristine {models : Models} {config : Config} {resources : Resources}
    (anew : resources.MadeFor models config) : resources.Pristine where
  held := by rw [anew.made]; rfl
  pending := by
    obtain ⟨_, _, _, _, made⟩ := anew.rated
    rw [made]
    rfl
  consumed := by rw [anew.made]; rfl
  lastOutput := by rw [anew.made]; rfl

/-- What was just made has accepted nothing. -/
theorem Resources.MadeFor.keeps {models : Models} {config : Config} {resources : Resources}
    (anew : resources.MadeFor models config) (symbols : SymbolTable) :
    (Session.fresh config symbols models (some resources)).Keeps resources 0 0 where
  capacity := by
    rw [anew.made]
    exact max_chunkCapacity config models.nativeRate
  tick := by rw [anew.made]; rfl
  room := by
    rw [anew.pristine.held]
    exact resources.accumulator.positive
  counts := by
    rw [anew.made, Nat.zero_mul]
    exact TimingGate.counts_start ..
  ready _ := anew.pristine
  finalized := nofun

/-! ## Requests -/

/-- A row of chunks keeps the counts of the resources that it was cut with. -/
theorem Session.Keeps.row {session : Session} {resources : Resources} {accepted ticks : Nat}
    (keeps : session.Keeps resources accepted ticks) {samples : List Float32}
    {answer : Except SessionError Delivery} {timing : TimingGate} {flag : Bool}
    {landmarks : List Event}
    (row : RowStep (session.decoder resources) (resources.chunks samples) resources.timing false
      answer timing flag landmarks) :
    timing.tick = session.tick ∧ ∃ ticks', timing.Counts
        ((accepted + acceptedIn landmarks) * resources.accumulator.capacity) ticks' ∧
      ∀ cycles left, answer = .ok (.ended cycles left) → 0 < ticks' := by
  have sizes := Accumulator.length_of_mem_cut resources.accumulator (resources.frames samples)
  obtain ⟨tick, ticks', counts, taken⟩ := row.counts sizes keeps.counts
  rw [← Nat.add_mul] at counts
  exact ⟨tick.trans keeps.tick, ticks', counts, taken rfl⟩

/-- Audio keeps what holds of the resources, and counts the chunks that it has accepted. -/
theorem AudioStep.keeps {session session' : Session} {samples : List Float32}
    {answer : Except SessionError Nat} {landmarks : List Event}
    (step : AudioStep session samples answer session' landmarks) (sound : session.Sound)
    {resources : Resources} (held : session.resources = some resources) {accepted ticks : Nat}
    (keeps : session.Keeps resources accepted ticks) :
    ∃ resources' ticks', session'.resources = some resources' ∧
      session'.Keeps resources' (accepted + acceptedIn landmarks) ticks' := by
  have same {other : Resources} (takes : session.Takes other) : other = resources :=
    Option.some.inj (takes.held.symm.trans held)
  have positive := resources.accumulator.positive
  have capacity := Accumulator.cut_capacity resources.accumulator (resources.frames samples)
  cases step with
  | disabled => exact ⟨resources, ticks, held, keeps⟩
  | released _ released => exact nomatch released.symm.trans held
  | reported other enabled held' =>
    obtain rfl : other = resources := Option.some.inj (held'.symm.trans held)
    have listening := sound.enabled_iff.mp enabled
    exact ⟨_, ticks, rfl, keeps.capacity, keeps.tick, keeps.room, keeps.counts,
      fun ready => (nomatch listening.symm.trans ready), keeps.finalized⟩
  | failed other takes row =>
    obtain rfl := same takes
    obtain ⟨tick, ticks', counts, _⟩ := keeps.row row
    have listening := sound.listening takes
    refine ⟨_, ticks', rfl, capacity.trans keeps.capacity, tick, ?_, ?_, ?_, ?_⟩
    · exact Nat.lt_of_lt_of_eq positive capacity.symm
    · exact capacity.symm ▸ counts
    · exact fun ready => nomatch listening.symm.trans ready
    · exact fun finalized => nomatch listening.symm.trans finalized
  | complete other takes row =>
    obtain rfl := same takes
    obtain ⟨tick, ticks', counts, _⟩ := keeps.row row
    have listening := sound.listening takes
    refine ⟨_, ticks', rfl, capacity.trans keeps.capacity, tick, ?_, ?_, ?_, ?_⟩
    · exact Nat.lt_of_lt_of_eq (Accumulator.cut_open keeps.room _) capacity.symm
    · exact capacity.symm ▸ counts
    · exact fun ready => nomatch listening.symm.trans ready
    · exact fun finalized => nomatch listening.symm.trans finalized
  | ended other takes row =>
    obtain rfl := same takes
    obtain ⟨tick, ticks', counts, taken⟩ := keeps.row row
    refine ⟨_, ticks', rfl, capacity.trans keeps.capacity, tick, ?_, ?_, nofun, ?_⟩
    · exact Nat.lt_of_lt_of_eq positive capacity.symm
    · exact capacity.symm ▸ counts
    · exact fun _ => ⟨rfl, taken _ _ rfl⟩

/-- Starting keeps the resources as they are. -/
theorem start_keeps (Failed : Type) {stage : Stage World} {resources : Resources}
    (held : stage.session.resources = some resources) {accepted ticks : Nat}
    (keeps : stage.session.Keeps resources accepted ticks) :
    let started := ((Session.start : Action (Stage World) Failed Unit) stage).state.session
    started.resources = some resources ∧ started.Keeps resources accepted ticks := by
  by_cases listening : stage.session.state = .listening
  · rw [start_of_listening listening]
    exact ⟨held, keeps⟩
  · rw [start_of_not_listening listening]
    exact ⟨held, keeps.capacity, keeps.tick, keeps.room, keeps.counts, nofun, nofun⟩

theorem acceptedIn_start {Failed : Type} (stage : Stage World) :
    acceptedIn ((Session.start : Action (Stage World) Failed Unit) stage).record = 0 := by
  rw [← acceptedIn_landmarksOf, landmarksOf_start]
  rfl

/-- A request that does not start over keeps what holds of the resources, and counts the chunks
that it has accepted. -/
theorem obey_keeps (outside : Collaborators World) {request : SessionRequest}
    (goesOn : request ≠ .reset) {stage : Stage World} (sound : stage.session.Sound)
    {resources : Resources} (held : stage.session.resources = some resources)
    {accepted ticks : Nat} (keeps : stage.session.Keeps resources accepted ticks) :
    let run := Session.obey outside request stage
    ∃ resources' ticks', run.state.session.resources = some resources' ∧
      run.state.session.Keeps resources' (accepted + acceptedIn run.record) ticks' := by
  intro run
  cases request with
  | start =>
    obtain ⟨held', keeps'⟩ := start_keeps Failure held keeps
    refine ⟨resources, ticks, held', ?_⟩
    rw [show acceptedIn run.record = 0 from acceptedIn_start stage, Nat.add_zero]
    exact keeps'
  | audio samples =>
    have ran : run = _ := Action.wrapFailure_done ..
    rw [ran, ← acceptedIn_landmarksOf]
    exact (acceptAudio_step outside samples stage).keeps sound held keeps
  | reset => exact absurd rfl goesOn

/-- A session without resources gets none unless it is started over, and it finalizes nothing. -/
theorem obey_released (outside : Collaborators World) {request : SessionRequest}
    (goesOn : request ≠ .reset) {stage : Stage World}
    (released : stage.session.resources = none) (unfinished : stage.session.state ≠ .finalized) :
    let after := (Session.obey outside request stage).state.session
    after.resources = none ∧ after.state ≠ .finalized := by
  intro after
  cases request with
  | start =>
    have ran : after = ((Session.start : Action (Stage World) Failure Unit) stage).state.session :=
      rfl
    by_cases listening : stage.session.state = .listening
    · rw [ran, start_of_listening listening]
      exact ⟨released, unfinished⟩
    · rw [ran, start_of_not_listening listening]
      exact ⟨released, nofun⟩
  | audio samples =>
    have ran : after = (Session.acceptAudio outside samples stage).state.session := by
      show (Session.obey outside (.audio samples) stage).state.session = _
      rw [Session.obey, Action.wrapFailure_done]
    cases enabled : stage.session.enabled with
    | false =>
      rw [ran, acceptAudio_of_disabled outside enabled]
      exact ⟨released, unfinished⟩
    | true =>
      rw [ran, acceptAudio_of_released outside enabled released]
      exact ⟨released, unfinished⟩
  | reset => exact absurd rfl goesOn

/-! ## Histories -/

/-- The message makes resources anew: it opens a session or starts it over. -/
def ClientMessage.Rebuilds : ClientMessage → Prop
  | .init _ _ | .cancel => True
  | .start | .audio _ => False

/-- So many chunks were accepted since resources were last made. -/
def AcceptedSince (accepted : Nat) (history : List (ControlTurn World)) : Prop :=
  ∃ before turn after, history = before ++ turn :: after ∧ turn.request.Rebuilds ∧
    turn.outcome.answer = .ok () ∧ (∀ later ∈ after, ¬later.request.Rebuilds) ∧
    accepted = acceptedIn (after.flatMap fun later => later.outcome.record)

/-- The last message that was to make resources anew was a cancellation that failed. -/
def CancelFailed : List (ControlTurn World) → Prop :=
  Since (fun turn => turn.request = .cancel ∧ ∃ failure, turn.outcome.answer = .error failure)
    fun later => ¬later.request.Rebuilds

section Histories

variable {history : List (ControlTurn World)} {last : ControlTurn World}

theorem acceptedSince_rebuilt (rebuilds : last.request.Rebuilds)
    (answered : last.outcome.answer = .ok ()) : AcceptedSince 0 (history ++ [last]) :=
  ⟨history, last, [], rfl, rebuilds, answered, List.forall_mem_nil _, rfl⟩

theorem AcceptedSince.concat {accepted : Nat} (since : AcceptedSince accepted history)
    (goesOn : ¬last.request.Rebuilds) :
    AcceptedSince (accepted + acceptedIn last.outcome.record) (history ++ [last]) := by
  obtain ⟨before, turn, after, rfl, rebuilds, answered, others, rfl⟩ := since
  refine ⟨before, turn, after ++ [last], ?_, rebuilds, answered, fun later member => ?_, ?_⟩
  · rw [List.append_assoc, List.cons_append]
  · rcases List.mem_append.mp member with early | final
    · exact others later early
    · rwa [List.mem_singleton.mp final]
  · rw [List.flatMap_append, acceptedIn_append, List.flatMap_singleton]

/-- Since resources were last made no more chunks were accepted than in all. -/
theorem AcceptedSince.le {accepted : Nat} (since : AcceptedSince accepted history) :
    accepted ≤ acceptedIn (history.flatMap fun turn => turn.outcome.record) := by
  obtain ⟨before, turn, after, rfl, _, _, _, rfl⟩ := since
  rw [List.flatMap_append, List.flatMap_cons, acceptedIn_append, acceptedIn_append]
  exact Nat.le_add_left_of_le (Nat.le_add_left ..)

end Histories

/-- A session between messages, and the turns that have led to it. -/
structure Session.Represents (session : Session) (history : List (ControlTurn World)) : Prop where
  /-- It takes audio exactly if it listens, and the flag of the end is lowered if it is ready and
  raised if it is finalized. -/
  sound : session.Sound
  /-- It has no resources only after a cancellation that failed. -/
  released : session.resources = none → session.state ≠ .finalized ∧ CancelFailed history
  /-- Resources are as they were made, but for what was accepted since. -/
  kept : ∀ resources, session.resources = some resources → ∃ accepted ticks,
    AcceptedSince accepted history ∧ session.Keeps resources accepted ticks

/-- A session that was just made has its shape. -/
theorem represents_fresh (history : List (ControlTurn World)) {last : ControlTurn World}
    (rebuilds : last.request.Rebuilds) (answered : last.outcome.answer = .ok ())
    {models : Models} {config : Config} {resources : Resources}
    (anew : resources.MadeFor models config) (symbols : SymbolTable) :
    (Session.fresh config symbols models (some resources)).Represents (history ++ [last]) where
  sound := sound_fresh ..
  released := nofun
  kept := by
    intro other held
    obtain rfl := Option.some.inj held
    exact ⟨0, 0, acceptedSince_rebuilt rebuilds answered, anew.keeps symbols⟩

/-- What an opening message leaves is just made. -/
theorem InitStep.made {outside : Collaborators World} {arguments : List String} {rate : Float32}
    {answer : Except Failure Unit} {session : Session} {record : List Event}
    (step : InitStep outside arguments rate answer (some session) record) :
    answer = .ok () ∧ ∃ resources, resources.MadeFor session.models session.config ∧
      session = .fresh session.config session.symbols session.models (some resources) := by
  cases step with
  | ready opening =>
    cases opening with
    | built symbols _ building =>
      cases building with
      | made _ _ anew => exact ⟨rfl, _, anew, rfl⟩

theorem represents_init (outside : Collaborators World) (arguments : List String)
    (rate : Float32) (protocol : Protocol World) (history : List (ControlTurn World)) :
    let run := Protocol.handle outside (.init arguments rate) protocol
    ∀ session, run.state.session = some session →
      session.Represents (history ++ [⟨.init arguments rate, protocol, run⟩]) := by
  intro run session held
  have step := init_step outside arguments rate protocol
  dsimp only at step
  rw [show (Protocol.init outside arguments rate protocol).state.session = some session
    from held] at step
  obtain ⟨answered, resources, anew, fresh⟩ := step.made
  have rebuilds : (ClientMessage.init arguments rate).Rebuilds := trivial
  rw [fresh]
  exact represents_fresh history rebuilds answered anew session.symbols

theorem represents_cancel (outside : Collaborators World) (world : World) (session : Session)
    (history : List (ControlTurn World)) :
    let run := Protocol.handle outside .cancel ⟨world, some session⟩
    ∀ session', run.state.session = some session' →
      session'.Represents (history ++ [⟨.cancel, ⟨world, some session⟩, run⟩]) := by
  intro run session' held
  obtain ⟨built, record, step, answer, fresh, _⟩ := reset_step outside ⟨world, session⟩
  obtain rfl : (Session.reset outside ⟨world, session⟩).state.session = session' :=
    Option.some.inj held
  have rebuilds : ClientMessage.cancel.Rebuilds := trivial
  rw [fresh]
  cases built with
  | error failure =>
    refine ⟨sound_fresh .., fun _ => ⟨nofun, ?_⟩, nofun⟩
    exact since_concat.mpr (.inl ⟨rfl, failure, answer⟩)
  | ok resources =>
    cases step with
    | made _ _ anew =>
      exact represents_fresh history rebuilds answer anew session.symbols

/-- A request that goes on with the session keeps its shape. -/
theorem represents_obey (outside : Collaborators World) {message : ClientMessage}
    (request : SessionRequest) (asks : message.request? = some request)
    (goesOn : request ≠ .reset) (world : World) {session : Session}
    {history : List (ControlTurn World)} (before : session.Represents history) :
    let run := Protocol.handle outside message ⟨world, some session⟩
    ∀ session', run.state.session = some session' →
      session'.Represents (history ++ [⟨message, ⟨world, some session⟩, run⟩]) := by
  intro run session' held
  have ran : run = _ := handle_request outside asks world session
  have others : ¬message.Rebuilds := by
    cases message with
    | init => cases asks
    | start | audio => exact id
    | cancel =>
      cases asks
      exact absurd rfl goesOn
  rw [ran] at held ⊢
  obtain rfl : (Session.obey outside request ⟨world, session⟩).state.session = session' :=
    Option.some.inj held
  let stage : Stage World := ⟨world, session⟩
  have sound := obey_sound outside request (show stage.session.Sound from before.sound)
  cases resources : session.resources with
  | none =>
    obtain ⟨unfinished, failed⟩ := before.released resources
    obtain ⟨released, unfinished'⟩ :=
      obey_released outside goesOn (show stage.session.resources = none from resources) unfinished
    refine ⟨sound, fun _ => ⟨unfinished', ?_⟩,
      fun other held' => nomatch released.symm.trans held'⟩
    exact since_concat.mpr (.inr ⟨failed, others⟩)
  | some resources' =>
    obtain ⟨accepted, ticks, since, keeps⟩ := before.kept resources' resources
    obtain ⟨after, ticks', held', keeps'⟩ :=
      obey_keeps outside goesOn (show stage.session.Sound from before.sound) resources keeps
    refine ⟨sound, fun released => (nomatch released.symm.trans held'), fun other same => ?_⟩
    obtain rfl : after = other := Option.some.inj (held'.symm.trans same)
    exact ⟨_, ticks', since.concat others, keeps'⟩

/-! ## All runs -/

/-- Without a session only an opening message brings one about. -/
theorem init_of_none (outside : Collaborators World) {message : ClientMessage} {world : World}
    {session : Session}
    (held : (Protocol.handle outside message ⟨world, none⟩).state.session = some session) :
    message.request? = none := by
  cases message with
  | init => rfl
  | start | audio | cancel => cases held

/-- Every message leaves a session in its shape, if any. -/
theorem represents_handle (outside : Collaborators World) (message : ClientMessage)
    (protocol : Protocol World) (history : List (ControlTurn World))
    (before : ∀ session, protocol.session = some session → session.Represents history) :
    let run := Protocol.handle outside message protocol
    ∀ session, run.state.session = some session →
      session.Represents (history ++ [⟨message, protocol, run⟩]) := by
  obtain ⟨world, _ | session⟩ := protocol
  · intro run session held
    obtain ⟨arguments, rate, rfl⟩ := is_init_of_request? (init_of_none outside held)
    exact represents_init outside arguments rate ⟨world, none⟩ history session held
  · cases message with
    | init arguments rate =>
      exact represents_init outside arguments rate ⟨world, some session⟩ history
    | cancel => exact represents_cancel outside world session history
    | start => exact represents_obey outside .start rfl nofun world (before session rfl)
    | audio samples =>
      exact represents_obey outside (.audio samples) rfl nofun world (before session rfl)

/-- Every run of messages leaves a session in its shape, if any. -/
theorem represents_stateAfter (outside : Collaborators World) (world : World)
    (messages : List ClientMessage) :
    ∀ session, (stateAfter (Protocol.handle outside) (.initial world) messages).session =
        some session →
      session.Represents (turns (Protocol.handle outside) (.initial world) messages) := by
  induction messages using List.reverseRecOn with
  | nil => nofun
  | append_singleton messages message ih =>
    rw [turns_concat, stateAfter_concat]
    exact represents_handle outside message _ _ ih

/-- **What holds of the session after every run of messages.**  It has the shape that its history
gives it.  As long as the samples can be counted in a word, its counts are the samples of all
chunks that were accepted since its resources were made, and a multiple of the tick that lies
behind them. -/
theorem session_represents (outside : Collaborators World) (world : World)
    (messages : List ClientMessage) :
    let history := turns (Protocol.handle outside) (.initial world) messages
    let last := stateAfter (Protocol.handle outside) (.initial world) messages
    ∀ session, last.session = some session → session.Represents history ∧
      ∀ resources, session.resources = some resources →
        ∃ accepted ticks, AcceptedSince accepted history ∧ session.Keeps resources accepted ticks ∧
          let capacity := resources.accumulator.capacity
          let timing := resources.timing
          accepted * capacity < Nat.pow 2 63 →
            timing.consumed.toInt = accepted * capacity ∧
            timing.lastOutput.toInt = ticks * timing.tick.toInt ∧
            0 ≤ timing.lastOutput ∧ timing.lastOutput ≤ timing.consumed ∧
            (0 < accepted → timing.lastOutput < timing.consumed) := by
  intro history last session held
  have represents := represents_stateAfter outside world messages session held
  refine ⟨represents, fun resources made => ?_⟩
  obtain ⟨accepted, ticks, since, keeps⟩ := represents.kept resources made
  refine ⟨accepted, ticks, since, keeps, ?_⟩
  intro capacity timing fits
  obtain ⟨consumed, lastOutput⟩ := keeps.counts.exact fits
  have behind := keeps.counts.behind
  have positive : 0 < capacity := resources.accumulator.positive
  refine ⟨consumed.trans (Int.natCast_mul ..), ?_, ?_, ?_, fun some => ?_⟩
  · rw [lastOutput, timing.toInt_tick]
    exact Int.natCast_mul ..
  · rw [Int64.le_iff_toInt_le, lastOutput]
    exact Int.natCast_nonneg _
  · rw [Int64.le_iff_toInt_le, lastOutput, consumed]
    exact Int.ofNat_le.mpr behind
  · rw [Int64.lt_iff_toInt_lt, lastOutput, consumed]
    exact Int.ofNat_lt.mpr (keeps.counts.strictly (Nat.mul_pos some positive))

/-- A session that has heard two samples in chunks of one. -/
theorem session_represents_small :
    let outside := (Rehearsal.smallScript none [1]).collaborators
    let messages : List ClientMessage :=
      [.init ["--word-symbol-table=w", "--chunk-length=1", "m", "g"] 1.0, .start,
        .audio [0.5, 0.25]]
    let history := turns (Protocol.handle outside) (.initial .initial) messages
    let last := stateAfter (Protocol.handle outside) (.initial .initial) messages
    ∃ session resources accepted, last.session = some session ∧
      session.resources = some resources ∧ session.Represents history ∧
      AcceptedSince accepted history ∧ accepted ≤ 2 ∧
      resources.timing.consumed.toInt = accepted * resources.accumulator.capacity := by
  intro outside messages history last
  have capacities : (last.session.bind Session.resources).map
      (fun resources => resources.accumulator.capacity) = some 1 := by decide +kernel
  have total : acceptedIn (history.flatMap fun turn => turn.outcome.record) = 2 := by
    decide +kernel
  obtain ⟨resources, made, capacity⟩ := Option.map_eq_some_iff.mp capacities
  obtain ⟨session, held, made⟩ := Option.bind_eq_some_iff.mp made
  obtain ⟨represents, counted⟩ := session_represents outside .initial messages session held
  obtain ⟨accepted, ticks, since, _, counts⟩ := counted resources made
  have few : accepted ≤ 2 := total ▸ since.le
  refine ⟨session, resources, accepted, held, made, represents, since, few, ?_⟩
  refine (counts ?_).1
  rw [capacity, Nat.mul_one]
  exact Nat.lt_of_le_of_lt few (by decide)

end LiveSpeech
