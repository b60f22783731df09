import Mathlib.Data.List.Chain
import LiveSpeech.Proofs.Opening
import LiveSpeech.Proofs.Requests
import LiveSpeech.Proofs.Service

/-!
# The protocol as an automaton

Every message moves the protocol between four states and sends what goes with the move
(`ControlStep`): a message for `ready`, a usage text for `uninitialized`, a transcript from
`listening` to `finalized`, and nothing else.  There is one exception: what a session needs is made
outside, and a message breaks off if that does (`handle_step`).

What is said about whole runs follows from the single steps (`control_automaton`): transcripts
are the moves from `listening` to `finalized`, so that there is a start between two of them, and
a session that does not look for the end sends none.
-/

namespace LiveSpeech

set_option autoImplicit false

open LiveSpeech.Audio

variable {World : Type}

/-! ## Steps of the automaton -/

/-- The moves of the protocol: the message, how it is answered, what is left, and what is sent to
the client. -/
inductive ControlStep (before : Protocol World) :
    ClientMessage → Except Failure Unit → Protocol World → List ServerMessage → Prop where
  /-- There is a new session. -/
  | ready {arguments : List String} {rate : Float32} {after : Protocol World}
      (ready : after.state = .ready) :
      ControlStep before (.init arguments rate) (.ok ()) after [.ready]
  /-- There is none, and the client is told why. -/
  | usage {arguments : List String} {rate : Float32} {after : Protocol World} (text : String)
      (uninitialized : after.state = .uninitialized) :
      ControlStep before (.init arguments rate) (.ok ()) after [.usage text]
  /-- The session starts to listen. -/
  | started {after : Protocol World}
      (waiting : before.state = .ready ∨ before.state = .finalized)
      (listening : after.state = .listening) :
      ControlStep before .start (.ok ()) after []
  /-- A session that listens goes on, and without a session there is nothing to start. -/
  | notStarted (other : before.state = .listening ∨ before.state = .uninitialized) :
      ControlStep before .start (.ok ()) before []
  /-- The utterance goes on, whether or not the audio can be decoded. -/
  | heard {samples : List Float32} {answer : Except Failure Unit} {after : Protocol World}
      (told : breakdownOf answer = none)
      (listening : before.state = .listening) (listening' : after.state = .listening) :
      ControlStep before (.audio samples) answer after []
  /-- The utterance ends. -/
  | finalized {samples : List Float32} {after : Protocol World} (transcript : String)
      (listening : before.state = .listening) (finalized : after.state = .finalized) :
      ControlStep before (.audio samples) (.ok ()) after [.transcript transcript]
  /-- Audio is dropped. -/
  | notHeard {samples : List Float32} (other : before.state ≠ .listening) :
      ControlStep before (.audio samples) (.ok ()) before []
  /-- The session starts over, whether or not it gets new resources. -/
  | cancelled {answer : Except Failure Unit} {after : Protocol World}
      (told : breakdownOf answer = none)
      (initialized : before.state ≠ .uninitialized) (ready : after.state = .ready) :
      ControlStep before .cancel answer after []
  /-- There is nothing to start over. -/
  | notCancelled (uninitialized : before.state = .uninitialized) :
      ControlStep before .cancel (.ok ()) before []

/-- What is left when a message breaks off: no session if it was to open one, and else one that is
ready. -/
inductive BreaksOff (before : Protocol World) : ClientMessage → Protocol World → Prop where
  | opening {arguments : List String} {rate : Float32} {after : Protocol World}
      (none : after.session = none) : BreaksOff before (.init arguments rate) after
  | cancelling {after : Protocol World} (initialized : before.state ≠ .uninitialized)
      (ready : after.state = .ready) : BreaksOff before .cancel after

theorem Protocol.state_of_none {protocol : Protocol World} (none : protocol.session = none) :
    protocol.state = .uninitialized := by
  rw [Protocol.state, none]

/-- What is left neither listens nor has ended an utterance. -/
theorem BreaksOff.idle {before after : Protocol World} {message : ClientMessage}
    (breaks : BreaksOff before message after) :
    after.state = .uninitialized ∨ after.state = .ready := by
  cases breaks with
  | opening none => exact .inl (Protocol.state_of_none none)
  | cancelling _ ready => exact .inr ready

/-- The text of a transcript. -/
def ServerMessage.transcript? : ServerMessage → Option String
  | .transcript text => some text
  | _ => none

namespace ControlStep

variable {before after : Protocol World} {message : ClientMessage}
  {answer : Except Failure Unit} {messages : List ServerMessage}

/-- A move does not break off. -/
theorem unbroken (step : ControlStep before message answer after messages) :
    breakdownOf answer = none := by
  cases step with
  | ready | usage | started | notStarted | finalized | notHeard | notCancelled => rfl
  | heard told | cancelled told => exact told

/-- A move sends one transcript if it leads from `listening` to `finalized`, and else none. -/
theorem length_transcripts (step : ControlStep before message answer after messages) :
    (messages.filterMap ServerMessage.transcript?).length =
      if before.state = .listening ∧ after.state = .finalized then 1 else 0 := by
  have stays : ¬(before.state = .listening ∧ before.state = .finalized) := by
    rintro ⟨listening, finalized⟩
    exact nomatch listening.symm.trans finalized
  cases step with
  | ready ready => simp [ready, ServerMessage.transcript?]
  | usage _ uninitialized => simp [uninitialized, ServerMessage.transcript?]
  | started _ listening => simp [listening]
  | notStarted | notHeard | notCancelled => rw [if_neg stays]; rfl
  | heard _ _ listening' => simp [listening']
  | finalized _ listening finalized => simp [listening, finalized, ServerMessage.transcript?]
  | cancelled _ _ ready => simp [ready]

/-- A session is made to listen by a start and by nothing else. -/
theorem is_start (step : ControlStep before message answer after messages)
    (silent : before.state ≠ .listening) (listening : after.state = .listening) :
    message = .start := by
  cases step with
  | ready ready | cancelled _ _ ready => exact nomatch ready.symm.trans listening
  | usage _ uninitialized => exact nomatch uninitialized.symm.trans listening
  | started => rfl
  | notStarted | notHeard | notCancelled => exact absurd listening silent
  | heard _ before => exact absurd before silent
  | finalized _ before => exact absurd before silent

/-- An utterance is ended by audio and by nothing else. -/
theorem is_audio (step : ControlStep before message answer after messages)
    (listening : before.state = .listening) (finalized : after.state = .finalized) :
    ∃ samples, message = .audio samples := by
  cases step with
  | ready ready | cancelled _ _ ready => exact nomatch ready.symm.trans finalized
  | usage _ uninitialized => exact nomatch uninitialized.symm.trans finalized
  | started _ listening' => exact nomatch listening'.symm.trans finalized
  | notStarted | notCancelled => exact nomatch listening.symm.trans finalized
  | heard | finalized | notHeard => exact ⟨_, rfl⟩

end ControlStep

/-! ## What the single steps come to -/

/-- The session of the protocol is sound. -/
def Protocol.Sound (protocol : Protocol World) : Prop :=
  ∀ session, protocol.session = some session → session.Sound

/-- What a fragment does to a session that listens. -/
theorem AudioStep.control {session session' : Session} {samples : List Float32}
    {answer : Except SessionError Nat} {landmarks : List Event}
    (step : AudioStep session samples answer session' landmarks) (sound : session.Sound)
    (listening : session.state = .listening) :
    (messagesOf landmarks = [] ∧ session'.state = .listening) ∨
      ∃ transcript cycles, messagesOf landmarks = [.transcript transcript] ∧
        session'.state = .finalized ∧ answer = .ok cycles := by
  cases step with
  | disabled disabled =>
    exact absurd (disabled.symm.trans (sound.enabled_iff.mpr listening)) Bool.false_ne_true
  | released | reported => exact .inl ⟨rfl, listening⟩
  | failed _ _ row =>
    cases row.rowEnd rfl with
    | error _ silent => exact .inl ⟨silent, listening⟩
  | complete _ _ row =>
    cases row.rowEnd rfl with
    | complete _ silent => exact .inl ⟨silent, listening⟩
  | ended _ _ row =>
    cases row.rowEnd rfl with
    | ended _ _ _ _ transcript sent => exact .inr ⟨transcript, _, sent, rfl, rfl⟩

/-- An opening message follows the automaton or breaks off. -/
theorem InitStep.control {outside : Collaborators World} {arguments : List String} {rate : Float32}
    {answer : Except Failure Unit} {after : Protocol World} {record : List Event}
    (before : Protocol World)
    (step : InitStep outside arguments rate answer after.session record) :
    ControlStep before (.init arguments rate) answer after (messagesOf record) ∨
      (∃ why, answer = .error (.broken why)) ∧ messagesOf record = [] ∧
        BreaksOff before (.init arguments rate) after := by
  obtain ⟨world, session⟩ := after
  rcases step.answered with ⟨rfl, told, there⟩ | ⟨rfl, ⟨text, told⟩, none⟩ | ⟨broken, silent, none⟩
  · obtain ⟨session, rfl⟩ := Option.isSome_iff_exists.mp there
    obtain ⟨_, _, fresh⟩ := step.fresh
    rw [told]
    refine .inl (.ready ?_)
    rw [fresh]
    rfl
  · obtain rfl : session = .none := none
    rw [told]
    exact .inl (.usage text rfl)
  · exact .inr ⟨broken, silent, .opening none⟩

/-! ## Messages for the session that there is -/

/-- What is told of a fragment is not that it breaks off. -/
theorem breakdownOf_told {Answer : Type} (answer : Except SessionError Answer) :
    breakdownOf ((answer.mapError Failure.error).map fun _ => ()) = none := by
  cases answer <;> rfl

/-- What a message asks of the session, unless it opens a new one. -/
def ClientMessage.request? : ClientMessage → Option SessionRequest
  | .init _ _ => none
  | .start => some .start
  | .audio samples => some (.audio samples)
  | .cancel => some .reset

theorem is_init_of_request? {message : ClientMessage} (opens : message.request? = none) :
    ∃ arguments rate, message = .init arguments rate := by
  cases message with
  | init arguments rate => exact ⟨arguments, rate, rfl⟩
  | start | audio | cancel => cases opens

/-- The session obeys what a message asks of it. -/
theorem handle_request (outside : Collaborators World) {message : ClientMessage}
    {request : SessionRequest} (asks : message.request? = some request) (world : World)
    (session : Session) :
    let run := Session.obey outside request ⟨world, session⟩
    Protocol.handle outside message ⟨world, some session⟩ =
      ⟨run.answer, ⟨run.state.world, some run.state.session⟩, run.record⟩ := by
  cases message with
  | init => cases asks
  | start | audio | cancel =>
    cases asks
    rfl

/-- A message for a session follows the automaton or breaks off. -/
theorem obey_control (outside : Collaborators World) {message : ClientMessage}
    {request : SessionRequest} (asks : message.request? = some request) (world : World)
    {session : Session} (sound : session.Sound) :
    let run := Session.obey outside request ⟨world, session⟩
    ControlStep ⟨world, some session⟩ message run.answer
        ⟨run.state.world, some run.state.session⟩ (messagesOf run.record) ∨
      (∃ why, run.answer = .error (.broken why)) ∧ messagesOf run.record = [] ∧
        BreaksOff ⟨world, some session⟩ message ⟨run.state.world, some run.state.session⟩ := by
  intro run
  cases message with
  | init => cases asks
  | start =>
    cases asks
    by_cases listening : session.state = .listening
    · have ran : run = _ :=
        start_of_listening (show (Stage.mk world session).session.state = .listening from listening)
      rw [ran]
      exact .inl (.notStarted (.inl listening))
    · have ran : run = _ :=
        start_of_not_listening (show (Stage.mk world session).session.state ≠ .listening
          from listening)
      rw [ran]
      refine .inl (.started ?_ rfl)
      cases state : session.state with
      | uninitialized => exact absurd state sound.initialized
      | ready => exact .inl state
      | listening => exact absurd state listening
      | finalized => exact .inr state
  | audio samples =>
    cases asks
    have ran : run = _ := Action.wrapFailure_done ..
    by_cases listening : session.state = .listening
    · have step := acceptAudio_step outside samples ⟨world, session⟩
      rw [ran]
      rcases step.control sound listening with
        ⟨silent, kept⟩ | ⟨transcript, cycles, sent, closed, answered⟩
      · rw [messagesOf_landmarksOf] at silent
        rw [silent]
        exact .inl (.heard (breakdownOf_told _) listening kept)
      · rw [messagesOf_landmarksOf] at sent
        rw [sent, answered]
        exact .inl (.finalized transcript listening closed)
    · have disabled : (Stage.mk world session).session.enabled = false :=
        eq_false_of_ne_true (mt sound.enabled_iff.mp listening)
      rw [ran, acceptAudio_of_disabled outside disabled]
      exact .inl (.notHeard listening)
  | cancel =>
    cases asks
    obtain ⟨built, _, _, answered, fresh, quiet⟩ := reset_step outside ⟨world, session⟩
    have ran : run = Session.reset outside ⟨world, session⟩ := rfl
    rw [ran, ← messagesOf_landmarksOf, quiet, fresh, answered]
    cases built with
    | ok resources => exact .inl (.cancelled rfl sound.initialized rfl)
    | error failure =>
      cases failure with
      | error cause => exact .inl (.cancelled rfl sound.initialized rfl)
      | broken why => exact .inr ⟨⟨why, rfl⟩, rfl, .cancelling sound.initialized rfl⟩

/-- Without a session the automaton stays where it is. -/
theorem idle_control (outside : Collaborators World) {message : ClientMessage}
    {request : SessionRequest} (asks : message.request? = some request) (world : World) :
    let run := Protocol.handle outside message ⟨world, none⟩
    ControlStep ⟨world, none⟩ message run.answer run.state (messagesOf run.record) := by
  cases message with
  | init => cases asks
  | start => exact .notStarted (.inr rfl)
  | audio => exact .notHeard nofun
  | cancel => exact .notCancelled rfl

/-! ## Every message -/

/-- What serves an engine, and what lets go of one, does not break off. -/
theorem Event.breakdown?_of_serves {engine : Engine} {event : Event}
    (serves : event.Serves engine) : event.breakdown? = none := by
  cases event with
  | call call => cases call <;> first | rfl | cases serves
  | note | send => rfl

theorem Event.breakdown?_of_letsGo {event : Event} (letsGo : event.letsGo = true) :
    event.breakdown? = none := by
  cases event with
  | call call => cases call <;> first | rfl | cases letsGo
  | note | send => rfl

/-- A request breaks off if a collaborator does, and for no other reason. -/
theorem obey_breakdowns (outside : Collaborators World) (request : SessionRequest)
    (stage : Stage World) :
    let run := Session.obey outside request stage
    breakdownsOf run.record = (breakdownOf run.answer).toList := by
  intro run
  cases request with
  | start =>
    by_cases listening : stage.session.state = .listening
    · rw [show run = _ from start_of_listening listening]
      rfl
    · rw [show run = _ from start_of_not_listening listening]
      rfl
  | audio samples =>
    have ran : run = _ := Action.wrapFailure_done ..
    rw [ran, breakdownOf_told]
    refine breakdownsOf_eq_nil ((forall_mem_effectsOf fun _ => rfl).mp fun event member => ?_)
    obtain ⟨_, _, serves⟩ := (acceptAudio_serves outside samples stage).2.2 event member
    exact event.breakdown?_of_serves serves
  | reset =>
    obtain ⟨cleared, letting, lets, ran⟩ := reset_building outside stage
    have step := buildResources_step outside stage.session.models stage.session.config
      (outside.restartClock cleared)
    rw [show run = _ from ran, breakdownsOf_append, step.breakdownsOf_eq,
      breakdownsOf_eq_nil fun event member => event.breakdown?_of_letsGo (lets event member),
      List.nil_append]
    dsimp only
    generalize (buildResources outside stage.session.models stage.session.config
      (outside.restartClock cleared)).answer = built
    rcases built with (_ | _) | _ <;> rfl

/-- A message breaks off if a collaborator does, and for no other reason. -/
theorem handle_breakdowns (outside : Collaborators World) (message : ClientMessage)
    (protocol : Protocol World) :
    let run := Protocol.handle outside message protocol
    breakdownsOf run.record = (breakdownOf run.answer).toList := by
  intro run
  obtain ⟨world, session⟩ := protocol
  cases asks : message.request? with
  | none =>
    obtain ⟨arguments, rate, rfl⟩ := is_init_of_request? asks
    exact (init_step outside arguments rate ⟨world, session⟩).breakdownsOf_eq
  | some request =>
    cases session with
    | none =>
      cases message with
      | init => cases asks
      | start | audio | cancel => rfl
    | some session =>
      have ran : run = _ := handle_request outside asks world session
      rw [ran]
      exact obey_breakdowns outside request ⟨world, session⟩

/-- **Every message follows the automaton or breaks off.** -/
theorem handle_step (outside : Collaborators World) (message : ClientMessage)
    {protocol : Protocol World} (sound : protocol.Sound) :
    let run := Protocol.handle outside message protocol
    ControlStep protocol message run.answer run.state (messagesOf run.record) ∨
      (∃ why, run.answer = .error (.broken why)) ∧ messagesOf run.record = [] ∧
        BreaksOff protocol message run.state := by
  intro run
  cases asks : message.request? with
  | none =>
    obtain ⟨arguments, rate, rfl⟩ := is_init_of_request? asks
    exact (init_step outside arguments rate protocol).control protocol
  | some request =>
    obtain ⟨world, session⟩ := protocol
    cases session with
    | none => exact .inl (idle_control outside asks world)
    | some session =>
      have ran : run = _ := handle_request outside asks world session
      rw [ran]
      exact obey_control outside asks world (sound session rfl)

/-! ## What every message preserves -/

theorem sound_initial (world : World) : (Protocol.initial world).Sound := by
  intro session held
  cases held

/-- A session that is there after a message for one was there before, and has obeyed. -/
theorem exists_obey (outside : Collaborators World) {message : ClientMessage}
    {request : SessionRequest} (asks : message.request? = some request)
    {protocol : Protocol World} {session' : Session}
    (held : (Protocol.handle outside message protocol).state.session = some session') :
    ∃ session, protocol.session = some session ∧
      session' = (Session.obey outside request ⟨protocol.world, session⟩).state.session := by
  obtain ⟨world, session⟩ := protocol
  cases session with
  | none =>
    cases message with
    | init => cases asks
    | start | audio | cancel => cases held
  | some session =>
    rw [handle_request outside asks world session] at held
    exact ⟨session, rfl, (Option.some.inj held).symm⟩

/-- A session that is there after an opening message is new, and is the one that its arguments
describe. -/
theorem init_fresh (outside : Collaborators World) (arguments : List String) (rate : Float32)
    {protocol : Protocol World} {session : Session}
    (held : (Protocol.handle outside (.init arguments rate) protocol).state.session =
      some session) :
    Config.ofArguments arguments rate = .ok session.config ∧
      ∃ resources, session = .fresh session.config session.symbols session.models
        (some resources) := by
  have step := init_step outside arguments rate protocol
  dsimp only at step
  rw [show (Protocol.init outside arguments rate protocol).state.session = some session
    from held] at step
  exact step.fresh

/-- Every message leaves a sound session, if any. -/
theorem handle_sound (outside : Collaborators World) (message : ClientMessage)
    {protocol : Protocol World} (sound : protocol.Sound) :
    (Protocol.handle outside message protocol).state.Sound := by
  intro session' held
  cases asks : message.request? with
  | none =>
    obtain ⟨arguments, rate, rfl⟩ := is_init_of_request? asks
    obtain ⟨_, _, fresh⟩ := init_fresh outside arguments rate held
    rw [fresh]
    exact sound_fresh ..
  | some request =>
    obtain ⟨session, before, rfl⟩ := exists_obey outside asks held
    exact obey_sound outside request (sound session before)

/-- A request leaves the configuration of the session as it is. -/
theorem obey_config (outside : Collaborators World) (request : SessionRequest)
    (stage : Stage World) :
    (Session.obey outside request stage).state.session.config = stage.session.config := by
  cases request with
  | start =>
    show ((Session.start : Action (Stage World) Failure Unit) stage).state.session.config = _
    by_cases listening : stage.session.state = .listening
    · rw [start_of_listening listening]
    · rw [start_of_not_listening listening]
  | audio samples =>
    rw [Session.obey, Action.wrapFailure_done]
    exact (acceptAudio_step outside samples stage).config_eq
  | reset =>
    obtain ⟨_, _, _, _, session, _⟩ := reset_step outside stage
    show (Session.reset outside stage).state.session.config = _
    rw [session]
    rfl

/-- A session that does not look for the end sends no transcript. -/
theorem AudioStep.silent_of_not_asked {session session' : Session} {samples : List Float32}
    {answer : Except SessionError Nat} {landmarks : List Event}
    (step : AudioStep session samples answer session' landmarks)
    (unasked : session.config.doEndpointing = false) : messagesOf landmarks = [] := by
  cases step with
  | disabled | released | reported => rfl
  | failed _ _ row =>
    cases row.rowEnd rfl with
    | error _ silent => exact silent
  | complete _ _ row =>
    cases row.rowEnd rfl with
    | complete _ silent => exact silent
  | ended _ _ row =>
    cases row.rowEnd rfl with
    | ended => exact absurd (row.flag_of_not_asked unasked) Bool.true_eq_false.mp

theorem handle_silent (outside : Collaborators World) (samples : List Float32)
    {protocol : Protocol World} {session : Session} (held : protocol.session = some session)
    (unasked : session.config.doEndpointing = false) :
    messagesOf (Protocol.handle outside (.audio samples) protocol).record = [] := by
  obtain ⟨world, _⟩ := protocol
  subst held
  have asks : (ClientMessage.audio samples).request? = some (.audio samples) := rfl
  rw [handle_request outside asks, Session.obey, Action.wrapFailure_done, ← messagesOf_landmarksOf]
  exact (acceptAudio_step outside samples ⟨world, session⟩).silent_of_not_asked unasked

/-- A session is there if it listens. -/
theorem Protocol.session_of_listening {protocol : Protocol World}
    (listening : protocol.state = .listening) : ∃ session, protocol.session = some session := by
  obtain ⟨world, session⟩ := protocol
  cases session with
  | none => cases listening
  | some session => exact ⟨session, rfl⟩

/-! ## Runs of messages -/

/-- A message, the protocol that it met, and what it left. -/
abbrev ControlTurn (World : Type) : Type := Turn ClientMessage (Protocol World) Failure Unit

/-- The turn is a move of the automaton. -/
def Follows (turn : ControlTurn World) : Prop :=
  ControlStep turn.before turn.request turn.outcome.answer turn.outcome.state
    (messagesOf turn.outcome.record)

/-- The transcripts that were sent in a turn. -/
def transcriptsOf (turn : ControlTurn World) : List String :=
  (messagesOf turn.outcome.record).filterMap ServerMessage.transcript?

/-- The turn leads from a session that listens to one that is finalized. -/
def Finalizes (turn : ControlTurn World) : Prop :=
  turn.before.state = .listening ∧ turn.outcome.state.state = .finalized

instance (turn : ControlTurn World) : Decidable (Finalizes turn) :=
  inferInstanceAs (Decidable
    (turn.before.state = .listening ∧ turn.outcome.state.state = .finalized))

/-- The turn is a start that makes the session listen. -/
def Starts (turn : ControlTurn World) : Prop :=
  turn.request = .start ∧ turn.before.state ≠ .listening ∧ turn.outcome.state.state = .listening

/-- The last message to open a session had arguments for this configuration. -/
def OpenedWith (config : Config) : List (ControlTurn World) → Prop :=
  Since
    (fun turn => ∃ arguments rate, turn.request = .init arguments rate ∧
      Config.ofArguments arguments rate = .ok config)
    fun later => ∀ arguments rate, later.request ≠ .init arguments rate

section History

variable {outside : Collaborators World} {world : World} {messages : List ClientMessage}

/-- What one turn of a run can be. -/
theorem turn_step {turn : ControlTurn World}
    (member : turn ∈ turns (Protocol.handle outside) (.initial world) messages) :
    Follows turn ∨ (∃ why, turn.outcome.answer = .error (.broken why)) ∧
      messagesOf turn.outcome.record = [] ∧
        BreaksOff turn.before turn.request turn.outcome.state := by
  have sound := turns_invariant (fun message _ => handle_sound outside message)
    (sound_initial world) member
  rw [Follows, outcome_of_mem_turns member]
  exact handle_step outside turn.request sound

/-- A turn sends one transcript if it finalizes the session, and else none. -/
theorem length_transcriptsOf {turn : ControlTurn World}
    (member : turn ∈ turns (Protocol.handle outside) (.initial world) messages) :
    (transcriptsOf turn).length = if Finalizes turn then 1 else 0 := by
  rcases turn_step member with follows | ⟨_, silent, breaks⟩
  · exact follows.length_transcripts
  · have other : ¬Finalizes turn := by
      rintro ⟨_, finalized⟩
      rcases breaks.idle with idle | idle <;> exact nomatch idle.symm.trans finalized
    rw [transcriptsOf, silent, if_neg other]
    rfl

/-- A run sends as many transcripts as it finalizes sessions. -/
theorem length_flatMap_transcriptsOf (history : List (ControlTurn World))
    (one : ∀ turn ∈ history, (transcriptsOf turn).length = if Finalizes turn then 1 else 0) :
    (history.flatMap transcriptsOf).length = history.countP fun turn => Finalizes turn := by
  induction history with
  | nil => rfl
  | cons turn others ih =>
    have here := one turn (List.mem_cons_self ..)
    have behind := ih fun other member => one other (List.mem_cons_of_mem _ member)
    rw [List.flatMap_cons, List.length_append, List.countP_cons, here, behind, Nat.add_comm]
    simp only [decide_eq_true_eq]

/-- A turn that sends a transcript finalizes the session. -/
theorem finalizes_of_transcript {turn : ControlTurn World}
    (member : turn ∈ turns (Protocol.handle outside) (.initial world) messages)
    (sends : transcriptsOf turn ≠ []) : Finalizes turn := by
  by_contra other
  have none := length_transcriptsOf member
  rw [if_neg other] at none
  exact sends (List.length_eq_zero_iff.mp none)

/-- Between two transcripts a start has made the session listen. -/
theorem starts_between {before between after : List (ControlTurn World)}
    {first second : ControlTurn World}
    (history : turns (Protocol.handle outside) (.initial world) messages =
      before ++ first :: (between ++ second :: after))
    (sends : transcriptsOf first ≠ []) (sends' : transcriptsOf second ≠ []) :
    ∃ turn ∈ between, Starts turn := by
  have among {turn : ControlTurn World} (member : turn ∈ first :: (between ++ second :: after)) :
      turn ∈ turns (Protocol.handle outside) (.initial world) messages := by
    rw [history]
    exact List.mem_append_right _ member
  have chain : (turns (Protocol.handle outside) (.initial world) messages).IsChain
      fun earlier later => earlier.outcome.state = later.before := turns_isChain _ _
  rw [history] at chain
  have closed := (finalizes_of_transcript (among (List.mem_cons_self ..)) sends).2
  have opened := (finalizes_of_transcript
    (among (List.mem_cons_of_mem _ (List.mem_append_right _ (List.mem_cons_self ..)))) sends').1
  obtain ⟨turn, member, silent, listening⟩ :=
    exists_turn_between (fun protocol => protocol.state = .listening)
      (List.isChain_append.mp chain).2.1 (fun listening => nomatch closed.symm.trans listening)
      opened
  refine ⟨turn, member, ?_, silent, listening⟩
  have run : turn ∈ turns (Protocol.handle outside) (.initial world) messages :=
    among (List.mem_cons_of_mem _ (List.mem_append_left _ member))
  rcases turn_step run with follows | ⟨_, _, breaks⟩
  · exact follows.is_start silent listening
  · rcases breaks.idle with idle | idle <;> exact nomatch idle.symm.trans listening

/-- The session is the one that the last opening message has described. -/
theorem session_config (outside : Collaborators World) (world : World)
    (messages : List ClientMessage) :
    ∀ session, (stateAfter (Protocol.handle outside) (.initial world) messages).session =
        some session →
      ∀ config, OpenedWith config (turns (Protocol.handle outside) (.initial world) messages) →
        session.config = config := by
  induction messages using List.reverseRecOn with
  | nil =>
    intro session held
    cases held
  | append_singleton messages message ih =>
    intro session held config opened
    rw [stateAfter_concat] at held
    rw [turns_concat, OpenedWith, since_concat] at opened
    rcases opened with ⟨arguments, rate, rfl, read⟩ | ⟨opened, other⟩
    · exact Except.ok.inj ((init_fresh outside arguments rate held).1.symm.trans read)
    · cases asks : message.request? with
      | none =>
        obtain ⟨arguments, rate, rfl⟩ := is_init_of_request? asks
        exact absurd rfl (other arguments rate)
      | some request =>
        obtain ⟨before, held', rfl⟩ := exists_obey outside asks held
        rw [obey_config]
        exact ih before held' config opened

/-- No transcript is sent if the session is not to look for the end. -/
theorem transcriptsOf_of_not_asked {before after : List (ControlTurn World)}
    {turn : ControlTurn World} {config : Config}
    (history : turns (Protocol.handle outside) (.initial world) messages =
      before ++ turn :: after)
    (opened : OpenedWith config before) (unasked : config.doEndpointing = false) :
    transcriptsOf turn = [] := by
  have member : turn ∈ turns (Protocol.handle outside) (.initial world) messages := by
    rw [history]
    exact List.mem_append_right _ (List.mem_cons_self ..)
  by_contra sends
  have finalizes := finalizes_of_transcript member sends
  obtain ⟨earlier, rfl, meets⟩ := turns_split history
  obtain ⟨session, held⟩ := Protocol.session_of_listening finalizes.1
  obtain ⟨samples, audio⟩ : ∃ samples, turn.request = .audio samples := by
    rcases turn_step member with follows | ⟨_, _, breaks⟩
    · exact follows.is_audio finalizes.1 finalizes.2
    · rcases breaks.idle with idle | idle <;> exact nomatch idle.symm.trans finalizes.2
  have config_eq : session.config = config :=
    session_config outside world earlier session (meets ▸ held) config opened
  refine sends ?_
  rw [transcriptsOf, outcome_of_mem_turns member, audio,
    handle_silent outside samples held (config_eq ▸ unasked)]
  rfl

end History

/-- **The protocol is an automaton, as long as what it needs can be made.**  A message follows it
exactly if no collaborator breaks off while the message is handled: one that is to make a converter,
or to have memory ready.  If one does, the message breaks off with what the collaborator has said
and nothing is sent.  A run sends as many transcripts as utterances end, there is a start between
two of them, and none is sent by a session that does not look for the end. -/
theorem control_automaton (outside : Collaborators World) (world : World)
    (messages : List ClientMessage) :
    let history := turns (Protocol.handle outside) (.initial world) messages
    (∀ turn ∈ history,
      (Follows turn ↔ breakdownsOf turn.outcome.record = []) ∧
        ∀ why ∈ breakdownsOf turn.outcome.record, turn.outcome.answer = .error (.broken why) ∧
          messagesOf turn.outcome.record = [] ∧
            BreaksOff turn.before turn.request turn.outcome.state) ∧
      (history.flatMap transcriptsOf).length = history.countP (fun turn => Finalizes turn) ∧
      (∀ before first between second after,
        history = before ++ first :: (between ++ second :: after) →
          transcriptsOf first ≠ [] → transcriptsOf second ≠ [] →
            ∃ turn ∈ between, Starts turn) ∧
      ∀ before turn after config, history = before ++ turn :: after →
        OpenedWith config before → config.doEndpointing = false → transcriptsOf turn = [] := by
  intro history
  refine ⟨fun turn member => ?_, ?_, ?_, ?_⟩
  · have breakdowns := handle_breakdowns outside turn.request turn.before
    rw [← outcome_of_mem_turns member] at breakdowns
    dsimp only at breakdowns
    rw [breakdowns]
    rcases turn_step member with follows | ⟨⟨why, broken⟩, silent, breaks⟩
    · rw [show breakdownOf turn.outcome.answer = none from follows.unbroken]
      exact ⟨iff_of_true follows rfl, nofun⟩
    · have told : breakdownOf turn.outcome.answer = some why := by rw [broken]; rfl
      rw [told]
      refine ⟨iff_of_false (fun follows => ?_) (List.cons_ne_nil _ _), fun other same => ?_⟩
      · exact nomatch told.symm.trans follows.unbroken
      · rw [List.mem_singleton.mp same]
        exact ⟨broken, silent, breaks⟩
  · exact length_flatMap_transcriptsOf history fun turn member => length_transcriptsOf member
  · exact fun _ _ _ _ _ parts sends sends' => starts_between parts sends sends'
  · exact fun _ _ _ _ parts opened unasked => transcriptsOf_of_not_asked parts opened unasked

/-- An opening message that asks for an infinite chunk is not answered, and does not follow the
automaton. -/
theorem control_of_infinite_chunk :
    let outside := (Rehearsal.smallScript none []).collaborators
    let message : ClientMessage :=
      .init ["--word-symbol-table=w", "--chunk-length=inf", "m", "g"] 16000.0
    let run := Protocol.handle outside message (.initial .initial)
    run.answer = .error (.broken .capacity) ∧ messagesOf run.record = [] ∧
      ¬Follows ⟨message, .initial .initial, run⟩ := by
  intro outside message run
  have told : breakdownOf run.answer = some .capacity := by decide +kernel
  have other : ¬Follows ⟨message, .initial .initial, run⟩ := fun follows =>
    nomatch told.symm.trans follows.unbroken
  rcases handle_step outside message (sound_initial .initial) with
    follows | ⟨⟨why, broken⟩, silent, _⟩
  · exact absurd follows other
  · have same : some why = some .capacity := (congrArg breakdownOf broken).symm.trans told
    rw [← Option.some.inj same]
    exact ⟨broken, silent, other⟩

end LiveSpeech
