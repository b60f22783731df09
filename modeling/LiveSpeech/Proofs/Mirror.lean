import LiveSpeech.Proofs.Action
import LiveSpeech.Proofs.Runs
import LiveSpeech.Proofs.Twins

/-!
# Runs that mirror each other

Engines and models are told apart by names, and what is done with one engine may be done with
another in the same way.  What is shown of a record are its calls and messages, without the names
and without what the clock has shown (`shownOf`).

Two actions mirror each other if from states that are related they end alike, show the same, and
leave states that are related again (`Action.Mirrors`).  How the states are related may be another
thing before, after an answer and after a failure.  There is one rule for each way to make an action
of others, and runs of requests follow from their steps (`turns_mirror`).
-/

namespace LiveSpeech

set_option autoImplicit false

/-! ## What is shown -/

/-- Any models with this rate. -/
def Models.unnamed (models : Models) : Models := ⟨0, models.nativeRate⟩

/-- Any engine. -/
def Engine.unnamed : Engine := ⟨0⟩

/-- A call without the names of models and engines and without the time. -/
def Call.unnamed : Call → Call
  | .load config answer => .load config (answer.map Models.unnamed)
  | .releaseModels models => .releaseModels models.unnamed
  | .createEngine models answer => .createEngine models.unnamed (answer.map fun _ => .unnamed)
  | .releaseEngine _ => .releaseEngine .unnamed
  | .acceptWaveform _ rate samples answer => .acceptWaveform .unnamed rate samples answer
  | .advanceDecoding _ answer => .advanceDecoding .unnamed answer
  | .endpointDetected _ policy answer => .endpointDetected .unnamed policy answer
  | .finalRelativeCost _ answer => .finalRelativeCost .unnamed answer
  | .bestPath _ answer => .bestPath .unnamed answer
  | .framesDecoded _ answer => .framesDecoded .unnamed answer
  | .silenceWeighting _ answer => .silenceWeighting .unnamed answer
  | .adaptiveFeatures _ answer => .adaptiveFeatures .unnamed answer
  | .computeTraceback _ => .computeTraceback .unnamed
  | .deltaWeights _ answer => .deltaWeights .unnamed answer
  | .updateFrameWeights _ weights => .updateFrameWeights .unnamed weights
  | .restartClock => .restartClock
  | .elapsedSeconds _ => .elapsedSeconds 0.0
  | .waitUntil seconds => .waitUntil seconds
  | .readFile path => .readFile path
  | .makeConverter given wanted answer => .makeConverter given wanted answer
  | .reserve samples answer => .reserve samples answer

/-- What is shown of an event: a call without names, or a message. -/
def Event.shown : Event → Option Event
  | .call asked => some (.call asked.unnamed)
  | .note _ => none
  | .send message => some (.send message)

/-- What is shown of a record. -/
def shownOf (record : List Event) : List Event := record.filterMap Event.shown

@[simp] theorem shownOf_append (first second : List Event) :
    shownOf (first ++ second) = shownOf first ++ shownOf second :=
  List.filterMap_append

theorem shownOf_notices (notices : List Notice) : shownOf (notices.map .note) = [] :=
  List.filterMap_eq_nil_iff.mpr (List.forall_mem_map.mpr fun _ _ => rfl)

/-- Messages are shown as they are. -/
theorem messagesOf_shownOf (record : List Event) :
    messagesOf (shownOf record) = messagesOf record := by
  rw [messagesOf, shownOf, List.filterMap_filterMap]
  refine List.filterMap_congr fun event _ => ?_
  cases event <;> rfl

/-! ## Outcomes -/

variable {State State' Failure Answer Answer' Next Next' : Type}

/-- Two outcomes are answers or the same failure, show the same, and leave related states. -/
inductive Mirrored (after : Answer → Answer' → State → State' → Prop)
    (failed : State → State' → Prop) (run : Outcome State Failure Answer)
    (run' : Outcome State' Failure Answer') : Prop where
  | answered (shown : shownOf run.record = shownOf run'.record) {answer : Answer}
      {answer' : Answer'} (ran : run.answer = .ok answer) (ran' : run'.answer = .ok answer')
      (holds : after answer answer' run.state run'.state) : Mirrored after failed run run'
  | failed (shown : shownOf run.record = shownOf run'.record) {failure : Failure}
      (ran : run.answer = .error failure) (ran' : run'.answer = .error failure)
      (holds : failed run.state run'.state) : Mirrored after failed run run'

/-- The answers are the same, and the states are related. -/
def Agreeing (related : State → State' → Prop) (answer answer' : Answer) (state : State)
    (state' : State') : Prop :=
  answer = answer' ∧ related state state'

namespace Mirrored

variable {after : Answer → Answer' → State → State' → Prop} {failed : State → State' → Prop}
  {run : Outcome State Failure Answer} {run' : Outcome State' Failure Answer'}

theorem shown (mirrored : Mirrored after failed run run') :
    shownOf run.record = shownOf run'.record := by
  cases mirrored with
  | answered shown | failed shown => exact shown

/-- The same happened before in both. -/
theorem behind (mirrored : Mirrored after failed run run') {record record' : List Event}
    (same : shownOf record = shownOf record') :
    Mirrored after failed (run.after record) (run'.after record') := by
  have shown : shownOf (run.after record).record = shownOf (run'.after record').record := by
    rw [Outcome.after_record, Outcome.after_record, shownOf_append, shownOf_append, same,
      mirrored.shown]
  cases mirrored with
  | answered _ ran ran' holds => exact .answered shown ran ran' holds
  | failed _ ran ran' holds => exact .failed shown ran ran' holds

section Agreeing

variable {related : State → State' → Prop} {run' : Outcome State' Failure Answer}

/-- What agrees ends alike. -/
theorem answer_eq (mirrored : Mirrored (Agreeing related) failed run run') :
    run.answer = run'.answer := by
  cases mirrored with
  | answered _ ran ran' holds => rw [ran, ran', holds.1]
  | failed _ ran ran' => rw [ran, ran']

theorem states (mirrored : Mirrored (Agreeing related) related run run') :
    related run.state run'.state := by
  cases mirrored with
  | answered _ _ _ holds => exact holds.2
  | failed _ _ _ holds => exact holds

end Agreeing

end Mirrored

/-! ## Actions -/

/-- From related states the actions mirror each other. -/
def Action.Mirrors (before : State → State' → Prop) (action : Action State Failure Answer)
    (action' : Action State' Failure Answer')
    (after : Answer → Answer' → State → State' → Prop) (failed : State → State' → Prop) : Prop :=
  ∀ state state', before state state' → Mirrored after failed (action state) (action' state')

namespace Action.Mirrors

variable {before : State → State' → Prop} {after : Answer → Answer' → State → State' → Prop}
  {failed : State → State' → Prop}

theorem done {answer : Answer} {answer' : Answer'}
    (holds : ∀ state state', before state state' → after answer answer' state state') :
    (Action.done answer : Action State Failure Answer).Mirrors before (Action.done answer') after
      failed :=
  fun state state' states => .answered rfl rfl rfl (holds state state' states)

theorem fail (failure : Failure)
    (holds : ∀ state state', before state state' → failed state state') :
    (Action.fail failure : Action State Failure Answer).Mirrors before
      (Action.fail failure : Action State' Failure Answer') after failed :=
  fun state state' states => .failed rfl rfl rfl (holds state state' states)

/-- A result that is the same in both is answered in both, or fails both. -/
theorem ofExcept {Cause : Type} (wrap : Cause → Failure) (result : Except Cause Answer) :
    (Action.ofExcept wrap result : Action State Failure Answer).Mirrors before
      (Action.ofExcept wrap result) (Agreeing before) before := by
  cases result with
  | ok answer => exact .done fun _ _ states => ⟨rfl, states⟩
  | error cause => exact .fail (wrap cause) fun _ _ states => states

/-- Notes are not shown, and may differ. -/
theorem note (notice notice' : Notice) :
    (Action.note notice : Action State Failure Unit).Mirrors before (Action.note notice')
      (Agreeing before) failed :=
  fun _ _ states => .answered rfl rfl rfl ⟨rfl, states⟩

theorem send (message : ServerMessage) :
    (Action.send message : Action State Failure Unit).Mirrors before (Action.send message)
      (Agreeing before) failed :=
  fun _ _ states => .answered rfl rfl rfl ⟨rfl, states⟩

theorem change {how : State → State} {how' : State' → State'} {related : State → State' → Prop}
    (holds : ∀ state state', before state state' → related (how state) (how' state')) :
    (Action.change how : Action State Failure Unit).Mirrors before (Action.change how')
      (Agreeing related) failed :=
  fun state state' states => .answered rfl rfl rfl ⟨rfl, holds state state' states⟩

/-- Two collaborators are asked, and the answers are shown alike. -/
theorem ask {read : State → Answer × State} {read' : State' → Answer' × State'}
    {call : Answer → Call} {call' : Answer' → Call}
    (shown : ∀ state state', before state state' →
      (call (read state).1).unnamed = (call' (read' state').1).unnamed)
    (holds : ∀ state state', before state state' →
      after (read state).1 (read' state').1 (read state).2 (read' state').2) :
    (Action.ask read call : Action State Failure Answer).Mirrors before (Action.ask read' call')
      after failed :=
  fun state state' states => .answered
    (congrArg (fun asked => [Event.call asked]) (shown state state' states)) rfl rfl
    (holds state state' states)

/-- Two collaborators that answer alike are asked the same. -/
theorem ask_alike {read : State → Answer × State} {read' : State' → Answer × State'}
    {call call' : Answer → Call} (answered : AnsweredAlike before read read')
    (shown : ∀ answer, (call answer).unnamed = (call' answer).unnamed) :
    (Action.ask read call : Action State Failure Answer).Mirrors before (Action.ask read' call')
      (Agreeing before) failed :=
  .ask (fun state state' states => (answered state state' states).1 ▸ shown _) answered

theorem tell {work : State → State} {work' : State' → State'} {call call' : Call}
    {related : State → State' → Prop} (shown : call.unnamed = call'.unnamed)
    (holds : ∀ state state', before state state' → related (work state) (work' state')) :
    (Action.tell work call : Action State Failure Unit).Mirrors before (Action.tell work' call')
      (Agreeing related) failed :=
  fun state state' states => .answered (congrArg (fun asked => [Event.call asked]) shown) rfl rfl
    ⟨rfl, holds state state' states⟩

/-- One action after the other. -/
theorem bind {middle : Answer → Answer' → State → State' → Prop}
    {behind : Next → Next' → State → State' → Prop} {first : Action State Failure Answer}
    {first' : Action State' Failure Answer'} {next : Answer → Action State Failure Next}
    {next' : Answer' → Action State' Failure Next'}
    (early : first.Mirrors before first' middle failed)
    (late : ∀ answer answer',
      (next answer).Mirrors (middle answer answer') (next' answer') behind failed) :
    (first >>= next).Mirrors before (first' >>= next') behind failed := by
  intro state state' states
  cases early state state' states with
  | answered shown ran ran' holds =>
    rw [bind_ok ran, bind_ok ran']
    exact (late _ _ _ _ holds).behind shown
  | failed shown ran ran' holds =>
    rw [bind_error ran, bind_error ran']
    exact .failed shown rfl rfl holds

/-- One action after the other, if the first is answered alike. -/
theorem bind_agreeing {middle : State → State' → Prop}
    {behind : Next → Next' → State → State' → Prop} {first : Action State Failure Answer}
    {first' : Action State' Failure Answer} {next : Answer → Action State Failure Next}
    {next' : Answer → Action State' Failure Next'}
    (early : first.Mirrors before first' (Agreeing middle) failed)
    (late : ∀ answer, (next answer).Mirrors middle (next' answer) behind failed) :
    (first >>= next).Mirrors before (first' >>= next') behind failed := by
  refine .bind early fun answer answer' => ?_
  rintro state state' ⟨rfl, states⟩
  exact late answer state state' states

/-- What comes after a failure that is an answer goes on from how a failure leaves the states. -/
theorem attempt_bind {Other : Type} {middle : Answer → Answer' → State → State' → Prop}
    {stopped : State → State' → Prop} {behind : Next → Next' → State → State' → Prop}
    {first : Action State Failure Answer} {first' : Action State' Failure Answer'}
    {next : Except Failure Answer → Action State Other Next}
    {next' : Except Failure Answer' → Action State' Other Next'}
    (early : first.Mirrors before first' middle stopped)
    (late : ∀ answer answer',
      (next (.ok answer)).Mirrors (middle answer answer') (next' (.ok answer')) behind failed)
    (fails : ∀ failure,
      (next (.error failure)).Mirrors stopped (next' (.error failure)) behind failed) :
    (first.attempt >>= next).Mirrors before (first'.attempt >>= next') behind failed := by
  intro state state' states
  have went : (first.attempt state : Outcome State Other _).answer = .ok (first state).answer := rfl
  have went' : (first'.attempt state' : Outcome State' Other _).answer =
    .ok (first' state').answer := rfl
  rw [bind_ok went, bind_ok went']
  cases early state state' states with
  | answered shown ran ran' holds =>
    rw [ran, ran']
    exact (late _ _ _ _ holds).behind shown
  | failed shown ran ran' holds =>
    rw [ran, ran']
    exact (fails _ _ _ holds).behind shown

theorem wrapFailure {Wrapped : Type} {action : Action State Failure Answer}
    {action' : Action State' Failure Answer'} (wrap : Failure → Wrapped)
    (mirrors : action.Mirrors before action' after failed) :
    (action.wrapFailure wrap).Mirrors before (action'.wrapFailure wrap) after failed := by
  intro state state' states
  rw [wrapFailure_run, wrapFailure_run]
  cases mirrors state state' states with
  | answered shown ran ran' holds =>
    rw [ran, ran']
    exact .answered shown rfl rfl holds
  | failed shown ran ran' holds =>
    rw [ran, ran']
    exact .failed shown rfl rfl holds

end Action.Mirrors

/-! ## Runs -/

/-- Turns for the same request, from related states, mirror each other. -/
structure Turn.Mirrors {Request : Type} (related : State → State' → Prop)
    (turn : Turn Request State Failure Answer) (turn' : Turn Request State' Failure Answer) :
    Prop where
  request : turn.request = turn'.request
  before : related turn.before turn'.before
  outcome : Mirrored (Agreeing related) related turn.outcome turn'.outcome

/-- **Runs mirror each other turn by turn if every request does.** -/
theorem turns_mirror {Request : Type} {obey : Request → Action State Failure Answer}
    {obey' : Request → Action State' Failure Answer} {related : State → State' → Prop}
    (step : ∀ request, (obey request).Mirrors related (obey' request) (Agreeing related) related)
    {state : State} {state' : State'} (states : related state state') (requests : List Request) :
    List.Forall₂ (Turn.Mirrors related) (turns obey state requests)
      (turns obey' state' requests) := by
  induction requests generalizing state state' with
  | nil => exact .nil
  | cons request others ih =>
    have here := step request state state' states
    exact .cons ⟨rfl, states, here⟩ (ih here.states)

end LiveSpeech
