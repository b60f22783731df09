import LiveSpeech.Proofs.Control
import LiveSpeech.Proofs.Service

/-!
# What is held at a time

Models that were loaded are held until they are let go, and so are engines that were made.  What is
held at a point of a run is read off the record up to there (`Stock.after`).

Nothing is loaded while anything is held, an engine is made from the models that are all that is
held, and only what is held is let go (`Stock.Admits`).  A record of which every event is admitted
is orderly; on the way through it there are never two engines and never models of two loads
(`Stock.Orderly.single`).

A session keeps its models and its engine from one message to the next, and without a session
nothing is kept: this is what is held after every message (`handle_leads`).
-/

namespace LiveSpeech

set_option autoImplicit false

variable {World : Type}

/-- Models that were loaded and engines that were made, and have not been let go. -/
structure Stock where
  models : List Models
  engines : List Engine

namespace Stock

def empty : Stock := ⟨[], []⟩

/-- What is held after an event. -/
def next (stock : Stock) : Event → Stock
  | .call (.load _ (.ok models)) => { stock with models := models :: stock.models }
  | .call (.releaseModels models) =>
    { stock with models := stock.models.eraseP fun held => held.id == models.id }
  | .call (.createEngine _ (.ok engine)) => { stock with engines := engine :: stock.engines }
  | .call (.releaseEngine engine) => { stock with engines := stock.engines.erase engine }
  | _ => stock

/-- What is held after a record. -/
def after : Stock → List Event → Stock := List.foldl next

/-- What may happen while this is held.  Models are loaded if nothing is held, an engine is made if
its models are all that is held, and what is let go is held. -/
def Admits (stock : Stock) : Event → Prop
  | .call (.load ..) => stock = empty
  | .call (.createEngine models _) => stock = ⟨[models], []⟩
  | .call (.releaseModels models) => models ∈ stock.models
  | .call (.releaseEngine engine) => engine ∈ stock.engines
  | _ => True

/-- Every event of the record is admitted by what is held when it happens. -/
def Orderly : Stock → List Event → Prop
  | _, [] => True
  | stock, event :: others => stock.Admits event ∧ (stock.next event).Orderly others

/-- Models of one load at most, and one engine at most. -/
structure Single (stock : Stock) : Prop where
  models : stock.models.length ≤ 1
  engines : stock.engines.length ≤ 1

theorem after_append (stock : Stock) (first second : List Event) :
    stock.after (first ++ second) = (stock.after first).after second :=
  List.foldl_append

theorem orderly_append {stock : Stock} {first second : List Event} :
    stock.Orderly (first ++ second) ↔
      stock.Orderly first ∧ (stock.after first).Orderly second := by
  induction first generalizing stock with
  | nil => exact (iff_of_eq (true_and _)).symm
  | cons event others ih => exact (and_congr_right fun _ => ih).trans and_assoc.symm

/-- An admitted event keeps to one engine and the models of one load. -/
theorem Single.next {stock : Stock} {event : Event} (single : stock.Single)
    (admits : stock.Admits event) : (stock.next event).Single := by
  obtain ⟨models, engines⟩ := single
  unfold Stock.next
  split
  case h_1 =>
    obtain rfl : stock = empty := admits
    exact ⟨le_rfl, Nat.zero_le 1⟩
  case h_2 => exact ⟨List.length_eraseP_le.trans models, engines⟩
  case h_3 =>
    obtain rfl : stock = _ := admits
    exact ⟨le_rfl, le_rfl⟩
  case h_4 => exact ⟨models, List.length_erase_le.trans engines⟩
  case h_5 => exact ⟨models, engines⟩

/-- **An orderly record never holds two engines, nor the models of two loads.** -/
theorem Orderly.single {stock : Stock} {record : List Event} (orderly : stock.Orderly record)
    (single : stock.Single) : (stock.after record).Single := by
  induction record generalizing stock with
  | nil => exact single
  | cons event others ih => exact ih orderly.2 (single.next orderly.1)

end Stock

/-- The record is orderly, and leads from one stock to the other. -/
structure Stock.Leads (before : Stock) (record : List Event) (after : Stock) : Prop where
  orderly : before.Orderly record
  held : before.after record = after

namespace Stock.Leads

variable {before middle after : Stock} {first second : List Event}

theorem nil (stock : Stock) : stock.Leads [] stock := ⟨trivial, rfl⟩

theorem append (leads : before.Leads first middle) (goes : middle.Leads second after) :
    before.Leads (first ++ second) after where
  orderly := orderly_append.mpr ⟨leads.orderly, leads.held ▸ goes.orderly⟩
  held := by rw [after_append, leads.held, goes.held]

/-- An admitted event leads to what is held after it. -/
theorem cons {event : Event} {others : List Event} (admits : before.Admits event)
    (goes : (before.next event).Leads others after) : before.Leads (event :: others) after :=
  ⟨⟨admits, goes.orderly⟩, goes.held⟩

end Stock.Leads

/-- The event may happen whatever is held, and changes nothing about it. -/
def Event.Neutral (event : Event) : Prop :=
  ∀ stock : Stock, stock.Admits event ∧ stock.next event = stock

theorem neutral_note (notice : Notice) : (Event.note notice).Neutral := fun _ => ⟨trivial, rfl⟩

/-- Nothing is made and nothing is let go while an engine is worked with. -/
theorem Event.Serves.neutral {engine : Engine} {event : Event} (serves : event.Serves engine) :
    event.Neutral := by
  intro stock
  cases event with
  | note | send => exact ⟨trivial, rfl⟩
  | call call => cases call <;> first | exact ⟨trivial, rfl⟩ | cases serves

/-- Neutral events lead nowhere. -/
theorem Stock.Leads.of_neutral (stock : Stock) {record : List Event}
    (neutral : ∀ event ∈ record, event.Neutral) : stock.Leads record stock := by
  induction record with
  | nil => exact .nil stock
  | cons event others ih =>
    obtain ⟨here, rest⟩ := List.forall_mem_cons.mp neutral
    obtain ⟨admits, kept⟩ := here stock
    exact .cons admits (kept.symm ▸ ih rest)

/-! ## Actions -/

/-- From every state the action leads from one stock to the other, which depends on how it ends. -/
def Action.Leads {State Failure Answer : Type} (before : Stock)
    (action : Action State Failure Answer) (after : Except Failure Answer → Stock) : Prop :=
  ∀ state, before.Leads (action state).record (after (action state).answer)

namespace Action.Leads

variable {State Failure Answer Next : Type} {before : Stock}

theorem done (answer : Answer) {after : Except Failure Answer → Stock}
    (same : after (.ok answer) = before) :
    (Action.done answer : Action State Failure Answer).Leads before after :=
  fun _ => same ▸ .nil before

theorem fail {failure : Failure} {after : Except Failure Answer → Stock}
    (same : after (.error failure) = before) :
    (Action.fail failure : Action State Failure Answer).Leads before after :=
  fun _ => same ▸ .nil before

theorem tell {work : State → State} {call : Call} {after : Stock}
    (admits : before.Admits (.call call)) (held : before.next (.call call) = after) :
    (Action.tell work call : Action State Failure Unit).Leads before fun _ => after :=
  fun _ => .cons admits (held ▸ .nil _)

/-- If both a failure of the first action and the second action lead to the same, so do the two. -/
theorem bind {middle after : Stock} {first : Action State Failure Answer}
    {next : Answer → Action State Failure Next} (leads : first.Leads before fun _ => middle)
    (goes : ∀ answer, (next answer).Leads middle fun _ => after)
    (fails : ∀ state failure, (first state).answer = .error failure → middle = after) :
    (first >>= next).Leads before fun _ => after := by
  intro state
  rcases bind_cases first next state with ⟨failure, stopped, run⟩ | ⟨answer, _, run⟩
  · rw [run]
    exact fails state failure stopped ▸ leads state
  · rw [run]
    exact (leads state).append (goes answer (first state).state)

theorem tell_bind {work : State → State} {call : Call} {next : Unit → Action State Failure Next}
    {after : Except Failure Next → Stock} (admits : before.Admits (.call call))
    (goes : (next ()).Leads (before.next (.call call)) after) :
    (Action.tell work call >>= next).Leads before after :=
  fun state => .cons admits (goes (work state))

theorem ask_bind {read : State → Answer × State} {call : Answer → Call}
    {next : Answer → Action State Failure Next} {after : Except Failure Next → Stock}
    (admits : ∀ answer, before.Admits (.call (call answer)))
    (goes : ∀ answer, (next answer).Leads (before.next (.call (call answer))) after) :
    (Action.ask read call >>= next).Leads before after :=
  fun state => .cons (admits _) (goes (read state).1 (read state).2)

theorem ofExcept_bind {Cause : Type} {wrap : Cause → Failure} {result : Except Cause Answer}
    {next : Answer → Action State Failure Next} {after : Except Failure Next → Stock}
    (goes : ∀ answer, result = .ok answer → (next answer).Leads before after)
    (fails : ∀ cause, result = .error cause → after (.error (wrap cause)) = before) :
    (Action.ofExcept wrap result >>= next).Leads before after := by
  cases result with
  | ok answer => exact goes answer rfl
  | error cause => exact .fail (fails cause rfl)

/-- A failure that is an answer leads where it has led before. -/
theorem attempt_bind {middle : Except Failure Answer → Stock} {Other : Type}
    {after : Except Other Next → Stock} {first : Action State Failure Answer}
    {next : Except Failure Answer → Action State Other Next} (leads : first.Leads before middle)
    (goes : ∀ answer, (next answer).Leads (middle answer) after) :
    (first.attempt >>= next).Leads before after := by
  intro state
  have went : (first.attempt state : Outcome State Other _).answer = .ok (first state).answer := rfl
  rw [bind_ok went]
  exact (leads state).append (goes (first state).answer (first state).state)

/-- What cannot fail and is neutral makes no difference to where the rest leads. -/
theorem neutral_bind {after : Except Failure Next → Stock} {first : Action State Failure Answer}
    {next : Answer → Action State Failure Next}
    (within : first.Within Event.Neutral fun _ => False)
    (goes : ∀ answer, (next answer).Leads before after) : (first >>= next).Leads before after := by
  intro state
  obtain ⟨answer, answered⟩ := within.answers state
  rw [bind_ok answered]
  exact (Stock.Leads.of_neutral before (within.recorded state)).append
    (goes answer (first state).state)

end Action.Leads

/-! ## Building and letting go -/

/-- What a session holds. -/
def Session.stock (session : Session) : Stock := ⟨[session.models], session.engine?.toList⟩

/-- What is held when a session was asked for. -/
def Stock.ofBuilt {Failure : Type} : Except Failure Session → Stock
  | .ok session => session.stock
  | .error _ => empty

@[simp] theorem Stock.next_releaseModels (models : Models) (engines : List Engine) :
    Stock.next ⟨[models], engines⟩ (.call (.releaseModels models)) = ⟨[], engines⟩ := by
  simp [Stock.next]

@[simp] theorem Stock.next_releaseEngine (models : List Models) (engine : Engine) :
    Stock.next ⟨models, [engine]⟩ (.call (.releaseEngine engine)) = ⟨models, []⟩ := by
  simp [Stock.next]

theorem Stock.Leads.releaseEngine (models : List Models) (engine : Engine) :
    Stock.Leads ⟨models, [engine]⟩ [.call (.releaseEngine engine)] ⟨models, []⟩ :=
  .cons (List.mem_singleton_self engine) (Stock.next_releaseEngine models engine ▸ .nil _)

/-- What feeds an engine neither makes nor lets go of anything that is held. -/
theorem Event.neutral_of_isFeeding {event : Event} (feeds : event.isFeeding = true) :
    event.Neutral := by
  cases event with
  | call call => cases call <;> first | exact fun _ => ⟨trivial, rfl⟩ | cases feeds
  | note notice => exact neutral_note notice
  | send message => cases feeds

/-- An engine is made while there is none.  If what feeds it cannot be made it is let go. -/
theorem BuildStep.leads {outside : Collaborators World} {models : Models} {config : Config}
    {answer : Except Failure Resources} {record : List Event}
    (step : BuildStep outside models config answer record) :
    Stock.Leads ⟨[models], []⟩ record
      ⟨[models], (answer.toOption.map fun resources => resources.engine).toList⟩ := by
  have fed {made : Except Failure (Audio.Resampler × Audio.Accumulator)} {feeding : List Event}
      (step : FeedStep outside models config made feeding) (stock : Stock) :
      stock.Leads feeding stock :=
    .of_neutral stock fun event member => Event.neutral_of_isFeeding (step.feeding event member)
  cases step with
  | noEngine => exact .cons rfl (.nil _)
  | noFeed engine step => exact .cons rfl ((fed step _).append (.releaseEngine [models] engine))
  | made _ step => exact .cons rfl (fed step _)

theorem Session.create_leads (outside : Collaborators World) (models : Models)
    (symbols : SymbolTable) (config : Config) :
    (Session.create outside models symbols config).Leads ⟨[models], []⟩ fun
      | .ok session => session.stock
      | .error _ => ⟨[models], []⟩ := by
  intro world
  obtain ⟨built, building, step, answer, notices, recorded⟩ :=
    create_step outside models symbols config world
  have noted : ∀ event ∈ notices.map Event.note, event.Neutral :=
    List.forall_mem_map.mpr fun notice _ => neutral_note notice
  have went : Stock.Leads ⟨[models], []⟩ (.call .restartClock :: (building ++ notices.map .note))
      _ := .cons trivial (step.leads.append (.of_neutral _ noted))
  rw [recorded, answer]
  cases built with
  | error failure => exact went
  | ok resources => exact went

theorem buildLoaded_leads (outside : Collaborators World) (config : Config) (models : Models) :
    (buildLoaded outside config models).Leads ⟨[models], []⟩ .ofBuilt := by
  have refused (failure : InitFailure) :
      (dropModels outside models >>= fun _ => .fail failure).Leads ⟨[models], []⟩ .ofBuilt :=
    .tell_bind (List.mem_singleton_self models) (.fail (Stock.next_releaseModels models []).symm)
  refine .neutral_bind
    (readSymbols_within neutral_note (fun _ _ => ⟨trivial, rfl⟩) outside _) fun table => ?_
  cases table with
  | error cause => exact refused _
  | ok symbols =>
    refine .attempt_bind (Session.create_leads outside models symbols config) fun built => ?_
    cases built with
    | ok session => exact .done session rfl
    | error failure => exact refused _

/-- **What is loaded and made for an opening message is held by its session, if there is one.** -/
theorem buildSession_leads (outside : Collaborators World) (arguments : List String)
    (rate : Float32) : (buildSession outside arguments rate).Leads .empty .ofBuilt := by
  refine .ofExcept_bind (fun config _ => ?_) fun _ _ => rfl
  refine .ask_bind (fun _ => rfl) fun loaded => ?_
  refine .ofExcept_bind (fun models answered => ?_) fun cause answered => ?_
  · rw [answered]
    exact buildLoaded_leads outside config models
  · rw [answered]
    rfl

/-- The engine of a session is let go, if it has one. -/
theorem releaseResources_leads (outside : Collaborators World) (models : List Models)
    (resources : Option Resources) :
    (releaseResources outside resources).Leads
      ⟨models, (resources.map fun held => held.engine).toList⟩ fun _ => ⟨models, []⟩ := by
  cases resources with
  | none => exact .done () rfl
  | some resources => exact fun _ => .releaseEngine models resources.engine

theorem release_leads (outside : Collaborators World) (session : Session) :
    (session.release outside).Leads session.stock fun _ => .empty := by
  refine .tell_bind (List.mem_singleton_self session.models) ?_
  rw [Session.stock, Stock.next_releaseModels]
  exact releaseResources_leads outside [] session.resources

/-- A session that starts over keeps its models. -/
theorem letGo_leads (outside : Collaborators World) (session : Session) :
    (session.letGo outside).Leads session.stock fun _ => ⟨[session.models], []⟩ :=
  .neutral_bind (noteReset_within neutral_note (fun _ _ => ⟨trivial, rfl⟩) outside session)
    fun _ => .bind (releaseResources_leads outside [session.models] session.resources)
      (fun _ => .tell trivial rfl) fun _ _ _ => rfl

/-! ## Messages -/

/-- A request leads from what the session holds to what it holds then. -/
theorem obey_leads (outside : Collaborators World) (request : SessionRequest)
    (stage : Stage World) :
    let run := Session.obey outside request stage
    stage.session.stock.Leads run.record run.state.session.stock := by
  intro run
  cases request with
  | start =>
    by_cases listening : stage.session.state = .listening
    · have ran : run = _ := start_of_listening listening
      rw [ran]
      exact .nil _
    · have ran : run = _ := start_of_not_listening listening
      rw [ran]
      exact .cons trivial (.nil _)
  | audio samples =>
    -- All that happens serves the engine that is held, and that makes nothing and lets nothing go.
    have ran : run = _ := Action.wrapFailure_done ..
    obtain ⟨models, engine, serves⟩ := acceptAudio_serves outside samples stage
    have neutral : ∀ event ∈ (Session.acceptAudio outside samples stage).record, event.Neutral := by
      refine (forall_mem_effectsOf neutral_note).mp fun event member => ?_
      obtain ⟨_, _, served⟩ := serves event member
      exact served.neutral
    rw [ran, Session.stock, Session.stock, models, engine]
    exact .of_neutral _ neutral
  | reset =>
    have ran : run = _ := reset_run outside stage
    rw [rebuild_run _ _ _ rfl] at ran
    rw [ran]
    exact (letGo_leads outside stage.session stage.world).append
      (buildResources_step outside _ _ _).leads

/-- What a protocol holds. -/
def Protocol.stock (protocol : Protocol World) : Stock :=
  (protocol.session.map Session.stock).getD .empty

theorem drop_leads (outside : Collaborators World) (protocol : Protocol World) :
    protocol.stock.Leads (Protocol.drop outside protocol).record .empty := by
  obtain ⟨world, session⟩ := protocol
  cases session with
  | none => exact .nil _
  | some session => exact release_leads outside session world

/-- Whatever was built is kept. -/
theorem announce_leads (built : Except InitFailure Session) (world : World) :
    let run := announce built ⟨world, none⟩
    (Stock.ofBuilt built).Leads run.record run.state.stock := by
  cases built with
  | ok session => exact .cons trivial (.cons trivial (.nil _))
  | error failure =>
    cases failure with
    | error cause => exact .cons trivial (.cons trivial (.nil _))
    | broken => exact .nil _

/-- An opening message first lets go of all that is held. -/
theorem init_leads (outside : Collaborators World) (arguments : List String) (rate : Float32)
    (protocol : Protocol World) :
    let run := Protocol.init outside arguments rate protocol
    protocol.stock.Leads run.record run.state.stock := by
  intro run
  obtain ⟨world, released, dropped, _⟩ := drop_run outside protocol
  have letsGo := drop_leads outside protocol
  have ran : run = _ := init_run dropped arguments rate
  rw [dropped] at letsGo
  rw [ran]
  exact (letsGo.append (buildSession_leads outside arguments rate world)).append
    (announce_leads _ _)

/-- **Every message leads from what the protocol holds to what it holds then.** -/
theorem handle_leads (outside : Collaborators World) (message : ClientMessage)
    (protocol : Protocol World) :
    let run := Protocol.handle outside message protocol
    protocol.stock.Leads run.record run.state.stock := by
  intro run
  cases asks : message.request? with
  | none =>
    obtain ⟨arguments, rate, rfl⟩ := is_init_of_request? asks
    exact init_leads outside arguments rate protocol
  | some request =>
    obtain ⟨world, session⟩ := protocol
    cases session with
    | none =>
      cases message with
      | init => cases asks
      | start | cancel => exact .cons trivial (.nil _)
      | audio => exact .nil _
    | some session =>
      have ran : run = _ := handle_request outside asks world session
      rw [ran]
      exact obey_leads outside request ⟨world, session⟩

/-! ## Runs -/

/-- All that happens in turns, in its order. -/
def recordOf {Request State Failure Answer : Type}
    (history : List (Turn Request State Failure Answer)) : List Event :=
  history.flatMap fun turn => turn.outcome.record

theorem recordOf_concat {Request State Failure Answer : Type}
    (history : List (Turn Request State Failure Answer))
    (turn : Turn Request State Failure Answer) :
    recordOf (history ++ [turn]) = recordOf history ++ turn.outcome.record := by
  rw [recordOf, List.flatMap_append, List.flatMap_singleton]
  rfl

/-- A run leads from nothing to what the protocol holds then. -/
theorem run_leads (outside : Collaborators World) (world : World) (messages : List ClientMessage) :
    Stock.empty.Leads (recordOf (turns (Protocol.handle outside) (.initial world) messages))
      (stateAfter (Protocol.handle outside) (.initial world) messages).stock := by
  induction messages using List.reverseRecOn with
  | nil => exact .nil _
  | append_singleton messages message ih =>
    rw [turns_concat, stateAfter_concat, recordOf_concat]
    exact ih.append (handle_leads outside message _)

/-- Every event of an orderly record is admitted by what is held when it happens. -/
theorem Stock.Orderly.admits {stock : Stock} {before after : List Event} {event : Event}
    (orderly : stock.Orderly (before ++ event :: after)) : (stock.after before).Admits event :=
  (orderly_append.mp orderly).2.1

/-- Unless the client is told that a session is ready, an opening message leaves nothing held. -/
theorem stock_of_not_ready (outside : Collaborators World) {arguments : List String}
    {rate : Float32} {protocol : Protocol World}
    (untold : .ready ∉ messagesOf (Protocol.init outside arguments rate protocol).record) :
    (Protocol.init outside arguments rate protocol).state.stock = .empty := by
  rw [Protocol.stock, (init_step outside arguments rate protocol).eq_none_of_not_ready untold]
  rfl

/-- A session that could not start over has no engine. -/
theorem engines_of_failed_cancel (outside : Collaborators World) {protocol : Protocol World}
    {failure : Failure}
    (failed : (Protocol.handle outside .cancel protocol).answer = .error failure) :
    (Protocol.handle outside .cancel protocol).state.stock.engines = [] := by
  obtain ⟨world, session⟩ := protocol
  cases session with
  | none => cases failed
  | some session =>
    have asks : ClientMessage.cancel.request? = some .reset := rfl
    obtain ⟨built, _, _, answer, left, _⟩ := reset_step outside ⟨world, session⟩
    rw [handle_request outside asks] at failed ⊢
    obtain rfl : built = .error failure := eq_error_of_map (answer.symm.trans failed)
    show (Session.reset outside ⟨world, session⟩).state.session.engine?.toList = []
    rw [left]
    rfl

/-- **No engine is made while another is held.**  In every run of messages, whatever fails on the
way, models are loaded while nothing is held, an engine is made while its models are all that is
held, and nothing is let go but what is held.  So there is never more than one engine, nor models
of more than one load.  After every message the session keeps all that is held: nothing if an
opening message has left no session, and no engine if the session could not start over. -/
theorem engines_exclusive (outside : Collaborators World) (world : World)
    (messages : List ClientMessage) :
    let history := turns (Protocol.handle outside) (.initial world) messages
    (∀ before event after, recordOf history = before ++ event :: after →
        (Stock.empty.after before).Admits event) ∧
      (∀ before after, recordOf history = before ++ after →
        (Stock.empty.after before).Single) ∧
      ∀ before turn after, history = before ++ turn :: after →
        let held := Stock.empty.after (recordOf (before ++ [turn]))
        held = turn.outcome.state.stock ∧
          (∀ arguments rate, turn.request = .init arguments rate →
            .ready ∉ messagesOf turn.outcome.record → held = .empty) ∧
          ∀ failure, turn.request = .cancel → turn.outcome.answer = .error failure →
            held.engines = [] := by
  intro history
  have orderly := (run_leads outside world messages).orderly
  refine ⟨fun before event after parts => ?_, fun before after parts => ?_, ?_⟩
  · rw [show recordOf (turns _ _ _) = _ from parts] at orderly
    exact orderly.admits
  · rw [show recordOf (turns _ _ _) = _ from parts] at orderly
    exact (Stock.orderly_append.mp orderly).1.single ⟨Nat.zero_le 1, Nat.zero_le 1⟩
  · intro before turn after parts held
    have ran := outcome_of_mem_turns (show turn ∈ history by simp [parts])
    obtain ⟨earlier, rfl, meets⟩ := turns_split parts
    have keeps : held = turn.outcome.state.stock := by
      have leads := (run_leads outside world earlier).append
        (handle_leads outside turn.request (stateAfter (Protocol.handle outside) _ earlier))
      rw [← meets, ← ran, ← recordOf_concat] at leads
      exact leads.held
    rw [keeps, ran]
    refine ⟨rfl, fun arguments rate opens untold => ?_, fun failure cancels failed => ?_⟩
    · rw [opens] at untold ⊢
      exact stock_of_not_ready outside untold
    · rw [cancels] at failed ⊢
      exact engines_of_failed_cancel outside failed

end LiveSpeech
