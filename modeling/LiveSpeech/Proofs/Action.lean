import LiveSpeech.Action

/-!
# Reading actions off their text

An action that consists of two ends either with the failure of the first or with what the
second does after it (`Action.bind_cases`).  What an action can leave in its record, and how
it can fail, is the same from every state and is collected from its parts (`Action.Within`).

A record is looked at through its landmarks: the chunks on their way to the engine, the looks
for the end of the utterance, and the messages.  Everything else on the way is quiet.
-/

namespace LiveSpeech

set_option autoImplicit false

/-- What is left when other events came first. -/
def Outcome.after {State Failure Answer : Type} (record : List Event)
    (outcome : Outcome State Failure Answer) : Outcome State Failure Answer where
  answer := outcome.answer
  state := outcome.state
  record := record ++ outcome.record

section After

variable {State Failure Answer : Type} (record : List Event)
  (outcome : Outcome State Failure Answer)

@[simp] theorem Outcome.after_answer : (outcome.after record).answer = outcome.answer := rfl

@[simp] theorem Outcome.after_state : (outcome.after record).state = outcome.state := rfl

@[simp] theorem Outcome.after_record : (outcome.after record).record = record ++ outcome.record :=
  rfl

theorem Outcome.after_after (earlier : List Event) :
    (outcome.after record).after earlier = outcome.after (earlier ++ record) := by
  simp only [Outcome.after, List.append_assoc]

end After

namespace Action

variable {State Failure Answer Next : Type}

theorem bind_ok {first : Action State Failure Answer} {state : State} {answer : Answer}
    (succeeds : (first state).answer = .ok answer) (next : Answer → Action State Failure Next) :
    (first >>= next) state = (next answer (first state).state).after (first state).record :=
  bind_run_ok first next state answer succeeds

theorem bind_error {first : Action State Failure Answer} {state : State} {failure : Failure}
    (fails : (first state).answer = .error failure) (next : Answer → Action State Failure Next) :
    (first >>= next) state = ⟨.error failure, (first state).state, (first state).record⟩ :=
  bind_run_error first next state failure fails

/-- An action followed by another ends with the failure of the first, or goes on from what
the first has left. -/
theorem bind_cases (first : Action State Failure Answer)
    (next : Answer → Action State Failure Next) (state : State) :
    (∃ failure, (first state).answer = .error failure ∧
      (first >>= next) state = ⟨.error failure, (first state).state, (first state).record⟩) ∨
    ∃ answer, (first state).answer = .ok answer ∧
      (first >>= next) state = (next answer (first state).state).after (first state).record := by
  cases run : (first state).answer with
  | error failure => exact .inl ⟨failure, rfl, bind_error run next⟩
  | ok answer => exact .inr ⟨answer, rfl, bind_ok run next⟩

/-- Actions in a row are the same however they are grouped. -/
theorem andThen_assoc {Last : Type} (first : Action State Failure Answer)
    (second : Answer → Action State Failure Next) (third : Next → Action State Failure Last) :
    (first.andThen second).andThen third =
      first.andThen fun answer => (second answer).andThen third := by
  funext state
  simp only [andThen]
  cases (first state).answer with
  | error failure => rfl
  | ok answer =>
    cases rerun : (second answer (first state).state).answer with
    | error failure => simp only [rerun]
    | ok other => simp only [rerun, List.append_assoc]

theorem andThen_done (action : Action State Failure Answer) : action.andThen done = action := by
  funext state
  rcases run : action state with ⟨answer, last, record⟩
  cases answer with
  | error failure => simp only [andThen, run]
  | ok answer => simp only [andThen, run, done, List.append_nil]

theorem done_andThen (answer : Answer) (next : Answer → Action State Failure Next) :
    (done answer).andThen next = next answer := rfl

instance : LawfulMonad (Action State Failure) :=
  LawfulMonad.mk' _ andThen_done done_andThen andThen_assoc

/-- Work on the answer leaves everything else as it is. -/
theorem bind_pure_run (action : Action State Failure Answer) (work : Answer → Next)
    (state : State) :
    (action >>= fun answer => pure (work answer)) state =
      ⟨(action state).answer.map work, (action state).state, (action state).record⟩ := by
  cases run : (action state).answer with
  | error failure => exact bind_error run _
  | ok answer =>
    rw [bind_ok run]
    simp only [Outcome.after, pure_run, List.append_nil]
    rfl

/-- Failures are told in other words, and nothing else is changed. -/
theorem wrapFailure_run {Wrapped : Type} (wrap : Failure → Wrapped)
    (action : Action State Failure Answer) (state : State) :
    action.wrapFailure wrap state =
      ⟨(action state).answer.mapError wrap, (action state).state, (action state).record⟩ := by
  unfold wrapFailure
  cases answer : (action state).answer <;> simp only [answer] <;> rfl

@[simp] theorem state_bind (next : State → Action State Failure Next) (state : State) :
    (Action.state >>= next) state = next state state := rfl

@[simp] theorem change_bind (how : State → State) (next : Unit → Action State Failure Next)
    (state : State) : (change how >>= next) state = next () (how state) := rfl

theorem ask_bind (read : State → Answer × State) (call : Answer → Call)
    (next : Answer → Action State Failure Next) (state : State) :
    (ask read call >>= next) state =
      (next (read state).1 (read state).2).after [.call (call (read state).1)] := rfl

/-- Work on a part in two steps is two pieces of work on that part. -/
theorem onPart_bind {Part : Type} {get : State → Part} {set : State → Part → State}
    (kept : ∀ state part, get (set state part) = part)
    (replaced : ∀ state part other, set (set state part) other = set state other)
    (first : Action Part Failure Answer) (next : Answer → Action Part Failure Next) :
    (first >>= next).onPart get set =
      first.onPart get set >>= fun answer => (next answer).onPart get set := by
  funext state
  cases run : (first (get state)).answer with
  | error failure =>
    have stopped : (first.onPart get set state).answer = .error failure := run
    rw [bind_error stopped]
    simp only [onPart, bind_error run]
  | ok answer =>
    have went : (first.onPart get set state).answer = .ok answer := run
    rw [bind_ok went]
    simp only [onPart, bind_ok run, kept, replaced, Outcome.after]

theorem ofExcept_run {Cause : Type} (wrap : Cause → Failure) (result : Except Cause Answer)
    (state : State) :
    (ofExcept wrap result : Action State Failure Answer) state =
      ⟨result.mapError wrap, state, []⟩ := by
  cases result with
  | error cause => rfl
  | ok answer => rfl

/-! ## Bounds on an action -/

/-- From every state, only events of one kind are left in the record, and there are only
failures of one kind. -/
structure Within (events : Event → Prop) (failures : Failure → Prop)
    (action : Action State Failure Answer) : Prop where
  recorded : ∀ state, ∀ event ∈ (action state).record, events event
  failing : ∀ state failure, (action state).answer = .error failure → failures failure

namespace Within

variable {events : Event → Prop} {failures : Failure → Prop}

theorem done (answer : Answer) :
    (Action.done answer : Action State Failure Answer).Within events failures where
  recorded := by
    intro state event member
    cases member
  failing := by
    intro state failure failed
    cases failed

theorem fail {failure : Failure} (allowed : failures failure) :
    (Action.fail failure : Action State Failure Answer).Within events failures where
  recorded := by
    intro state event member
    cases member
  failing := by
    intro state other failed
    cases failed
    exact allowed

theorem bind {first : Action State Failure Answer} {next : Answer → Action State Failure Next}
    (before : first.Within events failures)
    (after : ∀ answer, (next answer).Within events failures) :
    (first >>= next).Within events failures where
  recorded := by
    intro state event member
    rcases bind_cases first next state with ⟨failure, _, run⟩ | ⟨answer, _, run⟩
    · rw [run] at member
      exact before.recorded state event member
    · rw [run] at member
      rcases List.mem_append.mp member with earlier | later
      · exact before.recorded state event earlier
      · exact (after answer).recorded _ event later
  failing := by
    intro state failure failed
    rcases bind_cases first next state with ⟨other, stopped, run⟩ | ⟨answer, _, run⟩
    · rw [run] at failed
      cases failed
      exact before.failing state failure stopped
    · rw [run] at failed
      exact (after answer).failing _ failure failed

theorem happen {event : Event} (allowed : events event) :
    (Action.happen event : Action State Failure Unit).Within events failures where
  recorded := by
    intro state other member
    cases List.mem_singleton.mp member
    exact allowed
  failing := by
    intro state failure failed
    cases failed

theorem ask {read : State → Answer × State} {call : Answer → Call}
    (allowed : ∀ answer, events (.call (call answer))) :
    (Action.ask read call : Action State Failure Answer).Within events failures where
  recorded := by
    intro state event member
    cases List.mem_singleton.mp member
    exact allowed _
  failing := by
    intro state failure failed
    cases failed

theorem tell {work : State → State} {call : Call} (allowed : events (.call call)) :
    (Action.tell work call : Action State Failure Unit).Within events failures where
  recorded := by
    intro state event member
    cases List.mem_singleton.mp member
    exact allowed
  failing := by
    intro state failure failed
    cases failed

theorem ofExcept {Cause : Type} {wrap : Cause → Failure} (allowed : ∀ cause, failures (wrap cause))
    (result : Except Cause Answer) :
    (Action.ofExcept wrap result : Action State Failure Answer).Within events failures := by
  cases result with
  | ok answer => exact done answer
  | error cause => exact fail (allowed cause)

theorem change (how : State → State) :
    (Action.change how : Action State Failure Unit).Within events failures where
  recorded _ _ member := nomatch member
  failing _ _ failed := nomatch failed

theorem state : (Action.state : Action State Failure State).Within events failures where
  recorded _ _ member := nomatch member
  failing _ _ failed := nomatch failed

/-- What has no way to fail answers. -/
theorem answers {action : Action State Failure Answer}
    (never : action.Within events fun _ => False) (state : State) :
    ∃ answer, (action state).answer = .ok answer := by
  cases run : (action state).answer with
  | error failure => exact (never.failing state failure run).elim
  | ok answer => exact ⟨answer, rfl⟩

/-- Wider bounds hold as well. -/
theorem mono {more : Event → Prop} {others : Failure → Prop} {action : Action State Failure Answer}
    (inner : action.Within events failures) (wider : ∀ event, events event → more event)
    (others' : ∀ failure, failures failure → others failure) : action.Within more others where
  recorded state event member := wider event (inner.recorded state event member)
  failing state failure failed := others' failure (inner.failing state failure failed)

end Within

end Action

/-- An answer that can be computed is the answer. -/
theorem eq_ok_of_toOption {Failure Answer : Type} {result : Except Failure Answer}
    {answer : Answer} (answered : result.toOption = some answer) : result = .ok answer := by
  cases result with
  | error failure => cases answered
  | ok other => exact congrArg Except.ok (Option.some.inj answered)

/-- Work on an answer does not change a failure. -/
theorem eq_error_of_map {Failure Answer Next : Type} {work : Answer → Next}
    {result : Except Failure Answer} {failure : Failure}
    (failed : result.map work = .error failure) : result = .error failure := by
  cases result with
  | error other => exact congrArg Except.error (Except.error.inj failed)
  | ok answer => cases failed

end LiveSpeech
