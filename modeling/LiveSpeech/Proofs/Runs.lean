import Mathlib.Data.List.Basic
import Mathlib.Data.List.Induction
import LiveSpeech.Action

/-!
# Runs of requests

A run obeys requests one after the other, whatever becomes of each: a failure is answered and
the next request finds the state that it has left.  The turns of a run are kept in order, each
with the state it met and what it left.

An invariant is carried through a run by what one request preserves (`turns_invariant`).  What
holds behind one turn and not before a later one is lost in a turn between them
(`exists_turn_between`).
-/

namespace LiveSpeech

set_option autoImplicit false

variable {Request State Failure Answer : Type}

/-- A request, the state it met, and what it left. -/
structure Turn (Request State Failure Answer : Type) where
  request : Request
  before : State
  outcome : Outcome State Failure Answer

/-- The turns of a run. -/
def turns (obey : Request → Action State Failure Answer) :
    State → List Request → List (Turn Request State Failure Answer)
  | _, [] => []
  | state, request :: others =>
    ⟨request, state, obey request state⟩ :: turns obey (obey request state).state others

/-- The state that a run leaves. -/
def stateAfter (obey : Request → Action State Failure Answer) : State → List Request → State
  | state, [] => state
  | state, request :: others => stateAfter obey (obey request state).state others

section Runs

variable (obey : Request → Action State Failure Answer)

theorem turns_append (state : State) (first second : List Request) :
    turns obey state (first ++ second) =
      turns obey state first ++ turns obey (stateAfter obey state first) second := by
  induction first generalizing state with
  | nil => rfl
  | cons request first ih => simp only [List.cons_append, turns, stateAfter, ih]

theorem stateAfter_append (state : State) (first second : List Request) :
    stateAfter obey state (first ++ second) =
      stateAfter obey (stateAfter obey state first) second := by
  induction first generalizing state with
  | nil => rfl
  | cons request first ih => simp only [List.cons_append, stateAfter, ih]

/-- One more request is one more turn. -/
theorem turns_concat (state : State) (requests : List Request) (request : Request) :
    turns obey state (requests ++ [request]) =
      turns obey state requests ++
        [⟨request, stateAfter obey state requests,
          obey request (stateAfter obey state requests)⟩] :=
  turns_append obey state requests [request]

theorem stateAfter_concat (state : State) (requests : List Request) (request : Request) :
    stateAfter obey state (requests ++ [request]) =
      (obey request (stateAfter obey state requests)).state :=
  stateAfter_append obey state requests [request]

variable {obey}

/-- Every turn is what its request makes of the state it meets. -/
theorem outcome_of_mem_turns {state : State} {requests : List Request}
    {turn : Turn Request State Failure Answer} (member : turn ∈ turns obey state requests) :
    turn.outcome = obey turn.request turn.before := by
  induction requests generalizing state with
  | nil => cases member
  | cons request others ih =>
    rcases List.mem_cons.mp member with rfl | later
    · rfl
    · exact ih later

/-- What stands before a turn is a run of its own, which leaves what the turn meets. -/
theorem turns_split {state : State} {requests : List Request}
    {before after : List (Turn Request State Failure Answer)}
    {turn : Turn Request State Failure Answer}
    (parts : turns obey state requests = before ++ turn :: after) :
    ∃ earlier, before = turns obey state earlier ∧ turn.before = stateAfter obey state earlier := by
  induction before generalizing state requests with
  | nil =>
    cases requests with
    | nil => cases parts
    | cons request others =>
      obtain ⟨rfl, _⟩ := List.cons_eq_cons.mp parts
      exact ⟨[], rfl, rfl⟩
  | cons first before ih =>
    cases requests with
    | nil => cases parts
    | cons request others =>
      obtain ⟨rfl, rest⟩ := List.cons_eq_cons.mp parts
      obtain ⟨earlier, rfl, meets⟩ := ih rest
      exact ⟨request :: earlier, rfl, meets⟩

/-- What stands behind a turn is a run of its own, from what the turn has left. -/
theorem turns_behind {state : State} {requests : List Request}
    {before after : List (Turn Request State Failure Answer)}
    {turn : Turn Request State Failure Answer}
    (parts : turns obey state requests = before ++ turn :: after) :
    ∃ others, turns obey (obey turn.request turn.before).state others = after := by
  induction before generalizing state requests with
  | nil =>
    cases requests with
    | nil => cases parts
    | cons request others =>
      obtain ⟨rfl, rest⟩ := List.cons_eq_cons.mp parts
      exact ⟨others, rest⟩
  | cons first before ih =>
    cases requests with
    | nil => cases parts
    | cons request others => exact ih (List.cons_eq_cons.mp parts).2

/-- What every request preserves holds of every state that a turn meets. -/
theorem turns_invariant {invariant : State → Prop}
    (preserved : ∀ request state, invariant state → invariant (obey request state).state)
    {state : State} (start : invariant state) {requests : List Request}
    {turn : Turn Request State Failure Answer} (member : turn ∈ turns obey state requests) :
    invariant turn.before := by
  induction requests generalizing state with
  | nil => cases member
  | cons request others ih =>
    rcases List.mem_cons.mp member with rfl | later
    · exact start
    · exact ih (preserved request state start) later

/-- What is preserved by turns of some kind holds as long as all turns are of that kind. -/
theorem turns_invariant_while {invariant : State → Prop}
    {kept : Turn Request State Failure Answer → Prop}
    (preserved : ∀ request state, invariant state → kept ⟨request, state, obey request state⟩ →
      invariant (obey request state).state)
    {state : State} (start : invariant state) {requests : List Request}
    {before after : List (Turn Request State Failure Answer)}
    {turn : Turn Request State Failure Answer}
    (parts : turns obey state requests = before ++ turn :: after)
    (keeps : ∀ earlier ∈ before, kept earlier) : invariant turn.before := by
  induction before generalizing state requests with
  | nil =>
    cases requests with
    | nil => cases parts
    | cons request others =>
      obtain ⟨rfl, _⟩ := List.cons_eq_cons.mp parts
      exact start
  | cons first before ih =>
    cases requests with
    | nil => cases parts
    | cons request others =>
      obtain ⟨rfl, rest⟩ := List.cons_eq_cons.mp parts
      obtain ⟨keep, keeps⟩ := List.forall_mem_cons.mp keeps
      exact ih (preserved request state start keep) rest keeps

/-- Every turn meets what the turn before has left. -/
theorem turns_isChain (state : State) (requests : List Request) :
    (turns obey state requests).IsChain fun earlier later =>
      earlier.outcome.state = later.before := by
  induction requests generalizing state with
  | nil => exact .nil
  | cons request others ih =>
    cases others with
    | nil => exact .singleton _
    | cons next others => exact List.isChain_cons_cons.mpr ⟨rfl, ih _⟩

end Runs

section Histories

variable {history before between after : List (Turn Request State Failure Answer)}
  {first second last : Turn Request State Failure Answer}

/-- If a property is missing behind a turn and there before a later one, some turn between them
brings it about. -/
theorem exists_turn_between (property : State → Prop)
    (chain : (first :: (between ++ second :: after)).IsChain fun earlier later =>
      earlier.outcome.state = later.before)
    (missing : ¬property first.outcome.state) (there : property second.before) :
    ∃ turn ∈ between, ¬property turn.before ∧ property turn.outcome.state := by
  induction between generalizing first with
  | nil =>
    have meets := (List.isChain_cons_cons.mp chain).1
    exact absurd (meets ▸ there) missing
  | cons next between ih =>
    obtain ⟨meets, chain⟩ := List.isChain_cons_cons.mp chain
    by_cases brought : property next.outcome.state
    · exact ⟨next, List.mem_cons_self .., meets ▸ missing, brought⟩
    · obtain ⟨turn, member, brings⟩ := ih chain brought
      exact ⟨turn, List.mem_cons_of_mem _ member, brings⟩

/-- Some turn is an event, and all turns since then keep to what is asked of them. -/
def Since (event kept : Turn Request State Failure Answer → Prop)
    (history : List (Turn Request State Failure Answer)) : Prop :=
  ∃ before turn after, history = before ++ turn :: after ∧ event turn ∧
    ∀ later ∈ after, kept later

variable {event kept : Turn Request State Failure Answer → Prop}

theorem not_since_nil : ¬Since event kept [] := by
  rintro ⟨before, turn, after, parts, _⟩
  exact List.append_ne_nil_of_right_ne_nil _ (List.cons_ne_nil _ _) parts.symm

/-- One more turn is the event, or keeps to what is asked of it since the event. -/
theorem since_concat : Since event kept (history ++ [last]) ↔
    event last ∨ Since event kept history ∧ kept last := by
  constructor
  · rintro ⟨before, turn, after, parts, happens, keeps⟩
    rcases List.eq_nil_or_concat' after with rfl | ⟨others, final, rfl⟩
    · obtain ⟨_, rfl⟩ := List.append_singleton_inj.mp parts
      exact .inl happens
    · rw [← List.cons_append, ← List.append_assoc] at parts
      obtain ⟨rfl, rfl⟩ := List.append_singleton_inj.mp parts
      refine .inr ⟨⟨before, turn, others, rfl, happens, fun later member => ?_⟩, ?_⟩
      · exact keeps later (List.mem_append_left _ member)
      · exact keeps last (List.mem_append_right _ (List.mem_singleton_self last))
  · rintro (happens | ⟨⟨before, turn, after, rfl, happens, keeps⟩, keep⟩)
    · exact ⟨history, last, [], rfl, happens, List.forall_mem_nil _⟩
    · refine ⟨before, turn, after ++ [last], ?_, happens, fun later member => ?_⟩
      · rw [List.append_assoc, List.cons_append]
      · rcases List.mem_append.mp member with early | final
        · exact keeps later early
        · rwa [List.mem_singleton.mp final]

end Histories

end LiveSpeech
