import LiveSpeech.Proofs.Operations

/-!
# Whom audio concerns

While a session works on a fragment of audio it turns to one engine, the one among its resources,
and to the clock.  Nothing is loaded, made or let go on the way.

So an event serves an engine if it may happen in between: a call to that very engine, a wait, a
message or a notice (`Event.Serves`).  That all events of a fragment serve the engine of the session
(`acceptAudio_serves`) is read off the calls of cycles and rows.
-/

namespace LiveSpeech

set_option autoImplicit false

variable {World : Type}

/-- The event may happen while an engine is worked with: a call to this engine, a wait, a message or
a notice. -/
def Event.Serves (engine : Engine) : Event → Prop
  | .call (.acceptWaveform asked ..) | .call (.advanceDecoding asked _)
  | .call (.endpointDetected asked ..) | .call (.finalRelativeCost asked _)
  | .call (.bestPath asked _) | .call (.framesDecoded asked _)
  | .call (.silenceWeighting asked _) | .call (.adaptiveFeatures asked _)
  | .call (.computeTraceback asked) | .call (.deltaWeights asked _)
  | .call (.updateFrameWeights asked _) => asked = engine
  | .call (.waitUntil _) | .note _ | .send _ => True
  | .call _ => False

/-- All that happens serves an engine. -/
def Serves (engine : Engine) (record : List Event) : Prop := ∀ event ∈ record, event.Serves engine

section Rows

variable {debugging : Bool} {decoder : Decoder}

theorem Serves.append {engine : Engine} {first second : List Event} (before : Serves engine first)
    (after : Serves engine second) : Serves engine (first ++ second) :=
  List.forall_mem_append.mpr ⟨before, after⟩

theorem Spelling.serves {answer : Except SessionError String} {spelling : List Event}
    (spells : Spelling decoder answer spelling) : Serves decoder.engine spelling := by
  cases spells <;> simp [Serves, Event.Serves]

theorem Decoder.costed_serves (decoder : Decoder) (cost : Float32) :
    Serves decoder.engine [decoder.costed cost] :=
  List.forall_mem_singleton.mpr rfl

theorem Finalizing.serves {answer : Except SessionError String} {calls : List Event}
    (finalizes : Finalizing decoder answer calls) : Serves decoder.engine calls := by
  cases finalizes with
  | uncertain => exact decoder.costed_serves _
  | certain _ spells => exact (decoder.costed_serves _).append spells.serves

theorem PartialCalls.serves {timing timing' : TimingGate} {answer : Except SessionError Unit}
    {noting : List Event} (notes : PartialCalls debugging decoder timing answer timing' noting) :
    Serves decoder.engine noting := by
  cases notes with
  | unspelled spells => exact spells.serves
  | noted spells cost =>
    refine spells.serves.append ?_
    cases cost with
    | none => exact List.forall_mem_nil _
    | some cost => exact decoder.costed_serves cost

theorem LookCalls.serves {timing timing' : TimingGate} {before after : Bool}
    {answer : Except SessionError Unit} {looking : List Event}
    (looks : LookCalls debugging decoder timing before answer timing' after looking) :
    Serves decoder.engine looking := by
  obtain ⟨look, _, notes⟩ := looks
  refine Serves.append ?_ notes.serves
  cases look <;> simp [Serves, Decoder.looked, Event.Serves]

theorem Reweighing.heard_serves {weighing : List Event}
    (weighs : Reweighing decoder.engine weighing) (chunk : List Float32) (counted : TimingGate)
    (answer : Except EngineError Unit) :
    Serves decoder.engine (decoder.heard chunk counted weighing answer) := by
  cases weighs <;>
    simp [Serves, Decoder.heard, Decoder.passed, Decoder.searched, Event.Serves]

theorem CycleCalls.serves {chunk : List Float32} {timing timing' : TimingGate}
    {before after : Bool} {answer : Except SessionError Unit} {calls : List Event}
    (cycle : CycleCalls debugging decoder chunk timing before answer timing' after calls) :
    Serves decoder.engine calls := by
  cases cycle with
  | refused => exact List.forall_mem_singleton.mpr rfl
  | stuck weighs => exact weighs.heard_serves _ _ _
  | notDue weighs => exact weighs.heard_serves _ _ _
  | due weighs _ looks => exact (weighs.heard_serves _ _ _).append looks.serves

/-- **A row of chunks turns to the engine of its decoder and to no other.** -/
theorem RowCalls.serves {chunks : List (List Float32)} {timing timing' : TimingGate}
    {before after : Bool} {answer : Except SessionError Delivery} {calls : List Event}
    (row : RowCalls debugging decoder chunks timing before answer timing' after calls) :
    Serves decoder.engine calls := by
  induction row with
  | nil => exact List.forall_mem_nil _
  | failed cycle => exact cycle.serves
  | unfinished cycle finalizes => exact cycle.serves.append finalizes.serves
  | ended cycle finalizes =>
    exact cycle.serves.append (finalizes.serves.append (List.forall_mem_singleton.mpr trivial))
  | next cycle _ ih => exact cycle.serves.append ih

end Rows

/-- The engine of a session, if it has one. -/
def Session.engine? (session : Session) : Option Engine :=
  session.resources.map fun resources => resources.engine

/-- The models and the engine of a session are the same after audio, and all that happens on the way
serves that engine. -/
theorem AudioCalls.serves {debugging : Bool} {session session' : Session} {samples : List Float32}
    {answer : Except SessionError Nat} {calls : List Event}
    (audio : AudioCalls debugging session samples answer session' calls) :
    session'.models = session.models ∧ session'.engine? = session.engine? ∧
      ∀ event ∈ calls, ∃ engine, session.engine? = some engine ∧ event.Serves engine := by
  have served {resources : Resources} (takes : session.Takes resources)
      {answer : Except SessionError Delivery} {timing timing' : TimingGate} {flag : Bool}
      {calls : List Event} {chunks : List (List Float32)}
      (row : RowCalls debugging (session.decoder resources) chunks timing false answer timing' flag
        calls) :
      some resources.engine = session.engine? ∧
        ∀ event ∈ calls, ∃ engine, session.engine? = some engine ∧ event.Serves engine := by
    have held : some resources.engine = session.engine? := by rw [Session.engine?, takes.held]; rfl
    exact ⟨held, fun event member => ⟨resources.engine, held.symm, row.serves event member⟩⟩
  cases audio with
  | disabled | released => exact ⟨rfl, rfl, List.forall_mem_nil _⟩
  | reported resources _ held =>
    refine ⟨rfl, ?_, List.forall_mem_nil _⟩
    rw [Session.engine?, Session.engine?, held]
    rfl
  | failed _ takes row | complete _ takes row | ended _ takes row => exact ⟨rfl, served takes row⟩

/-- **A fragment of audio turns to the engine of the session and to no other**, and leaves the
session with it. -/
theorem acceptAudio_serves (outside : Collaborators World) (samples : List Float32)
    (stage : Stage World) :
    let run := Session.acceptAudio outside samples stage
    run.state.session.models = stage.session.models ∧
      run.state.session.engine? = stage.session.engine? ∧
      ∀ event ∈ effectsOf run.record,
        ∃ engine, stage.session.engine? = some engine ∧ event.Serves engine :=
  (acceptAudio_calls outside samples stage).serves

end LiveSpeech
