import LiveSpeech.Proofs.Calls

/-!
# What decoding cycles can do

Whatever the engine and the clock do, a decoding cycle has one of five courses
(`CycleStep`): the chunk is refused, the search fails, no output is due, or an output is looked
at, and the partial result can or cannot be spelled.  Each course says how the cycle ends, how
the counts and the flag of the end move, and which landmarks are left.  They are read off the
calls of the cycle (`CycleCalls.step`).

A row of chunks runs through such cycles until one fails or ends the utterance (`RowStep`).
Everything that is said about rows is proved by induction on that.
-/

namespace LiveSpeech

set_option autoImplicit false

variable {World : Type}

/-! ## Parts of a cycle -/

theorem Action.Within.inCycle {Answer : Type} {events : Event → Prop}
    {failures : SessionError → Prop} {action : Action World SessionError Answer}
    (within : action.Within events failures) : (Cycle.outside action).Within events failures where
  recorded cycle := within.recorded cycle.world
  failing cycle := within.failing cycle.world

/-- The error that a number has no word. -/
def SessionError.IsUnknownSymbol (error : SessionError) : Prop :=
  ∃ number, error = .unknownSymbol number

theorem bestTranscript_within (outside : Collaborators World) (decoder : Decoder) :
    (bestTranscript outside decoder).Within (·.isQuiet = true) SessionError.IsUnknownSymbol := by
  refine .bind (.ask fun _ => rfl) fun frames => ?_
  split
  · exact .bind (.happen rfl) fun _ => .done _
  · refine .bind (.ask fun _ => rfl) fun best => ?_
    split
    · exact .bind (.happen rfl) fun _ => .done _
    · exact .bind (.happen rfl) fun _ => .ofExcept (fun number => ⟨number, rfl⟩) _

/-- The engine is asked for the cost of its best final state. -/
def Event.isCost : Event → Bool
  | .call (.finalRelativeCost ..) => true
  | _ => false

/-- An event of the search: it is quiet, and not about the cost. -/
def Event.IsSearch (event : Event) : Prop := event.isQuiet = true ∧ event.isCost = false

theorem reweighSilence_within (outside : Collaborators World) (engine : Engine) :
    (reweighSilence outside engine).Within Event.IsSearch fun _ => False := by
  refine .bind (.ask fun _ => ⟨rfl, rfl⟩) fun weighting => ?_
  split
  · refine .bind (.ask fun _ => ⟨rfl, rfl⟩) fun adaptive => ?_
    split
    · exact .bind (.tell ⟨rfl, rfl⟩) fun _ =>
        .bind (.ask fun _ => ⟨rfl, rfl⟩) fun _ => .tell ⟨rfl, rfl⟩
    · exact .done _
  · exact .done _

theorem advanceDecoding_within (outside : Collaborators World) (engine : Engine) :
    (advanceDecoding outside engine).Within Event.IsSearch fun error =>
      ∃ cause, error = .engine cause :=
  .bind (.ask fun _ => ⟨rfl, rfl⟩) fun _ => .ofExcept (fun cause => ⟨cause, rfl⟩) _

theorem search_within (outside : Collaborators World) (decoder : Decoder) (gate : TimingGate) :
    (search outside decoder gate).Within Event.IsSearch fun error =>
      ∃ cause, error = .engine cause :=
  .bind (.tell ⟨rfl, rfl⟩) fun _ =>
    .bind ((reweighSilence_within outside decoder.engine).mono (fun _ => id) nofun)
      fun _ => advanceDecoding_within outside decoder.engine

/-! ## One cycle -/

/-- The courses of a decoding cycle, from the counts `timing` and the flag `ended`: how it ends,
the counts and the flag it leaves, and its landmarks. -/
inductive CycleStep (decoder : Decoder) (chunk : List Float32) (timing : TimingGate)
    (ended : Bool) : Except SessionError Unit → TimingGate → Bool → List Event → Prop where
  /-- The chunk is refused. -/
  | refused (cause : EngineError) :
      CycleStep decoder chunk timing ended (.error (.engine cause)) timing ended
        [decoder.passed chunk (.error cause)]
  /-- The search fails. -/
  | stuck (cause : EngineError) :
      CycleStep decoder chunk timing ended (.error (.engine cause)) (timing.consume chunk.length)
        ended [decoder.passed chunk (.ok ())]
  /-- No output is due. -/
  | notDue (early : (timing.consume chunk.length).outputDue = false) :
      CycleStep decoder chunk timing ended (.ok ()) (timing.consume chunk.length) ended
        [decoder.passed chunk (.ok ())]
  /-- An output is looked at, but what has been understood so far cannot be spelled. -/
  | unspelled (due : (timing.consume chunk.length).outputDue = true) (look : Option Bool)
      (looks : decoder.Looks look) (number : Nat) :
      CycleStep decoder chunk timing ended (.error (.unknownSymbol number))
        (timing.consume chunk.length) (look.getD ended)
        (decoder.passed chunk (.ok ()) :: look.toList.map decoder.looked)
  /-- An output is looked at. -/
  | seen (due : (timing.consume chunk.length).outputDue = true) (look : Option Bool)
      (looks : decoder.Looks look) :
      CycleStep decoder chunk timing ended (.ok ()) (timing.consume chunk.length).advanceOutput
        (look.getD ended) (decoder.passed chunk (.ok ()) :: look.toList.map decoder.looked)

/-- Asking for the words of the best path leaves no landmark, and a number without a word is the
one way in which it fails. -/
theorem Spelling.quiet {decoder : Decoder} {answer : Except SessionError String}
    {spelling : List Event} (spells : Spelling decoder answer spelling) :
    landmarksOf spelling = [] ∧ ∀ error, answer = .error error → error.IsUnknownSymbol := by
  cases spells with
  | noFrames | noPath | spelled => exact ⟨rfl, nofun⟩
  | @unknown _ _ _ number =>
    refine ⟨rfl, ?_⟩
    rintro _ ⟨⟩
    exact ⟨number, rfl⟩

/-- Up to what the engine decodes the chunk is the only landmark. -/
theorem Reweighing.landmarksOf_heard {decoder : Decoder} {weighing : List Event}
    (weighs : Reweighing decoder.engine weighing) (chunk : List Float32) (counted : TimingGate)
    (answer : Except EngineError Unit) :
    landmarksOf (decoder.heard chunk counted weighing answer) =
      [decoder.passed chunk (.ok ())] := by
  cases weighs <;> rfl

theorem Decoder.landmarksOf_looked (decoder : Decoder) (look : Option Bool) :
    landmarksOf (look.toList.map decoder.looked) = look.toList.map decoder.looked := by
  cases look <;> rfl

/-- The calls of a cycle are those of one of the five courses. -/
theorem CycleCalls.step {debugging : Bool} {decoder : Decoder} {chunk : List Float32}
    {timing timing' : TimingGate} {before after : Bool} {answer : Except SessionError Unit}
    {calls : List Event}
    (cycle : CycleCalls debugging decoder chunk timing before answer timing' after calls) :
    CycleStep decoder chunk timing before answer timing' after (landmarksOf calls) := by
  cases cycle with
  | refused cause => exact .refused cause
  | stuck weighs cause =>
    rw [weighs.landmarksOf_heard]
    exact .stuck cause
  | notDue weighs early =>
    rw [weighs.landmarksOf_heard]
    exact .notDue early
  | due weighs due looks =>
    rw [landmarksOf_append, weighs.landmarksOf_heard]
    obtain ⟨look, looks, notes⟩ := looks
    rw [landmarksOf_append, decoder.landmarksOf_looked]
    cases notes with
    | unspelled spells =>
      obtain ⟨quiet, unknown⟩ := spells.quiet
      obtain ⟨number, rfl⟩ := unknown _ rfl
      rw [quiet, List.append_nil]
      exact .unspelled due look looks number
    | noted spells cost =>
      have asked : landmarksOf (cost.toList.map decoder.costed) = [] := by cases cost <;> rfl
      rw [landmarksOf_append, spells.quiet.1, asked, List.append_nil, List.append_nil]
      exact .seen due look looks

/-- **A decoding cycle takes one of the five courses.** -/
theorem decodeChunk_step (outside : Collaborators World) (decoder : Decoder)
    (chunk : List Float32) (cycle : Cycle World) :
    let run := decodeChunk outside decoder chunk cycle
    CycleStep decoder chunk cycle.timing cycle.endpointDetected run.answer run.state.timing
      run.state.endpointDetected (landmarksOf run.record) := by
  intro run
  rw [← landmarksOf_effectsOf]
  exact (decodeChunk_calls outside decoder chunk cycle).step

end LiveSpeech
