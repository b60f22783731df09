import LiveSpeech.Proofs.Cycle

/-!
# What a row of chunks can do

A row of chunks runs through decoding cycles one after the other (`RowStep`).  It ends when
there is no chunk left, when a cycle fails, or when an engine has reported the end: then the
transcript is sent, unless it cannot be spelled.

What a row leaves is read off by induction on that, with one case for each way in which it ends
(`RowEnd`).  A row in two parts is the first part and then, if it came to its end without an end
of the utterance, the second (`decodeChunks_append`).
-/

namespace LiveSpeech

set_option autoImplicit false

variable {World : Type}

/-! ## Landmarks of a cycle -/

namespace CycleStep

variable {decoder : Decoder} {chunk : List Float32} {timing timing' : TimingGate}
  {before after : Bool} {answer : Except SessionError Unit} {landmarks : List Event}

/-- A cycle passes its chunk on, and that is the first it does. -/
theorem chunksOf_eq (step : CycleStep decoder chunk timing before answer timing' after landmarks) :
    chunksOf landmarks = [chunk] := by
  cases step with
  | refused | stuck | notDue => rfl
  | unspelled _ look | seen _ look => cases look <;> rfl

/-- A cycle sends nothing. -/
theorem messagesOf_eq
    (step : CycleStep decoder chunk timing before answer timing' after landmarks) :
    messagesOf landmarks = [] := by
  cases step with
  | refused | stuck | notDue => rfl
  | unspelled _ look | seen _ look => cases look <;> rfl

/-- The flag is raised by a report of the end and by nothing else. -/
theorem flag_iff (step : CycleStep decoder chunk timing false answer timing' after landmarks) :
    after = true ↔ EndReported landmarks := by
  cases step with
  | refused | stuck | notDue => simp [EndReported, Decoder.passed, Event.reportsEnd]
  | unspelled _ look | seen _ look =>
    cases look <;> simp [EndReported, Decoder.passed, Decoder.looked, Event.reportsEnd]

theorem chunksEnd (step : CycleStep decoder chunk timing before answer timing' after landmarks) :
    ChunksEnd landmarks := by
  cases step with
  | refused | stuck | notDue => exact List.pairwise_singleton ..
  | unspelled _ look | seen _ look =>
    cases look <;> simp [ChunksEnd, Decoder.passed, Decoder.looked, Event.reportsEnd]

/-- A cycle that fails although the end was reported fails at a number without a word. -/
theorem isUnknownSymbol {error : SessionError}
    (step : CycleStep decoder chunk timing false (.error error) timing' after landmarks)
    (raised : after = true) : error.IsUnknownSymbol := by
  cases step with
  | refused | stuck => cases raised
  | unspelled _ _ _ number => exact ⟨number, rfl⟩

theorem passed_of_mem
    (step : CycleStep decoder chunk timing before answer timing' after landmarks)
    {engine : Engine} {rate : Float32} {samples : List Float32} {reply : Except EngineError Unit}
    (member : .call (.acceptWaveform engine rate samples reply) ∈ landmarks) :
    engine = decoder.engine ∧ rate = decoder.nativeRate ∧ samples = chunk := by
  cases step with
  | refused | stuck | notDue =>
    cases List.mem_singleton.mp member
    exact ⟨rfl, rfl, rfl⟩
  | unspelled _ look | seen _ look =>
    cases look <;> simp [Decoder.passed, Decoder.looked] at member <;> simp [member]

/-- If the end is not asked for it is not found. -/
theorem flag_of_not_asked
    (step : CycleStep decoder chunk timing before answer timing' after landmarks)
    (unasked : decoder.config.doEndpointing = false) : after = before := by
  cases step with
  | refused | stuck | notDue => rfl
  | unspelled _ look looks | seen _ look looks =>
    cases look with
    | none => rfl
    | some ended => exact absurd (looks.trans unasked) (by simp)

end CycleStep

/-! ## The transcript -/

/-- Asking for the transcript leaves no landmark, and a number without a word is the one way in
which it fails. -/
theorem Finalizing.quiet {decoder : Decoder} {answer : Except SessionError String}
    {calls : List Event} (finalizes : Finalizing decoder answer calls) :
    landmarksOf calls = [] ∧ ∀ error, answer = .error error → error.IsUnknownSymbol := by
  cases finalizes with
  | uncertain => exact ⟨rfl, nofun⟩
  | certain _ spells => exact spells.quiet

/-! ## A row of chunks -/

/-- The courses of a row of chunks, from the counts `timing` and the flag `before`: how it ends,
the counts and the flag it leaves, and its landmarks. -/
inductive RowStep (decoder : Decoder) : List (List Float32) → TimingGate → Bool →
    Except SessionError Delivery → TimingGate → Bool → List Event → Prop where
  /-- There is no chunk. -/
  | nil (timing : TimingGate) (flag : Bool) :
      RowStep decoder [] timing flag (.ok (.complete 0)) timing flag []
  /-- The first cycle fails. -/
  | failed {chunk : List Float32} {others : List (List Float32)} {timing timing' : TimingGate}
      {before after : Bool} {error : SessionError} {landmarks : List Event}
      (cycle : CycleStep decoder chunk timing before (.error error) timing' after landmarks) :
      RowStep decoder (chunk :: others) timing before (.error error) timing' after landmarks
  /-- The utterance ends with the first cycle, but its transcript cannot be spelled. -/
  | unfinished {chunk : List Float32} {others : List (List Float32)}
      {timing timing' : TimingGate} {before : Bool} {landmarks : List Event}
      (cycle : CycleStep decoder chunk timing before (.ok ()) timing' true landmarks)
      (number : Nat) :
      RowStep decoder (chunk :: others) timing before (.error (.unknownSymbol number)) timing'
        true landmarks
  /-- The utterance ends with the first cycle. -/
  | ended {chunk : List Float32} {others : List (List Float32)}
      {timing timing' : TimingGate} {before : Bool} {landmarks : List Event}
      (cycle : CycleStep decoder chunk timing before (.ok ()) timing' true landmarks)
      (transcript : String) :
      RowStep decoder (chunk :: others) timing before (.ok (.ended 1 others)) timing' true
        (landmarks ++ [.send (.transcript transcript)])
  /-- The row goes on behind the first cycle. -/
  | next {chunk : List Float32} {others : List (List Float32)}
      {timing timing' timing'' : TimingGate} {before after : Bool}
      {answer : Except SessionError Delivery} {landmarks more : List Event}
      (cycle : CycleStep decoder chunk timing before (.ok ()) timing' false landmarks)
      (row : RowStep decoder others timing' false answer timing'' after more) :
      RowStep decoder (chunk :: others) timing before (answer.map Delivery.succ) timing'' after
        (landmarks ++ more)

/-- **A row of chunks takes one of the courses**: so say its calls and messages. -/
theorem RowCalls.step {debugging : Bool} {decoder : Decoder} {chunks : List (List Float32)}
    {timing timing' : TimingGate} {before after : Bool} {answer : Except SessionError Delivery}
    {calls : List Event}
    (row : RowCalls debugging decoder chunks timing before answer timing' after calls) :
    RowStep decoder chunks timing before answer timing' after (landmarksOf calls) := by
  induction row with
  | nil timing flag => exact .nil timing flag
  | failed cycle => exact .failed cycle.step
  | unfinished cycle finalizes =>
    obtain ⟨quiet, unknown⟩ := finalizes.quiet
    obtain ⟨number, rfl⟩ := unknown _ rfl
    rw [landmarksOf_append, quiet, List.append_nil]
    exact .unfinished cycle.step number
  | @ended _ _ _ _ _ _ _ cycle transcript finalizes =>
    rw [landmarksOf_append, landmarksOf_append, finalizes.quiet.1]
    exact .ended cycle.step transcript
  | next cycle _ ih =>
    rw [landmarksOf_append]
    exact .next cycle.step ih

/-! ## What a row leaves -/

/-- What a row of chunks leaves when it starts with the flag lowered: how it ended, the flag,
and its landmarks. -/
inductive RowEnd (chunks : List (List Float32)) :
    Except SessionError Delivery → Bool → List Event → Prop where
  /-- All chunks were passed on, and no end was reported. -/
  | complete {landmarks : List Event} (passed : chunksOf landmarks = chunks)
      (silent : messagesOf landmarks = []) (unreported : ¬EndReported landmarks) :
      RowEnd chunks (.ok (.complete chunks.length)) false landmarks
  /-- The end was reported after the last of the chunks that were passed on. -/
  | ended {landmarks : List Event} (heard left : List (List Float32))
      (parts : chunks = heard ++ left) (passed : chunksOf landmarks = heard)
      (transcript : String) (sent : messagesOf landmarks = [.transcript transcript])
      (reported : EndReported landmarks) (last : ChunksEnd landmarks) :
      RowEnd chunks (.ok (.ended heard.length left)) true landmarks
  /-- The row failed.  If the end was reported before, it failed at a number without a word. -/
  | error {landmarks : List Event} {error : SessionError} {after : Bool}
      (passed : chunksOf landmarks <+: chunks) (silent : messagesOf landmarks = [])
      (raised : after = true ↔ EndReported landmarks)
      (unknown : after = true → error.IsUnknownSymbol) (last : ChunksEnd landmarks) :
      RowEnd chunks (.error error) after landmarks

/-- A row whose chunks were all decoded leaves the flag lowered. -/
theorem RowEnd.lowered {chunks : List (List Float32)} {cycles : Nat} {after : Bool}
    {landmarks : List Event} (rowEnd : RowEnd chunks (.ok (.complete cycles)) after landmarks) :
    after = false := by
  cases rowEnd
  rfl

namespace RowStep

variable {decoder : Decoder} {chunks : List (List Float32)} {timing timing' : TimingGate}
  {before after : Bool} {answer : Except SessionError Delivery} {landmarks : List Event}

/-- **What a row leaves.** -/
theorem rowEnd (row : RowStep decoder chunks timing before answer timing' after landmarks)
    (lowered : before = false) : RowEnd chunks answer after landmarks := by
  induction row with
  | nil timing flag =>
    subst lowered
    exact .complete rfl rfl (by simp [EndReported])
  | @failed chunk others _ _ _ _ _ _ cycle =>
    subst lowered
    refine .error ⟨others, ?_⟩ cycle.messagesOf_eq cycle.flag_iff cycle.isUnknownSymbol
      cycle.chunksEnd
    rw [cycle.chunksOf_eq]
    rfl
  | @unfinished chunk others _ _ _ _ cycle number =>
    subst lowered
    refine .error ⟨others, ?_⟩ cycle.messagesOf_eq cycle.flag_iff (fun _ => ⟨number, rfl⟩)
      cycle.chunksEnd
    rw [cycle.chunksOf_eq]
    rfl
  | @ended chunk others _ _ _ landmarks cycle transcript =>
    subst lowered
    refine .ended [chunk] others rfl ?_ transcript ?_ ?_ ?_
    · rw [chunksOf_append, cycle.chunksOf_eq]
      rfl
    · rw [messagesOf_append, cycle.messagesOf_eq]
      rfl
    · exact (endReported_append ..).mpr (.inl (cycle.flag_iff.mp rfl))
    · exact cycle.chunksEnd.append (List.pairwise_singleton ..) fun _ => rfl
  | @next chunk others _ _ _ _ _ _ landmarks more cycle row ih =>
    subst lowered
    have unreported : ¬EndReported landmarks := fun reported =>
      absurd (cycle.flag_iff.mpr reported) Bool.false_ne_true
    have ends (last : ChunksEnd more) : ChunksEnd (landmarks ++ more) :=
      cycle.chunksEnd.append last fun reported => absurd reported unreported
    have passed : chunksOf (landmarks ++ more) = chunk :: chunksOf more := by
      rw [chunksOf_append, cycle.chunksOf_eq]
      rfl
    have messages : messagesOf (landmarks ++ more) = messagesOf more := by
      rw [messagesOf_append, cycle.messagesOf_eq]
      rfl
    have reports : EndReported (landmarks ++ more) ↔ EndReported more := by
      rw [endReported_append, or_iff_right unreported]
    cases ih rfl with
    | complete all silent quiet =>
      exact .complete (passed.trans (by rw [all])) (messages.trans silent) (mt reports.mp quiet)
    | ended heard left parts all transcript sent reported last =>
      exact .ended (chunk :: heard) left (by rw [parts]; rfl) (passed.trans (by rw [all]))
        transcript (messages.trans sent) (reports.mpr reported) (ends last)
    | error some silent raised unknown last =>
      refine .error ?_ (messages.trans silent) (raised.trans reports.symm) unknown (ends last)
      rw [passed]
      exact (List.prefix_cons_inj chunk).mpr some

/-- If the end is not asked for the flag stays as it is. -/
theorem flag_of_not_asked
    (row : RowStep decoder chunks timing before answer timing' after landmarks)
    (unasked : decoder.config.doEndpointing = false) : after = before := by
  induction row with
  | nil => rfl
  | failed cycle | unfinished cycle | ended cycle => exact cycle.flag_of_not_asked unasked
  | next cycle _ ih => exact ih.trans (cycle.flag_of_not_asked unasked)

/-- Every chunk on its way to an engine is one of the row, at the rate of the engine. -/
theorem passed_of_mem (row : RowStep decoder chunks timing before answer timing' after landmarks)
    {engine : Engine} {rate : Float32} {samples : List Float32} {reply : Except EngineError Unit}
    (member : .call (.acceptWaveform engine rate samples reply) ∈ landmarks) :
    engine = decoder.engine ∧ rate = decoder.nativeRate ∧ samples ∈ chunks := by
  induction row with
  | nil => cases member
  | failed cycle | unfinished cycle =>
    obtain ⟨same, rated, rfl⟩ := cycle.passed_of_mem member
    exact ⟨same, rated, List.mem_cons_self ..⟩
  | ended cycle =>
    rcases List.mem_append.mp member with early | late
    · obtain ⟨same, rated, rfl⟩ := cycle.passed_of_mem early
      exact ⟨same, rated, List.mem_cons_self ..⟩
    · cases List.mem_singleton.mp late
  | next cycle _ ih =>
    rcases List.mem_append.mp member with early | late
    · obtain ⟨same, rated, rfl⟩ := cycle.passed_of_mem early
      exact ⟨same, rated, List.mem_cons_self ..⟩
    · obtain ⟨same, rated, among⟩ := ih late
      exact ⟨same, rated, List.mem_cons_of_mem _ among⟩

end RowStep

/-! ## A row in two parts -/

/-- So many cycles before the others. -/
def Delivery.add (cycles : Nat) : Delivery → Delivery
  | .complete more => .complete (cycles + more)
  | .ended more left => .ended (cycles + more) left

/-- Goes on with further chunks behind a row that has ended in one way or the other. -/
def goOn (outside : Collaborators World) (decoder : Decoder) (others : List (List Float32)) :
    Delivery → Action (Cycle World) SessionError Delivery
  | .complete cycles => do
    let delivery ← decodeChunks outside decoder others
    return delivery.add cycles
  | .ended cycles left => return .ended cycles (left ++ others)

theorem goOn_complete (outside : Collaborators World) (decoder : Decoder)
    (others : List (List Float32)) (cycles : Nat) (cycle : Cycle World) :
    let row := decodeChunks outside decoder others cycle
    goOn outside decoder others (.complete cycles) cycle =
      ⟨row.answer.map (Delivery.add cycles), row.state, row.record⟩ :=
  Action.bind_pure_run ..

/-- **A row in two parts is the first and then, unless the utterance has ended, the second.** -/
theorem decodeChunks_append (outside : Collaborators World) (decoder : Decoder)
    (first second : List (List Float32)) :
    decodeChunks outside decoder (first ++ second) =
      decodeChunks outside decoder first >>= goOn outside decoder second := by
  induction first with
  | nil =>
    have same : Delivery.add 0 = id := by
      funext delivery
      cases delivery <;> simp [Delivery.add]
    show _ = goOn outside decoder second (.complete 0)
    simp [goOn, same]
  | cons chunk first ih =>
    -- One cycle more before the row is one cycle more in its count.
    have counted (delivery : Delivery) :
        goOn outside decoder second delivery.succ = (do
          let whole ← goOn outside decoder second delivery
          return whole.succ) := by
      cases delivery with
      | complete cycles =>
        have same (more : Delivery) : (more.add cycles).succ = more.add (cycles + 1) := by
          cases more <;> simp only [Delivery.add, Delivery.succ, Nat.add_right_comm]
        show goOn outside decoder second (.complete (cycles + 1)) = _
        simp only [goOn, bind_assoc, pure_bind, same]
      | ended cycles left => simp only [Delivery.succ, goOn, pure_bind]
    simp only [List.cons_append, decodeChunks, bind_assoc]
    congr
    funext _
    congr
    funext cycle
    split
    · simp only [bind_assoc, pure_bind, goOn]
    · simp only [ih, bind_assoc, pure_bind, counted]

end LiveSpeech
