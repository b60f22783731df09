import LiveSpeech.Proofs.Rows

/-!
# Counting in words

A gate keeps its counts as words of 64 bits.  Behind them stand exact counts: so many samples
passed on, and so many ticks, of which each was due when it was taken (`TimingGate.Counts`).  The
words are the words of these counts however long the audio is, and they are the counts
themselves as long as the samples can be counted in a word (`TimingGate.Counts.exact`).

The mark of the last output never overtakes the samples.  That does not depend on the range of
a word: a difference that does not fit into a word looks smaller than it is, so that an output
may come too late but never too early.

A cycle moves the exact counts by its chunk and by at most one tick (`CycleStep.counts`), and a
row of chunks of one size by that size for each chunk that the engine has accepted
(`RowStep.counts`).
-/

namespace LiveSpeech

set_option autoImplicit false

/-! ## Words and exact counts -/

/-- The word of a count is not larger than the count. -/
theorem toInt_ofNat_le (count : Nat) : (Int64.ofNat count).toInt ≤ count := by
  by_cases fits : count < 2 ^ 63
  · exact Int.le_of_eq (Int64.toInt_ofNat_of_lt fits)
  · have below := (Int64.ofNat count).toInt_lt
    omega

namespace TimingGate

/-- The samples of a tick. -/
def tickSize (gate : TimingGate) : Nat := gate.tick.toInt.toNat

theorem toInt_tick (gate : TimingGate) : gate.tick.toInt = gate.tickSize := by
  have positive : 0 < gate.tick.toInt := Int64.lt_iff_toInt_lt.mp gate.positive
  exact (Int.toNat_of_nonneg (Int.le_of_lt positive)).symm

theorem ofNat_tickSize (gate : TimingGate) : Int64.ofNat gate.tickSize = gate.tick := by
  rw [← Int64.ofInt_eq_ofNat, ← toInt_tick, Int64.ofInt_toInt]

/-- The exact counts behind the words of a gate: the samples passed on, and the ticks taken. -/
structure Counts (gate : TimingGate) (samples ticks : Nat) : Prop where
  consumed : gate.consumed = Int64.ofNat samples
  lastOutput : gate.lastOutput = Int64.ofNat (ticks * gate.tickSize)
  /-- The mark of the last output does not overtake the samples. -/
  behind : ticks * gate.tickSize ≤ samples
  /-- Once there are samples the mark stays behind them. -/
  strictly : 0 < samples → ticks * gate.tickSize < samples

theorem counts_start (nativeRate : Float32) (tick : Int64) :
    (start nativeRate tick).Counts 0 0 where
  consumed := rfl
  lastOutput := by rw [Nat.zero_mul]; rfl
  behind := by omega
  strictly := nofun

namespace Counts

variable {gate : TimingGate} {samples ticks : Nat}

theorem consume (counts : gate.Counts samples ticks) (more : Nat) :
    (gate.consume more).Counts (samples + more) ticks where
  consumed := by
    rw [Int64.ofNat_add, ← counts.consumed]
    rfl
  lastOutput := counts.lastOutput
  behind := Nat.le_add_right_of_le counts.behind
  strictly := by
    intro some
    have behind : ticks * (gate.consume more).tickSize ≤ samples := counts.behind
    by_cases none : samples = 0
    · omega
    · have strictly : ticks * (gate.consume more).tickSize < samples :=
        counts.strictly (Nat.pos_of_ne_zero none)
      omega

/-- An output that is due is more than a tick behind the samples. -/
theorem room_of_outputDue (counts : gate.Counts samples ticks) (due : gate.outputDue = true) :
    (ticks + 1) * gate.tickSize < samples := by
  have behind := counts.behind
  obtain ⟨gap, apart⟩ := Nat.exists_eq_add_of_le behind
  have difference : gate.consumed - gate.lastOutput = Int64.ofNat gap := by
    rw [counts.consumed, counts.lastOutput, apart, Int64.ofNat_add, Int64.add_comm,
      Int64.add_sub_cancel]
  have more : gate.tick < gate.consumed - gate.lastOutput := by
    simpa only [outputDue, decide_eq_true_eq] using due
  rw [difference, Int64.lt_iff_toInt_lt, toInt_tick] at more
  have word := toInt_ofNat_le gap
  have enough : gate.tickSize < gap := by omega
  rw [Nat.add_mul, Nat.one_mul]
  omega

theorem advanceOutput (counts : gate.Counts samples ticks) (due : gate.outputDue = true) :
    gate.advanceOutput.Counts samples (ticks + 1) where
  consumed := counts.consumed
  lastOutput := by
    have next : gate.advanceOutput.lastOutput = gate.lastOutput + gate.tick := rfl
    have size : gate.advanceOutput.tickSize = gate.tickSize := rfl
    rw [next, size, counts.lastOutput, Nat.add_mul, Nat.one_mul, Int64.ofNat_add, ofNat_tickSize]
  behind := Nat.le_of_lt (counts.room_of_outputDue due)
  strictly _ := counts.room_of_outputDue due

/-- As long as the samples can be counted in a word, the words are the counts. -/
theorem exact (counts : gate.Counts samples ticks) (fits : samples < Nat.pow 2 63) :
    gate.consumed.toInt = samples ∧ gate.lastOutput.toInt = (ticks * gate.tickSize : Nat) := by
  rw [counts.consumed, counts.lastOutput]
  exact ⟨Int64.toInt_ofNat_of_lt fits,
    Int64.toInt_ofNat_of_lt (Nat.lt_of_le_of_lt counts.behind fits)⟩

end Counts

end TimingGate

/-! ## Chunks that engines have accepted -/

/-- Whether an engine accepts a chunk. -/
def Event.isAccepted : Event → Bool
  | .call (.acceptWaveform _ _ _ (.ok ())) => true
  | _ => false

/-- How many chunks engines have accepted. -/
def acceptedIn (record : List Event) : Nat := record.countP Event.isAccepted

@[simp] theorem acceptedIn_append (first second : List Event) :
    acceptedIn (first ++ second) = acceptedIn first + acceptedIn second :=
  List.countP_append ..

theorem acceptedIn_landmarksOf (record : List Event) :
    acceptedIn (landmarksOf record) = acceptedIn record := by
  rw [acceptedIn, landmarksOf, List.countP_filter]
  refine List.countP_congr fun event _ => ?_
  cases event with
  | call call => cases call <;> simp [Event.isAccepted, Event.isQuiet]
  | note notice => simp [Event.isAccepted]
  | send message => simp [Event.isAccepted]

/-! ## Cycles and rows -/

variable {decoder : Decoder} {timing timing' : TimingGate} {before after : Bool}
  {landmarks : List Event}

/-- What the end of a cycle says about the counts: the chunk is counted if it was accepted, and
a tick is taken if the cycle has ended the utterance. -/
theorem CycleStep.counts {chunk : List Float32} {answer : Except SessionError Unit}
    (step : CycleStep decoder chunk timing before answer timing' after landmarks)
    {samples ticks : Nat} (counts : timing.Counts samples ticks) :
    timing'.tick = timing.tick ∧ ∃ ticks',
      timing'.Counts (samples + acceptedIn landmarks * chunk.length) ticks' ∧
        (before = false → after = true → answer = .ok () → 0 < ticks') := by
  have counted := counts.consume chunk.length
  -- A look at the output accepts nothing.
  have looked (look : Option Bool) :
      acceptedIn (decoder.passed chunk (.ok ()) :: look.toList.map decoder.looked) = 1 := by
    cases look <;> rfl
  have accepted : acceptedIn [decoder.passed chunk (.ok ())] = 1 := rfl
  cases step with
  | refused cause =>
    have refused : acceptedIn [decoder.passed chunk (.error cause)] = 0 := rfl
    rw [refused, Nat.zero_mul]
    exact ⟨rfl, ticks, counts, fun lowered raised => nomatch lowered.symm.trans raised⟩
  | stuck =>
    rw [accepted, Nat.one_mul]
    exact ⟨rfl, ticks, counted, nofun⟩
  | notDue =>
    rw [accepted, Nat.one_mul]
    exact ⟨rfl, ticks, counted, fun lowered raised => nomatch lowered.symm.trans raised⟩
  | unspelled _ look =>
    rw [looked, Nat.one_mul]
    exact ⟨rfl, ticks, counted, nofun⟩
  | seen due look =>
    rw [looked, Nat.one_mul]
    exact ⟨rfl, ticks + 1, counted.advanceOutput due, fun _ _ _ => Nat.succ_pos ticks⟩

/-- What the end of a row says about the counts: every chunk that was accepted is counted, and a
tick is taken if the utterance has ended. -/
theorem RowStep.counts {chunks : List (List Float32)} {answer : Except SessionError Delivery}
    (row : RowStep decoder chunks timing before answer timing' after landmarks) {size : Nat}
    (sizes : ∀ chunk ∈ chunks, chunk.length = size) {samples ticks : Nat}
    (counts : timing.Counts samples ticks) :
    timing'.tick = timing.tick ∧ ∃ ticks',
      timing'.Counts (samples + acceptedIn landmarks * size) ticks' ∧
        (before = false → ∀ cycles left, answer = .ok (.ended cycles left) → 0 < ticks') := by
  induction row generalizing samples ticks with
  | nil => exact ⟨rfl, ticks, by simpa [acceptedIn] using counts, nofun⟩
  | failed cycle =>
    obtain ⟨tick, ticks', counts', _⟩ := cycle.counts counts
    rw [sizes _ (List.mem_cons_self ..)] at counts'
    exact ⟨tick, ticks', counts', nofun⟩
  | unfinished cycle =>
    obtain ⟨tick, ticks', counts', _⟩ := cycle.counts counts
    rw [sizes _ (List.mem_cons_self ..)] at counts'
    exact ⟨tick, ticks', counts', nofun⟩
  | ended cycle transcript =>
    obtain ⟨tick, ticks', counts', taken⟩ := cycle.counts counts
    rw [sizes _ (List.mem_cons_self ..)] at counts'
    have sent : acceptedIn [.send (.transcript transcript)] = 0 := rfl
    refine ⟨tick, ticks', ?_, fun lowered _ _ _ => taken lowered rfl rfl⟩
    rwa [acceptedIn_append, sent, Nat.add_zero]
  | @next _ _ _ _ _ _ _ answer _ _ cycle row ih =>
    obtain ⟨tick, ticks₁, counts₁, _⟩ := cycle.counts counts
    rw [sizes _ (List.mem_cons_self ..)] at counts₁
    obtain ⟨tick', ticks₂, counts₂, taken⟩ :=
      ih (fun chunk member => sizes chunk (List.mem_cons_of_mem _ member)) counts₁
    rw [Nat.add_assoc, ← Nat.add_mul, ← acceptedIn_append] at counts₂
    refine ⟨tick'.trans tick, ticks₂, counts₂, fun _ cycles left ended => ?_⟩
    cases answer with
    | error error => cases ended
    | ok delivery =>
      cases delivery with
      | complete more => cases ended
      | ended more others => exact taken rfl more others rfl

end LiveSpeech
