import Mathlib.Data.List.Induction
import LiveSpeech.Proofs.Cadence

/-!
# The beats of a gate

A beat counts samples, and then it may take an output (`TimingGate.beat`).  It is fair if it
takes none that is not due, and prompt if it takes exactly what is due.  A prompt beat is fair.

Along fair beats the words of a gate stay exact as long as the samples can be counted in a word
(`TimingGate.counts_beats`): the mark of the last output is one tick for each output that was
taken.  Along prompt beats of at most one tick each, the mark is never more than a tick behind
(`TimingGate.behind_of_prompt`).

Along prompt beats of one size the number of outputs is a closed formula (`outputsBy`).  A beat
takes an output if there is a tick more than the outputs so far, and at least one sample beyond
it: that is the recursion which the formula solves (`outputsBy_succ`).  If a beat is longer than a
tick, every beat takes an output and the backlog grows; otherwise the samples decide.
-/

namespace LiveSpeech

set_option autoImplicit false

/-- One cycle of a gate: samples are counted, and then an output is taken or not. -/
structure Beat where
  samples : Nat
  taken : Bool

/-- The samples of a row of beats. -/
def samplesIn : List Beat → Nat
  | [] => 0
  | beat :: beats => beat.samples + samplesIn beats

/-- The outputs that a row of beats takes. -/
def takenIn (beats : List Beat) : Nat := beats.countP Beat.taken

@[simp] theorem samplesIn_append (first second : List Beat) :
    samplesIn (first ++ second) = samplesIn first + samplesIn second := by
  induction first with
  | nil => simp [samplesIn]
  | cons beat first hypothesis => simp [samplesIn, hypothesis, Nat.add_assoc]

@[simp] theorem takenIn_append (first second : List Beat) :
    takenIn (first ++ second) = takenIn first + takenIn second :=
  List.countP_append ..

theorem samplesIn_singleton (beat : Beat) : samplesIn [beat] = beat.samples := by
  simp [samplesIn]

theorem takenIn_singleton (beat : Beat) : takenIn [beat] = beat.taken.toNat := by
  cases taken : beat.taken <;> simp [takenIn, taken]

/-- Beats of one size have that many samples each. -/
theorem samplesIn_of_sizes {size : Nat} {beats : List Beat}
    (sizes : ∀ beat ∈ beats, beat.samples = size) : samplesIn beats = beats.length * size := by
  induction beats with
  | nil => simp [samplesIn]
  | cons beat beats hypothesis =>
    obtain ⟨first, others⟩ := List.forall_mem_cons.mp sizes
    rw [samplesIn, first, hypothesis others, List.length_cons, Nat.succ_mul, Nat.add_comm]

namespace TimingGate

/-- The gate after a beat. -/
def beat (gate : TimingGate) (beat : Beat) : TimingGate :=
  if beat.taken then (gate.consume beat.samples).advanceOutput else gate.consume beat.samples

/-- The gate after a row of beats. -/
def beats (gate : TimingGate) (beats : List Beat) : TimingGate := beats.foldl TimingGate.beat gate

/-- An output is taken only if one is due. -/
def Fair (gate : TimingGate) (beat : Beat) : Prop :=
  beat.taken = true → (gate.consume beat.samples).outputDue = true

/-- An output is taken exactly if one is due. -/
def Prompt (gate : TimingGate) (beat : Beat) : Prop :=
  beat.taken = (gate.consume beat.samples).outputDue

instance (gate : TimingGate) (beat : Beat) : Decidable (gate.Fair beat) :=
  inferInstanceAs (Decidable (_ → _))

instance (gate : TimingGate) (beat : Beat) : Decidable (gate.Prompt beat) :=
  inferInstanceAs (Decidable (_ = _))

/-- Every beat of a row keeps to a rule at the gate that it meets. -/
def Keeps (rule : TimingGate → Beat → Prop) : TimingGate → List Beat → Prop
  | _, [] => True
  | gate, beat :: others => rule gate beat ∧ Keeps rule (gate.beat beat) others

variable {rule : TimingGate → Beat → Prop} {gate : TimingGate}

theorem beats_append (gate : TimingGate) (first second : List Beat) :
    gate.beats (first ++ second) = (gate.beats first).beats second :=
  List.foldl_append ..

theorem beats_concat (gate : TimingGate) (beats : List Beat) (beat : Beat) :
    gate.beats (beats ++ [beat]) = (gate.beats beats).beat beat :=
  gate.beats_append beats [beat]

theorem keeps_append (gate : TimingGate) (first second : List Beat) :
    Keeps rule gate (first ++ second) ↔
      Keeps rule gate first ∧ Keeps rule (gate.beats first) second := by
  induction first generalizing gate with
  | nil => exact ⟨fun keeps => ⟨trivial, keeps⟩, And.right⟩
  | cons beat first ih => exact (and_congr_right fun _ => ih (gate.beat beat)).trans and_assoc.symm

theorem keeps_concat (gate : TimingGate) (beats : List Beat) (beat : Beat) :
    Keeps rule gate (beats ++ [beat]) ↔ Keeps rule gate beats ∧ rule (gate.beats beats) beat := by
  rw [keeps_append]
  exact and_congr_right fun _ => ⟨And.left, fun keeps => ⟨keeps, trivial⟩⟩

theorem Prompt.fair {beat : Beat} (prompt : gate.Prompt beat) : gate.Fair beat :=
  fun taken => prompt.symm.trans taken

theorem Keeps.mono {other : TimingGate → Beat → Prop} {beats : List Beat}
    (keeps : Keeps rule gate beats)
    (wider : ∀ gate beat, rule gate beat → other gate beat) : Keeps other gate beats := by
  induction beats generalizing gate with
  | nil => trivial
  | cons beat others ih => exact ⟨wider gate beat keeps.1, ih keeps.2⟩

@[simp] theorem tick_beat (gate : TimingGate) (beat : Beat) :
    (gate.beat beat).tick = gate.tick := by
  unfold TimingGate.beat
  split
  · rfl
  · rfl

@[simp] theorem tick_beats (gate : TimingGate) (beats : List Beat) :
    (gate.beats beats).tick = gate.tick := by
  induction beats using List.reverseRecOn with
  | nil => rfl
  | append_singleton beats beat ih => rw [beats_concat, tick_beat, ih]

@[simp] theorem tickSize_beats (gate : TimingGate) (beats : List Beat) :
    (gate.beats beats).tickSize = gate.tickSize := by
  rw [tickSize, tick_beats]
  rfl

theorem tickSize_pos (gate : TimingGate) : 0 < gate.tickSize := by
  have positive : (0 : Int64).toInt < gate.tick.toInt := Int64.lt_iff_toInt_lt.mp gate.positive
  rw [toInt_tick] at positive
  exact Int.natCast_pos.mp positive

/-! ## The counts along fair beats -/

/-- A fair beat counts its samples and the output that it takes. -/
theorem Counts.beat {samples ticks : Nat} (counts : gate.Counts samples ticks) {beat : Beat}
    (fair : gate.Fair beat) :
    (gate.beat beat).Counts (samples + beat.samples) (ticks + beat.taken.toNat) := by
  have counted := counts.consume beat.samples
  unfold TimingGate.beat
  cases taken : beat.taken with
  | false => exact counted
  | true => exact counted.advanceOutput (fair taken)

/-- **Along fair beats the exact counts are the samples and the outputs taken.** -/
theorem counts_beats (nativeRate : Float32) (tick : Int64) {beats : List Beat}
    (fair : Keeps Fair (start nativeRate tick) beats) :
    ((start nativeRate tick).beats beats).Counts (samplesIn beats) (takenIn beats) := by
  induction beats using List.reverseRecOn with
  | nil => exact counts_start nativeRate tick
  | append_singleton beats beat ih =>
    obtain ⟨fair, last⟩ := (keeps_concat ..).mp fair
    rw [beats_concat, samplesIn_append, takenIn_append, samplesIn_singleton, takenIn_singleton]
    exact (ih fair).beat last

namespace Counts

variable {samples ticks : Nat}

/-- The distance from the mark of the last output does not overflow. -/
theorem toInt_gap (counts : gate.Counts samples ticks) (fits : samples < Nat.pow 2 63) :
    (gate.consumed - gate.lastOutput).toInt = (samples - ticks * gate.tickSize : Nat) := by
  have behind := counts.behind
  obtain ⟨gap, apart⟩ := Nat.exists_eq_add_of_le behind
  rw [counts.consumed, counts.lastOutput, apart, Int64.ofNat_add, Int64.add_comm,
    Int64.add_sub_cancel, Nat.add_sub_cancel_left]
  exact Int64.toInt_ofNat_of_lt (Nat.lt_of_le_of_lt (by omega) fits)

/-- An output is due exactly if there is a tick more, and a sample beyond it. -/
theorem outputDue_iff (counts : gate.Counts samples ticks) (fits : samples < Nat.pow 2 63) :
    gate.outputDue = true ↔ (ticks + 1) * gate.tickSize < samples := by
  refine ⟨counts.room_of_outputDue, fun room => ?_⟩
  have behind := counts.behind
  rw [Nat.add_mul, Nat.one_mul] at room
  rw [outputDue, decide_eq_true_eq, Int64.lt_iff_toInt_lt, toInt_tick, counts.toInt_gap fits]
  omega

/-- A prompt beat of at most a tick leaves the mark at most a tick behind. -/
theorem behind_of_prompt (counts : gate.Counts samples ticks) {beat : Beat}
    (prompt : gate.Prompt beat) (fits : samples + beat.samples < Nat.pow 2 63)
    (small : beat.samples ≤ gate.tickSize)
    (within : samples ≤ (ticks + 1) * gate.tickSize) :
    samples + beat.samples ≤ (ticks + beat.taken.toNat + 1) * gate.tickSize := by
  have due : _ ↔ (ticks + 1) * gate.tickSize < samples + beat.samples :=
    (counts.consume beat.samples).outputDue_iff fits
  rw [← prompt] at due
  cases taken : beat.taken with
  | false =>
    rw [taken] at due
    exact Nat.le_of_not_lt (mt due.mpr Bool.false_ne_true)
  | true =>
    rw [Bool.toNat_true, Nat.add_mul (ticks + 1), Nat.one_mul]
    exact Nat.add_le_add within small

end Counts

/-- **Along prompt beats of at most a tick the mark stays within a tick of the samples.** -/
theorem behind_of_prompt (nativeRate : Float32) (tick : Int64) {beats : List Beat}
    (prompt : Keeps Prompt (start nativeRate tick) beats)
    (fits : samplesIn beats < Nat.pow 2 63)
    (small : ∀ beat ∈ beats, beat.samples ≤ (start nativeRate tick).tickSize) :
    samplesIn beats ≤ (takenIn beats + 1) * (start nativeRate tick).tickSize := by
  induction beats using List.reverseRecOn with
  | nil => exact Nat.zero_le _
  | append_singleton beats beat ih =>
    obtain ⟨prompt, last⟩ := (keeps_concat ..).mp prompt
    obtain ⟨small, single⟩ := List.forall_mem_append.mp small
    rw [samplesIn_append, samplesIn_singleton] at fits ⊢
    rw [takenIn_append, takenIn_singleton]
    have counts := counts_beats nativeRate tick (prompt.mono fun _ _ => Prompt.fair)
    have step := counts.behind_of_prompt last fits
    rw [tickSize_beats] at step
    exact step (single beat (List.mem_singleton_self beat)) (ih prompt (by omega) small)

/-- **One fair beat is exact, and moves the mark by a tick at most.** -/
theorem beat_exact (nativeRate : Float32) (tick : Int64) {beats : List Beat} {beat : Beat}
    (fair : Keeps Fair (start nativeRate tick) (beats ++ [beat]))
    (fits : samplesIn (beats ++ [beat]) < Nat.pow 2 63) :
    let before := (start nativeRate tick).beats beats
    let counted := before.consume beat.samples
    let after := (start nativeRate tick).beats (beats ++ [beat])
    (after.consumed.toInt = samplesIn (beats ++ [beat]) ∧
        after.lastOutput.toInt = takenIn (beats ++ [beat]) * after.tick.toInt ∧
        after.lastOutput.toInt ≤ after.consumed.toInt) ∧
      after.lastOutput.toInt = before.lastOutput.toInt +
        (if beat.taken then before.tick.toInt else 0) ∧
      counted.consumed.toInt = before.consumed.toInt + (Int64.ofNat beat.samples).toInt ∧
      (Int64.ofNat beat.samples).toInt = beat.samples ∧
      (counted.consumed - counted.lastOutput).toInt =
        counted.consumed.toInt - counted.lastOutput.toInt := by
  intro before counted after
  obtain ⟨earlier, last⟩ := (keeps_concat ..).mp fair
  have total := samplesIn_append beats [beat]
  rw [samplesIn_singleton] at total
  have taken := takenIn_append beats [beat]
  rw [takenIn_singleton] at taken
  have counts : before.Counts (samplesIn beats) (takenIn beats) :=
    counts_beats nativeRate tick earlier
  have counts' : counted.Counts (samplesIn beats + beat.samples) (takenIn beats) :=
    counts.consume beat.samples
  have counts'' : after.Counts _ _ := counts_beats nativeRate tick fair
  have size : after.tickSize = before.tickSize := by
    rw [show after.tickSize = _ from tickSize_beats .., show before.tickSize = _ from
      tickSize_beats ..]
  have fits' : samplesIn beats + beat.samples < Nat.pow 2 63 := total ▸ fits
  obtain ⟨consumed, lastOutput⟩ := counts.exact (Nat.lt_of_le_of_lt (Nat.le_add_right ..) fits')
  obtain ⟨consumed', lastOutput'⟩ := counts'.exact fits'
  obtain ⟨consumed'', lastOutput''⟩ := counts''.exact fits
  have word : (Int64.ofNat beat.samples).toInt = beat.samples :=
    Int64.toInt_ofNat_of_lt (Nat.lt_of_le_of_lt (Nat.le_add_left ..) fits')
  refine ⟨⟨consumed'', ?_, ?_⟩, ?_, ?_, word, ?_⟩
  · rw [lastOutput'', after.toInt_tick]
    exact Int.natCast_mul ..
  · rw [lastOutput'', consumed'']
    exact Int.ofNat_le.mpr counts''.behind
  · rw [lastOutput'', lastOutput, size, taken, Nat.add_mul, Int.natCast_add, before.toInt_tick]
    congr 1
    cases beat.taken <;> simp
  · rw [consumed', consumed, word, Int.natCast_add]
  · rw [counts'.toInt_gap fits', consumed', lastOutput']
    exact Int.natCast_sub counts'.behind

end TimingGate

/-! ## Prompt beats of one size -/

/-- The outputs of so many prompt beats of one size. -/
def outputsBy (size tick beats : Nat) : Nat := min beats ((beats * size - 1) / tick)

section Formula

variable {size tick : Nat}

theorem outputsBy_zero (size tick : Nat) : outputsBy size tick 0 = 0 := Nat.zero_min _

/-- A beat more adds at most a tick to the whole ticks, unless beats are longer than ticks; and
then there are more whole ticks than beats. -/
theorem ticks_succ_le (size : Nat) {tick : Nat} (positive : 0 < tick) {beats : Nat}
    (fewer : (beats * size - 1) / tick < beats) :
    ((beats + 1) * size - 1) / tick ≤ (beats * size - 1) / tick + 1 := by
  have some : 0 < beats := Nat.lt_of_le_of_lt (Nat.zero_le _) fewer
  by_cases long : tick < size
  · -- Every beat brings a tick and a sample, so that no beat comes too early.
    have enough : beats * tick ≤ beats * size - 1 := by
      have more : beats * (tick + 1) ≤ beats * size := Nat.mul_le_mul_left beats long
      rw [Nat.mul_add, Nat.mul_one] at more
      omega
    exact absurd ((Nat.le_div_iff_mul_le positive).mpr enough) (Nat.not_le_of_lt fewer)
  · rw [← Nat.add_div_right _ positive, Nat.add_mul, Nat.one_mul]
    refine Nat.div_le_div_right ?_
    by_cases none : beats * size = 0
    · have empty : size = 0 := (Nat.mul_eq_zero.mp none).resolve_left (Nat.ne_of_gt some)
      omega
    · omega

/-- **The recursion of the outputs**: a beat takes one if there is a tick more, and a sample
beyond it. -/
theorem outputsBy_succ (size : Nat) {tick : Nat} (positive : 0 < tick) (beats : Nat) :
    outputsBy size tick (beats + 1) = outputsBy size tick beats +
      if (outputsBy size tick beats + 1) * tick < (beats + 1) * size then 1 else 0 := by
  have due (outputs : Nat) : (outputs + 1) * tick < (beats + 1) * size ↔
      outputs + 1 ≤ ((beats + 1) * size - 1) / tick := by
    have some : 0 < (outputs + 1) * tick := Nat.mul_pos (Nat.succ_pos outputs) positive
    rw [Nat.le_div_iff_mul_le positive]
    omega
  have grows : (beats * size - 1) / tick ≤ ((beats + 1) * size - 1) / tick := by
    rw [Nat.add_mul, Nat.one_mul]
    exact Nat.div_le_div_right (by omega)
  have slowly := @ticks_succ_le size tick positive beats
  simp only [due, outputsBy]
  generalize (beats * size - 1) / tick = before at grows slowly
  generalize ((beats + 1) * size - 1) / tick = after at grows slowly
  split <;> omega

end Formula

/-- **Prompt beats of one size take as many outputs as the formula says.** -/
theorem TimingGate.takenIn_of_prompt (nativeRate : Float32) (tick : Int64) {size : Nat}
    {beats : List Beat} (prompt : Keeps Prompt (start nativeRate tick) beats)
    (sizes : ∀ beat ∈ beats, beat.samples = size) (fits : beats.length * size < Nat.pow 2 63) :
    takenIn beats = outputsBy size (start nativeRate tick).tickSize beats.length := by
  induction beats using List.reverseRecOn with
  | nil => exact (outputsBy_zero ..).symm
  | append_singleton beats beat ih =>
    have total := samplesIn_of_sizes sizes
    obtain ⟨prompt, last⟩ := (keeps_concat ..).mp prompt
    obtain ⟨sizes, single⟩ := List.forall_mem_append.mp sizes
    have same : beat.samples = size := single beat (List.mem_singleton_self beat)
    rw [List.length_append, List.length_singleton] at fits total ⊢
    rw [samplesIn_append, samplesIn_singleton] at total
    have shorter : beats.length * size ≤ (beats.length + 1) * size :=
      Nat.mul_le_mul_right size (Nat.le_succ _)
    have taken := ih prompt sizes (Nat.lt_of_le_of_lt shorter fits)
    have counts := counts_beats nativeRate tick (prompt.mono fun _ _ => Prompt.fair)
    have due := (counts.consume beat.samples).outputDue_iff (total ▸ fits)
    rw [← last] at due
    rw [takenIn_append, takenIn_singleton, outputsBy_succ size (tickSize_pos _), ← taken]
    congr 1
    have size' : (((start nativeRate tick).beats beats).consume beat.samples).tickSize =
        (start nativeRate tick).tickSize := tickSize_beats ..
    rw [size', total] at due
    rw [← if_congr due rfl rfl]
    cases beat.taken <;> rfl

end LiveSpeech
