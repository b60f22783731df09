import LiveSpeech.Audio.OverlapAdd
import LiveSpeech.Proofs.Stream
import Mathlib.Data.List.Basic

/-!
# The frames of a converter

A converter that is given blocks one after the other comes out with frames, all in all
`Converter.run`.  What a resampler passes on is a section of them: it begins behind the frames
that are late and ends where a limit says, and no matter how the frames come in groups, leaving
out parts of the groups is leaving out a part of the whole (`emit_append`, `runBlocks_eq`).

How many frames there are depends on how many blocks there were, not on what is in them
(`Converter.length_run`): all full stretches of input are converted.  Of a converter that is made
for two rates it is supposed that the frames are to the stretches as one rate is to the other
(`Transducer.Fits`), and the converter that overlaps its transforms is such (`makeTransducer_fits`).
-/

namespace LiveSpeech.Audio

set_option autoImplicit false

/-! ## A section of the frames -/

/-- What is passed on of two groups is what is passed on of each. -/
theorem emit_append (delay : Nat) (limit : Option Nat) (produced : Nat)
    (first second : List Float32) :
    emit delay limit produced (first ++ second) =
      emit delay limit produced first ++
        emit delay limit (produced + first.length) second := by
  cases limit with
  | none => simp only [emit, List.drop_append, Nat.sub_sub]
  | some last =>
    simp only [emit, List.take_append, List.drop_append, ← Nat.sub_sub]
    -- Behind the limit there is nothing, wherever the delay ends.
    by_cases within : first.length ≤ last - produced
    · rw [List.take_of_length_le within]
    · rw [Nat.sub_eq_zero_of_le (Nat.le_of_not_le within)]
      simp only [List.take_zero, List.drop_nil]

/-- Of the frames of a whole stream the late ones are left out. -/
theorem emit_none (delay : Nat) (frames : List Float32) :
    emit delay none 0 frames = frames.drop delay := rfl

/-- Of the frames of a whole stream the late ones and those behind the limit are left out. -/
theorem emit_some (delay last : Nat) (frames : List Float32) :
    emit delay (some last) 0 frames = (frames.take last).drop delay := rfl

/-- A limit that is not reached is none. -/
theorem emit_of_length_le {delay last : Nat} {frames : List Float32}
    (short : frames.length ≤ last) :
    emit delay (some last) 0 frames = emit delay none 0 frames := by
  rw [emit_some, emit_none, List.take_of_length_le short]

/-! ## All frames -/

namespace Converter

/-- Takes in blocks one after the other. -/
def run : Converter → List (List Float32) → List Float32 × Converter
  | converter, [] => ([], converter)
  | converter, block :: others =>
    let (frames, next) := converter.process block
    let (more, last) := next.run others
    (frames ++ more, last)

theorem run_append (converter : Converter) (first second : List (List Float32)) :
    converter.run (first ++ second) =
      ((converter.run first).1 ++ ((converter.run first).2.run second).1,
        ((converter.run first).2.run second).2) := by
  induction first generalizing converter with
  | nil => rfl
  | cons block first ih => simp only [List.cons_append, run, ih, List.append_assoc]

/-- More blocks give more frames behind the same ones. -/
theorem run_before {first second : List (List Float32)} (converter : Converter)
    (before : first <+: second) : (converter.run first).1 <+: (converter.run second).1 := by
  obtain ⟨others, rfl⟩ := before
  rw [run_append]
  exact List.prefix_append _ _

@[simp] theorem run_kind (converter : Converter) (blocks : List (List Float32)) :
    (converter.run blocks).2.kind = converter.kind := by
  induction blocks generalizing converter with
  | nil => rfl
  | cons block blocks ih => exact ih (converter.process block).2

theorem run_ofKind (kind : Transducer) (blocks : List (List Float32)) :
    ((ofKind kind).run blocks).2.kind = kind := run_kind (ofKind kind) blocks

end Converter

/-- **Running blocks through a converter** passes on a section of all its frames. -/
theorem Resampler.runBlocks_eq (limit : Option Nat) (converter : Converter) (produced : Nat)
    (blocks : List (List Float32)) :
    runBlocks limit converter produced blocks =
      (emit converter.delay limit produced (converter.run blocks).1,
        produced + (converter.run blocks).1.length, (converter.run blocks).2) := by
  induction blocks generalizing converter produced with
  | nil =>
    cases limit <;> simp [runBlocks, Converter.run, emit]
  | cons block blocks ih =>
    have delay : (converter.process block).2.delay = converter.delay := rfl
    simp only [runBlocks, Converter.run, ih, delay, emit_append, List.length_append,
      Nat.add_assoc]

/-! ## How many frames there are -/

namespace Converter

/-- Less than a stretch waits. -/
theorem waiting_lt {converter : Converter} (filled : 0 < converter.kind.span.input) :
    converter.waiting < converter.kind.span.input :=
  Nat.mod_lt _ filled

/-- Whatever fills a stretch is converted at once, and the rest waits. -/
theorem length_process (converter : Converter) (block : List Float32) :
    let waiting := converter.waiting + block.length
    (converter.process block).1.length =
        waiting / converter.kind.span.input * converter.kind.span.output ∧
      (converter.process block).2.waiting = waiting % converter.kind.span.input := by
  intro waiting
  refine ⟨converter.kind.length_answer converter.taken block, ?_⟩
  show (converter.taken ++ block).length % converter.kind.span.input = _
  rw [List.length_append, ← Nat.mod_add_mod]
  rfl

/-- **The number of frames** depends on the number of blocks only. -/
theorem length_run {converter : Converter} {blocks : List (List Float32)}
    (filled : 0 < converter.kind.span.input)
    (whole : ∀ block ∈ blocks, block.length = blockSize) :
    let waiting := converter.waiting + blocks.length * blockSize
    (converter.run blocks).1.length =
        waiting / converter.kind.span.input * converter.kind.span.output ∧
      (converter.run blocks).2.waiting = waiting % converter.kind.span.input := by
  induction blocks generalizing converter with
  | nil =>
    have short := waiting_lt filled
    simp only [run, List.length_nil, Nat.zero_mul, Nat.add_zero]
    exact ⟨by rw [Nat.div_eq_of_lt short, Nat.zero_mul], (Nat.mod_eq_of_lt short).symm⟩
  | cons block blocks ih =>
    obtain ⟨frames, waits⟩ := length_process converter block
    rw [whole block List.mem_cons_self] at frames waits
    obtain ⟨more, last⟩ := @ih (converter.process block).2 filled
      fun other member => whole other (List.mem_cons_of_mem block member)
    rw [waits] at more last
    -- What one block leaves waiting counts with the next ones.
    have parts : converter.waiting + (block :: blocks).length * blockSize =
        converter.kind.span.input *
            ((converter.waiting + blockSize) / converter.kind.span.input) +
          ((converter.waiting + blockSize) % converter.kind.span.input +
            blocks.length * blockSize) := by
      rw [← Nat.add_assoc, Nat.div_add_mod, List.length_cons, Nat.succ_mul, Nat.add_assoc,
        Nat.add_comm blockSize]
    simp only [run, List.length_append, frames, more, last]
    rw [parts, Nat.mul_add_div filled, Nat.mul_add_mod, Nat.add_mul]
    exact ⟨rfl, rfl⟩

end Converter

/-! ## Stretches -/

/-- **What is supposed of a converter that is made for two rates**: stretches and their frames are
not empty, and their lengths are to each other as the rates. -/
structure Transducer.Fits (kind : Transducer) (inputRate outputRate : Nat) : Prop where
  filled : 0 < kind.span.input
  yields : 0 < kind.span.output
  ratio : kind.span.input * outputRate = kind.span.output * inputRate

/-- Frames never run ahead of the input. -/
theorem Transducer.Fits.frames_le {kind : Transducer} {inputRate outputRate : Nat}
    (fits : kind.Fits inputRate outputRate) (given : 0 < inputRate) (samples : Nat) :
    samples / kind.span.input * kind.span.output ≤ samples * outputRate / inputRate := by
  rw [Nat.le_div_iff_mul_le given, Nat.mul_assoc, ← fits.ratio, ← Nat.mul_assoc]
  exact Nat.mul_le_mul_right outputRate (Nat.div_mul_le_self ..)

/-- The lengths of a stretch of input and of its frames are as the rates. -/
theorem Span.ratio (inputRate outputRate : Nat) :
    (Span.ofRates inputRate outputRate).input * outputRate =
      (Span.ofRates inputRate outputRate).output * inputRate := by
  have given := Nat.div_mul_cancel (Nat.gcd_dvd_left inputRate outputRate)
  have wanted := Nat.div_mul_cancel (Nat.gcd_dvd_right inputRate outputRate)
  simp only [ofRates, Nat.mul_assoc]
  congr 1
  calc inputRate / inputRate.gcd outputRate * outputRate
      = inputRate / inputRate.gcd outputRate *
          (outputRate / inputRate.gcd outputRate * inputRate.gcd outputRate) := by rw [wanted]
    _ = outputRate / inputRate.gcd outputRate *
          (inputRate / inputRate.gcd outputRate * inputRate.gcd outputRate) := by
        rw [Nat.mul_left_comm]
    _ = outputRate / inputRate.gcd outputRate * inputRate := by rw [given]

/-- Stretches and their frames are not empty. -/
theorem Span.positive {inputRate outputRate : Nat} (given : 0 < inputRate)
    (wanted : 0 < outputRate) :
    0 < (Span.ofRates inputRate outputRate).input ∧
      0 < (Span.ofRates inputRate outputRate).output := by
  have common := Nat.gcd_pos_of_pos_left outputRate given
  have unit : 0 < inputRate / inputRate.gcd outputRate :=
    Nat.div_pos (Nat.gcd_le_left outputRate given) common
  have other : 0 < outputRate / inputRate.gcd outputRate :=
    Nat.div_pos (Nat.gcd_le_right inputRate wanted) common
  have times : 0 < Span.times inputRate outputRate :=
    Nat.div_pos (by have := blockSize_pos; omega) unit
  exact ⟨Nat.mul_pos times unit, Nat.mul_pos times other⟩

/-- **A converter by overlapping transforms can be made** if the lengths before they are brought
into lowest terms can be told, and the samples of a stretch can be counted in bytes. -/
theorem makeTransducer_eq_ok {inputRate outputRate : Nat}
    (wanted : Span.times inputRate outputRate * outputRate < wordLimit)
    (given : Span.times inputRate outputRate * inputRate < wordLimit)
    (room : let span := Span.ofRates inputRate outputRate
      sampleBytes * max span.input span.output < memoryLimit) :
    makeTransducer inputRate outputRate =
      .ok (Plan.ofSpan (.ofRates inputRate outputRate)).transducer := by
  simp only [makeTransducer, inWordOf_of_lt wanted, inWordOf_of_lt given, countBytes, if_pos room]
  rfl

/-- **A converter by overlapping transforms fits its rates**, if it can be made. -/
theorem makeTransducer_fits {inputRate outputRate : Nat} {kind : Transducer}
    (given : 0 < inputRate) (wanted : 0 < outputRate)
    (made : makeTransducer inputRate outputRate = .ok kind) : kind.Fits inputRate outputRate := by
  unfold makeTransducer at made
  dsimp only at made
  split at made
  case h_1 =>
    obtain rfl := Except.ok.inj made
    obtain ⟨filled, yields⟩ := Span.positive given wanted
    exact ⟨filled, yields, Span.ratio inputRate outputRate⟩
  case h_2 => cases made

end LiveSpeech.Audio
