import LiveSpeech.Proofs.Action
import LiveSpeech.Proofs.Frames
import LiveSpeech.Proofs.Rates
import LiveSpeech.Rehearsal.Small
import Mathlib.Algebra.Order.Round
import Mathlib.Data.Rat.Floor
import Mathlib.Tactic.Linarith
import Mathlib.Tactic.Positivity

/-!
# Resampling all at once

Audio comes in fragments, and a resampler answers each of them with the frames that are ready.
All of that is a detour to something simple: cut the whole input into blocks, run the converter
through them in order, and leave out the frames that are late (`converted`).  What has come out
so far is the conversion of what has gone in (`feed_new`).

A flush asks for the frames that are still due.  It is as if the input went on with zeros for as
long as one likes, and the conversion of that were cut where the input calls for
(`stream_eq_take`).  The number of frames is counted in words: where the product of the number of
samples and the rate does not fit in one, the flush breaks off and nothing comes of it
(`target_of_not_counted`).

Which converter it is does not matter, as long as it fits its rates.
-/

namespace LiveSpeech.Audio

set_option autoImplicit false

/-! ## Blocks with zeros -/

theorem length_firstBlocks (count : Nat) (samples : List Float32) :
    (firstBlocks count samples).length = count := by
  induction count generalizing samples with
  | zero => rfl
  | succ count ih => rw [firstBlocks, List.length_cons, ih]

theorem length_of_mem_firstBlocks {count : Nat} {samples : List Float32}
    (within : count * blockSize ≤ samples.length) :
    ∀ block ∈ firstBlocks count samples, block.length = blockSize := by
  induction count generalizing samples with
  | zero => exact fun block member => absurd member List.not_mem_nil
  | succ count ih =>
    rw [Nat.succ_mul] at within
    rintro block member
    rcases List.mem_cons.mp member with rfl | later
    · rw [List.length_take]
      omega
    · refine ih ?_ block later
      rw [List.length_drop]
      omega

theorem firstBlocks_zeros (count : Nat) :
    firstBlocks count (List.replicate (count * blockSize) 0.0) =
      List.replicate count (List.replicate blockSize 0.0) := by
  induction count with
  | zero => rfl
  | succ count ih =>
    rw [firstBlocks, List.take_replicate, List.drop_replicate, Nat.succ_mul, Nat.add_sub_cancel,
      Nat.min_eq_left (Nat.le_add_left ..), ih, List.replicate_succ]

namespace Resampler

/-- Frames with zeros behind them, in blocks. -/
theorem firstBlocks_padded {frames : List Float32} {zeros count : Nat}
    (short : frames.length ≤ blockSize) (filled : frames.length + zeros = count * blockSize) :
    firstBlocks count (frames ++ List.replicate zeros 0.0) = paddedBlocks frames count := by
  cases count with
  | zero => rfl
  | succ count =>
    rw [Nat.succ_mul] at filled
    have others : zeros - (blockSize - frames.length) = count * blockSize := by omega
    rw [firstBlocks, paddedBlocks, List.take_append, List.take_of_length_le short,
      List.take_replicate, Nat.min_eq_left (by omega), List.drop_append,
      List.drop_of_length_le short, List.nil_append, List.drop_replicate, others,
      firstBlocks_zeros]

theorem length_paddedBlocks (frames : List Float32) (count : Nat) :
    (paddedBlocks frames count).length = count := by
  cases count with
  | zero => rfl
  | succ count => rw [paddedBlocks, List.length_cons, List.length_replicate]

theorem length_of_mem_paddedBlocks {frames : List Float32} {count : Nat}
    (short : frames.length ≤ blockSize) :
    ∀ block ∈ paddedBlocks frames count, block.length = blockSize := by
  cases count with
  | zero => exact fun block member => absurd member List.not_mem_nil
  | succ count =>
    rintro block member
    rcases List.mem_cons.mp member with rfl | later
    · rw [List.length_append, List.length_replicate]
      omega
    · rw [List.eq_of_mem_replicate later, List.length_replicate]

theorem paddedBlocks_before (frames : List Float32) {few many : Nat} (le : few ≤ many) :
    paddedBlocks frames few <+: paddedBlocks frames many := by
  cases few with
  | zero => exact List.nil_prefix
  | succ few =>
    obtain ⟨more, rfl⟩ := Nat.exists_eq_add_of_le le
    rw [Nat.add_right_comm, paddedBlocks, paddedBlocks, List.replicate_add]
    exact (List.prefix_cons_inj _).mpr (List.prefix_append _ _)

end Resampler

open Resampler

theorem length_incompleteBlock_le (samples : List Float32) :
    (incompleteBlock samples).length ≤ blockSize := by
  rw [length_incompleteBlock]
  exact (Nat.mod_lt _ blockSize_pos).le

/-- The blocks of samples that go on with zeros. -/
theorem completeBlocks_zeros {samples : List Float32} {zeros : Nat}
    (filled : blockSize ∣ samples.length + zeros) :
    completeBlocks (samples ++ List.replicate zeros 0.0) =
      completeBlocks samples ++ paddedBlocks (incompleteBlock samples)
        ((samples.length % blockSize + zeros) / blockSize) := by
  have fits : blockSize ∣ samples.length % blockSize + zeros := by
    rw [← Nat.div_add_mod samples.length blockSize, Nat.add_assoc] at filled
    exact (Nat.dvd_add_right (Nat.dvd_mul_right ..)).mp filled
  have whole : (incompleteBlock samples).length + zeros =
      (samples.length % blockSize + zeros) / blockSize * blockSize := by
    rw [length_incompleteBlock, Nat.div_mul_cancel fits]
  have count : (incompleteBlock samples ++ List.replicate zeros 0.0).length =
      samples.length % blockSize + zeros := by
    rw [List.length_append, List.length_replicate, length_incompleteBlock]
  rw [completeBlocks_append]
  congr 1
  rw [completeBlocks, count, firstBlocks_padded (length_incompleteBlock_le samples) whole]

/-! ## The conversion -/

/-- What samples are converted to: the frames of all their complete blocks but for those that
are late. -/
def converted (kind : Transducer) (samples : List Float32) : List Float32 :=
  let converter := Converter.ofKind kind
  (converter.run (completeBlocks samples)).1.drop converter.delay

/-- A resampler between two rates in hertz before any input.  There is a converter unless the rates
are equal. -/
def Resampler.ofHertz (kind : Transducer) (inputRate outputRate : Nat) : Resampler :=
  .start inputRate outputRate (if inputRate = outputRate then none else some (.ofKind kind))

/-- A resampler between different rates that has taken in samples. -/
def Resampler.fed (kind : Transducer) (inputRate outputRate : Nat) (samples : List Float32) :
    Resampler :=
  let converter := Converter.ofKind kind
  { ofHertz kind inputRate outputRate with
    converter := some (converter.run (completeBlocks samples)).2
    pending := incompleteBlock samples
    framesIn := samples.length
    framesOut := (converter.run (completeBlocks samples)).1.length }

variable {kind : Transducer} {inputRate outputRate : Nat}

/-- **What has come out is the conversion of what has gone in.** -/
theorem feed_new (distinct : inputRate ≠ outputRate) (samples : List Float32) :
    (ofHertz kind inputRate outputRate).feed samples =
      (converted kind samples, fed kind inputRate outputRate samples) := by
  have converts : (ofHertz kind inputRate outputRate).converter = some (.ofKind kind) :=
    if_neg distinct
  have pending : (ofHertz kind inputRate outputRate).pending = [] := rfl
  have framesIn : (ofHertz kind inputRate outputRate).framesIn = 0 := rfl
  have framesOut : (ofHertz kind inputRate outputRate).framesOut = 0 := rfl
  simp only [feed, converts, runBlocks_eq, pending, framesIn, framesOut, List.nil_append,
    emit_none, Nat.zero_add]
  rfl

/-- Equal rates pass everything through. -/
theorem feed_equal (kind : Transducer) (rate : Nat) (samples : List Float32) :
    (ofHertz kind rate rate).feed samples = (samples, ofHertz kind rate rate) := by
  have passes : (ofHertz kind rate rate).converter = none := if_pos rfl
  simp only [feed, passes]

theorem flush_equal (kind : Transducer) (rate : Nat) :
    (ofHertz kind rate rate).flush = .ok ([], ofHertz kind rate rate) := by
  have passes : (ofHertz kind rate rate).converter = none := if_pos rfl
  rw [flush, passes]

/-! ## The end of a stream -/

theorem ceil_le_iff {divisor : Nat} (positive : 0 < divisor) (number bound : Nat) :
    (number + divisor - 1) / divisor ≤ bound ↔ number ≤ bound * divisor := by
  rw [Nat.div_le_iff_le_mul_add_pred positive, Nat.mul_comm]
  omega

/-- **A flush takes in as many blocks as it needs**, and no more. -/
theorem blocksFor_le_iff {converter : Converter} (filled : 0 < converter.kind.span.input)
    (yields : 0 < converter.kind.span.output) (missing count : Nat) :
    blocksFor converter missing ≤ count ↔
      missing ≤ (converter.waiting + count * blockSize) / converter.kind.span.input *
        converter.kind.span.output := by
  rw [blocksFor, ceil_le_iff blockSize_pos, Nat.sub_le_iff_le_add', ← ceil_le_iff yields,
    Nat.le_div_iff_mul_le filled]

/-- The conversion of samples and of the zeros behind them that fill so many blocks. -/
def extended (kind : Transducer) (samples : List Float32) (count : Nat) : List Float32 :=
  let converter := Converter.ofKind kind
  (converter.run (completeBlocks samples ++
    paddedBlocks (incompleteBlock samples) count)).1.drop converter.delay

theorem converted_zeros {samples : List Float32} {zeros : Nat}
    (filled : blockSize ∣ samples.length + zeros) :
    converted kind (samples ++ List.replicate zeros 0.0) =
      extended kind samples ((samples.length % blockSize + zeros) / blockSize) := by
  rw [converted, extended, completeBlocks_zeros filled]

/-- More zeros give more frames behind the same ones. -/
theorem extended_before (samples : List Float32) {few many : Nat} (le : few ≤ many) :
    extended kind samples few <+: extended kind samples many := by
  obtain ⟨more, whole⟩ := (Converter.ofKind kind).run_before
    ((List.prefix_append_right_inj (completeBlocks samples)).mpr
      (paddedBlocks_before (incompleteBlock samples) le))
  rw [extended, extended, ← whole, List.drop_append]
  exact List.prefix_append _ _

/-- Zeros beyond those that are needed make no difference. -/
theorem take_extended {samples : List Float32} {count other frames : Nat}
    (enough : frames ≤ (extended kind samples count).length)
    (enough' : frames ≤ (extended kind samples other).length) :
    (extended kind samples count).take frames = (extended kind samples other).take frames := by
  rcases Nat.le_total count other with le | le
  · obtain ⟨more, whole⟩ := extended_before samples le
    rw [← whole, List.take_append_of_le_length enough]
  · obtain ⟨more, whole⟩ := extended_before samples le
    rw [← whole, List.take_append_of_le_length enough']

section Lengths

variable (fits : kind.Fits inputRate outputRate) (samples : List Float32)
include fits

/-- The conversion does not run ahead of the input. -/
theorem length_run_le (given : 0 < inputRate) :
    ((Converter.ofKind kind).run (completeBlocks samples)).1.length ≤
      samples.length * outputRate / inputRate := by
  have within := Nat.div_mul_le_self samples.length blockSize
  obtain ⟨frames, -⟩ := @Converter.length_run (.ofKind kind) _ fits.filled
    (length_of_mem_firstBlocks within)
  have waits : (Converter.ofKind kind).waiting = 0 := Nat.zero_mod _
  rw [length_firstBlocks, waits, Nat.zero_add] at frames
  rw [completeBlocks, frames]
  refine (fits.frames_le given _).trans (Nat.div_le_div_right ?_)
  exact Nat.mul_le_mul_right outputRate within

/-- As many frames as are asked for come of the blocks that a flush takes in. -/
theorem le_length_extended {frames count : Nat}
    (enough :
      let start := Converter.ofKind kind
      let before := start.run (completeBlocks samples)
      blocksFor before.2 (start.delay + frames - before.1.length) ≤ count) :
    frames ≤ (extended kind samples count).length := by
  set start := Converter.ofKind kind
  have same : (start.run (completeBlocks samples)).2.kind = kind := Converter.run_kind ..
  have filled : 0 < (start.run (completeBlocks samples)).2.kind.span.input := same ▸ fits.filled
  have yields : 0 < (start.run (completeBlocks samples)).2.kind.span.output := same ▸ fits.yields
  obtain ⟨more, -⟩ := Converter.length_run filled
    (@length_of_mem_paddedBlocks _ count (length_incompleteBlock_le samples))
  rw [length_paddedBlocks] at more
  rw [blocksFor_le_iff filled yields, ← more] at enough
  change frames ≤ ((start.run _).1.drop start.delay).length
  rw [List.length_drop, Converter.run_append, List.length_append]
  omega

/-- There are zeros that bring as many frames as are asked for. -/
theorem exists_zeros (frames : Nat) :
    ∃ zeros, blockSize ∣ samples.length + zeros ∧
      frames ≤ (converted kind (samples ++ List.replicate zeros 0.0)).length := by
  let start := Converter.ofKind kind
  let before := start.run (completeBlocks samples)
  let count := blocksFor before.2 (start.delay + frames - before.1.length) + 1
  have part := Nat.mod_lt samples.length blockSize_pos
  have room : samples.length % blockSize ≤ count * blockSize :=
    part.le.trans (Nat.le_mul_of_pos_left _ (Nat.succ_pos _))
  have whole : samples.length % blockSize + (count * blockSize - samples.length % blockSize) =
      count * blockSize := Nat.add_sub_cancel' room
  have filled : blockSize ∣ samples.length + (count * blockSize - samples.length % blockSize) := by
    rw [← Nat.div_add_mod samples.length blockSize, Nat.add_assoc, Nat.mul_add_mod,
      Nat.mod_mod, whole]
    exact Nat.dvd_add (Nat.dvd_mul_right ..) (Nat.dvd_mul_left ..)
  refine ⟨_, filled, ?_⟩
  rw [converted_zeros filled, whole, Nat.mul_div_cancel _ blockSize_pos]
  exact le_length_extended fits samples (Nat.le_succ _)

end Lengths

/-- What a flush passes on that ends at a certain frame. -/
def Resampler.flushedTo (resampler : Resampler) (converter : Converter) (target : Nat) :
    List Float32 :=
  (runBlocks (some target) converter resampler.framesOut (paddedBlocks resampler.pending
    (blocksFor converter (target - resampler.framesOut)))).1

/-- The resampler behind a flush. -/
def Resampler.renewed (resampler : Resampler) (converter : Converter) : Resampler :=
  { resampler with
    converter := some converter.reset
    pending := []
    framesIn := 0
    framesOut := 0 }

/-- A flush is answered exactly if the frame that it ends at can be told. -/
theorem flush_eq {resampler : Resampler} {converter : Converter}
    (converts : resampler.converter = some converter) :
    resampler.flush = (resampler.target converter).map fun target =>
      (resampler.flushedTo converter target, resampler.renewed converter) := by
  rw [flush, converts]
  dsimp only
  cases resampler.target converter with
  | error why => rfl
  | ok target => rfl

/-- What a flush passes on behind samples. -/
theorem flushedTo_fed (samples : List Float32) (last : Nat) :
    let start := Converter.ofKind kind
    let before := start.run (completeBlocks samples)
    (fed kind inputRate outputRate samples).flushedTo before.2 last =
      emit start.delay (some last) before.1.length (before.2.run (paddedBlocks
        (incompleteBlock samples) (blocksFor before.2 (last - before.1.length)))).1 := by
  intro start before
  have delay : before.2.delay = start.delay :=
    congrArg Transducer.delay (Converter.run_kind start (completeBlocks samples))
  rw [flushedTo, runBlocks_eq, delay]
  rfl

/-- **A whole stream** is the conversion of its samples and of zeros behind them, cut where the
number of samples calls for. -/
theorem stream_eq_take (fits : kind.Fits inputRate outputRate) (given : 0 < inputRate)
    {samples : List Float32} {frames zeros : Nat}
    (atLeast : samples.length * outputRate / inputRate ≤ frames)
    (filled : blockSize ∣ samples.length + zeros)
    (enough : frames ≤ (converted kind (samples ++ List.replicate zeros 0.0)).length) :
    let start := Converter.ofKind kind
    let before := start.run (completeBlocks samples)
    converted kind samples ++
        (fed kind inputRate outputRate samples).flushedTo before.2 (start.delay + frames) =
      (converted kind (samples ++ List.replicate zeros 0.0)).take frames := by
  intro start before
  set count := blocksFor before.2 (start.delay + frames - before.1.length) with isCount
  have early : before.1.length ≤ start.delay + frames :=
    ((length_run_le fits samples given).trans atLeast).trans (Nat.le_add_left ..)
  have passed : converted kind samples =
      emit start.delay (some (start.delay + frames)) 0 before.1 :=
    (emit_of_length_le early).symm
  rw [converted_zeros filled] at enough ⊢
  calc converted kind samples ++ _
      = emit start.delay (some (start.delay + frames)) 0
          (before.1 ++ (before.2.run (paddedBlocks (incompleteBlock samples) count)).1) := by
        rw [flushedTo_fed, passed, emit_append, Nat.zero_add]
    _ = (extended kind samples count).take frames := by
        rw [extended, Converter.run_append, emit_some, List.drop_take, Nat.add_sub_cancel_left]
    _ = _ := take_extended (le_length_extended fits samples (Nat.le_refl _)) enough

/-! ## Counting the frames that are due -/

/-- The frames that samples call for, to the nearest frame, a half going up. -/
def dueFrames (samples given wanted : Nat) : Nat := (samples * wanted + given / 2) / given

/-- The frames that a flush ends at can be counted in words. -/
structure Counted (kind : Transducer) (given wanted samples : Nat) : Prop where
  rounded : samples * wanted + given / 2 < wordLimit
  last : kind.delay + dueFrames samples given wanted < wordLimit

section Answered

variable {Fault First Last : Type}

theorem ok_bind (first : First) (next : First → Except Fault Last) :
    (Except.ok first >>= next) = next first := rfl

theorem bind_eq_ok {before : Except Fault First} {next : First → Except Fault Last} {last : Last} :
    (before >>= next) = .ok last ↔ ∃ first, before = .ok first ∧ next first = .ok last := by
  cases before <;> simp [bind, Except.bind]

theorem map_eq_ok {before : Except Fault First} {work : First → Last} {last : Last} :
    before.map work = .ok last ↔ ∃ first, before = .ok first ∧ work first = last := by
  cases before <;> simp [Except.map]

end Answered

/-- The frame that a flush ends at is counted in three steps. -/
theorem target_fed {converter : Converter} (same : converter.kind = kind)
    (samples : List Float32) :
    (fed kind inputRate outputRate samples).target converter = (do
      let product ← inWordOf "multiply" (samples.length * outputRate)
      let rounded ← inWordOf "add" (product + inputRate / 2)
      inWordOf "add" (kind.delay + rounded / inputRate)) := by
  subst same
  simp only [Resampler.target, expectedOutput, bind_assoc, pure_bind]
  rfl

/-- **The frame that a flush ends at** is told if it can be counted in words. -/
theorem target_of_counted {converter : Converter} (same : converter.kind = kind)
    {samples : List Float32} (counted : Counted kind inputRate outputRate samples.length) :
    (fed kind inputRate outputRate samples).target converter =
      .ok (kind.delay + dueFrames samples.length inputRate outputRate) := by
  have product : samples.length * outputRate < wordLimit :=
    (Nat.le_add_right ..).trans_lt counted.rounded
  rw [target_fed same, inWordOf_of_lt product, ok_bind, inWordOf_of_lt counted.rounded, ok_bind]
  exact inWordOf_of_lt counted.last "add"

/-- If it cannot be counted in words, one of the operations has a result that no word tells. -/
theorem target_of_not_counted {converter : Converter} (same : converter.kind = kind)
    {samples : List Float32} (uncounted : ¬Counted kind inputRate outputRate samples.length) :
    ∃ operation, (fed kind inputRate outputRate samples).target converter =
      .error (.overflow operation) := by
  rw [target_fed same]
  rcases Nat.lt_or_ge (samples.length * outputRate) wordLimit with product | exceeds
  case inr => exact ⟨_, by rw [inWordOf_of_le exceeds]; rfl⟩
  rw [inWordOf_of_lt product, ok_bind]
  rcases Nat.lt_or_ge (samples.length * outputRate + inputRate / 2) wordLimit with rounded | exceeds
  case inr => exact ⟨_, by rw [inWordOf_of_le exceeds]; rfl⟩
  rw [inWordOf_of_lt rounded, ok_bind]
  refine ⟨_, inWordOf_of_le ?_ "add"⟩
  by_contra last
  exact uncounted ⟨rounded, Nat.lt_of_not_le last⟩

/-- The frames that are due are the nearest whole number to what the rates call for. -/
theorem round_eq_div (given : 0 < inputRate) (samples : Nat) :
    round ((samples * outputRate : ℚ) / inputRate) =
      ((samples * outputRate + inputRate / 2) / inputRate : Nat) := by
  have whole := Nat.div_add_mod (samples * outputRate + inputRate / 2) inputRate
  have part := Nat.mod_lt (samples * outputRate + inputRate / 2) given
  set frames := (samples * outputRate + inputRate / 2) / inputRate
  have low : 2 * (inputRate * frames) ≤ 2 * (samples * outputRate) + inputRate := by omega
  have high :
      2 * (samples * outputRate) + inputRate < 2 * (inputRate * frames) + 2 * inputRate := by
    omega
  have low' : (2 * (inputRate * frames) : ℚ) ≤ 2 * (samples * outputRate) + inputRate := by
    exact_mod_cast low
  have high' : (2 * (samples * outputRate) + inputRate : ℚ) <
      2 * (inputRate * frames) + 2 * inputRate := by
    exact_mod_cast high
  have positive : (0 : ℚ) < inputRate := Nat.cast_pos.mpr given
  rw [round_eq, Int.floor_eq_iff, Int.cast_natCast, div_add_div _ _ positive.ne' two_ne_zero]
  constructor
  · rw [le_div_iff₀ (by positivity)]
    linarith
  · rw [div_lt_iff₀ (by positivity)]
    linarith

/-! ## Calls -/

/-- Calls one after the other, each with a fragment and with whether the stream ends there. -/
def Resampler.resampleAll :
    Resampler → List (List Float32 × Bool) → Except Breakdown (List Float32 × Resampler)
  | resampler, [] => .ok ([], resampler)
  | resampler, (fragment, last) :: others => do
    let (frames, next) ← resampler.resample fragment last
    let (more, final) ← next.resampleAll others
    return (frames ++ more, final)

theorem resampleAll_append (resampler : Resampler) (first second : List (List Float32 × Bool)) :
    resampler.resampleAll (first ++ second) = (do
      let (frames, next) ← resampler.resampleAll first
      let (more, final) ← next.resampleAll second
      return (frames ++ more, final)) := by
  induction first generalizing resampler with
  | nil =>
    rw [List.nil_append, resampleAll, ok_bind]
    exact (bind_pure _).symm
  | cons call first ih =>
    simp only [List.cons_append, resampleAll, ih, bind_assoc, pure_bind, List.append_assoc]

/-- Calls without an end feed their fragments. -/
theorem resampleAll_open (resampler : Resampler) (fragments : List (List Float32)) :
    resampler.resampleAll (fragments.map (·, false)) = .ok (resampler.feedAll fragments) := by
  induction fragments generalizing resampler with
  | nil => rfl
  | cons fragment fragments ih =>
    simp only [List.map_cons, resampleAll, resample, feedAll, Bool.false_eq_true, if_false,
      ok_bind, ih]
    rfl

theorem feedAll_new (kind : Transducer) (inputRate outputRate : Nat)
    (fragments : List (List Float32)) :
    (ofHertz kind inputRate outputRate).feedAll fragments =
      (ofHertz kind inputRate outputRate).feed fragments.flatten := by
  cases fragments with
  | cons fragment others => exact feedAll_eq_feed _ fragment others
  | nil =>
    by_cases equal : inputRate = outputRate
    · subst equal
      exact (feed_equal kind inputRate []).symm
    · have nothing : completeBlocks [] = [] ∧ incompleteBlock [] = [] := by
        simp [completeBlocks, incompleteBlock, firstBlocks]
      rw [List.flatten_nil, feed_new equal]
      simp only [feedAll, converted, fed, ofHertz, start, if_neg equal, nothing, Converter.run,
        List.drop_nil, List.length_nil]

/-- Calls with an end behind the last one. -/
theorem resampleAll_ended (kind : Transducer) (inputRate outputRate : Nat)
    (fragments : List (List Float32)) (last : List Float32) :
    let whole := (ofHertz kind inputRate outputRate).feed (fragments.flatten ++ last)
    (ofHertz kind inputRate outputRate).resampleAll
        (fragments.map (·, false) ++ [(last, true)]) =
      whole.2.flush.map fun (others, fresh) => (whole.1 ++ others, fresh) := by
  intro whole
  have parts : whole = _ := feed_append (ofHertz kind inputRate outputRate) fragments.flatten last
  rw [resampleAll_append, resampleAll_open, feedAll_new, parts, ok_bind]
  simp only [resampleAll, resample, if_true]
  cases (((ofHertz kind inputRate outputRate).feed fragments.flatten).2.feed last).2.flush with
  | error why => rfl
  | ok flushed => simp [Except.map, List.append_assoc, bind, Except.bind, pure, Except.pure]

/-- Between different rates, calls with an end behind the last one break off exactly if the frame
that the flush ends at is not told. -/
theorem resampleAll_distinct (distinct : inputRate ≠ outputRate) (fragments : List (List Float32))
    (last : List Float32) :
    let samples := fragments.flatten ++ last
    let taken := fed kind inputRate outputRate samples
    let converter := ((Converter.ofKind kind).run (completeBlocks samples)).2
    (ofHertz kind inputRate outputRate).resampleAll
        (fragments.map (·, false) ++ [(last, true)]) =
      (taken.target converter).map fun target =>
        (converted kind samples ++ taken.flushedTo converter target, taken.renewed converter) := by
  intro samples taken converter
  rw [resampleAll_ended, feed_new distinct]
  dsimp only
  rw [@flush_eq _ converter rfl]
  cases taken.target converter <;> rfl

/-! ## Resamplers that are made -/

section Made

variable {World : Type} {outside : Collaborators World} {world : World} {given wanted : Nat}

/-- Between two rates a certain converter is made, which fits them; unless they are equal, since
then there is none. -/
def Converts (outside : Collaborators World) (world : World) (given wanted : Nat)
    (kind : Transducer) : Prop :=
  given ≠ wanted →
    (outside.makeConverter given wanted world).1 = .ok kind ∧ kind.Fits given wanted

theorem makeConverter_answer (converts : Converts outside world given wanted kind) :
    (makeConverter outside given wanted world).answer =
      .ok (if given = wanted then none else some (.ofKind kind)) := by
  by_cases equal : given = wanted
  · rw [makeConverter, if_pos equal, if_pos equal]
    rfl
  · rw [makeConverter, if_neg equal, if_neg equal, Action.ask_bind, (converts equal).1]
    rfl

/-- **A resampler is made** between two rates that are accepted, if there is a converter. -/
theorem makeResampler_answer {inputRate outputRate : Float32}
    (accepts : wholeHertz inputRate = .ok given) (yields : wholeHertz outputRate = .ok wanted)
    (converts : Converts outside world given wanted kind) :
    (makeResampler outside inputRate outputRate world).answer =
      .ok (ofHertz kind given wanted) := by
  unfold makeResampler
  rw [accepts, yields]
  show ((makeConverter outside given wanted >>= fun converter =>
    .note (.resampling given wanted) >>= fun _ =>
      pure (start given wanted converter) : Action World ResamplerFailure _) world).answer = _
  rw [Action.bind_ok (makeConverter_answer converts)]
  rfl

/-- **Resampling in fragments is resampling all at once.**  Between equal rates what comes out is
what goes in.  Between different rates it is the conversion of the samples so far, with those
that do not fill a block still to come.  If the last call ends the stream, it is the conversion
of all samples and of zeros behind them, as many as one likes as long as they fill the last block
and bring enough frames, cut at the nearest whole number of frames to what the rates call for;
but if the number of frames cannot be counted in words, the flush breaks off. -/
theorem resampling_in_fragments {inputRate outputRate : Float32}
    (accepts : wholeHertz inputRate = .ok given) (yields : wholeHertz outputRate = .ok wanted)
    (converts : Converts outside world given wanted kind) (fragments : List (List Float32)) :
    ∃ resampler, (makeResampler outside inputRate outputRate world).answer = .ok resampler ∧
      let calls := fragments.map (·, false)
      (given = wanted →
        resampler.resampleAll calls = .ok (fragments.flatten, resampler) ∧
        ∀ last, resampler.resampleAll (calls ++ [(last, true)]) =
          .ok (fragments.flatten ++ last, resampler)) ∧
      (given ≠ wanted →
        (∃ next, resampler.resampleAll calls = .ok (converted kind fragments.flatten, next) ∧
          next.pending = incompleteBlock fragments.flatten) ∧
        ∀ last,
          let samples := fragments.flatten ++ last
          ∀ frames : Nat, frames = round ((samples.length * wanted : ℚ) / given) →
            (∃ zeros, blockSize ∣ samples.length + zeros ∧
              frames ≤ (converted kind (samples ++ List.replicate zeros 0.0)).length) ∧
            (Counted kind given wanted samples.length →
              ∀ zeros, blockSize ∣ samples.length + zeros →
                frames ≤ (converted kind (samples ++ List.replicate zeros 0.0)).length →
                (resampler.resampleAll (calls ++ [(last, true)])).map Prod.fst =
                  .ok ((converted kind (samples ++ List.replicate zeros 0.0)).take frames)) ∧
            (¬Counted kind given wanted samples.length → ∃ operation,
              resampler.resampleAll (calls ++ [(last, true)]) = .error (.overflow operation))) := by
  have positive := (hertz_bounds accepts).1
  refine ⟨_, makeResampler_answer accepts yields converts, fun equal => ?_, fun distinct => ?_⟩
  · subst equal
    refine ⟨by rw [resampleAll_open, feedAll_new, feed_equal], fun last => ?_⟩
    rw [resampleAll_ended, feed_equal, flush_equal]
    simp only [Except.map, List.append_nil]
  · have fits := (converts distinct).2
    refine ⟨⟨_, by rw [resampleAll_open, feedAll_new, feed_new distinct], rfl⟩, fun last => ?_⟩
    intro samples frames nearest
    obtain rfl : frames = dueFrames samples.length given wanted := by
      rw [round_eq_div positive] at nearest
      exact Int.ofNat.inj nearest
    have same := Converter.run_ofKind kind (completeBlocks samples)
    rw [resampleAll_distinct distinct]
    refine ⟨exists_zeros fits samples _, fun counted zeros filled enough => ?_, fun uncounted => ?_⟩
    · have atLeast : samples.length * wanted / given ≤ dueFrames samples.length given wanted :=
        Nat.div_le_div_right (Nat.le_add_right ..)
      rw [target_of_counted same counted, ← stream_eq_take fits positive atLeast filled enough]
      rfl
    · obtain ⟨operation, broken⟩ := target_of_not_counted same uncounted
      exact ⟨operation, by rw [broken]; rfl⟩

end Made

/-- Three samples at two hertz are two frames at one hertz. -/
theorem resampling_in_fragments_small :
    let outside := (Rehearsal.smallScript none []).collaborators
    ∃ resampler, (makeResampler outside 2.0 1.0 .initial).answer = .ok resampler ∧
      ∃ frames, (resampler.resampleAll [([0.5, 0.25], false), ([1.0], true)]).map Prod.fst =
        .ok frames ∧ frames.length = 2 := by
  intro outside
  have accepts : wholeHertz 2.0 = .ok 2 := eq_ok_of_toOption (by decide +kernel)
  have yields : wholeHertz 1.0 = .ok 1 := eq_ok_of_toOption (by decide +kernel)
  have made : makeTransducer 2 1 = .ok _ :=
    makeTransducer_eq_ok (by decide +kernel) (by decide +kernel) (by decide +kernel)
  obtain ⟨resampler, starts, -, different⟩ :=
    @resampling_in_fragments _ _ outside .initial _ _ _ _ accepts yields
      (fun _ => ⟨made, makeTransducer_fits (by decide) (by decide) made⟩) [[0.5, 0.25]]
  obtain ⟨-, ended⟩ := different (by decide)
  have nearest : ((2 : Nat) : ℤ) = round
      ((([[0.5, 0.25]].flatten ++ [(1.0 : Float32)]).length * (1 : Nat) : ℚ) / (2 : Nat)) := by
    rw [round_eq_div (by decide)]
    rfl
  obtain ⟨⟨zeros, filled, enough⟩, cut, -⟩ := ended [1.0] 2 nearest
  exact ⟨resampler, starts, _, cut ⟨by decide +kernel, by decide +kernel⟩ zeros filled enough,
    (List.length_take ..).trans (Nat.min_eq_left enough)⟩

/-- Sixteen samples at `1025 * 2 ^ 50` hertz call for sixteen frames at `2 ^ 60` hertz, but
no word tells `16 * 2 ^ 60`, and the flush breaks off. -/
theorem flush_breaks_off_at_product :
    let outside := (Rehearsal.smallScript none []).collaborators
    let samples : List Float32 := List.replicate 16 0.0
    let given : Nat := 1154047404513689600
    let wanted : Nat := 1152921504606846976
    ∃ kind resampler, makeTransducer given wanted = .ok kind ∧
      (makeResampler outside 1154047404513689600.0 1152921504606846976.0 .initial).answer =
        .ok resampler ∧
      resampler.resampleAll [(samples, true)] = .error (.overflow "multiply") ∧
      round ((samples.length * wanted : ℚ) / given) = 16 ∧
      ∃ zeros, blockSize ∣ samples.length + zeros ∧
        16 ≤ (converted kind (samples ++ List.replicate zeros 0.0)).length := by
  intro outside samples given wanted
  have accepts : wholeHertz 1154047404513689600.0 = .ok given :=
    eq_ok_of_toOption (by decide +kernel)
  have yields : wholeHertz 1152921504606846976.0 = .ok wanted :=
    eq_ok_of_toOption (by decide +kernel)
  have made : makeTransducer given wanted = .ok _ :=
    makeTransducer_eq_ok (by decide +kernel) (by decide +kernel) (by decide +kernel)
  have fits := makeTransducer_fits (by decide) (by decide) made
  refine ⟨_, _, made, makeResampler_answer accepts yields fun _ => ⟨made, fits⟩, ?_, ?_, ?_⟩
  · have exceeds : wordLimit ≤ samples.length * wanted := by decide +kernel
    rw [show [(samples, true)] = [].map (·, false) ++ [(samples, true)] from rfl,
      resampleAll_distinct (by decide), List.flatten_nil, List.nil_append,
      target_fed (Converter.run_ofKind ..), inWordOf_of_le exceeds]
    rfl
  · have due : (samples.length * wanted + given / 2) / given = 16 := by decide +kernel
    rw [@round_eq_div given wanted (by decide) samples.length, due]
    rfl
  · exact exists_zeros fits samples 16

end LiveSpeech.Audio
