import LiveSpeech.Audio.Resampler

/-!
# Feeding a resampler in fragments

The complete blocks of a stretch of samples are those of its first part and then those of what
the first part leaves over together with the second (`completeBlocks_append`).  A converter runs
through blocks in order, so that feeding two fragments is feeding them as one
(`Resampler.feed_append`), and a row of fragments comes to the same frames and the same
resampler as all of its samples at once (`Resampler.feedAll_eq_feed`).
-/

namespace LiveSpeech.Audio

set_option autoImplicit false

/-! ## Blocks -/

theorem blockSize_pos : 0 < blockSize := by decide

theorem firstBlocks_add (first second : Nat) (samples : List Float32) :
    firstBlocks (first + second) samples =
      firstBlocks first samples ++ firstBlocks second (samples.drop (first * blockSize)) := by
  induction first generalizing samples with
  | zero => simp [firstBlocks]
  | succ first ih =>
    rw [Nat.succ_add, firstBlocks, ih, firstBlocks, List.cons_append, List.drop_drop,
      Nat.succ_mul, Nat.add_comm blockSize]

/-- Blocks that lie within the first part of a stretch are blocks of that part. -/
theorem firstBlocks_append {count : Nat} {first : List Float32}
    (within : count * blockSize ≤ first.length) (second : List Float32) :
    firstBlocks count (first ++ second) = firstBlocks count first := by
  induction count generalizing first with
  | zero => rfl
  | succ count ih =>
    have one : blockSize ≤ first.length := by
      rw [Nat.succ_mul] at within
      omega
    rw [firstBlocks, firstBlocks, List.take_append_of_le_length one,
      List.drop_append_of_le_length one, ih]
    rw [List.length_drop]
    rw [Nat.succ_mul] at within
    omega

theorem length_incompleteBlock (samples : List Float32) :
    (incompleteBlock samples).length = samples.length % blockSize := by
  rw [incompleteBlock, List.length_drop, Nat.mod_eq_sub_div_mul]

/-- The complete blocks of a stretch in two parts are counted part by part. -/
theorem blocks_append (first second : List Float32) :
    (first ++ second).length / blockSize =
      first.length / blockSize + (incompleteBlock first ++ second).length / blockSize := by
  have parts := Nat.div_add_mod first.length blockSize
  calc (first ++ second).length / blockSize
      = (blockSize * (first.length / blockSize) +
          (first.length % blockSize + second.length)) / blockSize := by
        rw [List.length_append, ← Nat.add_assoc, parts]
    _ = first.length / blockSize + (first.length % blockSize + second.length) / blockSize :=
        Nat.mul_add_div blockSize_pos ..
    _ = _ := by rw [List.length_append, length_incompleteBlock]

/-- A stretch in two parts has the complete blocks of the first part, and then those of what
it leaves over and the second part. -/
theorem completeBlocks_append (first second : List Float32) :
    completeBlocks (first ++ second) =
      completeBlocks first ++ completeBlocks (incompleteBlock first ++ second) := by
  have whole := Nat.div_mul_le_self first.length blockSize
  rw [completeBlocks, blocks_append, firstBlocks_add, firstBlocks_append whole,
    List.drop_append_of_le_length whole]
  rfl

theorem incompleteBlock_append (first second : List Float32) :
    incompleteBlock (first ++ second) = incompleteBlock (incompleteBlock first ++ second) := by
  have whole := Nat.div_mul_le_self first.length blockSize
  rw [incompleteBlock, blocks_append, Nat.add_mul, ← List.drop_drop,
    List.drop_append_of_le_length whole]
  rfl

/-! ## Fragments -/

namespace Resampler

/-- Blocks in two rows are run one row after the other. -/
theorem runBlocks_append (limit : Option Nat) (converter : Converter) (produced : Nat)
    (first second : List (List Float32)) :
    runBlocks limit converter produced (first ++ second) =
      let (frames, count, next) := runBlocks limit converter produced first
      let (more, total, last) := runBlocks limit next count second
      (frames ++ more, total, last) := by
  induction first generalizing converter produced with
  | nil => rfl
  | cons block first ih => simp only [List.cons_append, runBlocks, ih, List.append_assoc]

/-- **Feeding two fragments is feeding them as one.** -/
theorem feed_append (resampler : Resampler) (first second : List Float32) :
    resampler.feed (first ++ second) =
      ((resampler.feed first).1 ++ ((resampler.feed first).2.feed second).1,
        ((resampler.feed first).2.feed second).2) := by
  cases converts : resampler.converter with
  | none => simp only [feed, converts]
  | some converter =>
    simp only [feed, converts]
    rw [← List.append_assoc, completeBlocks_append (resampler.pending ++ first), runBlocks_append,
      incompleteBlock_append (resampler.pending ++ first), List.length_append, Nat.add_assoc]

/-- Takes in fragments one after the other. -/
def feedAll : Resampler → List (List Float32) → List Float32 × Resampler
  | resampler, [] => ([], resampler)
  | resampler, fragment :: others =>
    let (frames, next) := resampler.feed fragment
    let (more, last) := next.feedAll others
    (frames ++ more, last)

/-- **Fragments one after the other come to the same as all their samples at once.** -/
theorem feedAll_eq_feed (resampler : Resampler) (fragment : List Float32)
    (others : List (List Float32)) :
    resampler.feedAll (fragment :: others) = resampler.feed (fragment :: others).flatten := by
  induction others generalizing resampler fragment with
  | nil => simp [feedAll]
  | cons next others ih =>
    rw [List.flatten_cons, feed_append, ← ih]
    rfl

end Resampler

end LiveSpeech.Audio
