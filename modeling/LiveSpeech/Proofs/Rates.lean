import LiveSpeech.Audio.Resampler
import LiveSpeech.Proofs.Words

/-!
# Rates that are accepted

A rate is accepted if it is finite and no smaller than one; it is then rounded to whole hertz.
So an accepted rate is at least one hertz and can be written in a word of 64 bits
(`hertz_bounds`).  The comparison with one is a comparison of floating-point numbers and the
rounding works on their bits, so that something has to be said about the bits of a number that
is no smaller than one: it is positive, and its significand has the leading bit.
-/

namespace LiveSpeech.Audio

set_option autoImplicit false

open LiveSpeech.Number Float.Model.UnpackedFloat

/-! ## Numbers from one on -/

/-- A finite number that is no smaller than one is positive, its significand has the leading bit,
and its exponent is no smaller than that of one. -/
theorem reading_of_one_le {rate : Float32} (finite : rate.isFinite = true) (least : 1.0 ≤ rate) :
    ∃ significand exponent, reading rate = .finite false significand exponent ∧
      2 ^ 23 ≤ significand ∧ -23 ≤ exponent := by
  have one : (1.0 : Float32).toModel.unpack = .finite .positive 8388608 (-23) (by decide) := rfl
  have below := (le_iff_compare 1.0 rate).mp least
  have reads := reading_eq rate
  replace finite : rate.toModel.unpack.isFinite = true := finite
  rw [one] at below
  cases unpacked : rate.toModel.unpack with
  | notANumber | infinity =>
    rw [unpacked] at finite
    cases finite
  | zero =>
    rw [unpacked] at below
    cases below
  | finite sign significand exponent filled =>
    rw [unpacked] at below reads
    cases sign with
    | negative => cases below
    | positive =>
      change ((compare (-23) exponent).then (compare 8388608 significand)).isLE = true at below
      have least : -23 ≤ exponent := Int.isLE_compare.mp (Ordering.isLE_left_of_isLE_then below)
      have leading := (reading_bounds reads).2
      exact ⟨significand, exponent, reads, by omega, least⟩

/-- A number with a leading bit in its significand and no exponent below that of one is at least
one. -/
theorem one_le_dyadic {significand : Nat} {exponent : Int} (leading : 2 ^ 23 ≤ significand)
    (least : -23 ≤ exponent) :
    (dyadic significand exponent).2 ≤ (dyadic significand exponent).1 := by
  simp only [dyadic, Nat.shiftLeft_eq, Nat.one_mul]
  calc 2 ^ (-exponent).toNat ≤ 2 ^ 23 := Nat.pow_le_pow_right (by decide) (by omega)
    _ ≤ significand := leading
    _ ≤ significand * 2 ^ exponent.toNat := Nat.le_mul_of_pos_right _ (Nat.two_pow_pos _)

/-- The nearest whole number to what is at least one is at least one. -/
theorem one_le_roundQuotient {tie : Tie} {numerator denominator : Nat}
    (positive : 0 < denominator) (le : denominator ≤ numerator) :
    1 ≤ roundQuotient tie numerator denominator := by
  have whole : 1 ≤ numerator / denominator := (Nat.one_le_div_iff positive).mpr le
  rcases roundQuotient_eq_or tie numerator denominator with below | above
  · rwa [below]
  · rw [above]
    exact Nat.le_add_left _ _

/-- **An accepted rate** is at least one hertz, and its hertz fit in a word. -/
theorem hertz_bounds {rate : Float32} {hertz : Nat} (accepted : wholeHertz rate = .ok hertz) :
    0 < hertz ∧ hertz < 2 ^ 64 := by
  rw [wholeHertz] at accepted
  split at accepted
  · next sound =>
    simp only [Bool.and_eq_true, decide_eq_true_eq] at sound
    obtain ⟨significand, exponent, read, leading, least⟩ := reading_of_one_le sound.1 sound.2
    have positive : 0 < (dyadic significand exponent).2 := by
      simp only [dyadic, Nat.shiftLeft_eq, Nat.one_mul]
      exact Nat.two_pow_pos _
    have whole := @one_le_roundQuotient .up _ _ positive (one_le_dyadic leading least)
    rw [read] at accepted
    simp only [Reading.saturatingWhole, Reading.nearestWhole?, hertzLimit] at accepted
    rw [← Except.ok.inj accepted]
    simp only [Bool.false_eq_true, if_false, Option.getD_some, Nat.pow_eq]
    omega
  · cases accepted

end LiveSpeech.Audio
