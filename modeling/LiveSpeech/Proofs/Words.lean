import LiveSpeech.Number.Binary
import Mathlib.Algebra.Order.Group.Nat
import Mathlib.Tactic.Common

/-!
# What the bits of a number say

The comparison of floating-point numbers works on their parts, and the conversion to a whole number
on what their bits say.  The two agree (`reading_eq`), so that a comparison tells something about a
whole number.

The significand of a finite number has the leading bit unless its exponent is the lowest
(`read_bounds`).  So a number is at least a power of two exactly if its exponent is large enough.
-/

namespace LiveSpeech.Number

set_option autoImplicit false

open Float.Model.UnpackedFloat

/-! ## The parts of a word -/

def isNegative : Sign → Bool
  | .negative => true
  | .positive => false

/-- What the parts of a number say. -/
def readingOf : Float.Model.UnpackedFloat → Reading
  | .notANumber => .nan
  | .infinity sign => .infinite (isNegative sign)
  | .zero sign => .finite (isNegative sign) 0 (-149)
  | .finite sign significand exponent _ => .finite (isNegative sign) significand exponent

section Parts

variable (bits : BitVec (Float.Model.Format.numBits .binary32))

theorem toNat_unpackMantissa : (unpackMantissa bits).toNat = bits.toNat % 2 ^ 23 := by
  change (bits.toNat >>> 0) % 2 ^ 23 = _
  rfl

theorem toNat_unpackExponent : (unpackExponent bits).toNat = bits.toNat / 2 ^ 23 % 2 ^ 8 := by
  change (bits.toNat >>> 23) % 2 ^ 8 = _
  rw [Nat.shiftRight_eq_div_pow]

theorem toNat_unpackSign : (unpackSign bits).toNat = bits.toNat / 2 ^ 31 % 2 := by
  change (bits.toNat >>> 31) % 2 ^ 1 = _
  rw [Nat.shiftRight_eq_div_pow]

theorem toNat_leading_append :
    (1#1 ++ unpackMantissa bits).toNat = bits.toNat % 2 ^ 23 + 2 ^ 23 := by
  rw [BitVec.toNat_append, ← toNat_unpackMantissa]
  change 1 <<< 23 ||| _ = _
  rw [Nat.shiftLeft_eq, Nat.one_mul, Nat.or_comm,
    Nat.or_two_pow_eq_add_of_lt (unpackMantissa bits).isLt]

/-- The sign of a word is its highest bit. -/
theorem isNegative_unpackSign :
    isNegative (Sign.ofBitVec (unpackSign bits)) =
      (bits.toNat / Format.single.signBit % 2 == 1) := by
  have signBit : Format.single.signBit = 2 ^ 31 := rfl
  rw [signBit, ← toNat_unpackSign]
  rcases BitVec.eq_zero_or_eq_one (unpackSign bits) with clear | set
  · rw [clear]
    rfl
  · rw [set]
    rfl

/-- A word reads as its parts say. -/
theorem read_eq : Format.single.read bits.toNat = readingOf (unpack .binary32 bits) := by
  have hidden : Format.single.hidden = 2 ^ 23 := rfl
  have width : Nat.pow 2 Format.single.exponentWidth = 2 ^ 8 := rfl
  have lowest : Format.single.lowest = -149 := by decide
  have bias : ((Float.Model.Format.exponentBias .binary32 : Nat) : Int) = 127 := by decide
  have point : ((Float.Model.Format.mantissaBitsWithoutImplicit .binary32 : Nat) : Int) = 23 := by
    decide
  -- Both readings split on the same fields, one as numbers and the other as bits.
  have top : bits.toNat / 2 ^ 23 % 2 ^ 8 + 1 = 2 ^ 8 ↔ unpackExponent bits = -1#8 := by
    rw [← toNat_unpackExponent, BitVec.toNat_eq]
    change _ ↔ _ = 255
    omega
  have bottom : bits.toNat / 2 ^ 23 % 2 ^ 8 = 0 ↔ unpackExponent bits = 0#8 := by
    rw [← toNat_unpackExponent, BitVec.toNat_eq]
    rfl
  have blank : bits.toNat % 2 ^ 23 = 0 ↔ unpackMantissa bits = 0#23 := by
    rw [← toNat_unpackMantissa, BitVec.toNat_eq]
    rfl
  rw [Format.read, ← isNegative_unpackSign, hidden, width, lowest]
  by_cases full : unpackExponent bits = -1#8
  · rw [if_pos (top.mpr full)]
    by_cases none : unpackMantissa bits = 0#23
    · have unpacked : unpack .binary32 bits = .infinity _ := (if_pos full).trans (if_pos none)
      rw [if_pos (blank.mpr none), unpacked]
      rfl
    · have unpacked : unpack .binary32 bits = .notANumber := (if_pos full).trans (if_neg none)
      rw [if_neg (mt blank.mp none), unpacked]
      rfl
  rw [if_neg (mt top.mp full)]
  by_cases zero : unpackExponent bits = 0#8
  · have field : (unpackExponent bits).toNat = 0 := congrArg BitVec.toNat zero
    rw [if_pos (bottom.mpr zero)]
    by_cases none : unpackMantissa bits = 0#23
    · have unpacked : unpack .binary32 bits = .zero _ :=
        (if_neg full).trans ((if_pos zero).trans (dif_pos none))
      rw [unpacked, blank.mpr none]
      rfl
    · have unpacked : unpack .binary32 bits = .finite _ _ _ _ :=
        (if_neg full).trans ((if_pos zero).trans (dif_neg none))
      rw [unpacked, ← toNat_unpackMantissa]
      change _ = Reading.finite _ _ _
      rw [field]
      rfl
  · have unpacked : unpack .binary32 bits = .finite _ _ _ _ :=
      (if_neg full).trans (if_neg zero)
    rw [if_neg (mt bottom.mp zero), unpacked]
    change _ = Reading.finite _ _ _
    rw [toNat_leading_append, toNat_unpackExponent, bias, point]
    congr 1
    omega

end Parts

/-- A number reads as its parts say. -/
theorem reading_eq (number : Float32) : reading number = readingOf number.toModel.unpack :=
  read_eq number.toBits.toBitVec

/-- The significand of a finite number is below the next power of two, and has the leading bit
unless its exponent is the lowest. -/
theorem read_bounds {format : Format} {word significand : Nat} {negative : Bool} {exponent : Int}
    (read : format.read word = .finite negative significand exponent) :
    significand < 2 * format.hidden ∧
      (exponent = format.lowest ∨ format.lowest < exponent ∧ format.hidden ≤ significand) := by
  have fraction : word % format.hidden < format.hidden := Nat.mod_lt _ (Nat.two_pow_pos _)
  unfold Format.read at read
  dsimp only at read
  split at read
  · split at read <;> cases read
  split at read
  · injection read with _ whole power
    omega
  · injection read with _ whole power
    omega

/-- The bounds for a number of single precision. -/
theorem reading_bounds {number : Float32} {negative : Bool} {significand : Nat} {exponent : Int}
    (reads : reading number = .finite negative significand exponent) :
    significand < 2 ^ 24 ∧ (exponent = -149 ∨ -149 < exponent ∧ 2 ^ 23 ≤ significand) :=
  @read_bounds .single _ _ _ _ reads

/-- Numbers are compared by their parts. -/
theorem le_iff_compare (left right : Float32) :
    left ≤ right ↔ Option.any (fun order => order.isLE)
      (left.toModel.unpack.compare right.toModel.unpack) = true :=
  @decide_eq_true_iff (left.toModel ≤ right.toModel) _

/-! ## Rounding -/

/-- The nearest whole number to a whole multiple of a power of two is the number itself. -/
theorem roundQuotient_dyadic (tie : Tie) (significand : Nat) {exponent : Int}
    (whole : 0 ≤ exponent) :
    roundQuotient tie (dyadic significand exponent).1 (dyadic significand exponent).2 =
      significand * 2 ^ exponent.toNat := by
  have none : (-exponent).toNat = 0 := by omega
  rw [dyadic, none, Nat.shiftLeft_eq]
  exact (congrArg₂ _ (Nat.mul_one _).symm rfl).trans (roundQuotient_mul tie _ 1 Nat.one_pos)

theorem roundQuotient_le (tie : Tie) (numerator denominator : Nat) :
    roundQuotient tie numerator denominator ≤ numerator + 1 := by
  have le := Nat.div_le_self numerator denominator
  rcases roundQuotient_eq_or tie numerator denominator with below | above <;> omega

end LiveSpeech.Number
