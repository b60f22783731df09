/-!
# Rounding a quotient to a whole number

Every rounding of this library is a rounding of a quotient of two natural numbers: the
nearest binary number, the nearest decimal with a fixed count of places, the nearest whole
count of hertz or samples.  They differ only in what happens exactly half-way, so that is
the one parameter.

The main statements are that the result is within half a unit of the quotient
(`roundQuotient_near`), and that a whole quotient is its own rounding
(`roundQuotient_mul`).
-/

namespace LiveSpeech.Number

set_option autoImplicit false

/-- What a quotient exactly half-way between two whole numbers becomes. -/
inductive Tie where
  | even
  | up
  deriving DecidableEq, Repr

/-- The whole number nearest to `numerator / denominator`. -/
def roundQuotient (tie : Tie) (numerator denominator : Nat) : Nat :=
  let below := numerator / denominator
  let twice := 2 * (numerator % denominator)
  if twice < denominator then below
  else if denominator < twice then below + 1
  else match tie with
    | .even => below + below % 2
    | .up => below + 1

/-- A rounding is the whole part or its successor. -/
theorem roundQuotient_eq_or (tie : Tie) (numerator denominator : Nat) :
    roundQuotient tie numerator denominator = numerator / denominator ∨
      roundQuotient tie numerator denominator = numerator / denominator + 1 := by
  unfold roundQuotient
  cases tie <;> simp only <;> split <;> try split
  all_goals omega

/-- A rounding is **within half a unit of the quotient**. -/
theorem roundQuotient_near (tie : Tie) (numerator denominator : Nat) (positive : 0 < denominator) :
    2 * (roundQuotient tie numerator denominator * denominator) ≤ 2 * numerator + denominator ∧
      2 * numerator ≤
        2 * (roundQuotient tie numerator denominator * denominator) + denominator := by
  have whole := Nat.div_add_mod numerator denominator
  have small := Nat.mod_lt numerator positive
  have commuted : numerator / denominator * denominator = denominator * (numerator / denominator) :=
    Nat.mul_comm _ _
  have successor : (numerator / denominator + 1) * denominator =
      denominator * (numerator / denominator) + denominator := by
    rw [Nat.add_mul, Nat.one_mul, commuted]
  by_cases low : 2 * (numerator % denominator) < denominator
  · have value : roundQuotient tie numerator denominator = numerator / denominator := by
      simp [roundQuotient, low]
    rw [value, commuted]
    omega
  · by_cases high : denominator < 2 * (numerator % denominator)
    · have value : roundQuotient tie numerator denominator = numerator / denominator + 1 := by
        simp [roundQuotient, low, high]
      rw [value, successor]
      omega
    · rcases roundQuotient_eq_or tie numerator denominator with value | value
      · rw [value, commuted]
        omega
      · rw [value, successor]
        omega

/-- A whole quotient is its own rounding. -/
theorem roundQuotient_mul (tie : Tie) (quotient denominator : Nat) (positive : 0 < denominator) :
    roundQuotient tie (quotient * denominator) denominator = quotient := by
  simp [roundQuotient, Nat.mul_div_cancel quotient positive, positive]

end LiveSpeech.Number
