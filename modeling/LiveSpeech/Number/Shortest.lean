import LiveSpeech.Number.Binary

/-!
# The fewest digits that read back

Every decimal between the two midpoints around a floating-point number reads back as that
number; the midpoints themselves do when the significand is even.  Among those decimals the
text of a number uses one with the fewest digits, and of two such the one nearer to the
number.  What is left open, two decimals equally near, is a parameter.

The search tries 1, 2, 3, … digits.  On the grid of decimals with that many digits only the
two neighbours of the number need a test: if any decimal of the grid lies between the
midpoints, one of the two does.
-/

namespace LiveSpeech.Number

set_option autoImplicit false

/-- The decimal `digits * 10 ^ exponent`. -/
structure Decimal where
  digits : Nat
  exponent : Int
  deriving DecidableEq, Repr

/-- The numbers around a positive floating-point number, all as multiples of a quarter of the
unit of its significand. -/
structure Neighbourhood where
  low : Nat
  centre : Nat
  high : Nat
  /-- Whether the midpoints read back as the number. -/
  inclusive : Bool
  /-- The power of two that is a quarter of the unit. -/
  exponent : Int

/-- The surroundings of `significand * 2 ^ exponent`.  At a power of two the number below is
only half as far away as the one above. -/
def Format.neighbourhood (format : Format) (significand : Nat) (exponent : Int) :
    Neighbourhood where
  low :=
    if significand = format.hidden ∧ format.lowest < exponent then 4 * significand - 1
    else 4 * significand - 2
  centre := 4 * significand
  high := 4 * significand + 2
  inclusive := significand % 2 == 0
  exponent := exponent - 2

/-- How many digits a natural number has. -/
def digitCount (number : Nat) : Nat := (Nat.toDigits 10 number).length

/-- The power of ten of the leading digit of `numerator / denominator`, both positive. -/
def leadingPower (numerator denominator : Nat) : Int :=
  if denominator ≤ numerator then digitCount (numerator / denominator) - 1
  else -digitCount ((denominator + numerator - 1) / numerator - 1)

/-- The decimal closest to the number among those of the grid `10 ^ power` that read back. -/
def Neighbourhood.onGrid? (around : Neighbourhood) (tie : Tie) (power : Int) : Option Decimal :=
  -- A multiple of the grid is `number * grid`, one of the quarter unit `number * quarter`.
  let grid := Nat.pow 10 power.toNat * Nat.pow 2 (-around.exponent).toNat
  let quarter := Nat.pow 10 (-power).toNat * Nat.pow 2 around.exponent.toNat
  let centre := around.centre * quarter
  let below := centre / grid
  let reads (candidate : Nat) : Bool :=
    if around.inclusive then
      around.low * quarter ≤ candidate * grid && candidate * grid ≤ around.high * quarter
    else around.low * quarter < candidate * grid && candidate * grid < around.high * quarter
  let chosen : Option Nat := match reads below, reads (below + 1) with
    | true, true => some (roundQuotient tie centre grid)
    | true, false => some below
    | false, true => some (below + 1)
    | false, false => none
  chosen.map fun digits => ⟨digits, power⟩

/-- The same decimal with `10 ^ count` divided out as long as that leaves no remainder. -/
def Decimal.dropZeros : Nat → Decimal → Decimal
  | 0, decimal => decimal
  | count + 1, decimal =>
    if decimal.digits % 10 = 0 then dropZeros count ⟨decimal.digits / 10, decimal.exponent + 1⟩
    else decimal

/-- Seventeen digits identify every number of double precision. -/
def mostDigits : Nat := 17

/-- The decimal with the fewest digits that reads back as `significand * 2 ^ exponent`. -/
def shortest (format : Format) (tie : Tie) (significand : Nat) (exponent : Int) : Decimal :=
  let around := format.neighbourhood significand exponent
  let (numerator, denominator) := dyadic around.centre around.exponent
  let leading := leadingPower numerator denominator
  let grids := (List.range mostDigits).map fun (places : Nat) => leading - places
  match grids.findSome? (around.onGrid? tie) with
  | some decimal => decimal.dropZeros mostDigits
  | none => ⟨0, 0⟩

end LiveSpeech.Number
