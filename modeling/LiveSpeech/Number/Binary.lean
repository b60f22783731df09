import LiveSpeech.Number.Rounding

/-!
# Binary floating-point words

A floating-point number is read as what its bits say: an exact multiple of a power of two,
an infinity, or no number at all.  Conversely an exact quotient of natural numbers is
written as the bits of the nearest number of a format, a half going to the even
significand, quotients beyond the largest number to infinity.

All texts and all whole-number conversions of this library go through these two functions,
so they are exact by construction and do not depend on how a processor divides.
-/

namespace LiveSpeech.Number

set_option autoImplicit false

/-- A binary interchange format with an implicit leading bit. -/
structure Format where
  precision : Nat
  exponentWidth : Nat
  deriving DecidableEq, Repr

/-- Single precision, 32 bits. -/
def Format.single : Format := ⟨24, 8⟩

/-- Double precision, 64 bits. -/
def Format.double : Format := ⟨53, 11⟩

/-- What the bits of a floating-point number say. -/
inductive Reading where
  | nan
  | infinite (negative : Bool)
  /-- The number `significand * 2 ^ exponent`, negated if `negative`. -/
  | finite (negative : Bool) (significand : Nat) (exponent : Int)
  deriving DecidableEq, Repr

namespace Format

/-- The power of two that is the smallest positive number of the format. -/
def lowest (format : Format) : Int :=
  3 - Nat.pow 2 (format.exponentWidth - 1) - format.precision

/-- The significands below this one belong to subnormal numbers. -/
def hidden (format : Format) : Nat := Nat.pow 2 (format.precision - 1)

/-- The bits of positive infinity. -/
def infinityBits (format : Format) : Nat := (Nat.pow 2 format.exponentWidth - 1) * format.hidden

/-- The sign bit alone. -/
def signBit (format : Format) : Nat := Nat.pow 2 format.exponentWidth * format.hidden

/-- What `bits` says in the format. -/
def read (format : Format) (bits : Nat) : Reading :=
  let fraction := bits % format.hidden
  let field := bits / format.hidden % Nat.pow 2 format.exponentWidth
  let negative := bits / format.signBit % 2 == 1
  if field + 1 = Nat.pow 2 format.exponentWidth then
    if fraction = 0 then .infinite negative else .nan
  else if field = 0 then .finite negative fraction format.lowest
  else .finite negative (fraction + format.hidden) (format.lowest + field - 1)

/-- The bits of a sign on a magnitude. -/
def signed (format : Format) (negative : Bool) (magnitude : Nat) : Nat :=
  if negative then format.signBit + magnitude else magnitude

/-- The largest power of two that is at most `numerator / denominator`, both positive. -/
def floorLog2 (numerator denominator : Nat) : Int :=
  let estimate : Int := (numerator.log2 : Int) - denominator.log2
  if denominator <<< estimate.toNat ≤ numerator <<< (-estimate).toNat then estimate
  else estimate - 1

/-- The bits of the number nearest to `numerator / denominator`, a half going to the even
significand and what is too large to infinity. -/
def nearest (format : Format) (negative : Bool) (numerator denominator : Nat) : Nat :=
  if numerator = 0 then format.signed negative 0
  else
    let exponent := max (floorLog2 numerator denominator - (format.precision - 1)) format.lowest
    let significand := roundQuotient .even (numerator <<< (-exponent).toNat)
      (denominator <<< exponent.toNat)
    let magnitude := (exponent - format.lowest).toNat * format.hidden + significand
    format.signed negative (min magnitude format.infinityBits)

end Format

/-- A type of floating-point numbers that are given by their bits in a format. -/
class Floating (α : Type) where
  format : Format
  bits : α → Nat
  ofBits : Nat → α

instance : Floating Float32 where
  format := .single
  bits number := number.toBits.toNat
  ofBits bits := Float32.ofBits (UInt32.ofNat bits)

instance : Floating Float where
  format := .double
  bits number := number.toBits.toNat
  ofBits bits := Float.ofBits (UInt64.ofNat bits)

/-- What the bits of a number say. -/
def reading {α : Type} [Floating α] (number : α) : Reading :=
  (Floating.format α).read (Floating.bits number)

/-- The number nearest to `numerator / denominator`, or to its negation. -/
def nearest (α : Type) [Floating α] (negative : Bool) (numerator denominator : Nat) : α :=
  Floating.ofBits ((Floating.format α).nearest negative numerator denominator)

def infinity (α : Type) [Floating α] (negative : Bool) : α :=
  Floating.ofBits ((Floating.format α).signed negative (Floating.format α).infinityBits)

/-- The number that is none: the quiet one with no further bits set. -/
def notANumber (α : Type) [Floating α] : α :=
  Floating.ofBits ((Floating.format α).infinityBits + (Floating.format α).hidden / 2)

/-! ## Whole numbers -/

/-- The fraction `numerator / denominator` that `significand * 2 ^ exponent` is. -/
def dyadic (significand : Nat) (exponent : Int) : Nat × Nat :=
  (significand <<< exponent.toNat, 1 <<< (-exponent).toNat)

/-- The nearest whole number, a half going away from zero; `none` if there is no number. -/
def Reading.nearestWhole? : Reading → Option Int
  | .finite negative significand exponent =>
    let (numerator, denominator) := dyadic significand exponent
    let whole : Int := roundQuotient .up numerator denominator
    some (if negative then -whole else whole)
  | _ => none

/-- The nearest whole number between `low` and `high`, a half going away from zero: what lies
outside becomes the nearer end, and no number becomes `0`. -/
def Reading.saturatingWhole (low high : Int) : Reading → Int
  | .nan => 0
  | .infinite negative => if negative then low else high
  | number => max low (min high (number.nearestWhole?.getD 0))

/-- Whether there is a number and it is not infinite. -/
def Reading.isFinite : Reading → Bool
  | .finite .. => true
  | _ => false

end LiveSpeech.Number
