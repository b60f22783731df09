import LiveSpeech.Number.Binary

/-!
# Reading decimal literals

A decimal literal is an optional sign, then either `inf`, `infinity` or `nan` in any case, or
digits with at most one point among or around them and at most one exponent.  At least one
digit stands before the exponent, and an exponent has a digit of its own.  Nothing else may
surround them, blanks included.

A literal denotes an exact value; `Literal.value` gives the number of a floating-point type
that is nearest to it, so no digit is lost however many there are.
-/

namespace LiveSpeech.Number

set_option autoImplicit false

/-- What a decimal literal denotes. -/
inductive Literal where
  | nan
  | infinite (negative : Bool)
  /-- The value `digits * 10 ^ exponent`, negated if `negative`. -/
  | finite (negative : Bool) (digits : Nat) (exponent : Int)
  deriving DecidableEq, Repr

def digitValue (digit : Char) : Nat := digit.toNat - '0'.toNat

/-- The number that a row of digits spells, `start` being what stands before them. -/
def spelled (start : Nat) (digits : List Char) : Nat :=
  digits.foldl (fun number digit => number * 10 + digitValue digit) start

/-- A sign in front, if there is one: whether it is a minus, and what follows. -/
def signAndRest : List Char → Bool × List Char
  | '-' :: rest => (true, rest)
  | '+' :: rest => (false, rest)
  | rest => (false, rest)

namespace Literal

/-- The exponent that ends a literal: nothing at all, or `e`, an optional sign and digits. -/
def exponent? : List Char → Option Int
  | [] => some 0
  | mark :: rest =>
    if mark = 'e' ∨ mark = 'E' then
      let (negative, digits) := signAndRest rest
      if digits.isEmpty ∨ ¬ digits.all Char.isDigit then none
      else
        let size : Int := spelled 0 digits
        some (if negative then -size else size)
    else none

/-- The digits, the point and the exponent of a literal without its sign. -/
def magnitude? (text : List Char) : Option (Nat × Int) :=
  let whole := text.takeWhile Char.isDigit
  let afterWhole := text.dropWhile Char.isDigit
  let (places, rest) : List Char × List Char := match afterWhole with
    | '.' :: more => (more.takeWhile Char.isDigit, more.dropWhile Char.isDigit)
    | more => ([], more)
  if whole.isEmpty ∧ places.isEmpty then none
  else (exponent? rest).map fun exponent =>
    (spelled (spelled 0 whole) places, exponent - places.length)

/-- The value of a literal. -/
def parse? (text : String) : Option Literal :=
  let (negative, rest) := signAndRest text.toList
  let word := rest.map Char.toLower
  if word = "nan".toList then some .nan
  else if word = "inf".toList ∨ word = "infinity".toList then some (.infinite negative)
  else (magnitude? rest).map fun (digits, exponent) => .finite negative digits exponent

/-- Beyond this many decimal places to either side every format has only zero and infinity. -/
def outOfReach : Int := 400

/-- The number nearest to `digits * 10 ^ exponent`, or to its negation. -/
def scaled (α : Type) [Floating α] (negative : Bool) (digits : Nat) (exponent : Int) : α :=
  let leading : Int := (Nat.toDigits 10 digits).length + exponent
  if digits = 0 ∨ leading < -outOfReach then nearest α negative 0 1
  else if outOfReach < leading then infinity α negative
  else nearest α negative (digits * Nat.pow 10 exponent.toNat) (Nat.pow 10 (-exponent).toNat)

/-- The number nearest to what a literal denotes. -/
def value (α : Type) [Floating α] : Literal → α
  | .nan => notANumber α
  | .infinite negative => infinity α negative
  | .finite negative digits exponent => scaled α negative digits exponent

end Literal

end LiveSpeech.Number
