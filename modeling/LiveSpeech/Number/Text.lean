import LiveSpeech.Number.Shortest

/-!
# The texts of numbers

Three texts of a floating-point number are used.  `plain` is positional for every size and
has no point unless there are places behind it; logs, messages and help show numbers this
way.  `wire` is the text in messages on the wire: positional for middle sizes and then with at
least one place, scientific with a signed exponent otherwise.  `fixed` has a set count of
places.

The first two use the fewest digits that read back, so that no reader of a log or a message
is told more precision than the number has.
-/

namespace LiveSpeech.Number

set_option autoImplicit false

/-- The digits of a decimal. -/
def Decimal.figures (decimal : Decimal) : List Char := Nat.toDigits 10 decimal.digits

/-- The power of ten of the first digit. -/
def Decimal.leading (decimal : Decimal) : Int := decimal.figures.length - 1 + decimal.exponent

/-- A minus in front of the text of a negative number. -/
def withSign (negative : Bool) (text : List Char) : List Char :=
  if negative then '-' :: text else text

def zeros (count : Nat) : List Char := List.replicate count '0'

/-- The positional text of a decimal; `ending` follows a decimal without places. -/
def Decimal.positional (ending : List Char) (decimal : Decimal) : List Char :=
  let figures := decimal.figures
  let places := (-decimal.exponent).toNat
  if places = 0 then figures ++ zeros decimal.exponent.toNat ++ ending
  else if places < figures.length then
    figures.take (figures.length - places) ++ '.' :: figures.drop (figures.length - places)
  else '0' :: '.' :: zeros (places - figures.length) ++ figures

/-- The scientific text of a decimal: one digit, the others behind a point, and the exponent
with its sign. -/
def Decimal.scientific (decimal : Decimal) : List Char :=
  let mantissa : List Char := match decimal.figures with
    | [] => []
    | [only] => [only]
    | first :: others => first :: '.' :: others
  let sign : Char := if decimal.leading < 0 then '-' else '+'
  mantissa ++ 'e' :: sign :: Nat.toDigits 10 decimal.leading.natAbs

/-- The positional text with the fewest digits.  Of two decimals equally near the larger one
is written. -/
def plain {α : Type} [Floating α] (number : α) : String :=
  String.ofList <| match reading number with
    | .nan => "NaN".toList
    | .infinite negative => withSign negative "inf".toList
    | .finite negative significand exponent => withSign negative <|
      if significand = 0 then ['0']
      else (shortest (Floating.format α) .up significand exponent).positional []

/-- The powers of ten of leading digits that the wire text writes positionally: from the
first to below the second. -/
def wireRange (format : Format) : Int × Int :=
  if format = .single then (-6, 13) else (-5, 16)

/-- The text on the wire; what is no finite number is `null`.  Of two decimals equally near
the even one is written. -/
def wire {α : Type} [Floating α] (number : α) : String :=
  String.ofList <| match reading number with
    | .finite negative significand exponent => withSign negative <|
      if significand = 0 then "0.0".toList
      else
        let decimal := shortest (Floating.format α) .even significand exponent
        let (low, high) := wireRange (Floating.format α)
        if low ≤ decimal.leading ∧ decimal.leading < high then decimal.positional ".0".toList
        else decimal.scientific
    | _ => "null".toList

/-- The text with exactly `places` decimal places, a half going to the even digit. -/
def fixed {α : Type} [Floating α] (places : Nat) (number : α) : String :=
  String.ofList <| match reading number with
    | .nan => "NaN".toList
    | .infinite negative => withSign negative "inf".toList
    | .finite negative significand exponent => withSign negative <|
      let (numerator, denominator) := dyadic significand exponent
      let scaled := roundQuotient .even (numerator * Nat.pow 10 places) denominator
      let behind := Nat.toDigits 10 (scaled % Nat.pow 10 places)
      Nat.toDigits 10 (scaled / Nat.pow 10 places) ++
        '.' :: zeros (places - behind.length) ++ behind

end LiveSpeech.Number
