import LiveSpeech.Number.Text

/-!
# JSON values

A value is what a JSON text denotes once spelling and layout are forgotten.  The members of
an object keep their order and their repetitions, because what a repeated member means is
for the reader of the object to say.

Whole numbers within 64 bits are kept exactly; every other number is a double.
-/

namespace LiveSpeech.Json

set_option autoImplicit false

open LiveSpeech.Number

/-- A number in a JSON text. -/
inductive Numeral where
  | natural (size : Nat)
  /-- A whole number below `0`, given by its size. -/
  | negative (size : Nat)
  | double (number : Float)

/-- What a JSON text denotes. -/
inductive Value where
  | null
  | boolean (truth : Bool)
  | number (numeral : Numeral)
  | string (content : String)
  | list (items : List Value)
  | object (members : List (String × Value))

/-- The single-precision number nearest to a numeral. -/
def Numeral.single : Numeral → Float32
  | .natural size => nearest Float32 false size 1
  | .negative size => nearest Float32 true size 1
  | .double number => number.toFloat32

end LiveSpeech.Json
