import LiveSpeech.Json.Fault
import LiveSpeech.Text.Utf8

/-!
# The tokens of a JSON text

A text is a row of brackets, commas, colons, words, numbers and strings with blanks between
them.  Cutting it into tokens asks nothing about their order.  A token with a mistake inside
is a token all the same: it carries the mistake, which counts only if a reader gets that far,
and nothing is cut behind it.

Cutting walks over the text one byte at a time; the bytes of a token after its first are
skipped.  So the walk follows the text itself and needs no measure of its own.
-/

namespace LiveSpeech.Json

set_option autoImplicit false

open LiveSpeech.Number LiveSpeech.Text

/-- A token that is a value by itself, strings apart. -/
inductive Atom where
  | null
  | boolean (truth : Bool)
  | number (numeral : Numeral)

inductive Token where
  | openList
  | closeList
  | openObject
  | closeObject
  | comma
  | colon
  | string (content : Except Mistake String)
  | atom (content : Except Mistake Atom)
  | stray

/-- A byte of the four that may stand between tokens. -/
def isLayout (byte : UInt8) : Bool := byte == 32 || byte == 10 || byte == 13 || byte == 9

def isDigitByte (byte : UInt8) : Bool := 48 ≤ byte && byte ≤ 57

def digitOf (byte : UInt8) : Nat := byte.toNat - 48

/-! ## Strings -/

/-- The value of a hexadecimal digit of either case. -/
def hexDigit? (byte : UInt8) : Option Nat :=
  if isDigitByte byte then some (digitOf byte)
  else if 97 ≤ byte ∧ byte ≤ 102 then some (byte.toNat - 87)
  else if 65 ≤ byte ∧ byte ≤ 70 then some (byte.toNat - 55)
  else none

/-- The number that four hexadecimal digits spell. -/
def hexUnit : List UInt8 → Except Mistake Nat
  | first :: second :: third :: fourth :: _ =>
    match hexDigit? first, hexDigit? second, hexDigit? third, hexDigit? fourth with
    | some a, some b, some c, some d => .ok (((a * 16 + b) * 16 + c) * 16 + d)
    | _, _, _, _ => .error .badEscape
  | _ => .error .endInString

/-- The bytes of the character with a code point that is no surrogate. -/
def codePointBytes (code : Nat) : List UInt8 := String.utf8EncodeChar (Char.ofNat code)

/-- The first half of a pair of surrogates. -/
def isHighSurrogate (unit : Nat) : Bool := 0xd800 ≤ unit && unit ≤ 0xdbff

/-- The second half of a pair of surrogates. -/
def isLowSurrogate (unit : Nat) : Bool := 0xdc00 ≤ unit && unit ≤ 0xdfff

/-- What follows `\u`: the bytes that it stands for and how many bytes it takes.  A character
beyond the first plane is spelled by two units, each with its own `\u`. -/
def unicodeEscape (bytes : List UInt8) : Except Mistake (List UInt8 × Nat) := do
  let unit ← hexUnit bytes
  if isLowSurrogate unit then throw .unpairedSurrogate
  else if isHighSurrogate unit then
    match bytes.drop 4 with
    | [] => throw .endInString
    | mark :: rest =>
      if mark ≠ 92 then throw .unfinishedPair
      else match rest with
        | [] => throw .endInString
        | letter :: rest =>
          if letter ≠ 117 then throw .unfinishedPair
          else
            let second ← hexUnit rest
            if isLowSurrogate second then
              let code := (unit - 0xd800) * 0x400 + (second - 0xdc00) + 0x10000
              return (codePointBytes code, 10)
            else throw .unpairedSurrogate
  else return (codePointBytes unit, 4)

/-- What follows a backslash: the bytes that it stands for and how many bytes it takes. -/
def escape : List UInt8 → Except Mistake (List UInt8 × Nat)
  | [] => .error .endInString
  | 34 :: _ => .ok ([34], 1)
  | 92 :: _ => .ok ([92], 1)
  | 47 :: _ => .ok ([47], 1)
  | 98 :: _ => .ok ([8], 1)
  | 102 :: _ => .ok ([12], 1)
  | 110 :: _ => .ok ([10], 1)
  | 114 :: _ => .ok ([13], 1)
  | 116 :: _ => .ok ([9], 1)
  | 117 :: rest => (unicodeEscape rest).map fun (written, taken) => (written, taken + 1)
  | _ :: _ => .error .badEscape

/-- What follows the quote that opens a string, after the first `skip` bytes: the bytes that
the string stands for, and how many bytes there are up to the closing quote, it included. -/
def stringBody : Nat → List UInt8 → Except Mistake (List UInt8 × Nat)
  | _, [] => .error .endInString
  | skip + 1, _ :: rest => (stringBody skip rest).map fun (content, taken) => (content, taken + 1)
  | 0, byte :: rest =>
    if byte = 34 then .ok ([], 1)
    else if byte < 32 then .error .controlCharacter
    else if byte = 92 then do
      let (written, skip) ← escape rest
      let (content, taken) ← stringBody skip rest
      return (written ++ content, taken + 1)
    else (stringBody 0 rest).map fun (content, taken) => (byte :: content, taken + 1)

/-- The string behind an opening quote, and how many bytes it takes. -/
def stringToken (bytes : List UInt8) : Token × Nat :=
  match stringBody 0 bytes with
  | .error mistake => (.string (.error mistake), bytes.length)
  | .ok (content, taken) =>
    match ofUtf8? content with
    | some text => (.string (.ok text), taken)
    | none => (.string (.error .badEncoding), bytes.length)

/-! ## Numbers -/

/-- Whole numbers are collected in 64 bits. -/
def wholeLimit : Nat := Nat.pow 2 64

/-- Digits collected onto `start` as long as they fit in 64 bits, and how many digits are left
over; after the first that does not fit none is collected. -/
def collect (start : Nat) : List UInt8 → Nat × Nat
  | [] => (start, 0)
  | digit :: rest =>
    if start * 10 + digitOf digit < wholeLimit then collect (start * 10 + digitOf digit) rest
    else (start, rest.length + 1)

/-- A power of ten as the nearest double. -/
def powerOfTen (power : Nat) : Float := nearest Float false (Nat.pow 10 power) 1

/-- The largest power of ten that a double holds. -/
def topPower : Int := 308

/-- The double for `significand * 10 ^ exponent`, computed with one rounding for the
significand and one for each multiplication or division by a power of ten.  `none` if that
is too large.  A significand is below `2 ^ 64`, so two divisions by the top power leave
nothing of it. -/
def scaledDouble? (significand : Nat) (exponent : Int) : Option Float :=
  let start := nearest Float false significand 1
  if 0 ≤ exponent then
    if exponent ≤ topPower then
      let product := start * powerOfTen exponent.toNat
      if product.isInf then none else some product
    else if significand = 0 then some start
    else none
  else if -topPower ≤ exponent then some (start / powerOfTen (-exponent).toNat)
  else if -(2 * topPower) ≤ exponent then
    some (start / powerOfTen topPower.toNat / powerOfTen (-exponent - topPower).toNat)
  else some 0.0

/-- Exponents are collected in 31 bits. -/
def exponentLimit : Nat := Nat.pow 2 31

/-- The double with a sign, or the mistake that it is too large. -/
def signedDouble (negative : Bool) (number? : Option Float) : Except Mistake Numeral :=
  match number? with
  | none => .error .numberTooLarge
  | some number => .ok (.double (if negative then -number else number))

/-- The numeral of a significand, the power of ten that its last digit counts, and a written
exponent: its sign and its digits.  An exponent that does not fit in 31 bits leaves nothing if
it is negative, and is too large for all but zero otherwise. -/
def withExponent (negative : Bool) (significand : Nat) (power : Int)
    (belowOne : Bool) (digits : List UInt8) : Except Mistake Numeral :=
  let size := digits.foldl (fun number digit => number * 10 + digitOf digit) 0
  if exponentLimit ≤ size then
    if significand ≠ 0 ∧ !belowOne then .error .numberTooLarge
    else signedDouble negative (some 0.0)
  else
    let exponent : Int := if belowOne then power - size else power + size
    signedDouble negative (scaledDouble? significand
      (max (-exponentLimit) (min (exponentLimit - 1) exponent)))

/-- The numeral of a whole number without point and exponent, `left` of whose digits did not
fit in 64 bits.  Minus zero, and what is below all whole numbers of 64 bits, is a double. -/
def wholeNumeral (negative : Bool) (significand left : Nat) : Except Mistake Numeral :=
  if 0 < left then signedDouble negative (scaledDouble? significand left)
  else if !negative then .ok (.natural significand)
  else if significand = 0 ∨ Nat.pow 2 63 < significand then
    signedDouble true (some (nearest Float false significand 1))
  else .ok (.negative significand)

/-- What may follow the digits of a number: `e`, an optional sign and digits.  The result says
whether the sign is a minus, which digits there are and how many bytes they take. -/
def exponentPart? : List UInt8 → Except Mistake (Option (Bool × List UInt8 × Nat))
  | [] => .ok none
  | mark :: rest =>
    if mark = 101 ∨ mark = 69 then
      let (belowOne, signed, digits) : Bool × Nat × List UInt8 := match rest with
        | 43 :: digits => (false, 1, digits)
        | 45 :: digits => (true, 1, digits)
        | digits => (false, 0, digits)
      match digits with
      | [] => .error .endInValue
      | first :: _ =>
        if isDigitByte first then
          let size := digits.takeWhile isDigitByte
          .ok (some (belowOne, size, 1 + signed + size.length))
        else .error .badNumber
    else .ok none

/-- The numeral that starts with the given bytes, after its sign, and how many it takes. -/
def magnitude (negative : Bool) (bytes : List UInt8) : Except Mistake (Numeral × Nat) := do
  let whole := bytes.takeWhile isDigitByte
  let rest := bytes.dropWhile isDigitByte
  match whole with
  | [] => throw (if rest.isEmpty then .endInValue else .badNumber)
  | 48 :: _ :: _ => throw .badNumber
  | _ =>
    let (significand, left) := collect 0 whole
    match rest with
    | 46 :: rest =>
      let places := rest.takeWhile isDigitByte
      let after := rest.dropWhile isDigitByte
      if places.isEmpty then throw (if after.isEmpty then .endInValue else .badNumber)
      else
        let (significand, ignored) := collect significand places
        let power : Int := left - (places.length - ignored : Nat)
        let taken := whole.length + 1 + places.length
        match ← exponentPart? after with
        | some (belowOne, digits, more) =>
          return (← withExponent negative significand power belowOne digits, taken + more)
        | none => return (← signedDouble negative (scaledDouble? significand power), taken)
    | rest =>
      match ← exponentPart? rest with
      | some (belowOne, digits, more) =>
        return (← withExponent negative significand left belowOne digits, whole.length + more)
      | none => return (← wholeNumeral negative significand left, whole.length)

/-! ## Tokens -/

/-- A word that has to read as expected, and how many bytes it takes. -/
def wordToken (expected : List UInt8) (atom : Atom) (bytes : List UInt8) : Token × Nat :=
  if bytes.take expected.length = expected then (.atom (.ok atom), expected.length)
  else if bytes.isPrefixOf expected then (.atom (.error .endInValue), bytes.length)
  else (.atom (.error .badWord), bytes.length)

/-- The token that starts with the given bytes, and how many it takes, all of them if it has
a mistake. -/
def tokenAt (byte : UInt8) (rest : List UInt8) : Token × Nat :=
  let numberFrom (negative : Bool) (bytes : List UInt8) (signed : Nat) : Token × Nat :=
    match magnitude negative bytes with
    | .ok (numeral, taken) => (.atom (.ok (.number numeral)), signed + taken)
    | .error mistake => (.atom (.error mistake), signed + bytes.length)
  match byte with
  | 91 => (.openList, 1)
  | 93 => (.closeList, 1)
  | 123 => (.openObject, 1)
  | 125 => (.closeObject, 1)
  | 44 => (.comma, 1)
  | 58 => (.colon, 1)
  | 34 =>
    let (token, taken) := stringToken rest
    (token, taken + 1)
  | 45 => numberFrom true rest 1
  | 110 => wordToken (utf8 "null") .null (byte :: rest)
  | 116 => wordToken (utf8 "true") (.boolean true) (byte :: rest)
  | 102 => wordToken (utf8 "false") (.boolean false) (byte :: rest)
  | _ => if isDigitByte byte then numberFrom false (byte :: rest) 0 else (.stray, 1)

/-- The tokens of a text after its first `skip` bytes. -/
def tokensFrom : Nat → List UInt8 → List Token
  | _, [] => []
  | skip + 1, _ :: rest => tokensFrom skip rest
  | 0, byte :: rest =>
    if isLayout byte then tokensFrom 0 rest
    else
      let (token, taken) := tokenAt byte rest
      token :: tokensFrom (taken - 1) rest

def tokens (text : List UInt8) : List Token := tokensFrom 0 text

end LiveSpeech.Json
