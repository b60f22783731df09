import LiveSpeech.Text.Quoted
import LiveSpeech.Json.Value

/-!
# What can be wrong with a JSON text

A `Mistake` is a text that is no JSON: it breaks a rule of spelling or layout, or it ends too
early.  A `Mismatch` is a JSON text that denotes something other than what was asked for.
Both are causes; their wording is given once, here.
-/

namespace LiveSpeech.Json

set_option autoImplicit false

open LiveSpeech.Number LiveSpeech.Text

/-- A rule of spelling or layout that a text breaks. -/
inductive Mistake where
  | endInValue
  | endInString
  | endInList
  | endInObject
  | noValue
  | badWord
  | noColon
  | noCommaInList
  | noCommaInObject
  | trailingComma
  | trailingText
  | keyNotString
  | badNumber
  | numberTooLarge
  | badEscape
  | controlCharacter
  | badEncoding
  | unpairedSurrogate
  | unfinishedPair
  | tooDeep
  deriving DecidableEq, Repr

/-- Whether the text ended where it had to go on. -/
def Mistake.isEnd : Mistake → Bool
  | .endInValue | .endInString | .endInList | .endInObject => true
  | _ => false

def Mistake.message : Mistake → String
  | .endInValue => "EOF while parsing a value"
  | .endInString => "EOF while parsing a string"
  | .endInList => "EOF while parsing a list"
  | .endInObject => "EOF while parsing an object"
  | .noValue => "expected value"
  | .badWord => "expected ident"
  | .noColon => "expected `:`"
  | .noCommaInList => "expected `,` or `]`"
  | .noCommaInObject => "expected `,` or `\x7d`"
  | .trailingComma => "trailing comma"
  | .trailingText => "trailing characters"
  | .keyNotString => "key must be a string"
  | .badNumber => "invalid number"
  | .numberTooLarge => "number out of range"
  | .badEscape => "invalid escape"
  | .controlCharacter => "control character (\\u0000-\\u001F) found while parsing a string"
  | .badEncoding => "invalid unicode code point"
  | .unpairedSurrogate => "lone leading surrogate in hex escape"
  | .unfinishedPair => "unexpected end of hex escape"
  | .tooDeep => "recursion limit exceeded"

/-- What was found where something else was asked for. -/
inductive Found where
  | null
  | boolean (truth : Bool)
  | number (numeral : Numeral)
  | string (content : String)
  | list
  | object

/-- What a value is found to be. -/
def Value.found : Value → Found
  | .null => .null
  | .boolean truth => .boolean truth
  | .number numeral => .number numeral
  | .string content => .string content
  | .list _ => .list
  | .object _ => .object

/-- A name between backquotes. -/
def backquoted (name : String) : String := "`" ++ name ++ "`"

def Found.text : Found → String
  | .null => "null"
  | .boolean truth => "boolean " ++ backquoted (if truth then "true" else "false")
  | .number (.natural size) => "integer " ++ backquoted (toString size)
  | .number (.negative size) => "integer " ++ backquoted ("-" ++ toString size)
  | .number (.double fraction) => "floating point " ++ backquoted (wire fraction)
  | .string content => "string " ++ quotedText content
  | .list => "sequence"
  | .object => "map"

/-- How a text that is JSON denotes something other than what was asked for. -/
inductive Mismatch where
  | wrongType (found : Found) (expected : String)
  | wrongLength (length : Nat) (expected : String)
  | missing (field : String)
  | duplicate (field : String)
  | unknownVariant (tag : String) (known : List String)

def Mismatch.message : Mismatch → String
  | .wrongType found expected => "invalid type: " ++ found.text ++ ", expected " ++ expected
  | .wrongLength length expected =>
    "invalid length " ++ toString length ++ ", expected " ++ expected
  | .missing field => "missing field " ++ backquoted field
  | .duplicate field => "duplicate field " ++ backquoted field
  | .unknownVariant tag known => "unknown variant " ++ backquoted tag ++ ", expected one of " ++
    ", ".intercalate (known.map backquoted)

/-- Why a text could not be read as what was asked for. -/
inductive Fault where
  | mistake (cause : Mistake)
  | mismatch (cause : Mismatch)

def Fault.message : Fault → String
  | .mistake cause => cause.message
  | .mismatch cause => cause.message

end LiveSpeech.Json
