import LiveSpeech.Json.Value

/-!
# Writing JSON

Texts are written without blanks.  In a string only what JSON does not allow there is escaped:
quotes, backslashes and control characters, the common ones by a letter, the others by their
code.  So every byte below the blank that a message contains is escaped, and a written
message never contains a line feed.
-/

namespace LiveSpeech.Json

set_option autoImplicit false

open LiveSpeech.Number

/-- A hexadecimal digit in lower case. -/
def hexLetter (digit : Nat) : Char := Nat.digitChar digit

/-- A character as it stands in a written string. -/
def escaped (character : Char) : List Char :=
  match character with
  | '"' => ['\\', '"']
  | '\\' => ['\\', '\\']
  | '\n' => ['\\', 'n']
  | '\r' => ['\\', 'r']
  | '\t' => ['\\', 't']
  | '\x08' => ['\\', 'b']
  | '\x0c' => ['\\', 'f']
  | other =>
    if other.toNat < 32 then
      ['\\', 'u', '0', '0', hexLetter (other.toNat / 16), hexLetter (other.toNat % 16)]
    else [other]

def stringText (content : String) : List Char := '"' :: content.toList.flatMap escaped ++ ['"']

/-- Written items with commas between them. -/
def separated : List (List Char) → List Char
  | [] => []
  | [only] => only
  | first :: second :: others => first ++ ',' :: separated (second :: others)

def listText (items : List (List Char)) : List Char := '[' :: separated items ++ [']']

def objectText (members : List (String × List Char)) : List Char :=
  '\x7b' :: separated (members.map fun (key, value) => stringText key ++ ':' :: value) ++ ['\x7d']

def booleanText (truth : Bool) : List Char := if truth then "true".toList else "false".toList

def singleText (number : Float32) : List Char := (wire number).toList

def naturalText (number : Nat) : List Char := Nat.toDigits 10 number

end LiveSpeech.Json
