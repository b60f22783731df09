import LiveSpeech.Text.Blank
import LiveSpeech.Text.Invisible

/-!
# Texts quoted for a reader

A text shown inside a message stands between double quotes, and what a reader could not see
or would take for the end of the text is escaped: double quotes, backslashes and invisible
characters.
-/

namespace LiveSpeech.Text

set_option autoImplicit false

/-- A character as it stands in a quoted text. -/
def quotedCharacter (character : Char) : List Char :=
  match character with
  | '"' => "\\\"".toList
  | '\\' => "\\\\".toList
  | '\n' => "\\n".toList
  | '\r' => "\\r".toList
  | '\t' => "\\t".toList
  | '\x00' => "\\0".toList
  | other =>
    if inRanges invisibleRanges other.toNat then
      "\\u\x7b".toList ++ Nat.toDigits 16 other.toNat ++ "\x7d".toList
    else [other]

/-- A text between double quotes with its invisible characters escaped. -/
def quotedText (text : String) : String :=
  String.ofList ('"' :: text.toList.flatMap quotedCharacter ++ ['"'])

end LiveSpeech.Text
