/-!
# Texts as bytes

A text travels as the UTF-8 bytes of its characters.  Reading is strict: a sequence of bytes
that no text has is refused as a whole.  A text may also be cut at a place that is counted in
bytes.
-/

namespace LiveSpeech.Text

set_option autoImplicit false

/-- The bytes of a sequence of characters. -/
def encodeUtf8 (characters : List Char) : List UInt8 :=
  characters.flatMap String.utf8EncodeChar

/-- The character that the first bytes of a sequence spell; four bytes are the most it has. -/
def firstCharacter? (bytes : List UInt8) : Option Char :=
  (bytes.take 4).toByteArray.utf8DecodeChar? 0

/-- The characters that the bytes spell after the first `skip` of them, which belong to a
character already read. -/
def decodeUtf8From : Nat → List UInt8 → Option (List Char)
  | _, [] => some []
  | skip + 1, _ :: rest => decodeUtf8From skip rest
  | 0, byte :: rest => do
    let character ← firstCharacter? (byte :: rest)
    let others ← decodeUtf8From (character.utf8Size - 1) rest
    return character :: others

/-- The characters that the bytes spell, if they spell any. -/
def decodeUtf8? (bytes : List UInt8) : Option (List Char) := decodeUtf8From 0 bytes

def utf8 (text : String) : List UInt8 := encodeUtf8 text.toList

/-- The string that the bytes spell, if they spell one. -/
def ofUtf8? (bytes : List UInt8) : Option String := (decodeUtf8? bytes).map String.ofList

/-! ## Places counted in bytes -/

/-- The number of bytes of a text. -/
def byteCount : List Char → Nat
  | [] => 0
  | character :: rest => character.utf8Size + byteCount rest

/-- A text cut behind a number of bytes, unless they end inside a character or the text is
shorter. -/
def splitAtByte? : Nat → List Char → Option (List Char × List Char)
  | 0, text => some ([], text)
  | _ + 1, [] => none
  | count + 1, character :: rest =>
    if character.utf8Size ≤ count + 1 then
      (splitAtByte? (count + 1 - character.utf8Size) rest).map fun (before, behind) =>
        (character :: before, behind)
    else none

end LiveSpeech.Text
