/-!
# Texts on their way to a terminal

A terminal obeys control characters and sequences of characters that start with an escape.  A
text that quotes what somebody else wrote must not let it do so.  There are two ways: what a
terminal would obey is left out (`displayed`), or it is spelled out (`guarded`).

A sequence is an escape with a letter, perhaps after marks; or `[`, parameters and a letter;
or a string, which ends with the next escape.  A command to the system also ends with a bell,
and the other strings, once what precedes their content is over, with the terminator of
strings.  That is a byte, and it counts also where it is a part of a character beyond ASCII.
-/

namespace LiveSpeech.Text

set_option autoImplicit false

/-! ## Leaving out -/

/-- Where a terminal is in a text. -/
inductive TerminalMode where
  | text
  | escape
  | marks
  | parameters
  | device
  | deviceNumbers
  | deviceMarks
  | content
  | command
  deriving DecidableEq, Repr

/-- Whether a control character moves to another place of the page: tab, line feed, form feed
and carriage return. -/
def movesOnPage (character : Char) : Bool := character ∈ ['\t', '\n', '\x0c', '\r']

/-- Whether a character controls a terminal. -/
def isControl (character : Char) : Bool := character.toNat < 32 || character.toNat = 127

/-- Whether a character is a printable one of ASCII. -/
def isPrintable (character : Char) : Bool := 32 ≤ character.toNat && character.toNat < 127

/-- Whether the terminator of strings is among the bytes of a character. -/
def holdsTerminator (character : Char) : Bool := 0x9c ∈ String.utf8EncodeChar character

/-- Whether a control character that moves on the page ends the sequence. -/
def TerminalMode.yields : TerminalMode → Bool
  | .escape | .marks | .parameters => true
  | _ => false

/-- The mode after a printable character of a sequence. -/
def TerminalMode.after : TerminalMode → Char → TerminalMode
  | .escape, character =>
    if character < '0' then .marks
    else match character with
      | '[' => .parameters
      | ']' => .command
      | 'P' => .device
      | 'X' | '^' | '_' => .content
      | _ => .text
  | .marks, character => if character < '0' then .marks else .text
  | .parameters, character => if character < '@' then .parameters else .text
  | .device, character =>
    if character < '0' then .deviceMarks else if character < '@' then .deviceNumbers else .content
  | .deviceNumbers, character =>
    if character < '0' then .deviceMarks
    else if character < '<' then .deviceNumbers
    else .content
  | .deviceMarks, character => if character < '0' then .deviceMarks else .content
  | mode, _ => mode

/-- The mode after a character, and whether the character is shown.  Two control characters
break every sequence off, and one that moves on the page does so where no string is read, and
is shown.  Nothing else of a sequence is shown, and what has no meaning in it is passed over. -/
def TerminalMode.step (mode : TerminalMode) (character : Char) : TerminalMode × Bool :=
  if character = '\x1b' then (.escape, false)
  else if character ∈ ['\x18', '\x1a'] then (.text, false)
  else
    match mode with
    | .text => (.text, movesOnPage character || !isControl character)
    | .command => (if character = '\x07' then .text else .command, false)
    | .content => (if holdsTerminator character then .text else .content, false)
    | mode =>
      if mode.yields && movesOnPage character then (.text, true)
      else (if isPrintable character then mode.after character else mode, false)

/-- What is shown of the rest of a text. -/
def displayedFrom : TerminalMode → List Char → List Char
  | _, [] => []
  | mode, character :: rest =>
    let (next, shown) := mode.step character
    if shown then character :: displayedFrom next rest else displayedFrom next rest

/-- What a terminal would show of a text; what it would obey is left out. -/
def displayed (text : String) : String := String.ofList (displayedFrom .text text.toList)

/-! ## Spelling out -/

/-- A character as it stands in a guarded text. -/
def guardedCharacter (character : Char) : List Char :=
  match character with
  | '\x1b' => "\\x1b".toList
  | '\x07' => "\\x07".toList
  | '\x08' => "\\x08".toList
  | '\x0c' => "\\x0c".toList
  | '\x7f' => "\\x7f".toList
  | other =>
    if 0x80 ≤ other.toNat ∧ other.toNat ≤ 0x9f then
      "\\u\x7b".toList ++ Nat.toDigits 16 other.toNat ++ "\x7d".toList
    else [other]

/-- A text in which the characters that start what a terminal obeys are spelled out. -/
def guarded (text : String) : String := String.ofList (text.toList.flatMap guardedCharacter)

end LiveSpeech.Text
