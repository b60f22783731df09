import LiveSpeech.Text.Pattern.Options

/-!
# The atoms of a pattern

A character of a pattern stands for itself, unless it has a meaning of its own.  A backslash
makes an ordinary character of a mark, and with a letter it writes a character, a class of
characters or a place in the text.

What an atom may be depends on the options.  Case is known for ASCII alone, so no character
stands for those of either case unless the pattern speaks of bytes.  Words and the classes
written with a letter are known for ASCII alone too.  And a pattern of bytes finds nothing but
whole characters, so it has no byte that is not a character by itself.
-/

namespace LiveSpeech.Text.Pattern

set_option autoImplicit false

/-- What a character of a pattern, or an escape, stands for. -/
inductive Atom where
  /-- A character; `byte` says whether it is written as the value of a byte. -/
  | character (value : Char) (byte : Bool)
  /-- A class of characters; `others` says whether it is those that do not belong to it. -/
  | shorthand (others : Bool)
  /-- A place in the text; `word` says whether words decide where it is. -/
  | place (word : Bool)
  deriving DecidableEq, Repr

namespace Atom

/-- Whether a character may stand in a pattern. -/
def isItem (options : Options) : Atom → Bool
  | .character value byte =>
    if options.unicode then !options.ignoreCase else !byte || value.toNat < 128
  | .shorthand others => !options.unicode && !others
  | .place word => !options.unicode || !word

/-- Whether an atom may stand in a choice of characters. -/
def isMember (options : Options) : Atom → Bool
  | .character value _ => if options.unicode then !options.ignoreCase else value.toNat < 128
  | .shorthand others => !options.unicode && !others
  | .place _ => false

/-! ## Escapes -/

/-- The value of a hexadecimal digit of either case. -/
def digit? (digit : Char) : Option Nat :=
  if digit.isDigit then some (digit.toNat - '0'.toNat)
  else if 'a' ≤ digit ∧ digit ≤ 'f' then some (digit.toNat - 'a'.toNat + 10)
  else if 'A' ≤ digit ∧ digit ≤ 'F' then some (digit.toNat - 'A'.toNat + 10)
  else none

/-- The number that the next hexadecimal digits spell, `start` being what stands before them,
and what follows them. -/
def number? (options : Options) : Nat → Nat → List Char → Option (Nat × List Char)
  | 0, start, text => some (start, text)
  | count + 1, start, text =>
    match options.skip text with
    | [] => none
    | next :: rest => do number? options count (start * 16 + (← digit? next)) rest

/-- The character whose number the next hexadecimal digits spell, and what follows them. -/
def numbered? (options : Options) (count : Nat) (text : List Char) :
    Option (Atom × List Char) := do
  let (number, rest) ← number? options count 0 text
  if number.isValidChar then some (.character (Char.ofNat number) (count = 2), rest) else none

/-- The letters that write a control character. -/
def controls : List (Char × Char) :=
  [('a', '\x07'), ('f', '\x0c'), ('n', '\n'), ('r', '\r'), ('t', '\t'), ('v', '\x0b')]

/-- What a letter or a mark behind a backslash stands for. -/
def short? (letter : Char) : Option Atom :=
  match controls.lookup letter with
  | some control => some (.character control false)
  | none =>
    if letter ∈ ['d', 's', 'w'] then some (.shorthand false)
    else if letter ∈ ['D', 'S', 'W'] then some (.shorthand true)
    else if letter ∈ ['A', 'z'] then some (.place false)
    else if letter ∈ ['b', 'B', '<', '>'] then some (.place true)
    else if letter.toNat < 128 ∧ ¬ letter.isAlphanum then some (.character letter false)
    else none

/-- What a text behind a backslash starts with, and what follows. -/
def escaped? (options : Options) : List Char → Option (Atom × List Char)
  | [] => none
  | 'x' :: rest => numbered? options 2 rest
  | 'u' :: rest => numbered? options 4 rest
  | 'U' :: rest => numbered? options 8 rest
  | letter :: rest => (short? letter).map (·, rest)

/-- What a text starts with if its first character has no meaning of its own, and what
follows. -/
def first? (options : Options) : List Char → Option (Atom × List Char)
  | [] => none
  | '\\' :: rest => escaped? options rest
  | plain :: rest => some (.character plain false, rest)

end Atom

end LiveSpeech.Text.Pattern
