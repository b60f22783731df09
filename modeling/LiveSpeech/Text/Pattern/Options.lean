import LiveSpeech.Text.Blank

/-!
# How a pattern is read

A pattern may turn options on and off, for the rest of a group or for a group of its own.
Three of them decide what a pattern is: whether case counts, whether a pattern speaks of
characters or of bytes, and whether blanks and comments may stand between its parts.  The
others only change what a pattern finds.
-/

namespace LiveSpeech.Text.Pattern

set_option autoImplicit false

/-- How a pattern is read. -/
structure Options where
  ignoreCase : Bool
  unicode : Bool
  verbose : Bool
  deriving DecidableEq, Repr

namespace Options

/-- The options at the start of a pattern. -/
def standard : Options := ⟨false, true, false⟩

/-! ## Turning options on and off -/

/-- The letters of all options, and the mark before those that are turned off. -/
def letters : List Char := ['i', 'm', 's', 'U', 'u', 'R', 'x', '-']

/-- The options after the one with a letter is turned on or off. -/
def turned (options : Options) (on : Bool) (letter : Char) : Options :=
  match letter with
  | 'i' => { options with ignoreCase := on }
  | 'u' => { options with unicode := on }
  | 'x' => { options with verbose := on }
  | _ => options

/-- The options after a directive: letters of options to turn on, and behind a dash those to
turn off.  No letter comes twice, and the dash is not the last. -/
def after? (options : Options) (directive : List Char) : Option Options :=
  if directive.all (· ∈ letters) ∧ directive.Nodup ∧ directive.getLast? ≠ some '-' then
    let on := directive.takeWhile (· ≠ '-')
    let off := directive.dropWhile (· ≠ '-')
    some (off.foldl (turned · false) (on.foldl (turned · true) options))
  else none

/-! ## Blanks and comments -/

/-- A text without the blanks and comments in front.  A comment goes from a hash to the end of
its line; `inside` says whether the text starts in one. -/
def withoutRemarks (inside : Bool) : List Char → List Char
  | [] => []
  | character :: rest =>
    if inside then withoutRemarks (character ≠ '\n') rest
    else if isBlank character then withoutRemarks false rest
    else if character = '#' then withoutRemarks true rest
    else character :: rest

/-- A text without what stands for nothing in front. -/
def skip (options : Options) (text : List Char) : List Char :=
  if options.verbose then withoutRemarks false text else text

/-- The character that decides what the dash before a text means.  Of a comment only the hash
is passed over, and if there is nothing but blanks, the first one decides. -/
def behindDash? (options : Options) (text : List Char) : Option Char :=
  if options.verbose then
    let rest := match text.dropWhile isBlank with
      | '#' :: comment => comment.dropWhile isBlank
      | other => other
    rest.head?.or text.head?
  else text.head?

end Options

end LiveSpeech.Text.Pattern
