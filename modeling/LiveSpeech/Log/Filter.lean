import LiveSpeech.Log
import LiveSpeech.Number.Decimal
import LiveSpeech.Text.Alphanumeric
import LiveSpeech.Text.Pattern
import LiveSpeech.Text.Pieces
import LiveSpeech.Text.Terminal
import LiveSpeech.Text.Utf8

/-!
# Which notices are written

A filter is a comma-separated list of rules.  A rule is a level, a target, or a target with a
level.  A target may have brackets behind it, with the name of a stretch of work and a field
in braces; such a rule looks at what happens during that work, or, if only a field is named,
at the notices that have the field.

A notice is governed by the most specific rule: the one with the longest target that its own
target starts with, and among those one that names a field.  It is written if it matters
enough for the level of that rule, and not written if no rule governs it.
-/

namespace LiveSpeech.Log

set_option autoImplicit false

open LiveSpeech.Number LiveSpeech.Text

/-- What a rule looks at. -/
inductive Subject where
  | notices
  | field (name : List Char)
  | work
  deriving DecidableEq, Repr

/-- A rule: a target, what it looks at, and how many levels of that are written. -/
structure Rule where
  target : List Char
  subject : Subject
  verbosity : Nat
  deriving DecidableEq, Repr

/-! ## Levels -/

/-- All notices of a target. -/
def everything : Nat := 5

/-- The names of the levels, in lower case, with how many levels are written. -/
def levelNames : List (String × Nat) :=
  [("off", 0), ("error", 1), ("warn", 2), ("info", 3), ("debug", 4), ("trace", everything)]

/-- The number that a word spells in digits, perhaps after a plus. -/
def wholeNumber? (word : List Char) : Option Nat :=
  let digits := match word with
    | '+' :: rest => rest
    | rest => rest
  if digits.isEmpty ∨ ¬ digits.all Char.isDigit then none
  else some (spelled 0 digits)

/-- The level that a word in any case names, or that a number stands for. -/
def verbosity? (word : List Char) : Option Nat :=
  match wholeNumber? word with
  | some number => if number ≤ everything then some number else none
  | none =>
    (levelNames.find? fun (name, _) => name.toList = word.map Char.toLower).map (·.2)

/-! ## Rules -/

/-- Whether a rule may start with a character. -/
def startsRule (character : Char) : Bool :=
  isAlphanumeric character || character ∈ ['-', ':', '_', '[']

/-- Whether a text is the name of a field, or a name and a value: a number or a pattern. -/
def isField (text : List Char) : Bool :=
  match text.dropWhile (· ≠ '=') with
  | [] => !text.isEmpty
  | _ :: rest =>
    let value := rest.takeWhile (· ≠ '=')
    (Literal.parse? (String.ofList value)).isSome || isPattern value

/-- What stands in a text at the place that `part` has behind `before`. -/
def cut? (text before part : List Char) : Option (List Char) := do
  let (_, behind) ← splitAtByte? (byteCount before) text
  let (inside, _) ← splitAtByte? (byteCount part) behind
  some inside

/-- The rule for a target whose level is all that stands in a text behind the place of `before`.
A level that is left out is the most verbose one. -/
def Rule.leveled? (target : List Char) (subject : Subject) (text before : List Char) :
    Option Rule := do
  let (_, level) ← splitAtByte? (byteCount before) text
  if level.isEmpty then some ⟨target, subject, everything⟩
  else (verbosity? level).map (⟨target, subject, ·⟩)

/-- What a rule looks at that has `before` in front of `inner`, the brackets and what follows
them, and what stands up to the closing one.  A field with a value is one of some work. -/
def Subject.ofText? (text before inner : List Char) : Option (Subject × List Char) := do
  let name := inner.takeWhile (· ∉ [']', '\x7b'])
  let _ ← cut? text before name
  match inner.dropWhile (· ∉ [']', '\x7b']) with
  | [] => none
  | ']' :: _ => some (.work, name ++ [']'])
  | _ :: rest =>
    let field := rest.takeWhile (· ≠ '\x7d')
    match rest.dropWhile (· ≠ '\x7d') with
    | _ :: ']' :: _ =>
      let shown ← cut? text (before ++ name ++ ['\x7b']) field
      if isField shown then
        let subject := if name.isEmpty ∧ '=' ∉ shown then Subject.field shown else .work
        some (subject, name ++ '\x7b' :: field ++ ['\x7d', ']'])
      else none
    | _ => none

/-- The rule that an element of a list is, if it is one.  A target alone may be a level.

The parts of a rule are found in its text without the blanks around it, but taken from the text
as it stands, at the same places: blanks in front of a rule move what is taken, and blanks
behind it belong to the last part. -/
def Rule.ofText? (text : List Char) : Option Rule := do
  let inner := trimmed text
  let word := inner.takeWhile (· ∉ ['=', '['])
  if ¬ inner.head?.any startsRule then none
  else
    match inner.dropWhile (· ∉ ['=', '[']) with
    | [] =>
      match verbosity? text with
      | some verbosity => some ⟨[], .notices, verbosity⟩
      | none => some ⟨text, .notices, everything⟩
    | '=' :: _ => leveled? (← cut? text [] word) .notices text (word ++ ['='])
    | _ :: inside =>
      let target ← cut? text [] word
      let (subject, brackets) ← Subject.ofText? text (word ++ ['[']) inside
      match inside.drop brackets.length with
      | [] => some ⟨target, subject, everything⟩
      | '=' :: _ => leveled? target subject text (word ++ '[' :: brackets ++ ['='])
      | _ => none

/-- The rules in a text, unless one of them is invalid. -/
def rules? (text : String) : Option (List Rule) :=
  (fields (· = ',') text.toList).mapM Rule.ofText?

/-- The rules if nothing else is said. -/
def standard : List Rule := [⟨"asr_session".toList, .notices, 4⟩]

/-- The rules for what the operator asked for, if anything. -/
def rulesFor (request : Option String) : List Rule :=
  (request.bind rules?).getD standard

/-! ## What a filter does -/

/-- The field that every notice has: its wording. -/
def fieldOfNotices : List Char := "message".toList

/-- Whether the notices of a target fall under a rule. -/
def Rule.covers (rule : Rule) (target : List Char) : Bool :=
  rule.target.isPrefixOf target &&
    match rule.subject with
    | .notices => true
    | .field name => name == fieldOfNotices
    | .work => false

/-- Whether a rule is at least as specific as another one. -/
def Rule.refines (rule other : Rule) : Bool :=
  if rule.target.length = other.target.length then
    rule.subject != .notices || other.subject == .notices
  else other.target.length < rule.target.length

/-- The rule that governs the notices of a target: the most specific one, the last among
equals. -/
def governing? (rules : List Rule) (target : List Char) : Option Rule :=
  (rules.filter (·.covers target)).foldl (fun best rule =>
    if best.all rule.refines then some rule else best) none

/-- Whether a notice is written. -/
def writes (rules : List Rule) (notice : Notice) : Bool :=
  match governing? rules notice.target.toList with
  | some rule => notice.level.verbosity ≤ rule.verbosity
  | none => false

/-- The lines of a notice in the log.  Nothing in its wording reaches the terminal of the
operator as a command. -/
def linesOf (notice : Notice) : List String :=
  let text := notice.level.name ++ " " ++ notice.target ++ ": " ++ guarded notice.text
  (pieces (· = '\n') text.toList).map String.ofList

/-- The lines of the notices that are written. -/
def written (rules : List Rule) (notices : List Notice) : List String :=
  (notices.filter (writes rules)).flatMap linesOf

end LiveSpeech.Log
