import LiveSpeech.Text.Alphanumeric
import LiveSpeech.Text.Pattern.Choice

/-!
# Search patterns

A pattern describes texts.  Most characters stand for themselves, `.` stands for any, `^` and
`$` for the ends of the text, and brackets hold a choice of characters.  Parentheses form a
group, which may have a name or options, `|` stands between alternatives, and `*`, `+` and `?`
repeat what is before them.

`isPattern` says whether a text is a pattern: its groups and choices are closed, what is
repeated is there, every part of it may be written under the options that hold there, and it
is not nested too deep.  Repetitions with a count are not among the patterns.
-/

namespace LiveSpeech.Text

set_option autoImplicit false

namespace Pattern

/-- What surrounds an open group. -/
structure Surroundings where
  options : Options
  branches : Row
  items : Row
  deriving DecidableEq, Repr

/-- How far a pattern has been read. -/
structure Progress where
  options : Options
  branches : Row
  items : Row
  last : Option Nat
  groups : List Surroundings
  names : List (List Char)
  choices : List Choice
  deriving DecidableEq, Repr

namespace Progress

/-- Before the first character. -/
def initial : Progress := ⟨.standard, .empty, .empty, none, [], [], []⟩

/-- After an item. -/
def add (progress : Progress) (depth : Nat) : Progress :=
  { progress with items := progress.items.add depth, last := some depth }

/-- How deep the innermost group, or the whole pattern, is nested inside. -/
def nesting (progress : Progress) : Nat := (progress.branches.add progress.items.nesting).nesting

/-! ## Groups -/

/-- Whether a name may be given to a group. -/
def isName : List Char → Bool
  | [] => false
  | first :: rest =>
    (first == '_' || isAlphabetic first) &&
      rest.all fun next => next ∈ ['_', '.', '[', ']'] || isAlphanumeric next

/-- After a parenthesis that opens a group with options of its own. -/
def opened (progress : Progress) (options : Options) : Progress :=
  { progress with
    options, branches := .empty, items := .empty, last := none
    groups := ⟨progress.options, progress.branches, progress.items⟩ :: progress.groups }

/-- After a parenthesis that closes a group, if there is one. -/
def closed? (progress : Progress) : Option Progress :=
  match progress.groups with
  | [] => none
  | ⟨options, branches, items⟩ :: groups =>
    let outer := { progress with options, branches, items, groups }
    some (outer.add (progress.nesting + 1))

/-- After the name of a group, and what follows. -/
def named? (progress : Progress) (text : List Char) : Option (Progress × List Char) :=
  let name := text.takeWhile (· ≠ '>')
  match text.dropWhile (· ≠ '>') with
  | [] => none
  | _ :: rest =>
    if isName name && name ∉ progress.names then
      some ({ progress.opened progress.options with names := name :: progress.names }, rest)
    else none

/-- After a directive, and what follows.  A directive before a parenthesis says something and
holds to the end of the group that it stands in; one before a colon holds in a group of its
own. -/
def directed? (progress : Progress) (text : List Char) : Option (Progress × List Char) := do
  let directive := text.takeWhile (· ∉ [':', ')'])
  let options ← progress.options.after? directive
  match text.dropWhile (· ∉ [':', ')']) with
  | [] => none
  | ':' :: rest => some (progress.opened options, rest)
  | _ :: rest =>
    if directive.isEmpty then none
    else some ({ progress with options, items := progress.items.add 0, last := none }, rest)

/-- After what stands behind a parenthesis, and what follows. -/
def grouped? (progress : Progress) (text : List Char) : Option (Progress × List Char) :=
  match text with
  | '?' :: 'P' :: '<' :: rest | '?' :: '<' :: rest => progress.named? rest
  | '?' :: rest => progress.directed? rest
  | rest => some (progress.opened progress.options, rest)

/-! ## Reading on -/

/-- After the mark of a repetition, and what follows.  A question mark behind it only asks for
few repetitions. -/
def repeated? (progress : Progress) (text : List Char) : Option (Progress × List Char) :=
  progress.last.map fun depth =>
    ({ progress with items := progress.items.deepen (depth + 1), last := some (depth + 1) },
      if text.head? = some '?' then text.drop 1 else text)

/-- After the next part of a sequence, and what follows. -/
def inSequence? (progress : Progress) (text : List Char) : Option (Progress × List Char) :=
  let options := progress.options
  match text with
  | [] => some (progress, [])
  | '(' :: rest => progress.grouped? (options.skip rest)
  | ')' :: rest => progress.closed?.map (·, rest)
  | '|' :: rest =>
    let branches := progress.branches.add progress.items.nesting
    some ({ progress with branches, items := .empty, last := none }, rest)
  | '[' :: rest => do
    let (choice, rest) ← Choice.opened? options rest
    some ({ progress with choices := [choice] }, rest)
  | '*' :: rest | '+' :: rest | '?' :: rest => progress.repeated? rest
  | '\x7b' :: _ => none
  | '.' :: rest => if options.unicode then some (progress.add 0, rest) else none
  | '^' :: rest | '$' :: rest => some (progress.add 0, rest)
  | rest => do
    let (atom, rest) ← Atom.first? options rest
    if atom.isItem options then some (progress.add 0, rest) else none

/-- After the bracket that closes the innermost choice. -/
def chosen (progress : Progress) (choice : Choice) (outer : List Choice) : Progress :=
  let depth := choice.nesting + 1
  match outer with
  | [] => { progress with choices := [] }.add depth
  | next :: others => { progress with choices := next.add depth :: others }

/-- After the next part of the innermost choice, and what follows. -/
def inChoice? (progress : Progress) (choice : Choice) (outer : List Choice) (text : List Char) :
    Option (Progress × List Char) :=
  if text.head? = some ']' ∧ ¬ choice.isLiteral ']' then
    some (progress.chosen choice outer, text.drop 1)
  else
    (choice.after? progress.options text).map fun (inner, rest) =>
      ({ progress with choices := inner ++ outer }, rest)

/-- After the next part of the pattern, and what follows. -/
def after? (progress : Progress) (text : List Char) : Option (Progress × List Char) :=
  let text := progress.options.skip text
  match progress.choices with
  | [] => progress.inSequence? text
  | choice :: outer => progress.inChoice? choice outer text

/-- After the whole pattern, unless a part of it cannot be read.  Every part that can be read
takes at least one character, so asking for that refuses no pattern; it bounds the reading. -/
def atEnd? (progress : Progress) (text : List Char) : Option Progress :=
  if text.isEmpty then some progress
  else
    match progress.after? text with
    | some (next, rest) => if rest.length < text.length then next.atEnd? rest else none
    | none => none
termination_by text.length

end Progress

end Pattern

open Pattern in
def isPattern (text : List Char) : Bool :=
  (Progress.initial.atEnd? text).any fun progress =>
    progress.groups.isEmpty && progress.choices.isEmpty && progress.nesting ≤ deepest

end LiveSpeech.Text
